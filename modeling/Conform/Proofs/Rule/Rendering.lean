import Conform.Proofs.Text.Template
import Conform.Rule.Failure

/-!
# Rendered messages

The message template of a rule is filled in one pass from left to right. Paths of fields and
parameters come from the outside and may hold braces of their own; they are put in as they are and
never taken for placeholders.
-/

namespace Conform.Failure

variable {failure : Failure} {field key : String}

/-- What is put in for the placeholder of a key. The field and the code come before parameters of
these names, and a key that stands for nothing keeps its placeholder. -/
def insertion (failure : Failure) (field key : String) : String :=
  if key = "field" then field
  else if key = "code" then failure.code
  else
    match failure.params.find? fun param => param.1 = key with
    | some param => param.2
    | none => Template.placeholder "\x7b" key

/-- The key stands for something. -/
def Knows (failure : Failure) (key : String) : Prop :=
  key = "field" ∨ key = "code" ∨ ∃ param ∈ failure.params, param.1 = key

/-- The text that is put in for a key that stands for something. -/
def value? (failure : Failure) (field key : String) : Option String :=
  if key = "field" then some field
  else if key = "code" then some failure.code
  else failure.param? key

theorem render_eq_fill (failure : Failure) (template field : String) :
    failure.render template field = Template.fill "\x7b" (failure.value? field) template := rfl

theorem param?_eq_find? (failure : Failure) (key : String) :
    failure.param? key = (failure.params.find? fun param => param.1 = key).map Prod.snd :=
  Template.lookup_eq_find? failure.params key

theorem getD_value? (failure : Failure) (field key : String) :
    (failure.value? field key).getD (Template.placeholder "\x7b" key) =
      failure.insertion field key := by
  rw [value?, insertion, param?_eq_find?]
  split_ifs
  · rfl
  · rfl
  · cases failure.params.find? fun param => param.1 = key <;> rfl

theorem value?_eq_none_iff : failure.value? field key = none ↔ ¬failure.Knows key := by
  rw [value?, Knows, param?_eq_find?]
  split_ifs with hfield hcode
  · simp [hfield]
  · simp [hcode]
  · rw [Option.map_eq_none_iff, List.find?_eq_none]
    simp only [hfield, hcode, false_or, not_exists, not_and, decide_eq_true_eq]

/-- How a template is rendered for the failure and the field. -/
structure RendersInOnePass (failure : Failure) (field : String) : Prop where
  render_placeholder : ∀ front key back, Template.IsClosed "\x7b".toList front.toList →
    '}' ∉ key.toList →
    failure.render (front ++ Template.placeholder "\x7b" key ++ back) field =
      failure.render front field ++ failure.insertion field key ++ failure.render back field
  render_unclosed : ∀ front rest, Template.IsClosed "\x7b".toList front.toList →
    '}' ∉ rest.toList →
    failure.render (front ++ "\x7b" ++ rest) field = failure.render front field ++ "\x7b" ++ rest
  render_unknown : ∀ template,
    (∀ key, Template.Names "\x7b" template key → ¬failure.Knows key) →
    failure.render template field = template
  /-- A loop that finds one placeholder after another writes the same. -/
  render_eq_scan : ∀ template, failure.render template field =
    String.ofList (Template.scan "\x7b".toList (failure.value? field) template.toList [])

/-- Whatever the field, the code and the parameters are, a template is rendered placeholder by
placeholder. -/
theorem rendersInOnePass (failure : Failure) (field : String) :
    failure.RendersInOnePass field := by
  have hopener : Template.IsUnbordered "\x7b".toList := Template.isUnbordered_singleton _
  constructor
  case render_placeholder =>
    intro front key back hfront hkey
    rw [render_eq_fill, Template.fill_append_placeholder hopener hfront hkey, getD_value?]
    rfl
  case render_unclosed =>
    intro front rest hfront hrest
    rw [render_eq_fill, String.append_assoc, Template.fill_append hopener hfront,
      Template.fill_of_not_mem hrest, ← String.append_assoc]
    rfl
  case render_unknown =>
    intro template h
    exact Template.fill_of_forall_none fun key hkey => value?_eq_none_iff.mpr (h key hkey)
  case render_eq_scan =>
    intro template
    rw [render_eq_fill, Template.fill_eq_scan]

-- the braces of the path are not read
example :
    let failure : Failure := { code := "min", message := "", params := [("min", "3")] }
    failure.render "\x7bfield\x7d needs \x7bmin\x7d, \x7bunit\x7d \x7bmin" "a.\x7bmin\x7d" =
      "a.\x7bmin\x7d needs 3, \x7bunit\x7d \x7bmin" := by cbv

end Conform.Failure
