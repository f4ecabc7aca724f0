import Conform.Changeset
import Conform.Proofs.Text.Template

/-!
# Interpolated messages

The messages of a changeset are templates whose openers have two characters. They too are filled in
one pass from left to right: a percent sign before an opener is text, and a value is put in as it
is, whatever openers it holds.
-/

namespace Conform

/-- What is put in for the placeholder of a key: the value of the first parameter with the key, or
the placeholder itself. -/
def interpolation (params : List (String × String)) (key : String) : String :=
  match params.find? fun param => param.1 = key with
  | some param => param.2
  | none => Template.placeholder "%\x7b" key

theorem getD_lookup_eq_interpolation (params : List (String × String)) (key : String) :
    (params.lookup key).getD (Template.placeholder "%\x7b" key) = interpolation params key := by
  rw [interpolation, Template.lookup_eq_find?]
  cases params.find? fun param => param.1 = key <;> rfl

/-- How a template is interpolated with the parameters. -/
structure InterpolatesInOnePass (params : List (String × String)) : Prop where
  interpolate_placeholder : ∀ front key back, Template.IsClosed "%\x7b".toList front.toList →
    '}' ∉ key.toList →
    interpolate (front ++ Template.placeholder "%\x7b" key ++ back) params =
      interpolate front params ++ interpolation params key ++ interpolate back params
  interpolate_unclosed : ∀ front rest, Template.IsClosed "%\x7b".toList front.toList →
    '}' ∉ rest.toList →
    interpolate (front ++ "%\x7b" ++ rest) params = interpolate front params ++ "%\x7b" ++ rest
  interpolate_unknown : ∀ template,
    (∀ key, Template.Names "%\x7b" template key → ∀ param ∈ params, param.1 ≠ key) →
    interpolate template params = template
  /-- A loop that finds one placeholder after another writes the same. -/
  interpolate_eq_scan : ∀ template, interpolate template params =
    String.ofList (Template.scan "%\x7b".toList (fun key => params.lookup key) template.toList [])

/-- Whatever the parameters are, a template is interpolated placeholder by placeholder. -/
theorem interpolatesInOnePass (params : List (String × String)) : InterpolatesInOnePass params := by
  have hopener : Template.IsUnbordered "%\x7b".toList := Template.isUnbordered_pair (by decide)
  constructor
  case interpolate_placeholder =>
    intro front key back hfront hkey
    rw [interpolate, Template.fill_append_placeholder hopener hfront hkey,
      getD_lookup_eq_interpolation]
    rfl
  case interpolate_unclosed =>
    intro front rest hfront hrest
    rw [interpolate, String.append_assoc, Template.fill_append hopener hfront,
      Template.fill_of_not_mem hrest, ← String.append_assoc]
    rfl
  case interpolate_unknown =>
    intro template h
    refine Template.fill_of_forall_none fun key hkey => List.lookup_eq_none_iff.mpr ?_
    intro param hparam
    exact bne_iff_ne.mpr (h key hkey param hparam).symm
  case interpolate_eq_scan =>
    intro template
    rw [interpolate, Template.fill_eq_scan]

-- the percent sign before the first opener is text, and the opener in the value is not read
example :
    let params := [("n", "%\x7bm\x7d"), ("m", "3"), ("n", "4")]
    interpolate "50%%\x7bn\x7d, %\x7bm\x7d%\x7b\x7d %\x7bn" params =
      "50%%\x7bm\x7d, 3%\x7b\x7d %\x7bn" := by cbv

end Conform
