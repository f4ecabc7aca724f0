import Conform.Proofs.Spec.Bindings
import Mathlib.Data.List.Sort
import Mathlib.Data.String.Basic

/-!
# Registries change by change

After any changes a name is bound to what the last of them that wrote the name wrote there. An
alias writes the constructor that its target has at that moment, so later changes of the target
are nothing to the alias.
-/

namespace Conform.Registry

/-- A change of one binding. -/
inductive Change where
  | register (name : String) (constructor : Constructor)
  | registerAlias (name target : String)

/-- The name that the change is about. -/
def Change.name : Change → String
  | register name _ | registerAlias name _ => name

def apply (registry : Registry) : Change → Registry
  | .register name constructor => registry.register name constructor
  | .registerAlias name target => registry.registerAlias name target

/-- Makes the changes one after another. -/
def applyAll (registry : Registry) (changes : List Change) : Registry :=
  changes.foldl apply registry

theorem applyAll_append (registry : Registry) (before after : List Change) :
    registry.applyAll (before ++ after) = (registry.applyAll before).applyAll after :=
  List.foldl_append

/-- The change, made in this registry, writes the constructor under the name. -/
inductive Writes (registry : Registry) : Change → String → Constructor → Prop where
  | register {name : String} {constructor : Constructor} :
      Writes registry (.register name constructor) name constructor
  | registerAlias {name target : String} {constructor : Constructor} :
      registry.get? target = some constructor →
      Writes registry (.registerAlias name target) name constructor

/-- None of the changes, made one after another, writes the name. -/
def Leaves (registry : Registry) (changes : List Change) (name : String) : Prop :=
  ∀ before change after, changes = before ++ change :: after →
    ∀ constructor, ¬Writes (registry.applyAll before) change name constructor

/-- The last of the changes that writes the name writes the constructor there. -/
def LastWrites (registry : Registry) (changes : List Change) (name : String)
    (constructor : Constructor) : Prop :=
  ∃ before change after, changes = before ++ change :: after ∧
    Writes (registry.applyAll before) change name constructor ∧
    Leaves (registry.applyAll (before ++ [change])) after name

/-! ## One change -/

variable {registry : Registry} {name target : String} {constructor : Constructor}

theorem registerAlias_of_none (h : registry.get? target = none) :
    registry.registerAlias name target = registry := by
  rw [registerAlias, h]

theorem registerAlias_of_some (h : registry.get? target = some constructor) :
    registry.registerAlias name target = registry.register name constructor := by
  rw [registerAlias, h]

theorem get?_register_self : (registry.register name constructor).get? name = some constructor := by
  rw [get?_register, if_pos rfl]

theorem get?_apply_of_writes {change : Change} (h : Writes registry change name constructor) :
    (registry.apply change).get? name = some constructor := by
  cases h with
  | register => exact get?_register_self
  | registerAlias htarget =>
    rw [apply, registerAlias_of_some htarget]
    exact get?_register_self

theorem get?_apply_of_not_writes {change : Change}
    (h : ∀ constructor, ¬Writes registry change name constructor) :
    (registry.apply change).get? name = registry.get? name := by
  cases change with
  | register other constructor =>
    have hne : other ≠ name := by
      rintro rfl
      exact h constructor .register
    rw [apply, get?_register, if_neg hne]
  | registerAlias other target =>
    cases htarget : registry.get? target with
    | none => rw [apply, registerAlias_of_none htarget]
    | some constructor =>
      have hne : other ≠ name := by
        rintro rfl
        exact h constructor (.registerAlias htarget)
      rw [apply, registerAlias_of_some htarget, get?_register, if_neg hne]

theorem Writes.name_eq {change : Change} (h : Writes registry change name constructor) :
    change.name = name := by
  cases h <;> rfl

/-! ## Many changes -/

theorem leaves_cons_iff {change : Change} {rest : List Change} :
    Leaves registry (change :: rest) name ↔
      (∀ constructor, ¬Writes registry change name constructor) ∧
        Leaves (registry.apply change) rest name := by
  constructor
  · intro h
    refine ⟨h [] change rest rfl, fun before next after hrest => ?_⟩
    exact h (change :: before) next after (by rw [hrest, List.cons_append])
  · rintro ⟨hfirst, hrest⟩ before next after hsplit
    cases before with
    | nil =>
      obtain ⟨rfl, -⟩ := List.cons.inj hsplit
      exact hfirst
    | cons first before =>
      obtain ⟨rfl, hsplitRest⟩ := List.cons.inj hsplit
      exact hrest before next after hsplitRest

/-- Changes of other names leave a name alone. -/
theorem leaves_of_forall_name_ne {changes : List Change}
    (h : ∀ change ∈ changes, change.name ≠ name) : Leaves registry changes name := by
  rintro before change after rfl constructor hwrites
  exact h change (by simp) hwrites.name_eq

theorem get?_applyAll_of_leaves {changes : List Change} (h : Leaves registry changes name) :
    (registry.applyAll changes).get? name = registry.get? name := by
  induction changes generalizing registry with
  | nil => rfl
  | cons change rest ih =>
    obtain ⟨hfirst, hrest⟩ := leaves_cons_iff.mp h
    exact (ih hrest).trans (get?_apply_of_not_writes hfirst)

theorem LastWrites.get?_applyAll {changes : List Change}
    (h : LastWrites registry changes name constructor) :
    (registry.applyAll changes).get? name = some constructor := by
  obtain ⟨before, change, after, rfl, hwrites, hleaves⟩ := h
  have hlast : registry.applyAll (before ++ [change]) = (registry.applyAll before).apply change :=
    applyAll_append registry before [change]
  rw [List.append_cons, applyAll_append, get?_applyAll_of_leaves hleaves, hlast]
  exact get?_apply_of_writes hwrites

/-- Changes leave a name alone, or one of them is the last to write it. -/
theorem leaves_or_lastWrites (registry : Registry) (changes : List Change) (name : String) :
    Leaves registry changes name ∨ ∃ constructor, LastWrites registry changes name constructor := by
  induction changes generalizing registry with
  | nil => exact .inl fun before change after hsplit => by simp at hsplit
  | cons change rest ih =>
    obtain hleaves | ⟨constructor, before, last, after, rfl, hlast⟩ := ih (registry.apply change)
    · by_cases hwrites : ∃ constructor, Writes registry change name constructor
      · obtain ⟨constructor, hwrites⟩ := hwrites
        exact .inr ⟨constructor, [], change, rest, rfl, hwrites, hleaves⟩
      · exact .inl (leaves_cons_iff.mpr ⟨not_exists.mp hwrites, hleaves⟩)
    · exact .inr ⟨constructor, change :: before, last, after, rfl, hlast⟩

/-- A name is bound to what was last written there, or as it was before all changes. -/
theorem get?_applyAll_eq_some_iff {changes : List Change} :
    (registry.applyAll changes).get? name = some constructor ↔
      LastWrites registry changes name constructor ∨
        Leaves registry changes name ∧ registry.get? name = some constructor := by
  constructor
  · intro h
    obtain hleaves | ⟨last, hlast⟩ := leaves_or_lastWrites registry changes name
    · exact .inr ⟨hleaves, by rw [← get?_applyAll_of_leaves hleaves, h]⟩
    · rw [hlast.get?_applyAll] at h
      cases h
      exact .inl hlast
  · rintro (hlast | ⟨hleaves, hbound⟩)
    · exact hlast.get?_applyAll
    · rw [get?_applyAll_of_leaves hleaves, hbound]

/-! ## What a registry answers -/

theorem construct_of_get? {token : Token} (h : registry.get? token.name = some constructor) :
    registry.construct token = constructor token.args := by
  rw [construct, h]

theorem construct_of_get?_eq_none {token : Token} (h : registry.get? token.name = none) :
    registry.construct token = .error (.unknownRule token.name) := by
  rw [construct, h]

theorem mem_names_iff :
    name ∈ registry.names ↔ ∃ constructor, registry.get? name = some constructor := by
  rw [names, Std.TreeMap.mem_keys, Std.TreeMap.mem_iff_isSome_getElem?, Option.isSome_iff_exists]
  rfl

theorem pairwise_names (registry : Registry) : registry.names.Pairwise (· < ·) := by
  have hordered : registry.names.Pairwise fun a b => compare a b = .lt := Std.TreeMap.ordered_keys
  exact hordered.imp compare_lt_iff_lt.mp

theorem length_names (registry : Registry) : registry.names.length = registry.size :=
  Std.TreeMap.length_keys

/-- In whatever order the bound names are met, the names are what sorting them gives. -/
theorem names_eq_mergeSort {listing : List String} (hdistinct : listing.Nodup)
    (hbound : ∀ name, name ∈ listing ↔ ∃ constructor, registry.get? name = some constructor) :
    registry.names = listing.mergeSort := by
  have hnames : registry.names.Pairwise (· < ·) := pairwise_names registry
  have hperm : registry.names.Perm listing.mergeSort := by
    refine .trans ?_ (List.mergeSort_perm listing _).symm
    refine (List.perm_ext_iff_of_nodup (hnames.imp fun h => h.ne) hdistinct).mpr fun name => ?_
    rw [mem_names_iff, hbound]
  exact hperm.eq_of_pairwise' (hnames.imp fun h => h.le) (List.pairwise_mergeSort' _ listing)

/-- Every name is bound as it was last written. An alias keeps the constructor that its target had,
whatever is written later, until it is written itself; without a target it changes nothing. Tokens
are made by the constructor of their name. The names are listed in order, as any listing of what is
bound is when it has been sorted. -/
structure KeepsBindings (registry : Registry) (changes : List Change) : Prop where
  bound_iff : ∀ name constructor,
    (registry.applyAll changes).get? name = some constructor ↔
      LastWrites registry changes name constructor ∨
        Leaves registry changes name ∧ registry.get? name = some constructor
  alias_kept : ∀ before name target after constructor,
    changes = before ++ .registerAlias name target :: after →
    (registry.applyAll before).get? target = some constructor →
    Leaves (registry.applyAll (before ++ [.registerAlias name target])) after name →
    ∀ args, (registry.applyAll changes).construct ⟨name, args⟩ = constructor args
  alias_unbound : ∀ name target, (registry.applyAll changes).get? target = none →
    registry.applyAll (changes ++ [.registerAlias name target]) = registry.applyAll changes
  construct_unbound : ∀ token : Token, (registry.applyAll changes).get? token.name = none →
    (registry.applyAll changes).construct token = .error (.unknownRule token.name)
  construct_bound : ∀ (token : Token) constructor,
    (registry.applyAll changes).get? token.name = some constructor →
    (registry.applyAll changes).construct token = constructor token.args
  names_ascending : (registry.applyAll changes).names.Pairwise (· < ·)
  mem_names_iff : ∀ name, name ∈ (registry.applyAll changes).names ↔
    ∃ constructor, (registry.applyAll changes).get? name = some constructor
  length_names : (registry.applyAll changes).names.length = (registry.applyAll changes).size
  names_sorted : ∀ listing : List String, listing.Nodup →
    (∀ name, name ∈ listing ↔
      ∃ constructor, (registry.applyAll changes).get? name = some constructor) →
    (registry.applyAll changes).names = listing.mergeSort

theorem keepsBindings_applyAll (registry : Registry) (changes : List Change) :
    registry.KeepsBindings changes where
  bound_iff _ _ := get?_applyAll_eq_some_iff
  alias_kept before name target after constructor hsplit htarget hleaves args := by
    have hlast : LastWrites registry changes name constructor :=
      ⟨before, _, after, hsplit, .registerAlias htarget, hleaves⟩
    have hbound : (registry.applyAll changes).get? (Token.mk name args).name = some constructor :=
      hlast.get?_applyAll
    exact construct_of_get? hbound
  alias_unbound name target htarget := by
    rw [applyAll_append]
    exact registerAlias_of_none htarget
  construct_unbound _ := construct_of_get?_eq_none
  construct_bound _ _ := construct_of_get?
  names_ascending := pairwise_names _
  mem_names_iff _ := Registry.mem_names_iff
  length_names := Registry.length_names _
  names_sorted _ := names_eq_mergeSort

/-- An alias stays with the first constructor of its target, and so does an alias of the alias that
is made after the target got another one. -/
theorem keepsBindings_applyAll_of_rebound_target :
    let first : Constructor := fun _ => .error (.invalidArgument "one" "first")
    let second : Constructor := fun _ => .error (.invalidArgument "one" "second")
    let before : List Change := [.register "one" first]
    let after : List Change :=
      [.registerAlias "dos" "two", .register "one" second, .registerAlias "eins" "uno"]
    let changes := before ++ .registerAlias "uno" "one" :: after
    let registry := applyAll ∅ changes
    KeepsBindings ∅ changes ∧ registry.construct ⟨"uno", []⟩ = first [] ∧
      registry.construct ⟨"one", []⟩ = second [] ∧ registry.construct ⟨"eins", []⟩ = first [] ∧
      registry.construct ⟨"dos", []⟩ = .error (.unknownRule "dos") ∧
      registry.names = ["eins", "one", "uno"] := by
  intro first second before after changes registry
  have hkeeps : KeepsBindings ∅ changes := keepsBindings_applyAll ∅ changes
  have hothers : ∀ change ∈ after, change.name ≠ "uno" := by
    simp [after, Change.name]
  have huno := hkeeps.alias_kept before "uno" "one" after first rfl rfl
    (leaves_of_forall_name_ne hothers) []
  exact ⟨hkeeps, huno, rfl, rfl, rfl, by decide +kernel⟩

end Conform.Registry
