import Conform.Spec.Registry
import Mathlib.Data.List.Induction

/-!
# What registries bind

A registry is put together binding by binding. What holds of every binding that is made, and of the
aliases, holds of all bindings of the registry.
-/

namespace Conform

/-- For all arguments the constructor makes a rule of the kind `p` or refuses them, in the name of
one rule. -/
def Constructor.Answers (rule : String) (p : Rule → Prop) (constructor : Constructor) : Prop :=
  ∀ args, (∃ made, constructor args = .ok made ∧ p made) ∨
    ∃ reason, constructor args = .error (.invalidArgument rule reason)

theorem Constructor.Answers.of_ok {rule : String} {p : Rule → Prop} {constructor : Constructor}
    (h : constructor.Answers rule p) {args : List Argument} {made : Rule}
    (hmade : constructor args = .ok made) : p made := by
  obtain ⟨other, hother, hp⟩ | ⟨reason, hreason⟩ := h args
  · rw [hmade] at hother
    cases hother
    exact hp
  · rw [hmade] at hreason
    cases hreason

namespace Registry

variable {registry : Registry} {p : String → Constructor → Prop}

/-- Every binding of the registry is as described. -/
def Binds (p : String → Constructor → Prop) (registry : Registry) : Prop :=
  ∀ name constructor, registry.get? name = some constructor → p name constructor

theorem get?_register (registry : Registry) (name : String) (constructor : Constructor)
    (other : String) :
    (registry.register name constructor).get? other =
      if name = other then some constructor else registry.get? other := by
  rw [get?, register, Std.TreeMap.getElem?_insert, get?]
  simp only [Std.compare_eq_iff_eq]

theorem binds_empty (p : String → Constructor → Prop) : Binds p ∅ := by
  intro name constructor h
  rw [get?, show (∅ : Registry).constructors = ∅ from rfl, Std.TreeMap.getElem?_emptyc] at h
  cases h

theorem Binds.register (h : registry.Binds p) {name : String} {constructor : Constructor}
    (hnew : p name constructor) : (registry.register name constructor).Binds p := by
  intro other bound hbound
  rw [get?_register] at hbound
  split at hbound
  · rename_i hname
    cases hbound
    exact hname ▸ hnew
  · exact h other bound hbound

/-- An alias is bound like its target. -/
theorem Binds.registerAlias (h : registry.Binds p) {name target : String}
    (halias : ∀ constructor, p target constructor → p name constructor) :
    (registry.registerAlias name target).Binds p := by
  rw [Registry.registerAlias]
  split
  · rename_i constructor htarget
    exact h.register (halias constructor (h target constructor htarget))
  · exact h

theorem binds_ofList {entries : List (String × Constructor)} (h : ∀ e ∈ entries, p e.1 e.2) :
    (ofList entries).Binds p := by
  refine List.foldlRecOn entries _ (binds_empty p) fun registry hregistry e he => ?_
  exact hregistry.register (h e he)

/-- When no name is bound twice, each is bound to its constructor. -/
theorem get?_ofList {entries : List (String × Constructor)} (h : (entries.map (·.1)).Nodup)
    {e : String × Constructor} (he : e ∈ entries) : (ofList entries).get? e.1 = some e.2 := by
  induction entries using List.reverseRecOn with
  | nil => cases he
  | append_singleton front last ih =>
    have hlast : ofList (front ++ [last]) = (ofList front).register last.1 last.2 := by
      rw [ofList, List.foldl_append]
      rfl
    rw [List.map_append, List.nodup_append] at h
    obtain ⟨hfront, -, hapart⟩ := h
    rw [hlast, get?_register]
    rcases List.mem_append.mp he with he | he
    · rw [if_neg fun heq => ?_, ih hfront he]
      exact hapart e.1 (List.mem_map_of_mem he) last.1 (by simp) heq.symm
    · rw [List.mem_singleton.mp he, if_pos rfl]

end Registry

end Conform
