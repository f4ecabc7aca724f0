import Conform.Proofs.Spec.Builtin
import Conform.Proofs.Spec.Compilation

/-!
# Errors that name no field

A specification is compiled without knowing the field that it is for. So no error names a field by
itself, unless a constructor does; those of the built-in rules do not.
-/

namespace Conform

/-- An error that is not attributed to a field. -/
def SpecError.NamesNoField (error : SpecError) : Prop := error.root = error

/-- A constructor whose errors are not attributed to fields. -/
def Constructor.NamesNoField (constructor : Constructor) : Prop :=
  ∀ args error, constructor args = .error error → error.NamesNoField

/-- A registry of such constructors. -/
def Registry.NamesNoField (registry : Registry) : Prop :=
  ∀ name constructor, registry.get? name = some constructor → constructor.NamesNoField

theorem Token.namesNoField_of_parseSpec {spec : String} {error : SpecError}
    (h : parseSpec spec = .error error) : error.NamesNoField := by
  by_cases hspec : spec = ""
  · rw [hspec] at h
    cases h
    rfl
  · obtain ⟨-, -, -, -, -, -, rfl⟩ := (parseSpec_eq_error_iff hspec).mp h
    rfl

namespace Registry

variable {registry : Registry}

theorem NamesNoField.construct (h : registry.NamesNoField) {token : Token} {error : SpecError}
    (herror : registry.construct token = .error error) : error.NamesNoField := by
  rw [Registry.construct] at herror
  split at herror
  · rename_i constructor hname
    exact h _ constructor hname _ _ herror
  · cases herror
    rfl

theorem NamesNoField.compile (h : registry.NamesNoField) {spec : String} {error : SpecError}
    (herror : registry.compile spec = .error error) : error.NamesNoField := by
  cases hspec : Token.parseSpec spec with
  | ok tokens =>
    rw [compile_of_parseSpec hspec, compileTokens_eq_error_iff] at herror
    obtain ⟨-, token, -, -, -, ⟨-, -, rfl⟩ | ⟨-, hrule⟩⟩ := herror
    · rfl
    · exact h.construct hrule
  | error cause =>
    rw [Registry.compile, hspec] at herror
    cases herror
    exact Token.namesNoField_of_parseSpec hspec

/-- The built-in rules refuse arguments in their own name. -/
theorem namesNoField_builtin : builtin.NamesNoField := by
  intro name constructor hname args error herror
  obtain ⟨made, hmade, -⟩ | ⟨reason, hreason⟩ := binds_builtin name constructor hname args
  · rw [hmade] at herror
    cases herror
  · rw [hreason] at herror
    cases herror
    rfl

end Registry

end Conform
