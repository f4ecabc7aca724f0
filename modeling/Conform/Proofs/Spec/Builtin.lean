import Conform.Proofs.Schema.Faults
import Conform.Proofs.Spec.Bindings
import Conform.Spec.Builtin

/-!
# The built-in rules

Every built-in name is bound to a constructor that makes rules of that name, or of the name that it
is an alias of. None of these rules ever faults, and wrong arguments are refused in the name of the
rule.
-/

namespace Conform

/-! ## Readers of arguments -/

namespace Arguments

variable {rule : String} {p : Rule → Prop}

theorem answers_none {made : Rule} (h : p made) :
    Constructor.Answers rule p (Arguments.none rule made) := by
  intro args
  by_cases hargs : args = []
  · exact .inl ⟨made, if_pos hargs, h⟩
  · exact .inr ⟨_, if_neg hargs⟩

theorem number_cases (rule : String) (argument : Argument) :
    (∃ x, number rule argument = .ok x) ∨
      ∃ reason, number rule argument = .error (.invalidArgument rule reason) := by
  unfold number
  split
  · exact .inl ⟨_, rfl⟩
  · exact .inr ⟨_, rfl⟩

theorem answers_oneNumber {make : Binary64 → Rule} (h : ∀ x, p (make x)) :
    Constructor.Answers rule p (oneNumber rule make) := by
  intro args
  unfold oneNumber
  split
  · rename_i arg
    obtain ⟨x, hx⟩ | ⟨reason, hreason⟩ := number_cases rule arg
    · exact .inl ⟨make x, by rw [hx]; rfl, h x⟩
    · exact .inr ⟨reason, by rw [hreason]; rfl⟩
  · exact .inr ⟨_, rfl⟩

theorem answers_twoNumbers {make : Binary64 → Binary64 → Rule} (h : ∀ x y, p (make x y)) :
    Constructor.Answers rule p (twoNumbers rule make) := by
  intro args
  unfold twoNumbers
  split
  · rename_i low high
    obtain ⟨x, hx⟩ | ⟨reason, hreason⟩ := number_cases rule low
    · obtain ⟨y, hy⟩ | ⟨reason, hreason⟩ := number_cases rule high
      · by_cases hle : x.le y = true
        · exact .inl ⟨make x y, by simp [hx, hy, hle, bind, Except.bind, pure, Except.pure], h x y⟩
        · exact .inr ⟨_, by simp only [hx, hy, bind, Except.bind, if_neg hle]; rfl⟩
      · exact .inr ⟨reason, by rw [hx, hreason]; rfl⟩
    · exact .inr ⟨reason, by rw [hreason]; rfl⟩
  · exact .inr ⟨_, rfl⟩

theorem answers_oneText {make : String → Except SpecError Rule}
    (h : ∀ text, (∃ made, make text = .ok made ∧ p made) ∨
      ∃ reason, make text = .error (.invalidArgument rule reason)) :
    Constructor.Answers rule p (oneText rule make) := by
  intro args
  unfold oneText
  split
  · rename_i arg
    split
    · exact .inr ⟨_, rfl⟩
    · exact h arg.raw
  · exact .inr ⟨_, rfl⟩

theorem answers_someTexts {make : List String → Rule} (h : ∀ texts, p (make texts)) :
    Constructor.Answers rule p (someTexts rule make) := by
  intro args
  unfold someTexts
  split
  · exact .inr ⟨_, rfl⟩
  · exact .inl ⟨_, rfl, h _⟩

end Arguments

/-! ## The registry -/

namespace Registry

open Arguments

/-- The name of the rules that a built-in name makes. -/
def builtinName (name : String) : String := if name = "in" then "in_list" else name

/-- A built-in name is bound to its constructor. -/
theorem get?_builtin {name : String} {constructor : Constructor}
    (h : (name, constructor) ∈ builtinRules) : builtin.get? name = some constructor := by
  have hnames : (builtinRules.map (·.1)).Nodup := by decide
  have hget := get?_ofList hnames h
  rw [builtin, registerAlias]
  split
  · have hin : ∀ other ∈ builtinRules.map (·.1), "in" ≠ other := by decide
    rwa [get?_register, if_neg (hin name (List.mem_map_of_mem h))]
  · exact hget

/-- A rule of the given name that never faults. -/
def MakesSafely (name : String) (made : Rule) : Prop := made.NeverFaults ∧ made.name = name

theorem answers_regex (text : String) :
    (∃ made, ((Rule.regex text).mapError fun error =>
      SpecError.invalidArgument "regex" error.message) = .ok made ∧ MakesSafely "regex" made) ∨
      ∃ reason, ((Rule.regex text).mapError fun error =>
        SpecError.invalidArgument "regex" error.message) =
          .error (.invalidArgument "regex" reason) := by
  rw [Rule.regex]
  cases Regex.Pattern.parse text with
  | error error => exact .inr ⟨error.message, rfl⟩
  | ok pattern => exact .inl ⟨_, rfl, Rule.neverFaults_ofPredicate _ _ _, rfl⟩

theorem answers_of_mem_builtinRules {e : String × Constructor} (he : e ∈ builtinRules) :
    e.2.Answers e.1 (MakesSafely e.1) := by
  revert e
  simp only [builtinRules, List.forall_mem_cons, List.not_mem_nil, false_imp_iff, implies_true,
    and_true]
  have hvalue : ∀ name check, MakesSafely name (Rule.ofValue name check) :=
    fun name check => ⟨Rule.neverFaults_ofValue name check, rfl⟩
  have htest : ∀ name failure accepts, MakesSafely name (Rule.ofTest name failure accepts) :=
    fun name failure accepts => ⟨Rule.neverFaults_ofTest name failure accepts, rfl⟩
  have himplicit : ∀ name failure accepts,
      MakesSafely name (Rule.ofTest name failure accepts).implicit := htest
  and_intros
  all_goals first
    | exact answers_none (hvalue ..)
    | exact answers_none (himplicit ..)
    | exact answers_oneNumber fun _ => hvalue ..
    | exact answers_twoNumbers fun _ _ => hvalue ..
    | exact answers_someTexts fun _ => hvalue ..
    | exact answers_someTexts fun _ => himplicit ..
    | exact answers_oneText fun _ => .inl ⟨_, rfl, htest ..⟩
    | exact answers_oneText answers_regex

/-- Every built-in name is bound to a constructor of safe rules of its own name, or of the name that
it is an alias of. -/
theorem binds_builtin :
    builtin.Binds fun name constructor =>
      constructor.Answers (builtinName name) (MakesSafely (builtinName name)) := by
  have hnames : ∀ e ∈ builtinRules, builtinName e.1 = e.1 := by decide
  refine Binds.registerAlias (binds_ofList fun e he => ?_) fun _ htarget => htarget
  rw [hnames e he]
  exact answers_of_mem_builtinRules he

/-- What the built-in registry makes of a token never faults, and has the name of the token or the
one that this is an alias of. -/
theorem makesSafely_of_construct {token : Token} {rule : Rule}
    (h : builtin.construct token = .ok rule) : MakesSafely (builtinName token.name) rule := by
  rw [construct] at h
  split at h
  · rename_i constructor hget
    exact (binds_builtin token.name constructor hget).of_ok h
  · cases h

end Registry

end Conform
