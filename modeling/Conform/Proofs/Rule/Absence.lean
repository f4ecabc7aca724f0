import Conform.Rule.Chain
import Conform.Rule.Presence

/-!
# Missing fields, and null in nullable chains

Of a missing field only the implicit rules of a chain are asked: the others might fault or fail, and
nothing would come of it. A nullable chain takes null for absent before any rule is applied. So none
of its rules is shown the null: those that are not implicit are passed over, and the implicit ones
are told that there is no value. They refuse it when they refuse a missing field.
-/

namespace Conform

/-! ## Rules that ignore null -/

/-- The rule answers the same for null as for no value at all. -/
def Rule.IgnoresNull (rule : Rule) : Prop :=
  ∀ field tree, rule.test field (some .null) tree = rule.test field none tree

theorem Rule.ignoresNull_required : required.IgnoresNull := fun _ _ => rfl

theorem Rule.IgnoresNull.apply {rule : Rule} (h : rule.IgnoresNull) (field : String)
    (tree : Value) : rule.apply field (some .null) tree = rule.apply field none tree := by
  rw [Rule.apply, Rule.apply, h field tree]

namespace Chain

/-- Implicit rules that do not tell null from absence say the same of both. -/
theorem run_null_eq_run_absent {rules : List Rule} (himplicit : ∀ rule ∈ rules, rule.isImplicit)
    (h : ∀ rule ∈ rules, rule.IgnoresNull) (bail : Bool) (field : String) (tree : Value) :
    run bail field (some .null) tree rules = run bail field none tree rules := by
  induction rules with
  | nil => rfl
  | cons rule rest ih =>
    obtain ⟨hrule, hrest⟩ := List.forall_mem_cons.mp himplicit
    obtain ⟨hignores, hothers⟩ := List.forall_mem_cons.mp h
    simp only [run, hrule, hignores.apply, ih hrest hothers, Bool.not_true, Bool.and_false]

/-! ## Null in a nullable chain -/

/-- The chain with its implicit rules only, in order and in the same modes. -/
def implicitOnly (chain : Chain) : Chain :=
  { chain with rules := chain.rules.filter Rule.isImplicit }

/-- The chain says of null what its implicit rules say of a missing field. -/
structure TakesNullForAbsent (chain : Chain) : Prop where
  messages_null : ∀ field tree, chain.messages field (some .null) tree =
    { chain.implicitOnly with nullable := false }.messages field none tree
  /-- Null passes when all implicit rules let a missing field pass. -/
  accepts_null_iff : ∀ field tree, chain.messages field (some .null) tree = .ok [] ↔
    ∀ rule ∈ chain.rules, rule.isImplicit = true → rule.apply field none tree = .ok ()
  refuses_null_of_present : Rule.present ∈ chain.rules →
    ∀ field tree, chain.messages field (some .null) tree ≠ .ok []
  /-- Implicit rules that do not tell null from absence might as well be shown the null. -/
  messages_null_of_ignoresNull :
    (∀ rule ∈ chain.rules, rule.isImplicit = true → rule.IgnoresNull) →
      ∀ field tree, chain.messages field (some .null) tree =
        { chain.implicitOnly with nullable := false }.messages field (some .null) tree

theorem messages_null_eq_run {chain : Chain} (h : chain.nullable = true) (field : String)
    (tree : Value) :
    chain.messages field (some .null) tree = run chain.bail field none tree chain.rules := by
  rw [messages, view, h, if_pos rfl]

/-- In a nullable chain all that is said of null is what its implicit rules say of a missing field,
in order and up to the first failure of a bail chain or the first fault. -/
theorem takesNullForAbsent_of_nullable (chain : Chain) (h : chain.nullable = true) :
    chain.TakesNullForAbsent := by
  have haccepts : ∀ field tree, chain.messages field (some .null) tree = .ok [] ↔
      ∀ rule ∈ chain.rules, rule.isImplicit = true → rule.apply field none tree = .ok () := by
    intro field tree
    rw [messages_null_eq_run h, run_eq_ok_nil_iff]
    simp
  constructor
  case messages_null =>
    intro field tree
    rw [messages_null_eq_run h, ← run_absent_filter]
    rfl
  case accepts_null_iff => exact haccepts
  case refuses_null_of_present =>
    intro hpresent field tree hnone
    cases (haccepts field tree).mp hnone _ hpresent rfl
  case messages_null_of_ignoresNull =>
    intro hignores field tree
    have himplicit : ∀ rule ∈ chain.rules.filter Rule.isImplicit, rule.isImplicit = true :=
      fun rule hrule => (List.mem_filter.mp hrule).2
    have hrules : ∀ rule ∈ chain.rules.filter Rule.isImplicit, rule.IgnoresNull := by
      intro rule hrule
      exact hignores rule (List.mem_filter.mp hrule).1 (List.mem_filter.mp hrule).2
    rw [messages_null_eq_run h, ← run_absent_filter,
      ← run_null_eq_run_absent himplicit hrules]
    rfl

theorem takesNullForAbsent_of_mixed_rules :
    let chain : Chain := { rules := [.filled, .required, .present], bail := true, nullable := true }
    let others : Chain := { rules := [.filled, .required], nullable := true }
    let tree : Value := .obj [("x", .null)]
    chain.TakesNullForAbsent ∧
      chain.messages "x" (some .null) tree = .ok ["This field is required."] ∧
      others.messages "x" (some .null) tree =
        { others.implicitOnly with nullable := false }.messages "x" (some .null) tree := by
  intro chain others tree
  have hignores : ∀ rule ∈ others.rules, rule.isImplicit = true → rule.IgnoresNull := by
    intro rule hrule himplicit
    obtain rfl | rfl : rule = .filled ∨ rule = .required := by simpa [others] using hrule
    · cases himplicit
    · exact Rule.ignoresNull_required
  exact ⟨takesNullForAbsent_of_nullable chain rfl, rfl,
    (takesNullForAbsent_of_nullable others rfl).messages_null_of_ignoresNull hignores "x" tree⟩

/-- Implicit rules are told that the field is missing, and not that it holds null. -/
theorem messages_null_ne_of_present :
    let chain : Chain := { rules := [.present], nullable := true }
    let tree : Value := .obj [("x", .null)]
    chain.messages "x" (some .null) tree ≠
      { chain.implicitOnly with nullable := false }.messages "x" (some .null) tree := by
  intro chain tree heq
  have hrefused : chain.messages "x" (some .null) tree = .ok ["This field must be present."] := rfl
  have haccepted : { chain.implicitOnly with nullable := false }.messages "x" (some .null) tree =
      .ok [] := rfl
  rw [hrefused, haccepted] at heq
  cases heq

/-! ## Missing fields -/

/-- What the chain says of a missing field is up to its implicit rules. -/
structure LeavesAbsenceToImplicit (chain : Chain) : Prop where
  messages_none : ∀ field tree,
    chain.messages field none tree = chain.implicitOnly.messages field none tree
  messagesAt_of_missing : ∀ field tree, tree.resolve? field = none →
    chain.messagesAt field tree = chain.implicitOnly.messagesAt field tree
  /-- The other rules may be any, and stand anywhere between the implicit ones. -/
  messages_none_congr : ∀ other : Chain, other.bail = chain.bail →
    other.implicitOnly.rules = chain.implicitOnly.rules →
    ∀ field tree, other.messages field none tree = chain.messages field none tree
  accepts_none_iff : ∀ field tree, chain.messages field none tree = .ok [] ↔
    ∀ rule ∈ chain.rules, rule.isImplicit = true → rule.apply field none tree = .ok ()
  /-- Without implicit rules there is nothing to say of a field that the tree does not have. -/
  accepts_missing : (∀ rule ∈ chain.rules, rule.isImplicit = false) →
    ∀ field tree, tree.resolve? field = none → chain.messagesAt field tree = .ok []

theorem messages_none_eq_run_implicitOnly (chain : Chain) (field : String) (tree : Value) :
    chain.messages field none tree = run chain.bail field none tree chain.implicitOnly.rules :=
  (run_absent_filter chain.bail field tree chain.rules).symm

/-- Of a missing field a chain says what its implicit rules say by themselves, in order, up to the
first failure in a bail chain and up to the first fault in any. -/
theorem leavesAbsenceToImplicit (chain : Chain) : chain.LeavesAbsenceToImplicit := by
  have hnone : ∀ field tree,
      chain.messages field none tree = chain.implicitOnly.messages field none tree :=
    chain.messages_none_eq_run_implicitOnly
  have haccepts : ∀ field tree, chain.messages field none tree = .ok [] ↔
      ∀ rule ∈ chain.rules, rule.isImplicit = true → rule.apply field none tree = .ok () := by
    intro field tree
    rw [messages_none_eq_run_implicitOnly, run_eq_ok_nil_iff]
    simp [implicitOnly]
  constructor
  case messages_none => exact hnone
  case messagesAt_of_missing =>
    intro field tree hmissing
    rw [messagesAt, messagesAt, hmissing, hnone]
  case messages_none_congr =>
    intro other hbail hrules field tree
    rw [messages_none_eq_run_implicitOnly, messages_none_eq_run_implicitOnly, hbail, hrules]
  case accepts_none_iff => exact haccepts
  case accepts_missing =>
    intro hothers field tree hmissing
    rw [messagesAt, hmissing, haccepts]
    intro rule hmem himplicit
    rw [hothers rule hmem] at himplicit
    cases himplicit

-- the first rule always faults, but it is not asked
example :
    let broken : Rule := { name := "broken", test := fun _ _ _ => .error (.fault "no answer") }
    let chain : Chain := { rules := [broken, .required, .present], bail := true }
    chain.messagesAt "x" (.obj []) = .ok ["This field is required."] := rfl

end Chain

end Conform
