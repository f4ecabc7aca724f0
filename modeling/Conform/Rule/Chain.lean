import Conform.Rule.Basic
/-!
# Chains of rules

A chain applies its rules to one field in order and gives the messages of those that fail. A bail
chain ends with its first failure. A nullable chain takes an explicit null for an absent field. Only
implicit rules are applied to an absent field.
-/

namespace Conform

/-- A rule that could not be applied, and the field to which it was to be applied. -/
structure Fault where
  field : String
  rule : String
  cause : String
deriving DecidableEq, Repr

structure Chain where
  rules : List Rule := []
  bail : Bool := false
  nullable : Bool := false

namespace Chain

def push (chain : Chain) (rule : Rule) : Chain := { chain with rules := chain.rules ++ [rule] }

/-- One chain after the other. The modes of both hold for all rules. -/
def append (first second : Chain) : Chain where
  rules := first.rules ++ second.rules
  bail := first.bail || second.bail
  nullable := first.nullable || second.nullable

instance : Append Chain := ⟨append⟩

/-- The value as the rules of the chain see it. -/
def view (chain : Chain) : Option Value → Option Value
  | some .null => if chain.nullable then none else some .null
  | value? => value?

/-- Applies rules in order. A failure adds its message and, in a bail chain, ends the run; a fault
ends it with an error. -/
def run (bail : Bool) (field : String) (value? : Option Value) (tree : Value) :
    List Rule → Except Fault (List String)
  | [] => .ok []
  | rule :: rest =>
    if value?.isNone && !rule.isImplicit then run bail field value? tree rest
    else
      match rule.apply field value? tree with
      | .ok () => run bail field value? tree rest
      | .error (.invalid failure) =>
        if bail then .ok [failure.message]
        else (run bail field value? tree rest).map (failure.message :: ·)
      | .error (.fault cause) => .error ⟨field, rule.name, cause⟩

/-- The messages of the chain for a field with the given value. -/
def messages (chain : Chain) (field : String) (value? : Option Value) (tree : Value) :
    Except Fault (List String) :=
  run chain.bail field (chain.view value?) tree chain.rules

/-- The messages of the chain for the field that its path leads to. -/
def messagesAt (chain : Chain) (field : String) (tree : Value) : Except Fault (List String) :=
  chain.messages field (tree.resolve? field) tree

theorem append_eq (first second : Chain) :
    first ++ second =
      ⟨first.rules ++ second.rules, first.bail || second.bail, first.nullable || second.nullable⟩ :=
  rfl

theorem append_assoc (a b c : Chain) : a ++ b ++ c = a ++ (b ++ c) := by
  simp [append_eq, Bool.or_assoc]

@[simp] theorem run_nil (bail : Bool) (field : String) (value? : Option Value) (tree : Value) :
    run bail field value? tree [] = .ok [] := rfl

/-- A rule that is not implicit has no part in what is said of an absent field. -/
theorem run_absent_filter (bail : Bool) (field : String) (tree : Value) (rules : List Rule) :
    run bail field none tree (rules.filter Rule.isImplicit) = run bail field none tree rules := by
  induction rules with
  | nil => rfl
  | cons rule rest ih =>
    cases h : rule.isImplicit <;> simp [run, h, ih]

/-- A run says nothing when every rule that is asked accepts. -/
theorem run_eq_ok_nil_iff {bail : Bool} {field : String} {value? : Option Value} {tree : Value}
    {rules : List Rule} :
    run bail field value? tree rules = .ok [] ↔
      ∀ rule ∈ rules, value?.isSome = true ∨ rule.isImplicit = true →
        rule.apply field value? tree = .ok () := by
  induction rules with
  | nil => simp
  | cons rule rest ih =>
    rw [List.forall_mem_cons, ← ih]
    by_cases hasked : value?.isSome = true ∨ rule.isImplicit = true
    · have hrun : (value?.isNone && !rule.isImplicit) = false := by
        cases value? <;> simp_all
      rw [run, hrun, if_neg Bool.false_ne_true, imp_iff_right hasked]
      cases happly : rule.apply field value? tree with
      | ok => simp
      | error rejection =>
        cases rejection with
        | fault cause => simp
        | invalid failure =>
          cases bail <;> cases run _ field value? tree rest <;> simp [Except.map]
    · have hrun : (value?.isNone && !rule.isImplicit) = true := by
        cases value? <;> simp_all
      rw [run, hrun, if_pos rfl]
      exact (and_iff_right fun h => absurd h hasked).symm

end Chain

end Conform
