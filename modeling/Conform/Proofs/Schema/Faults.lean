import Conform.Proofs.Schema.Findings
import Conform.Proofs.Schema.Throughout

/-!
# Rules that never fault

Most rules only accept or refuse. Where all rules of a schema are of this kind, also those of its
blocks and those of chains that meet, the collector ends with a report for every tree.
-/

namespace Conform

/-- The rule accepts or refuses whatever it is shown, and never faults. -/
def Rule.NeverFaults (rule : Rule) : Prop :=
  ∀ path value? tree cause, rule.test path value? tree ≠ .error (.fault cause)

/-- No rule of the schema or of its blocks ever faults. -/
def Schema.NeverFaults (schema : Schema) : Prop :=
  schema.All (fun chain => ∀ rule ∈ chain.rules, rule.NeverFaults) fun _ => True

/-! ## Rules -/

theorem Rule.neverFaults_ofValue (name : String) (check : Value → Except Failure Unit) :
    (Rule.ofValue name check).NeverFaults := by
  intro path value? tree cause h
  cases value? with
  | none => cases h
  | some value => cases hcheck : check value <;> simp [ofValue, hcheck, Except.mapError] at h

theorem Rule.neverFaults_ofPredicate (name : String) (failure : Failure) (accepts : Value → Bool) :
    (Rule.ofPredicate name failure accepts).NeverFaults :=
  neverFaults_ofValue name _

theorem Rule.neverFaults_ofTest (name : String) (failure : Failure)
    (accepts : Option Value → Value → Bool) : (Rule.ofTest name failure accepts).NeverFaults := by
  intro path value? tree cause h
  cases haccepts : accepts value? tree <;> simp [ofTest, haccepts] at h

theorem Rule.NeverFaults.implicit {rule : Rule} (h : rule.NeverFaults) :
    rule.implicit.NeverFaults := h

theorem Rule.NeverFaults.exists_ok {rule : Rule} (h : rule.NeverFaults) {field : String}
    {value? : Option Value} {scope : Value} {objection : Objection}
    (ho : rule.objection? field value? scope = some objection) : ∃ text, objection = .ok text := by
  have htest := h field value? scope
  rw [objection?, apply] at ho
  cases hresult : rule.test field value? scope with
  | ok => cases hmessage : rule.message? <;> simp [hresult, hmessage] at ho
  | error rejection =>
    cases rejection with
    | fault cause => exact absurd hresult (htest cause)
    | invalid failure =>
      cases hmessage : rule.message? <;>
        exact ⟨_, (by simpa [hresult, hmessage] using ho.symm : objection = .ok _)⟩

theorem Chain.exists_ok_of_mem_objections {chain : Chain}
    (h : ∀ rule ∈ chain.rules, rule.NeverFaults) {field : String} {value? : Option Value}
    {scope : Value} {objection : Objection}
    (ho : objection ∈ chain.objections field value? scope) : ∃ text, objection = .ok text := by
  obtain ⟨rule, hrule, hobjection⟩ := exists_rule_of_mem_objections ho
  exact (h rule hrule).exists_ok hobjection

/-! ## Schemas -/

theorem Schema.NeverFaults.expand {schema : Schema} (h : schema.NeverFaults) (tree : Value) :
    (schema.expand tree).NeverFaults := by
  refine Schema.All.expand (fun first second hfirst hsecond rule hrule => ?_)
    (fun _ _ => trivial) h tree
  rcases List.mem_append.mp hrule with hrule | hrule
  · exact hfirst rule hrule
  · exact hsecond rule hrule

mutual

/-- Nothing but messages is found where no rule ever faults. -/
theorem Shape.exists_ok_of_mem_findings {finding : String × Objection} (path : String)
    (tree : Value) (field : String) : (shape : Shape) →
      shape.All (fun chain => ∀ rule ∈ chain.rules, rule.NeverFaults) (fun _ => True) →
      finding ∈ shape.findings path tree field → ∃ text, finding.2 = .ok text
  | .rules chain, .rules hchain, h => by
    rw [Shape.findings, Log.objectionsTo] at h
    obtain ⟨objection, hobjection, rfl⟩ := List.mem_map.mp h
    exact Chain.exists_ok_of_mem_objections hchain hobjection
  | .nested nullable fields, .nested _ hshapes, h => by
    rw [Shape.findings] at h
    split at h
    · exact Schema.exists_ok_of_mem_findings _ _ fields ⟨trivial, hshapes⟩ h
    all_goals exact ⟨notAnObject, by cases nullable <;> simp_all⟩
  | .each fields, .each _ hshapes, h => by
    rw [Shape.findings] at h
    split at h
    · obtain ⟨⟨item, i⟩, -, h⟩ := List.mem_flatMap.mp h
      exact Schema.exists_ok_of_mem_findings _ item fields ⟨trivial, hshapes⟩ h
    · exact ⟨notAnArray, by simp_all⟩
termination_by shape => (shape.depth, 0)

theorem Schema.exists_ok_of_mem_findings {finding : String × Objection} (path : String)
    (tree : Value) (schema : Schema) (hrules : schema.NeverFaults)
    (h : finding ∈ schema.findings path tree) : ∃ text, finding.2 = .ok text := by
  rw [Schema.findings_eq] at h
  obtain ⟨e, he, h⟩ := List.mem_flatMap.mp h
  have hshape := (hrules.expand tree).shapes e he
  exact Shape.exists_ok_of_mem_findings path tree e.1 e.2 hshape h
termination_by (Schema.depth schema, 1)
decreasing_by exact Schema.depth_lex_of_mem_expand he

end

/-- Where no rule ever faults there is a report, and its fields are those that something was found
out about. -/
theorem Schema.NeverFaults.exists_report {schema : Schema} (h : schema.NeverFaults)
    (tree : Value) : ∃ log : Log, schema.collect tree = .ok log.toReport ∧
      schema.findings "" tree = log.map fun e => (e.1, .ok e.2) := by
  obtain ⟨log, hlog⟩ := Log.exists_ofObjections_iff.mpr fun finding hfinding =>
    Schema.exists_ok_of_mem_findings "" tree schema h hfinding
  refine ⟨log, ?_, Log.ofObjections_eq_ok_iff.mp hlog⟩
  rw [Schema.collect_eq_findings, hlog]
  rfl

end Conform
