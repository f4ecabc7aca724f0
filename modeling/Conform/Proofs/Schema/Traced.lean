import Conform.Proofs.Spec.Builtin
import Conform.Proofs.Spec.Compilation
import Conform.Proofs.Validation
import Mathlib

/-!
# Schemas of built-in rules

Where all chains were compiled from specifications against the built-in registry, validation never
ends with a fault, and every message of a report can be traced to what was declared: to a block, to
strict mode, or to a token of a specification for a path that the field is an instance of.
-/

namespace Conform

/-- A token of the specification makes a rule that has the text as its message for the field, of
what the tree holds there. The rule has the name of the token or the one that this is an alias
of. -/
def Registry.Tells (spec : String) (tree : Value) (field text : String) : Prop :=
  ∃ tokens, Token.parseSpec spec = .ok tokens ∧ ∃ token ∈ tokens, ∃ rule,
    builtin.construct token = .ok rule ∧ rule.name = builtinName token.name ∧
      rule.ObjectsTo tree field (.ok text)

namespace Schema

/-- All chains of the schema and of its blocks were compiled from specifications against the
built-in registry. -/
def IsSpecified (schema : Schema) : Prop :=
  schema.All (fun chain => ∃ spec, Registry.builtin.compile spec = .ok chain) fun _ => True

/-- What the schema has to do with a text that is reported for a field. The field is an instance of
the path of a block or of a chain, or it is unknown. A chain has a rule that says the text of
what the tree holds at the field, whichever specification it was compiled from. -/
inductive Explains (schema : Schema) (options : Options) (tree : Value) (field : String) :
    String → Prop where
  | object {declared : List String} {nullable : Bool} {fields : Schema} :
      schema.DeclaresAt declared (.nested nullable fields) →
      List.Forall₂ Path.StandsFor declared (Path.segments field) →
      Explains schema options tree field notAnObject
  | list {declared : List String} {fields : Schema} :
      schema.DeclaresAt declared (.each fields) →
      List.Forall₂ Path.StandsFor declared (Path.segments field) →
      Explains schema options tree field notAnArray
  | unknown : options.strict = true → field ∈ (schema.undeclared tree).fields.keys →
      Explains schema options tree field unknownField
  | rule {declared : List String} {chain : Chain} {text : String} :
      schema.DeclaresAt declared (.rules chain) →
      List.Forall₂ Path.StandsFor declared (Path.segments field) →
      (∃ spec, Registry.builtin.compile spec = .ok chain) →
      (∀ spec, Registry.builtin.compile spec = .ok chain → Registry.Tells spec tree field text) →
      Explains schema options tree field text

/-- The tree is accepted, or it is refused with a report whose messages are all explained. In no
case does a rule fault. -/
def ExplainsOutcome (schema : Schema) (options : Options) (tree : Value) : Prop :=
  validate schema options tree = .ok () ∨
    ∃ report, validate schema options tree = .error (.invalid report) ∧
      ∀ field texts, report.get? field = some texts →
        ∀ text ∈ texts, schema.Explains options tree field text

variable {schema : Schema} {options : Options} {tree : Value}

/-! ## No faults -/

theorem IsSpecified.neverFaults (h : schema.IsSpecified) : schema.NeverFaults := by
  refine Schema.All.imp h fun chain hchain rule hrule => ?_
  obtain ⟨spec, hspec⟩ := hchain
  obtain ⟨-, -, token, -, hconstruct⟩ := Registry.exists_token_of_mem_rules hspec hrule
  exact (Registry.makesSafely_of_construct hconstruct).1

theorem NeverFaults.exists_collectWith (h : schema.NeverFaults) (options : Options)
    (tree : Value) : ∃ report, schema.collectWith options tree = .ok report := by
  obtain ⟨log, hcollect, -⟩ := h.exists_report tree
  rw [collectWith, hcollect]
  split
  · dsimp only
    split
    · exact ⟨_, rfl⟩
    · exact ⟨_, rfl⟩
  · exact ⟨_, rfl⟩

/-! ## Explanations -/

/-- A message that was found is explained by the declaration that it goes back to. -/
theorem IsSpecified.explains_of_mem_findings (h : schema.IsSpecified) (hd : schema.IsDeclarable)
    {field text : String} (hfinding : (field, .ok text) ∈ schema.findings "" tree) :
    schema.Explains options tree field text := by
  obtain ⟨declared, inner, hdeclares, hstands, hraises⟩ :=
    exists_origin_of_mem_findings hd hfinding
  cases hraises with
  | object nullable fields htext =>
    cases htext
    exact .object hdeclares hstands
  | list fields htext =>
    cases htext
    exact .list hdeclares hstands
  | rule hrule hobjection =>
    refine .rule hdeclares hstands (Schema.All.of_declaresAt h hdeclares) fun spec hspec => ?_
    obtain ⟨tokens, htokens, token, htoken, hconstruct⟩ :=
      Registry.exists_token_of_mem_rules hspec hrule
    have hname := (Registry.makesSafely_of_construct hconstruct).2
    exact ⟨tokens, htokens, token, htoken, _, hconstruct, hname, hobjection⟩

/-- Validation against built-in rules never faults, whatever the tree and the options, and every
message of a report is explained by what was declared for the field. -/
theorem explainsOutcome_of_isSpecified (schema : Schema) (hd : schema.IsDeclarable)
    (h : schema.IsSpecified) (options : Options) (tree : Value) :
    schema.ExplainsOutcome options tree := by
  obtain ⟨report, hreport⟩ := h.neverFaults.exists_collectWith options tree
  rw [ExplainsOutcome, validate_of_collectWith hreport]
  split
  · exact .inl rfl
  · refine .inr ⟨report, rfl, fun field texts hfield text htext => ?_⟩
    obtain ⟨log, rfl, hlog⟩ := exists_log_of_collectWith hreport
    have hmem : (field, text) ∈ log := Log.mem_of_get?_toReport hfield htext
    rcases hlog _ hmem with hfound | ⟨hstrict, hunknown, hmessage⟩
    · exact h.explains_of_mem_findings hd hfound
    · have htext : text = unknownField := hmessage
      exact htext ▸ .unknown hstrict hunknown

theorem explainsOutcome_of_isSpecified_of_overlap :
    ∃ (schema : Schema) (tree : Value), schema.IsDeclarable ∧ schema.IsSpecified ∧
      schema.collect tree = .ok (.ofList [("rows.0.id", ["This field must be one of: 1, 2."]),
        ("user", [notAnObject]), ("tags", [notAnArray])]) ∧
      ∀ options, schema.ExplainsOutcome options tree := by
  let pattern : Chain := { rules := [.required, .inList ["1", "2"]], bail := true }
  let index : Chain := { rules := [.integer], nullable := true }
  let name : Chain := { rules := [.string] }
  let schema : Schema := ⟨[("rows.*.id", .rules pattern), ("rows.0.id", .rules index),
    ("user", .nested false ⟨[("name", .rules name)]⟩), ("tags", .each ⟨[("*", .rules name)]⟩)]⟩
  have hpattern : Registry.builtin.compile "required|bail|in:1,2" = .ok pattern := rfl
  have hindex : Registry.builtin.compile "nullable|integer" = .ok index := rfl
  have hname : Registry.builtin.compile "string" = .ok name := rfl
  have hspecified : schema.IsSpecified := by
    refine ⟨trivial, ?_⟩
    simp only [schema, List.forall_mem_cons]
    exact ⟨.rules ⟨_, hpattern⟩, .rules ⟨_, hindex⟩,
      .nested trivial (by simpa using .rules ⟨_, hname⟩),
      .each trivial (by simpa using .rules ⟨_, hname⟩), by simp⟩
  have hdeclarable : schema.IsDeclarable := by
    refine ⟨by decide, ?_⟩
    simp only [schema, List.forall_mem_cons]
    exact ⟨.rules _, .rules _, .nested (by decide) (by simpa using .rules _),
      .each (by decide) (by simpa using .rules _), by simp⟩
  let tree : Value := .obj [("rows", .arr [.obj [("id", .num (.int 3))]]), ("user", .null)]
  exact ⟨schema, tree, hdeclarable, hspecified, by cbv, fun options =>
    explainsOutcome_of_isSpecified schema hdeclarable hspecified options tree⟩

end Schema

end Conform
