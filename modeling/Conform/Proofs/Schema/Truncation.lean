import Conform.Proofs.Schema.Answers
import Conform.Rule.Kind
import Mathlib

/-!
# Bail mode only truncates

A bail chain ends with its first failure. So when all chains are put into bail mode, each of them
gives the first of its messages alone, and may stop before a rule that would fault. Nothing else in
a report changes: the same fields fail in the same order, each with the same first message.
-/

namespace Conform

/-! ## Schemas in bail mode -/

/-- The chain in bail mode. -/
def Chain.bailing (chain : Chain) : Chain := { chain with bail := true }

/-- The shape with every chain in it in bail mode. -/
def Shape.bailing : Shape → Shape
  | .rules chain => .rules chain.bailing
  | .nested nullable fields => .nested nullable ⟨fields.entries.map fun e => (e.1, e.2.bailing)⟩
  | .each fields => .each ⟨fields.entries.map fun e => (e.1, e.2.bailing)⟩
decreasing_by
  all_goals
    have := OrderedMap.sizeOf_lt_of_mem ‹_ ∈ OrderedMap.entries _›
    simp_wf
    omega

/-- The schema with every chain at every depth in bail mode. -/
def Schema.bailing (schema : Schema) : Schema := schema.map Shape.bailing

@[simp] theorem Shape.bailing_rules (chain : Chain) :
    (Shape.rules chain).bailing = .rules chain.bailing := by
  rw [bailing]

@[simp] theorem Shape.bailing_nested (nullable : Bool) (fields : Schema) :
    (Shape.nested nullable fields).bailing = .nested nullable fields.bailing := by
  rw [bailing]
  rfl

@[simp] theorem Shape.bailing_each (fields : Schema) :
    (Shape.each fields).bailing = .each fields.bailing := by
  rw [bailing]
  rfl

/-- Chains in bail mode meet in the chain in bail mode. -/
theorem Shape.bailing_merge (first second : Shape) :
    (first.merge second).bailing = first.bailing.merge second.bailing := by
  cases first <;> cases second <;> simp [merge, Chain.bailing, Chain.append_eq]

/-- Patterns expand in the same way in bail mode. -/
theorem Schema.expand_bailing (schema : Schema) (tree : Value) :
    schema.bailing.expand tree = (schema.expand tree).bailing := by
  have hconcrete : schema.bailing.concrete tree =
      (schema.concrete tree).map fun e => (e.1, e.2.bailing) := by
    simp only [concrete, bailing, OrderedMap.map, List.flatMap_map, List.map_flatMap, List.map_map,
      Function.comp_def]
  rw [expand, hconcrete, ← OrderedMap.map_insertAllWith Shape.bailing_merge]
  rfl

/-! ## Answers cut short -/

/-- The answer cut after its first message. A fault behind that message is not met any more. -/
def Answer.CutsTo (answer cut : Answer) : Prop :=
  (∀ texts, answer = .ok texts → cut = .ok (texts.take 1)) ∧
    ∀ fault, cut = .error fault → answer = .error fault

theorem Answer.cutsTo_single (text : String) : Answer.CutsTo (.ok [text]) (.ok [text]) :=
  ⟨fun _ h => by cases h; rfl, fun _ h => by cases h⟩

theorem Chain.run_cutsTo (bail : Bool) (field : String) (value? : Option Value) (tree : Value)
    (rules : List Rule) :
    Answer.CutsTo (run bail field value? tree rules) (run true field value? tree rules) := by
  induction rules with
  | nil => exact ⟨fun _ h => by cases h; rfl, fun _ h => by cases h⟩
  | cons rule rest ih =>
    rw [run, run]
    split
    · exact ih
    · cases rule.apply field value? tree with
      | ok => exact ih
      | error rejection =>
        cases rejection with
        | fault cause => exact ⟨fun _ h => (by cases h), fun _ h => h⟩
        | invalid failure =>
          cases bail with
          | true => exact Answer.cutsTo_single failure.message
          | false =>
            refine ⟨fun texts h => ?_, fun _ h => by cases h⟩
            cases hrest : run false field value? tree rest with
            | error fault => simp [hrest, Except.map] at h
            | ok others =>
              simp only [hrest, Except.map, Bool.false_eq_true, if_false, Except.ok.injEq] at h
              rw [← h]
              rfl

theorem Chain.messages_cutsTo (chain : Chain) (field : String) (value? : Option Value)
    (tree : Value) :
    Answer.CutsTo (chain.messages field value? tree) (chain.bailing.messages field value? tree) :=
  run_cutsTo chain.bail field (chain.view value?) tree chain.rules

/-- Answers for the same fields one by one, each cut after its first message. -/
def Answer.AllCut : List (String × Answer) → List (String × Answer) → Prop :=
  List.Forall₂ fun a b => a.1 = b.1 ∧ a.2.CutsTo b.2

theorem Answer.AllCut.single (field text : String) :
    Answer.AllCut [(field, .ok [text])] [(field, .ok [text])] :=
  .cons ⟨rfl, Answer.cutsTo_single text⟩ .nil

theorem Answer.AllCut.unless (accepted : Bool) (field text : String) :
    Answer.AllCut (if accepted then [] else [(field, .ok [text])])
      (if accepted then [] else [(field, .ok [text])]) := by
  cases accepted with
  | true => exact .nil
  | false => exact Answer.AllCut.single field text

theorem Answer.AllCut.flatMap {α : Type} {f g : α → List (String × Answer)} {xs : List α}
    (h : ∀ x ∈ xs, Answer.AllCut (f x) (g x)) :
    Answer.AllCut (xs.flatMap f) (xs.flatMap g) := by
  induction xs with
  | nil => exact .nil
  | cons x rest ih =>
    have hx := h x (List.mem_cons_self ..)
    have hrest := ih fun y hy => h y (List.mem_cons_of_mem _ hy)
    exact List.rel_append hx hrest

-- By the recursion of `answers`. The expansion is the same on both sides, and the shapes of values
-- are looked at in the same way, so only the runs of chains differ.
mutual

theorem Shape.allCut_answers (path : String) (tree : Value) (field : String) :
    (shape : Shape) →
      Answer.AllCut (shape.answers path tree field) (shape.bailing.answers path tree field)
  | .rules chain => by
    rw [Shape.bailing_rules, Shape.answers, Shape.answers]
    exact .cons ⟨rfl, chain.messages_cutsTo _ _ _⟩ .nil
  | .nested nullable fields => by
    rw [Shape.bailing_nested, Shape.answers, Shape.answers]
    cases tree.resolve? field with
    | none => exact Answer.AllCut.unless nullable _ _
    | some value =>
      cases value with
      | obj content => exact Schema.allCut_answers _ _ fields
      | null => exact Answer.AllCut.unless nullable _ _
      | _ => exact Answer.AllCut.single _ _
  | .each fields => by
    rw [Shape.bailing_each, Shape.answers, Shape.answers]
    cases tree.resolve? field with
    | none => exact Answer.AllCut.single _ _
    | some value =>
      cases value with
      | arr items =>
        exact Answer.AllCut.flatMap fun (item, i) _ => Schema.allCut_answers _ item fields
      | _ => exact Answer.AllCut.single _ _
termination_by shape => (shape.depth, 0)

theorem Schema.allCut_answers (path : String) (tree : Value) (schema : Schema) :
    Answer.AllCut (schema.answers path tree) (schema.bailing.answers path tree) := by
  rw [Schema.answers_eq, Schema.answers_eq, Schema.expand_bailing, Schema.bailing, OrderedMap.map,
    List.flatMap_map]
  exact Answer.AllCut.flatMap fun e he => Shape.allCut_answers path tree e.1 e.2
termination_by (Schema.depth schema, 1)
decreasing_by exact Schema.depth_lex_of_mem_expand he

end

/-- Runs that give messages give the first of them each, cut short. -/
theorem Answer.AllCut.eq_take {runs : List (String × List String)} {cut : List (String × Answer)}
    (h : Answer.AllCut (runs.map fun run => (run.1, .ok run.2)) cut) :
    cut = runs.map fun run => (run.1, .ok (run.2.take 1)) := by
  induction runs generalizing cut with
  | nil => exact List.forall₂_nil_left_iff.mp h
  | cons run rest ih =>
    obtain ⟨⟨field, answer⟩, others, ⟨hfield, hcut⟩, hrest, rfl⟩ := List.forall₂_cons_left_iff.mp h
    rw [ih hrest, List.map_cons, ← hcut.1 run.2 rfl]
    exact congrArg (fun name => (name, answer) :: _) hfield.symm

/-- A fault that is met in spite of the cuts is there without them, perhaps behind another one. -/
theorem Answer.AllCut.exists_fault {answers cut : List (String × Answer)}
    (h : Answer.AllCut answers cut) {fault : Fault} (hfault : Log.ofAnswers cut = .error fault) :
    ∃ first, Log.ofAnswers answers = .error first := by
  cases hlog : Log.ofAnswers answers with
  | error first => exact ⟨first, rfl⟩
  | ok log =>
    obtain ⟨runs, rfl, -⟩ := Log.ofAnswers_eq_ok_iff.mp hlog
    have hok : Log.ofAnswers cut = .ok (Log.ofRuns (runs.map fun run => (run.1, run.2.take 1))) :=
      Log.ofAnswers_eq_ok_iff.mpr ⟨_, by rw [h.eq_take, List.map_map]; rfl, rfl⟩
    cases hfault.symm.trans hok

/-! ## Reports cut short -/

/-- The runs, each with the first of its messages alone. -/
def firstMessages (runs : List (String × List String)) : List (String × List String) :=
  runs.map fun run => (run.1, run.2.take 1)

namespace Log

theorem fields_firstMessages (runs : List (String × List String)) :
    fields (ofRuns (firstMessages runs)) = fields (ofRuns runs) := by
  induction runs with
  | nil => rfl
  | cons run rest ih =>
    have hrun : fields (ofField run.1 (run.2.take 1)) = fields (ofField run.1 run.2) := by
      cases h : run.2 with
      | nil => rfl
      | cons text others => rw [fields_ofField (by simp), fields_ofField (by simp)]
    rw [firstMessages, List.map_cons, ofRuns_cons, ofRuns_cons, fields_append, fields_append, hrun]
    exact congrArg _ (congrArg _ ih)

theorem messages_firstMessages_sublist (runs : List (String × List String)) (field : String) :
    (messages (ofRuns (firstMessages runs)) field).Sublist (messages (ofRuns runs) field) := by
  induction runs with
  | nil => exact .slnil
  | cons run rest ih =>
    have hrun : (ofField run.1 (run.2.take 1)).Sublist (ofField run.1 run.2) :=
      (List.take_sublist 1 run.2).map _
    rw [firstMessages, List.map_cons, ofRuns_cons, ofRuns_cons, messages_append, messages_append]
    exact ((hrun.filter _).map _).append ih

theorem head?_messages_firstMessages (runs : List (String × List String)) (field : String) :
    (messages (ofRuns (firstMessages runs)) field).head? =
      (messages (ofRuns runs) field).head? := by
  induction runs with
  | nil => rfl
  | cons run rest ih =>
    have hrun : (messages (ofField run.1 (run.2.take 1)) field).head? =
        (messages (ofField run.1 run.2) field).head? := by
      by_cases h : run.1 = field
      · rw [h, messages_ofField_self, messages_ofField_self]
        cases run.2 <;> rfl
      · rw [messages_ofField_of_ne h, messages_ofField_of_ne h]
    rw [firstMessages, List.map_cons, ofRuns_cons, ofRuns_cons, messages_append, messages_append,
      List.head?_append, List.head?_append, hrun]
    exact congrArg _ ih

end Log

/-- The cut report has the same fields in the same order. Of each it keeps the first message and, in
their order, some of the others. -/
structure Report.TruncatesTo (report cut : Report) : Prop where
  keys : cut.fields.keys = report.fields.keys
  kept : ∀ field texts, report.get? field = some texts →
    ∃ kept, cut.get? field = some kept ∧ kept.head? = texts.head? ∧ kept.Sublist texts

theorem Log.truncatesTo_firstMessages (runs : List (String × List String)) :
    (ofRuns runs).toReport.TruncatesTo (ofRuns (firstMessages runs)).toReport where
  keys := by rw [keys_toReport, keys_toReport, fields_firstMessages]
  kept := by
    intro field texts htexts
    rw [get?_toReport] at htexts
    split at htexts
    · cases htexts
    · rename_i hsome
      cases htexts
      have hfield := messages_ne_nil_iff.mp hsome
      rw [← fields_firstMessages] at hfield
      refine ⟨_, ?_, head?_messages_firstMessages runs field,
        messages_firstMessages_sublist runs field⟩
      rw [get?_toReport, if_neg (messages_ne_nil_iff.mpr hfield)]

/-- Bail mode only truncates. Where the schema gives a report, it also does so in bail mode: the
runs answer for the same fields, each with the first of its messages, and so the same fields fail in
the same order, each with the same first message and with no message that it did not have. A fault
in bail mode is not one of bail mode alone. -/
theorem Schema.collect_bailing (schema : Schema) (tree : Value) :
    (∀ report, schema.collect tree = .ok report → ∃ cut runs,
      schema.bailing.collect tree = .ok cut ∧ report.TruncatesTo cut ∧
      schema.answers "" tree = runs.map (fun run => (run.1, .ok run.2)) ∧
      schema.bailing.answers "" tree = (firstMessages runs).map (fun run => (run.1, .ok run.2)) ∧
      report = (Log.ofRuns runs).toReport ∧ cut = (Log.ofRuns (firstMessages runs)).toReport) ∧
    ∀ fault, schema.bailing.collect tree = .error fault →
      ∃ first, schema.collect tree = .error first := by
  have hcut := Schema.allCut_answers "" tree schema
  simp only [collect_eq_answers]
  refine ⟨fun report hreport => ?_, fun fault hfault => ?_⟩
  · cases hlog : Log.ofAnswers (schema.answers "" tree) with
    | error first => rw [hlog] at hreport; cases hreport
    | ok log =>
      rw [hlog] at hreport
      cases hreport
      obtain ⟨runs, hruns, rfl⟩ := Log.ofAnswers_eq_ok_iff.mp hlog
      have hfirst : schema.bailing.answers "" tree =
          (firstMessages runs).map (fun run => (run.1, .ok run.2)) := by
        rw [firstMessages, List.map_map]
        exact (hruns ▸ hcut).eq_take
      have hcutLog := Log.ofAnswers_eq_ok_iff.mpr ⟨firstMessages runs, hfirst, rfl⟩
      exact ⟨_, runs, by rw [hcutLog]; rfl, Log.truncatesTo_firstMessages runs, hruns, hfirst,
        rfl, rfl⟩
  · cases hlog : Log.ofAnswers (schema.bailing.answers "" tree) with
    | ok log => rw [hlog] at hfault; cases hfault
    | error cause =>
      obtain ⟨first, hfirst⟩ := hcut.exists_fault hlog
      exact ⟨first, by rw [hfirst]; rfl⟩

theorem Schema.collect_bailing_of_overlap :
    ∃ (schema faulty : Schema) (tree : Value) (report cut : Report) (first : Fault),
      report = .ofList [("rows.0", ["This field must be a string.",
        "This field must be an integer.", "This field must be an array."])] ∧
      cut = .ofList [("rows.0", ["This field must be a string."])] ∧
      schema.collect tree = .ok report ∧ schema.bailing.collect tree = .ok cut ∧
      report.TruncatesTo cut ∧
      faulty.bailing.collect tree = .error ⟨"rows.0", "probe", "no answer"⟩ ∧
      faulty.collect tree = .error first := by
  let schema : Schema := ⟨[("rows.*", .rules { rules := [.string, .integer] }),
    ("rows.0", .rules { rules := [.array] })]⟩
  let probe : Rule := { name := "probe", test := fun _ _ _ => .error (.fault "no answer") }
  let faulty : Schema := ⟨[("rows.*", .rules { rules := [probe, .string] })]⟩
  let tree : Value := .obj [("rows", .arr [.null])]
  have hreport : schema.collect tree = .ok (.ofList [("rows.0", ["This field must be a string.",
      "This field must be an integer.", "This field must be an array."])]) := by cbv
  have hbailing : schema.bailing.collect tree =
      .ok (.ofList [("rows.0", ["This field must be a string."])]) := by cbv
  have hfault : faulty.bailing.collect tree = .error ⟨"rows.0", "probe", "no answer"⟩ := by cbv
  obtain ⟨cut, -, hcut, htruncates, -⟩ := (Schema.collect_bailing _ _).1 _ hreport
  obtain ⟨first, hfirst⟩ := (Schema.collect_bailing _ _).2 _ hfault
  exact ⟨schema, faulty, tree, _, cut, first, rfl, Except.ok.inj (hcut.symm.trans hbailing),
    hreport, hcut, htruncates, hfault, hfirst⟩

end Conform
