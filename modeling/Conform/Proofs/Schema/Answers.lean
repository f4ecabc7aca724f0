import Conform.Proofs.Schema.Findings

/-!
# The answers of a schema

A schema is validated by running chains and looking at the shapes of blocks. Each run answers by
itself: with messages, or with a fault. The collector puts the answers together: it fails with the
first fault among them, and otherwise it groups all messages by their fields.
-/

namespace Conform

/-- What one run says of its field: its messages, or the fault that ended it. -/
abbrev Answer := Except Fault (List String)

/-- The log of all messages in order, unless an answer is a fault: then the first one. -/
def Log.ofAnswers : List (String × Answer) → Except Fault Log
  | [] => .ok []
  | (field, answer) :: rest =>
    answer.bind fun texts => (ofAnswers rest).map (Log.ofField field texts ++ ·)

mutual

/-- The answers for one declared field of a tree that stands at `path`: that of its chain, or those
of the block that is declared for it. A block that does not fit the value answers that alone. -/
def Shape.answers (path : String) (tree : Value) (field : String) :
    Shape → List (String × Answer)
  | .rules chain =>
    [(Path.join path field, chain.messages (Path.join path field) (tree.resolve? field) tree)]
  | .nested nullable fields =>
    match tree.resolve? field with
    | some (.obj content) => Schema.answers (Path.join path field) (.obj content) fields
    | none | some .null => if nullable then [] else [(Path.join path field, .ok [notAnObject])]
    | some _ => [(Path.join path field, .ok [notAnObject])]
  | .each fields =>
    match tree.resolve? field with
    | some (.arr items) =>
      items.zipIdx.flatMap fun (item, i) =>
        Schema.answers (Path.join (Path.join path field) (toString i)) item fields
    | _ => [(Path.join path field, .ok [notAnArray])]
termination_by shape => (shape.depth, 0)
decreasing_by
  all_goals
    simp only [Shape.depth_nested, Shape.depth_each]
    exact Prod.Lex.left _ _ (Nat.lt_succ_self _)

/-- The answers for a tree that stands at `path`, in the order of the expanded declarations. -/
def Schema.answers (path : String) (tree : Value) (schema : Schema) : List (String × Answer) :=
  (schema.expand tree).entries.attach.flatMap fun e => e.1.2.answers path tree e.1.1
termination_by (Schema.depth schema, 1)
decreasing_by exact Schema.depth_lex_of_mem_expand e.2

end

theorem Schema.answers_eq (path : String) (tree : Value) (schema : Schema) :
    schema.answers path tree =
      (schema.expand tree).entries.flatMap fun e => e.2.answers path tree e.1 := by
  rw [Schema.answers]
  conv => rhs; rw [← List.attach_map_subtype_val (schema.expand tree).entries, List.flatMap_map]

namespace Log

theorem ofAnswers_singleton (field : String) (answer : Answer) :
    ofAnswers [(field, answer)] = answer.map (ofField field) := by
  cases answer <;> simp [ofAnswers, Except.bind, Except.map]

theorem ofAnswers_append (a b : List (String × Answer)) :
    ofAnswers (a ++ b) = (ofAnswers a).bind fun log => (ofAnswers b).map (log ++ ·) := by
  induction a with
  | nil => cases h : ofAnswers b <;> simp [ofAnswers, Except.bind, Except.map, h]
  | cons first rest ih =>
    obtain ⟨field, fault | texts⟩ := first
    · rfl
    · rw [List.cons_append, ofAnswers, ofAnswers, ih]
      cases ofAnswers rest <;> cases ofAnswers b <;> simp [Except.bind, Except.map]

/-- The messages of all runs in order. -/
def ofRuns (runs : List (String × List String)) : Log := runs.flatMap fun run => ofField run.1 run.2

theorem ofRuns_cons (run : String × List String) (runs : List (String × List String)) :
    ofRuns (run :: runs) = ofField run.1 run.2 ++ ofRuns runs := rfl

/-- There is a log just when all answers are messages; it holds them in order. -/
theorem ofAnswers_eq_ok_iff {answers : List (String × Answer)} {log : Log} :
    ofAnswers answers = .ok log ↔ ∃ runs : List (String × List String),
      answers = runs.map (fun run => (run.1, .ok run.2)) ∧ log = ofRuns runs := by
  induction answers generalizing log with
  | nil =>
    constructor
    · intro h
      cases h
      exact ⟨[], rfl, rfl⟩
    · rintro ⟨runs, hruns, rfl⟩
      rw [List.map_eq_nil_iff.mp hruns.symm]
      rfl
  | cons first rest ih =>
    obtain ⟨field, answer⟩ := first
    rw [ofAnswers]
    constructor
    · intro h
      cases answer with
      | error fault => cases h
      | ok texts =>
        cases hrest : ofAnswers rest with
        | error fault => rw [hrest] at h; cases h
        | ok others =>
          rw [hrest] at h
          cases h
          obtain ⟨runs, rfl, rfl⟩ := ih.mp hrest
          exact ⟨(field, texts) :: runs, rfl, rfl⟩
    · rintro ⟨runs, hruns, rfl⟩
      cases runs with
      | nil => simp at hruns
      | cons run runs =>
        rw [List.map_cons, List.cons.injEq, Prod.mk.injEq] at hruns
        obtain ⟨⟨rfl, rfl⟩, hrest⟩ := hruns
        rw [ih.mpr ⟨runs, hrest, rfl⟩]
        rfl

/-- Answers that say what objections say, piece by piece, say it all together. -/
theorem ofObjections_flatMap_eq_ofAnswers {α : Type} {f : α → List (String × Objection)}
    {g : α → List (String × Answer)} {xs : List α}
    (h : ∀ x ∈ xs, ofObjections (f x) = ofAnswers (g x)) :
    ofObjections (xs.flatMap f) = ofAnswers (xs.flatMap g) := by
  induction xs with
  | nil => rfl
  | cons x rest ih =>
    rw [List.flatMap_cons, List.flatMap_cons, ofObjections_append, ofAnswers_append,
      h x (List.mem_cons_self ..), ih fun y hy => h y (List.mem_cons_of_mem _ hy)]

end Log

-- By the recursion of the collector; only the answers of chains need an argument.
mutual

theorem Shape.ofObjections_findings (path : String) (tree : Value) (field : String) :
    (shape : Shape) → Log.ofObjections (shape.findings path tree field) =
      Log.ofAnswers (shape.answers path tree field)
  | .rules chain => by
    rw [Shape.findings, Shape.answers, Chain.ofObjections_objections, Log.ofAnswers_singleton]
  | .nested nullable fields => by
    rw [Shape.findings, Shape.answers]
    cases tree.resolve? field with
    | none => cases nullable <;> rfl
    | some value =>
      cases value with
      | obj content => exact Schema.ofObjections_findings _ _ fields
      | null => cases nullable <;> rfl
      | _ => rfl
  | .each fields => by
    rw [Shape.findings, Shape.answers]
    cases tree.resolve? field with
    | none => rfl
    | some value =>
      cases value with
      | arr items =>
        exact Log.ofObjections_flatMap_eq_ofAnswers fun (item, i) _ =>
          Schema.ofObjections_findings _ item fields
      | _ => rfl
termination_by shape => (shape.depth, 0)

theorem Schema.ofObjections_findings (path : String) (tree : Value) (schema : Schema) :
    Log.ofObjections (schema.findings path tree) = Log.ofAnswers (schema.answers path tree) := by
  rw [Schema.findings_eq, Schema.answers_eq]
  exact Log.ofObjections_flatMap_eq_ofAnswers fun e he =>
    Shape.ofObjections_findings path tree e.1 e.2
termination_by (Schema.depth schema, 1)
decreasing_by exact Schema.depth_lex_of_mem_expand he

end

/-- The collector fails with the first fault among the answers, and otherwise groups all messages by
their fields. -/
theorem Schema.collect_eq_answers (schema : Schema) (tree : Value) :
    schema.collect tree = (Log.ofAnswers (schema.answers "" tree)).map Log.toReport := by
  rw [collect_eq_findings, ofObjections_findings]

end Conform
