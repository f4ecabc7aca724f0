import Conform.Proofs.Schema.Checks

/-!
# What the collector finds

The collector records messages under paths inside a block and renames them on the way out of it.
What it finds can also be listed flat: messages and faults in the order in which they arise, with
full paths. The list depends on the tree of a block and on the path of the block, and no longer on
the blocks around it.
-/

namespace Conform

namespace Log

theorem ofObjections_append (a b : List (String × Objection)) :
    ofObjections (a ++ b) =
      (ofObjections a).bind fun log => (ofObjections b).map (log ++ ·) := by
  induction a with
  | nil => cases h : ofObjections b <;> simp [ofObjections, Except.bind, Except.map, h]
  | cons first rest ih =>
    obtain ⟨field, message | fault⟩ := first
    · rfl
    · rw [List.cons_append, ofObjections, ofObjections, ih]
      cases ofObjections rest <;> cases ofObjections b <;> rfl

/-- There is a log just when there is no fault; it holds all the messages. -/
theorem ofObjections_eq_ok_iff {objections : List (String × Objection)} {log : Log} :
    ofObjections objections = .ok log ↔ objections = log.map fun e => (e.1, .ok e.2) := by
  induction objections generalizing log with
  | nil => cases log <;> simp [ofObjections]
  | cons first rest ih =>
    obtain ⟨field, fault | message⟩ := first
    · cases log <;> simp [ofObjections]
    · cases log with
      | nil => cases h : ofObjections rest <;> simp [ofObjections, h, Except.map]
      | cons e others =>
        rw [List.map_cons, List.cons.injEq, ← ih, ofObjections]
        cases h : ofObjections rest <;> simp [Except.map, Prod.ext_iff, and_assoc]

/-- There is a log when no objection is a fault. -/
theorem exists_ofObjections_iff {objections : List (String × Objection)} :
    (∃ log, ofObjections objections = .ok log) ↔ ∀ e ∈ objections, ∃ text, e.2 = .ok text := by
  constructor
  · rintro ⟨log, hlog⟩ e he
    rw [ofObjections_eq_ok_iff.mp hlog] at he
    obtain ⟨entry, -, rfl⟩ := List.mem_map.mp he
    exact ⟨entry.2, rfl⟩
  · intro h
    induction objections with
    | nil => exact ⟨[], rfl⟩
    | cons e rest ih =>
      obtain ⟨log, hlog⟩ := ih fun x hx => h x (List.mem_cons_of_mem _ hx)
      obtain ⟨field, objection⟩ := e
      obtain ⟨text, rfl⟩ := h _ (List.mem_cons_self ..)
      exact ⟨(field, text) :: log, by rw [ofObjections, hlog]; rfl⟩

/-- The same objections to fields with other names. -/
def renameObjections (name : String → String) (objections : List (String × Objection)) :
    List (String × Objection) :=
  objections.map fun e => (name e.1, e.2)

theorem ofObjections_rename (name : String → String) (objections : List (String × Objection)) :
    ofObjections (renameObjections name objections) =
      (ofObjections objections).map (rename name) := by
  induction objections with
  | nil => rfl
  | cons first rest ih =>
    obtain ⟨field, fault | message⟩ := first
    · rfl
    · rw [renameObjections, List.map_cons, ofObjections, ofObjections, ← renameObjections, ih]
      cases ofObjections rest <;> rfl

/-- A list of objections to one field. -/
def objectionsTo (field : String) (objections : List Objection) : List (String × Objection) :=
  objections.map (field, ·)

end Log

/-! ## Chains -/

namespace Chain

theorem view_eq_filter (chain : Chain) (value? : Option Value) :
    chain.view value? = value?.filter fun value => !(chain.nullable && value.isNull) := by
  cases value? with
  | none => rfl
  | some value =>
    rw [Option.filter_some]
    cases value <;> cases h : chain.nullable <;> simp [view, Value.isNull, h]

/-- The rules of a chain see the value itself, or nothing where it is `null`. -/
theorem view_eq_or (chain : Chain) (value? : Option Value) :
    chain.view value? = value? ∨ value? = some .null ∧ chain.view value? = none := by
  cases value? with
  | none => exact .inl rfl
  | some value =>
    cases value with
    | null => cases h : chain.nullable <;> simp [view, h]
    | _ => exact .inl rfl

/-- The objections of some rules, in a bail chain cut after the first. -/
def objectionsOf (bail : Bool) (field : String) (value? : Option Value) (scope : Value)
    (rules : List Rule) : List Objection :=
  let asked := rules.filter fun rule => value?.isSome || rule.isImplicit
  let all := asked.filterMap fun rule => rule.objection? field value? scope
  if bail then all.take 1 else all

/-- Whatever a chain objects, one of its rules does. -/
theorem exists_rule_of_mem_objections {chain : Chain} {field : String} {value? : Option Value}
    {scope : Value} {objection : Objection}
    (h : objection ∈ chain.objections field value? scope) :
    ∃ rule ∈ chain.rules,
      rule.objection? field (chain.view value?) scope = some objection := by
  have hall : ∀ {objections : List Objection}, objection ∈
      (if chain.bail then objections.take 1 else objections) → objection ∈ objections := by
    intro objections hmem
    split at hmem
    · exact List.mem_of_mem_take hmem
    · exact hmem
  obtain ⟨rule, hrule, hobjection⟩ := List.mem_filterMap.mp (hall h)
  rw [← view_eq_filter] at hobjection
  exact ⟨rule, (List.mem_filter.mp hrule).1, hobjection⟩

theorem ofObjections_objectionsOf (bail : Bool) (name field : String) (value? : Option Value)
    (scope : Value) (rules : List Rule) :
    Log.ofObjections (Log.objectionsTo name (objectionsOf bail field value? scope rules)) =
      (run bail field value? scope rules).map (Log.ofField name) := by
  induction rules with
  | nil => cases bail <;> rfl
  | cons rule rest ih =>
    by_cases hskip : value?.isSome || rule.isImplicit
    · have hrun : (value?.isNone && !rule.isImplicit) = false := by
        cases value? <;> simp_all
      unfold run
      rw [hrun]
      simp only [objectionsOf, List.filter_cons, hskip, if_true, List.filterMap_cons,
        Bool.false_eq_true, if_false]
      cases hrule : rule.apply field value? scope with
      | ok =>
        have hnone : rule.objection? field value? scope = none := by
          rw [Rule.objection?, hrule]
        rw [hnone]
        exact ih
      | error rejection =>
        cases rejection with
        | fault cause =>
          have hfault : rule.objection? field value? scope =
              some (.error ⟨field, rule.name, cause⟩) := by
            rw [Rule.objection?, hrule]
          rw [hfault]
          cases bail <;> rfl
        | invalid failure =>
          have hmessage : rule.objection? field value? scope = some (.ok failure.message) := by
            rw [Rule.objection?, hrule]
          rw [hmessage]
          cases bail with
          | true => rfl
          | false =>
            simp only [objectionsOf, Bool.false_eq_true, if_false] at ih
            simp only [Bool.false_eq_true, if_false, Log.objectionsTo, List.map_cons,
              Log.ofObjections]
            rw [← Log.objectionsTo, ih]
            cases run false field value? scope rest <;> rfl
    · have hrun : (value?.isNone && !rule.isImplicit) = true := by
        cases value? <;> simp_all
      unfold run
      rw [hrun, if_pos rfl, ← ih]
      simp [objectionsOf, hskip]

/-- The messages of a chain are its objections, up to the first fault. -/
theorem ofObjections_objections (chain : Chain) (name field : String) (value? : Option Value)
    (scope : Value) :
    Log.ofObjections (Log.objectionsTo name (chain.objections field value? scope)) =
      (chain.messages field value? scope).map (Log.ofField name) := by
  rw [messages, ← ofObjections_objectionsOf, view_eq_filter]
  rfl

end Chain

/-! ## Blocks -/

/-- The outcome of the collector in the block at a path says what the objections say. They name
fields from the root, and the report names them from the block. -/
def Reports (path : String) (outcome : Except Fault Report)
    (objections : List (String × Objection)) : Prop :=
  ∃ inner, objections = Log.renameObjections (Path.join path) inner ∧
    outcome = (Log.ofObjections inner).map Log.toReport

/-- A step of the collector in the block at a path adds to the report what the objections say. -/
def Contributes (path : String) (step : Report → Except Fault Report)
    (objections : List (String × Objection)) : Prop :=
  ∃ inner, objections = Log.renameObjections (Path.join path) inner ∧
    ∀ log : Log, step log.toReport =
      (Log.ofObjections inner).map fun more => Log.toReport (log ++ more)

theorem Contributes.reports {path : String} {step : Report → Except Fault Report}
    {objections : List (String × Objection)} (h : Contributes path step objections) :
    Reports path (step ∅) objections := by
  obtain ⟨inner, hinner, hstep⟩ := h
  exact ⟨inner, hinner, hstep []⟩

/-- Steps one after another contribute their objections one after another. -/
theorem Contributes.foldlM {path : String} {α : Type} {f : Report → α → Except Fault Report}
    {g : α → List (String × Objection)} {xs : List α}
    (h : ∀ x ∈ xs, Contributes path (f · x) (g x)) :
    Contributes path (xs.foldlM f ·) (xs.flatMap g) := by
  induction xs with
  | nil => exact ⟨[], rfl, fun log => by simp [Log.ofObjections, Except.map, pure, Except.pure]⟩
  | cons x rest ih =>
    obtain ⟨first, hfirst, hstep⟩ := h x (by simp)
    obtain ⟨others, hothers, hrest⟩ := ih fun y hy => h y (by simp [hy])
    refine ⟨first ++ others, ?_, fun log => ?_⟩
    · simp only [List.flatMap_cons, hfirst, hothers, Log.renameObjections, List.map_append]
    · simp only [List.foldlM_cons, Log.ofObjections_append] at hstep hrest ⊢
      rw [hstep log]
      cases Log.ofObjections first with
      | error fault => rfl
      | ok more =>
        have htail := hrest (log ++ more)
        simp only [Except.map, Except.bind, bind] at htail ⊢
        rw [htail]
        cases Log.ofObjections others <;> simp

namespace Contributes

/-- A step that records messages for one field of the block. -/
theorem extend (path field : String) {objections : List Objection}
    {messages : Except Fault (List String)}
    (h : Log.ofObjections (Log.objectionsTo field objections) =
      messages.map (Log.ofField field)) :
    Contributes path (fun report => messages.map (report.extend field))
      (Log.objectionsTo (Path.join path field) objections) := by
  refine ⟨Log.objectionsTo field objections,
    by simp [Log.objectionsTo, Log.renameObjections], fun log => ?_⟩
  rw [h]
  cases messages <;> simp [Except.map, Log.extend_toReport]

/-- A step that records one message for one field of the block. -/
theorem refused (path field message : String) :
    Contributes path (fun report => .ok (report.add field message))
      (Log.objectionsTo (Path.join path field) [.ok message]) := by
  have hmessages : Log.ofObjections (Log.objectionsTo field [.ok message]) =
      (Except.ok [message] : Except Fault (List String)).map (Log.ofField field) := rfl
  exact extend path field hmessages

theorem accepted (path : String) : Contributes path .ok [] :=
  ⟨[], rfl, fun log => by simp [Log.ofObjections, Except.map]⟩

end Contributes

namespace Reports

variable {path : String} {outcome : Except Fault Report} {objections : List (String × Objection)}

theorem merge (h : Reports path outcome objections) :
    Contributes path (fun report => outcome.map report.merge) objections := by
  obtain ⟨inner, hinner, rfl⟩ := h
  refine ⟨inner, hinner, fun log => ?_⟩
  cases Log.ofObjections inner with
  | error fault => rfl
  | ok more => simp [Except.map, Log.merge_toReport]

/-- What a block reports, recorded in the block around it. -/
theorem mergeUnder {field : String} (h : Reports (Path.join path field) outcome objections) :
    Contributes path (fun report => outcome.map (report.mergeUnder field)) objections := by
  obtain ⟨inner, hinner, rfl⟩ := h
  refine ⟨Log.renameObjections (Path.join field) inner, ?_, fun log => ?_⟩
  · simp [hinner, Log.renameObjections, Path.join_assoc]
  · rw [Log.ofObjections_rename]
    cases Log.ofObjections inner with
    | error fault => rfl
    | ok more => simp [Except.map, Log.mergeUnder_toReport]

end Reports

/-! ## The findings of a schema -/

mutual

/-- What is found out about one declared field of a tree that stands at `path`. -/
def Shape.findings (path : String) (tree : Value) (field : String) :
    Shape → List (String × Objection)
  | .rules chain =>
    Log.objectionsTo (Path.join path field)
      (chain.objections (Path.join path field) (tree.resolve? field) tree)
  | .nested nullable fields =>
    match tree.resolve? field with
    | some (.obj content) => Schema.findings (Path.join path field) (.obj content) fields
    | none | some .null => if nullable then [] else [(Path.join path field, .ok notAnObject)]
    | some _ => [(Path.join path field, .ok notAnObject)]
  | .each fields =>
    match tree.resolve? field with
    | some (.arr items) =>
      items.zipIdx.flatMap fun (item, i) =>
        Schema.findings (Path.join (Path.join path field) (toString i)) item fields
    | _ => [(Path.join path field, .ok notAnArray)]
termination_by shape => (shape.depth, 0)
decreasing_by
  all_goals
    simp only [Shape.depth_nested, Shape.depth_each]
    exact Prod.Lex.left _ _ (Nat.lt_succ_self _)

/-- What is found out about a tree that stands at `path`. -/
def Schema.findings (path : String) (tree : Value) (schema : Schema) : List (String × Objection) :=
  (schema.expand tree).entries.attach.flatMap fun e => e.1.2.findings path tree e.1.1
termination_by (Schema.depth schema, 1)
decreasing_by exact Schema.depth_lex_of_mem_expand e.2

end

theorem Schema.findings_eq (path : String) (tree : Value) (schema : Schema) :
    schema.findings path tree =
      (schema.expand tree).entries.flatMap fun e => e.2.findings path tree e.1 := by
  rw [Schema.findings]
  conv => rhs; rw [← List.attach_map_subtype_val (schema.expand tree).entries, List.flatMap_map]

/-- Running a chain records its objections for its field. -/
theorem Contributes.rules (path : String) (tree : Value) (field : String) (chain : Chain) :
    Contributes path
      (fun report => (chain.messages (Path.join path field) (tree.resolve? field) tree).map
        (report.extend field))
      (Shape.findings path tree field (.rules chain)) := by
  rw [Shape.findings]
  exact .extend path field (chain.ofObjections_objections ..)

-- The induction is that of the collector: blocks by depth, entries of one block by `foldlM`.
mutual

theorem Shape.reports_findings (path : String) (tree : Value) (field : String) :
    (shape : Shape) →
      Reports path (shape.collect path tree field) (shape.findings path tree field)
  | .rules chain => by
    rw [Shape.collect]
    exact (Contributes.rules path tree field chain).reports
  | .nested nullable fields => by
    rw [Shape.collect, Shape.findings]
    cases hfound : tree.resolve? field with
    | none =>
      cases nullable
      · exact (Contributes.refused path field notAnObject).reports
      · exact (Contributes.accepted path).reports
    | some value =>
      cases value with
      | obj content =>
        have hinner := Schema.reports_findings (Path.join path field) (.obj content) fields
        exact hinner.mergeUnder.reports
      | null =>
        cases nullable
        · exact (Contributes.refused path field notAnObject).reports
        · exact (Contributes.accepted path).reports
      | _ => exact (Contributes.refused path field notAnObject).reports
  | .each fields => by
    rw [Shape.collect, Shape.findings]
    cases hfound : tree.resolve? field with
    | none => exact (Contributes.refused path field notAnArray).reports
    | some value =>
      cases value with
      | arr items =>
        refine (Contributes.foldlM fun (item, i) _ => ?_).reports
        simp only [Path.join_assoc]
        exact (Schema.reports_findings _ item fields).mergeUnder
      | _ => exact (Contributes.refused path field notAnArray).reports
termination_by shape => (shape.depth, 0)

theorem Schema.reports_findings (path : String) (tree : Value) (schema : Schema) :
    Reports path (schema.collectIn path tree) (schema.findings path tree) := by
  rw [Schema.collectIn_eq, Schema.findings_eq]
  refine (Contributes.foldlM fun e he => ?_).reports
  exact (Shape.reports_findings path tree e.1 e.2).merge
termination_by (Schema.depth schema, 1)
decreasing_by exact Schema.depth_lex_of_mem_expand he

end

/-- The collector fails with the first fault that is found, and otherwise groups all messages by
their fields. -/
theorem Schema.collect_eq_findings (schema : Schema) (tree : Value) :
    schema.collect tree = (Log.ofObjections (schema.findings "" tree)).map Log.toReport := by
  obtain ⟨inner, hinner, hcollect⟩ := Schema.reports_findings "" tree schema
  have hsame : schema.findings "" tree = inner := by
    simp [hinner, Log.renameObjections]
  rw [Schema.collect, hcollect, hsame]

/-- A report lists what was found, when nothing but messages was found. -/
theorem Schema.exists_log_of_collect {schema : Schema} {tree : Value} {report : Report}
    (h : schema.collect tree = .ok report) :
    ∃ log : Log, report = log.toReport ∧
      schema.findings "" tree = log.map fun e => (e.1, .ok e.2) := by
  rw [Schema.collect_eq_findings] at h
  cases hlog : Log.ofObjections (schema.findings "" tree) with
  | error fault => rw [hlog] at h; cases h
  | ok log =>
    rw [hlog] at h
    cases h
    exact ⟨log, rfl, Log.ofObjections_eq_ok_iff.mp hlog⟩

end Conform
