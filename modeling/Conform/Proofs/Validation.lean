import Conform.Proofs.Schema.Origins
import Conform.Validation
import Mathlib

/-!
# Strict validation

Strict mode reports a leaf when no declaration covers it. A field of an ordinary report is an
instance of a declared path, so it is covered: the two reports have no field in common, and put
together they stand side by side.
-/

namespace Conform

namespace Schema

variable {schema : Schema} {tree : Value}

/-! ## Reported fields are declared -/

/-- A field of a report is an instance of a declared path, through all blocks on its way. -/
theorem exists_declares_of_mem_keys_collect (hd : schema.IsDeclarable) {report : Report}
    (h : schema.collect tree = .ok report) {field : String} (hfield : field ∈ report.fields.keys) :
    ∃ declared owns, schema.Declares declared owns ∧
      List.Forall₂ Path.StandsFor declared (Path.segments field) := by
  obtain ⟨log, rfl, hfindings⟩ := exists_log_of_collect h
  rw [Log.keys_toReport] at hfield
  obtain ⟨text, htext⟩ := Log.mem_fields_iff.mp hfield
  have hfinding : (field, .ok text) ∈ schema.findings "" tree := by
    rw [hfindings]
    exact List.mem_map.mpr ⟨_, htext, rfl⟩
  obtain ⟨declared, inner, hdeclares, hstands, -⟩ := exists_origin_of_mem_findings hd hfinding
  exact ⟨declared, inner.chain?.isSome, hdeclares.declares, hstands⟩

/-- No field of an ordinary report is called unknown. -/
theorem not_mem_keys_undeclared_of_collect (hd : schema.IsDeclarable) {report : Report}
    (h : schema.collect tree = .ok report) {field : String} (hfield : field ∈ report.fields.keys) :
    field ∉ (schema.undeclared tree).fields.keys := by
  obtain ⟨declared, owns, hdeclares, hstands⟩ := exists_declares_of_mem_keys_collect hd h hfield
  intro hunknown
  refine (mem_keys_undeclared_iff.mp hunknown).2 ?_
  rw [← List.append_nil (Path.segments field)]
  exact hdeclares.covers hstands (.inl rfl)

/-! ## The two reports together -/

theorem exists_log_of_undeclared (schema : Schema) (tree : Value) :
    ∃ log : Log, schema.undeclared tree = log.toReport ∧
      ∀ e ∈ log, e.1 ∈ (schema.undeclared tree).fields.keys ∧ e.2 = unknownField := by
  refine ⟨_, undeclared_eq schema tree, fun e he => ⟨?_, ?_⟩⟩
  · rw [undeclared_eq, Log.keys_toReport]
    exact Log.mem_fields_iff.mpr ⟨e.2, he⟩
  · obtain ⟨leaf, -, rfl⟩ := List.mem_map.mp he
    rfl

/-- Under all options a report lists messages that were found, or unknown leaves in strict mode. -/
theorem exists_log_of_collectWith {options : Options} {report : Report}
    (h : schema.collectWith options tree = .ok report) :
    ∃ log : Log, report = log.toReport ∧ ∀ e ∈ log,
      (e.1, .ok e.2) ∈ schema.findings "" tree ∨
        options.strict = true ∧ e.1 ∈ (schema.undeclared tree).fields.keys ∧ e.2 = unknownField := by
  have hordinary : ∀ ordinary, schema.collect tree = .ok ordinary → ∃ log : Log,
      ordinary = log.toReport ∧ ∀ e ∈ log, (e.1, .ok e.2) ∈ schema.findings "" tree := by
    intro ordinary hcollect
    obtain ⟨log, hlog, hfindings⟩ := exists_log_of_collect hcollect
    exact ⟨log, hlog, fun e he => hfindings ▸ List.mem_map.mpr ⟨e, he, rfl⟩⟩
  obtain ⟨unknown, hunknown, hleaves⟩ := exists_log_of_undeclared schema tree
  rw [collectWith] at h
  split at h
  · rename_i hstrict
    dsimp only at h
    split at h
    · cases h
      exact ⟨unknown, hunknown, fun e he => .inr ⟨hstrict, hleaves e he⟩⟩
    · cases hcollect : schema.collect tree with
      | error fault => rw [hcollect] at h; cases h
      | ok ordinary =>
        rw [hcollect] at h
        cases h
        obtain ⟨log, rfl, hfound⟩ := hordinary ordinary hcollect
        have hmerge : log.toReport.merge (schema.undeclared tree) = (log ++ unknown).toReport := by
          rw [hunknown, Log.merge_toReport]
        refine ⟨log ++ unknown, hmerge, fun e he => ?_⟩
        rcases List.mem_append.mp he with he | he
        · exact .inl (hfound e he)
        · exact .inr ⟨hstrict, hleaves e he⟩
  · obtain ⟨log, hlog, hfound⟩ := hordinary report h
    exact ⟨log, hlog, fun e he => .inl (hfound e he)⟩

/-- The unknown leaves stand behind the fields of an ordinary report. -/
theorem entries_merge_undeclared (hd : schema.IsDeclarable) {report : Report}
    (h : schema.collect tree = .ok report) :
    (report.merge (schema.undeclared tree)).fields.entries =
      report.fields.entries ++ (schema.undeclared tree).fields.entries := by
  have hdisjoint : ∀ field ∈ report.fields.keys, field ∉ (schema.undeclared tree).fields.keys :=
    fun field => not_mem_keys_undeclared_of_collect hd h
  obtain ⟨log, rfl, -⟩ := exists_log_of_collect h
  rw [undeclared_eq] at hdisjoint ⊢
  simp only [Log.keys_toReport] at hdisjoint
  rw [Log.merge_toReport, Log.entries_toReport_append hdisjoint]

theorem isEmpty_iff_entries {report : Report} :
    report.isEmpty = true ↔ report.fields.entries = [] := by
  rw [Report.isEmpty, OrderedMap.isEmpty, List.isEmpty_iff]

/-- When nothing is unknown, the options make no difference. -/
theorem collectWith_of_isEmpty (h : (schema.undeclared tree).isEmpty = true) (options : Options) :
    schema.collectWith options tree = schema.collect tree := by
  have hmerge : ∀ report : Report, report.merge (schema.undeclared tree) = report := by
    intro report
    rw [Report.merge, Report.mergeWith, isEmpty_iff_entries.mp h, List.foldl_nil]
  cases hstrict : options.strict <;> cases hcollect : schema.collect tree <;>
    simp [collectWith, hstrict, h, hcollect, hmerge, Except.map]

/-- When something is unknown, strict mode has something to report. -/
theorem isEmpty_of_collectWith (hd : schema.IsDeclarable) {only : Bool} {report : Report}
    (h : schema.collectWith { strict := true, reportOnlyUnknown := only } tree = .ok report)
    (hempty : report.isEmpty = true) : (schema.undeclared tree).isEmpty = true := by
  cases hunknown : (schema.undeclared tree).isEmpty with
  | true => rfl
  | false =>
    simp only [collectWith, hunknown, if_true, Bool.not_false, Bool.true_and] at h
    cases only with
    | true =>
      cases h
      rw [← hunknown, hempty]
    | false =>
      cases hcollect : schema.collect tree with
      | error fault => rw [hcollect] at h; cases h
      | ok ordinary =>
        rw [hcollect] at h
        cases h
        rw [isEmpty_iff_entries, entries_merge_undeclared hd hcollect, List.append_eq_nil_iff,
          ← isEmpty_iff_entries, ← isEmpty_iff_entries] at hempty
        rw [← hunknown, hempty.2]

theorem validate_of_collectWith {options : Options} {report : Report}
    (h : schema.collectWith options tree = .ok report) :
    validate schema options tree =
      if report.isEmpty then .ok () else .error (.invalid report) := by
  have hcollect : Requirements.collect schema options tree = .ok report := h
  rw [validate, hcollect]

theorem validate_eq_ok_iff {options : Options} :
    validate schema options tree = .ok () ↔
      ∃ report, schema.collectWith options tree = .ok report ∧ report.isEmpty = true := by
  have hcollect : Requirements.collect schema options tree = schema.collectWith options tree := rfl
  rw [validate, hcollect]
  cases schema.collectWith options tree with
  | error fault => simp
  | ok report => cases h : report.isEmpty <;> simp [h]

theorem isEmpty_undeclared_of_merge {report : Report} (h : schema.collect tree = .ok report)
    (hempty : (report.merge (schema.undeclared tree)).isEmpty = true) :
    (schema.undeclared tree).isEmpty = true := by
  obtain ⟨log, rfl, -⟩ := exists_log_of_collect h
  rw [undeclared_eq] at hempty ⊢
  rw [Log.merge_toReport, Log.isEmpty_toReport_iff, List.append_eq_nil_iff] at hempty
  exact Log.isEmpty_toReport_iff.mpr hempty.2

/-- A tree is accepted when nothing fails and, in strict mode, nothing is unknown. -/
theorem validate_eq_ok_iff_isEmpty {options : Options} :
    validate schema options tree = .ok () ↔
      (options.strict = true → (schema.undeclared tree).isEmpty = true) ∧
        ∃ report, schema.collect tree = .ok report ∧ report.isEmpty = true := by
  rw [validate_eq_ok_iff]
  by_cases hunknown : options.strict = true → (schema.undeclared tree).isEmpty = true
  · have hcollect : schema.collectWith options tree = schema.collect tree := by
      cases hstrict : options.strict with
      | true => exact collectWith_of_isEmpty (hunknown hstrict) options
      | false => simp [collectWith, hstrict]
    rw [hcollect, and_iff_right hunknown]
  · obtain ⟨hstrict, hsome⟩ := Classical.not_imp.mp hunknown
    refine iff_of_false ?_ fun h => hunknown h.1
    rintro ⟨report, hreport, hempty⟩
    simp only [collectWith, hstrict, if_true] at hreport
    split at hreport
    · cases hreport
      exact hsome hempty
    · cases hcollect : schema.collect tree with
      | error fault => rw [hcollect] at hreport; cases hreport
      | ok ordinary =>
        rw [hcollect] at hreport
        cases hreport
        exact hsome (isEmpty_undeclared_of_merge hcollect hempty)

/-- Strict mode sets the unknown leaves apart. They share no field with the ordinary report, stand
behind it when both are reported, and are all that can refuse a tree that is accepted otherwise. -/
structure SetsUnknownApart (schema : Schema) (tree : Value) : Prop where
  disjoint : ∀ report, schema.collect tree = .ok report → ∀ field ∈ report.fields.keys,
    field ∉ (schema.undeclared tree).fields.keys
  beside : schema.collectWith { strict := true, reportOnlyUnknown := false } tree =
    (schema.collect tree).map fun report =>
      ⟨⟨report.fields.entries ++ (schema.undeclared tree).fields.entries⟩⟩
  accepts_iff : ∀ only only',
    validate schema { strict := true, reportOnlyUnknown := only } tree = .ok () ↔
      (schema.undeclared tree).isEmpty = true ∧
        validate schema { strict := false, reportOnlyUnknown := only' } tree = .ok ()

theorem setsUnknownApart (schema : Schema) (tree : Value) (hd : schema.IsDeclarable) :
    schema.SetsUnknownApart tree where
  disjoint report h field := not_mem_keys_undeclared_of_collect hd h
  beside := by
    have hmerge : schema.collectWith { strict := true, reportOnlyUnknown := false } tree =
        (schema.collect tree).map fun report => report.merge (schema.undeclared tree) := by
      simp [collectWith]
    rw [hmerge]
    cases h : schema.collect tree with
    | error fault => rfl
    | ok report =>
      have hentries := entries_merge_undeclared hd h
      exact congrArg (fun entries => Except.ok (⟨⟨entries⟩⟩ : Report)) hentries
  accepts_iff only only' := by
    rw [validate_eq_ok_iff, validate_eq_ok_iff]
    constructor
    · rintro ⟨report, hreport, hempty⟩
      have hunknown := isEmpty_of_collectWith hd hreport hempty
      rw [collectWith_of_isEmpty hunknown] at hreport ⊢
      exact ⟨hunknown, report, hreport, hempty⟩
    · rintro ⟨hunknown, hreport⟩
      rw [collectWith_of_isEmpty hunknown] at hreport ⊢
      exact hreport

theorem setsUnknownApart_of_blocks :
    ∃ (schema : Schema) (tree : Value), schema.IsDeclarable ∧
      schema.collectWith { strict := true, reportOnlyUnknown := false } tree =
        .ok (.ofList [("items.0.name", ["This field must be a string."]),
          ("items.0.size", [unknownField])]) ∧
      schema.SetsUnknownApart tree := by
  let fields : Schema := ⟨[("name", .rules { rules := [.string] })]⟩
  let schema : Schema := ⟨[("items", .each fields)]⟩
  let tree : Value := .obj [("items", .arr [.obj [("name", .null), ("size", .num (.int 1))]])]
  have hd : schema.IsDeclarable :=
    ⟨by decide, by simpa [schema] using .each (by decide) (by simpa [fields] using .rules _)⟩
  have hdeclared : schema.declared = [⟨["items"], false⟩, ⟨["items", "*", "name"], true⟩] := by
    simp [schema, fields, declared, Shape.declared]
    decide
  have hunknown : schema.undeclared tree = .ofList [("items.0.size", [unknownField])] := by
    rw [undeclared, hdeclared]
    rfl
  have hcollect : schema.collect tree =
      .ok (.ofList [("items.0.name", ["This field must be a string."])]) := by cbv
  have hboth : schema.collectWith { strict := true, reportOnlyUnknown := false } tree =
      .ok (.ofList [("items.0.name", ["This field must be a string."]),
        ("items.0.size", [unknownField])]) := by
    rw [collectWith, hunknown, hcollect]
    rfl
  exact ⟨schema, tree, hd, hboth, setsUnknownApart schema tree hd⟩

end Schema

end Conform
