import Conform.Changeset
import Conform.Proofs.Validation

/-!
# Reachable reports

However a report is built, every operation on it keeps two things: a field is listed once, and with
at least one message. So all ways of asking a report whether anything failed agree, and a tree is
never refused as invalid without a message that says why.
-/

namespace Conform

namespace Report

/-- The reports that can be built: from nothing or from entries, by recording messages, and by
merging what was built so. -/
inductive Reachable : Report → Prop where
  | new : Reachable ∅
  | ofList (entries : List (String × List String)) : Reachable (.ofList entries)
  | add {report : Report} (field message : String) :
      Reachable report → Reachable (report.add field message)
  | extend {report : Report} (field : String) (messages : List String) :
      Reachable report → Reachable (report.extend field messages)
  | merge {report other : Report} :
      Reachable report → Reachable other → Reachable (report.merge other)
  | mergeUnder {report other : Report} (path : String) :
      Reachable report → Reachable other → Reachable (report.mergeUnder path other)

/-- Every field is listed once, and with at least one message. -/
structure IsSound (report : Report) : Prop where
  distinct : report.fields.Distinct
  filled : ∀ e ∈ report.fields.entries, e.2 ≠ []

/-- All answers to the question whether anything failed agree, and where the summary counts the
messages after the first one there is a first one. -/
structure TellsFailure (report : Report) : Prop extends IsSound report where
  messageCount_eq : report.messageCount = 0 ↔ report.isEmpty = true
  firstMessage_eq : report.firstMessage? = none ↔ report.isEmpty = true
  outcome_eq : report.outcome = .ok () ↔ report.isEmpty = true
  counts_first : ∀ first, report.firstMessage? = some first → 1 ≤ report.messageCount

/-! ## What every operation keeps -/

theorem isSound_empty : IsSound ∅ where
  distinct := OrderedMap.Distinct.empty
  filled _ he := nomatch he

namespace IsSound

variable {report : Report}

/-- Messages are recorded behind those of their field, or for a new field if there are any. -/
theorem extend (h : report.IsSound) (field : String) (messages : List String) :
    (report.extend field messages).IsSound := by
  by_cases hnone : messages = []
  · rwa [hnone, extend_nil]
  · rw [Report.extend, if_neg hnone]
    constructor
    · exact h.distinct.insertWith field messages
    · refine OrderedMap.forall_mem_insertWith h.filled hnone fun old hold => ?_
      exact List.append_ne_nil_of_left_ne_nil hold messages

theorem foldl_extend (h : report.IsSound) (name : String → String)
    (entries : List (String × List String)) :
    (entries.foldl (fun r e => r.extend (name e.1) e.2) report).IsSound := by
  induction entries generalizing report with
  | nil => exact h
  | cons e rest ih => exact ih (h.extend (name e.1) e.2)

end IsSound

theorem Reachable.isSound {report : Report} (h : report.Reachable) : report.IsSound := by
  induction h with
  | new => exact isSound_empty
  | ofList entries => exact isSound_empty.foldl_extend id entries
  | add field message _ ih => exact ih.extend field [message]
  | extend field messages _ ih => exact ih.extend field messages
  | @merge report other _ _ ih _ => exact ih.foldl_extend id other.fields.entries
  | @mergeUnder report other path _ _ ih _ =>
    exact ih.foldl_extend (Path.join path) other.fields.entries

/-! ## What a sound report answers -/

/-- A sound report is empty, or begins with a field that has a first message. -/
theorem IsSound.eq_empty_or {report : Report} (h : report.IsSound) :
    report = ∅ ∨ ∃ field first others rest,
      report.fields.entries = (field, first :: others) :: rest := by
  obtain ⟨⟨entries⟩⟩ := report
  cases entries with
  | nil => exact .inl rfl
  | cons e rest =>
    obtain ⟨field, messages⟩ := e
    cases messages with
    | nil => exact absurd rfl (h.filled (field, []) (List.mem_cons_self ..))
    | cons first others => exact .inr ⟨field, first, others, rest, rfl⟩

theorem IsSound.tellsFailure {report : Report} (h : report.IsSound) : report.TellsFailure := by
  obtain rfl | ⟨field, first, others, rest, hentries⟩ := h.eq_empty_or
  · exact { h with
      messageCount_eq := iff_of_true rfl rfl
      firstMessage_eq := iff_of_true rfl rfl
      outcome_eq := iff_of_true rfl rfl
      counts_first := fun _ hnone => nomatch hnone }
  · have hempty : report.isEmpty = false := by
      rw [isEmpty, OrderedMap.isEmpty, hentries, List.isEmpty_cons]
    have hcount : 1 ≤ report.messageCount := by
      simp [messageCount, OrderedMap.values, hentries]
    have hfirst : report.firstMessage? = some first := by
      simp [firstMessage?, OrderedMap.values, hentries]
    exact { h with
      messageCount_eq := by simp [hempty]; omega
      firstMessage_eq := by simp [hempty, hfirst]
      outcome_eq := by simp [outcome, hempty]
      counts_first := fun _ _ => hcount }

/-! ## Reports of validation -/

/-- The report of a log can be built message by message. -/
theorem reachable_toReport (log : Log) : log.toReport.Reachable := by
  induction log using List.reverseRecOn with
  | nil => exact .new
  | append_singleton log e ih =>
    obtain ⟨field, text⟩ := e
    have hadd : Log.toReport (log ++ [(field, text)]) = (Log.toReport log).add field text :=
      (Log.extend_toReport log field [text]).symm
    rw [hadd]
    exact ih.add field text

end Report

/-- Whatever the requirements refuse as invalid, they give at least one message for it. -/
def Requirements.GivesReasons.{u} {σ : Type u} [Requirements σ] (requirements : σ) : Prop :=
  ∀ options tree report, validate requirements options tree = .error (.invalid report) →
    report.Reachable ∧ report.isEmpty = false ∧ 1 ≤ report.messageCount

/-- Validation turns the outcome of the report into a refusal. -/
theorem validate_eq_outcome.{u} {σ : Type u} [Requirements σ] (requirements : σ) (options : Options)
    (tree : Value) :
    validate requirements options tree =
      ((Requirements.collect requirements options tree).mapError .fault).bind fun report =>
        report.outcome.mapError .invalid := by
  rw [validate]
  cases Requirements.collect requirements options tree with
  | error fault => rfl
  | ok report => cases h : report.isEmpty <;> simp [Except.mapError, Except.bind, Report.outcome, h]

/-- Requirements give reasons when all their reports can be built by the operations. -/
theorem Requirements.givesReasons_of_reachable.{u} {σ : Type u} [Requirements σ] {requirements : σ}
    (h : ∀ options tree report, Requirements.collect requirements options tree = .ok report →
      report.Reachable) : GivesReasons requirements := by
  intro options tree report hinvalid
  rw [validate_eq_outcome] at hinvalid
  cases hcollect : Requirements.collect requirements options tree with
  | error fault => rw [hcollect] at hinvalid; cases hinvalid
  | ok collected =>
    have hreachable := h options tree collected hcollect
    have htells := hreachable.isSound.tellsFailure
    rw [hcollect] at hinvalid
    cases hempty : collected.isEmpty with
    | true => simp [Except.mapError, Except.bind, Report.outcome, hempty] at hinvalid
    | false =>
      have hsame : collected = report := by
        simpa [Except.mapError, Except.bind, Report.outcome, hempty] using hinvalid
      subst hsame
      have hcount : collected.messageCount ≠ 0 := by
        rw [ne_eq, htells.messageCount_eq, hempty]
        exact Bool.false_ne_true
      exact ⟨hreachable, hempty, Nat.one_le_iff_ne_zero.mpr hcount⟩

theorem Schema.givesReasons (schema : Schema) : Requirements.GivesReasons schema := by
  refine Requirements.givesReasons_of_reachable fun options tree report hcollect => ?_
  obtain ⟨log, rfl, -⟩ := exists_log_of_collectWith hcollect
  exact Report.reachable_toReport log

theorem Changeset.givesReasons {changeset : Changeset}
    (h : ∀ errors, (changeset.report errors).Reachable) : Requirements.GivesReasons changeset := by
  refine Requirements.givesReasons_of_reachable fun options tree report hcollect => ?_
  cases hcollect
  exact h (changeset.run tree)

/-- Every report that can be built lists each failing field once, with its messages, and tells in
the same way everywhere whether anything failed. So no schema refuses a tree as invalid with an
empty report, nor does a changeset that builds its reports by the operations. -/
theorem Report.tellsFailure_and_givesReasons :
    (∀ report : Report, report.Reachable → report.TellsFailure) ∧
      (∀ schema : Schema, Requirements.GivesReasons schema) ∧
      ∀ changeset : Changeset, (∀ errors, (changeset.report errors).Reachable) →
        Requirements.GivesReasons changeset :=
  ⟨fun _ h => h.isSound.tellsFailure, Schema.givesReasons, fun _ => Changeset.givesReasons⟩

/-- A report that was merged from parts with and without messages, and a changeset whose errors are
the entries of a report, some of them without messages. -/
theorem Report.tellsFailure_and_givesReasons_of_empty_entries :
    let part : Report := (Report.ofList [("a", []), ("b", ["x"])]).extend "b" []
    let report := ((∅ : Report).mergeUnder "p" part).merge (Report.add ∅ "p.b" "y")
    let changeset : Changeset := {
      Errors := List (String × List String)
      run := fun _ => [("a", []), ("b", ["x"])]
      report := .ofList }
    report.Reachable ∧ report.TellsFailure ∧ report.get? "p.b" = some ["x", "y"] ∧
      Requirements.GivesReasons changeset ∧
      ∃ invalid, validate changeset {} .null = .error (.invalid invalid) ∧
        invalid.messageCount = 1 := by
  intro part report changeset
  obtain ⟨htells, -, hreasons⟩ := Report.tellsFailure_and_givesReasons
  have hpart : part.Reachable := (Reachable.ofList _).extend "b" []
  have hreport : report.Reachable := (Reachable.new.mergeUnder "p" hpart).merge (.add "p.b" "y" .new)
  refine ⟨hreport, htells report hreport, by decide, hreasons changeset Reachable.ofList, ?_⟩
  exact ⟨_, rfl, by decide⟩

end Conform
