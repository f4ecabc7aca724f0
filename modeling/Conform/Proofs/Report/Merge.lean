import Conform.Proofs.Report.Reachable

/-!
# Laws of merging

The reports that can be built are the groupings of logs. Merging appends logs and a path in front
renames their fields, so reports under merging have the laws of lists. Different fields stay
different under a path, also when the path or a field is empty, and so their order stays too.
-/

namespace Conform

namespace Log

theorem rename_append (name : String → String) (a b : Log) :
    rename name (a ++ b) = rename name a ++ rename name b :=
  List.map_append

/-- Names in front of names are joined paths. -/
theorem rename_join_rename_join (front back : String) (log : Log) :
    rename (Path.join front) (rename (Path.join back) log) =
      rename (Path.join (Path.join front back)) log := by
  simp only [rename, List.map_map, Function.comp_def, Path.join_assoc]

/-- Names that stay different rename the fields of a report in place. -/
theorem fields_toReport_rename {name : String → String} (hn : Function.Injective name)
    (log : Log) : (toReport (rename name log)).fields = (toReport log).fields.rename name := by
  simp only [toReport, OrderedMap.rename, fields_rename hn, List.map_map, Function.comp_def,
    messages_rename hn]

end Log

namespace Report

/-- The report with all its fields put under a path. -/
def under (path : String) (report : Report) : Report := mergeUnder ∅ path report

/-- Reports are built just as logs are grouped. -/
theorem reachable_iff_exists_log {report : Report} :
    report.Reachable ↔ ∃ log : Log, log.toReport = report := by
  constructor
  · intro h
    induction h with
    | new => exact ⟨[], rfl⟩
    | ofList entries => exact ⟨_, (Log.foldl_extend_toReport id entries []).symm⟩
    | add field message _ ih =>
      obtain ⟨log, rfl⟩ := ih
      exact ⟨_, (Log.extend_toReport log field [message]).symm⟩
    | extend field messages _ ih =>
      obtain ⟨log, rfl⟩ := ih
      exact ⟨_, (Log.extend_toReport log field messages).symm⟩
    | merge _ _ ih ih' =>
      obtain ⟨a, rfl⟩ := ih
      obtain ⟨b, rfl⟩ := ih'
      exact ⟨_, (Log.merge_toReport a b).symm⟩
    | mergeUnder path _ _ ih ih' =>
      obtain ⟨a, rfl⟩ := ih
      obtain ⟨b, rfl⟩ := ih'
      exact ⟨_, (Log.mergeUnder_toReport path a b).symm⟩
  · rintro ⟨log, rfl⟩
    exact reachable_toReport log

theorem under_toReport (path : String) (log : Log) :
    log.toReport.under path = Log.toReport (Log.rename (Path.join path) log) :=
  Log.mergeUnder_toReport path [] log

theorem get?_toReport_append (a b : Log) (field : String) :
    (Log.toReport (a ++ b)).get? field =
      Option.merge (· ++ ·) (a.toReport.get? field) (b.toReport.get? field) := by
  simp only [Log.get?_toReport, Log.messages_append]
  by_cases ha : a.messages field = [] <;> by_cases hb : b.messages field = [] <;>
    simp [ha, hb, Option.merge]

/-! ## Counting messages -/

theorem messageCount_extend (report : Report) (field : String) (messages : List String) :
    (report.extend field messages).messageCount = report.messageCount + messages.length := by
  by_cases hnone : messages = []
  · simp [hnone]
  obtain ⟨⟨entries⟩⟩ := report
  simp only [extend, hnone, if_false, messageCount, OrderedMap.values, OrderedMap.insertWith]
  induction entries with
  | nil => simp [OrderedMap.insertWith.go]
  | cons e rest ih =>
    rw [OrderedMap.insertWith.go]
    split
    · simp only [List.map_cons, List.flatten_cons, List.length_append]
      omega
    · simp only [List.map_cons, List.flatten_cons, List.length_append, ih]
      omega

theorem messageCount_mergeWith (rename : String → String) (report other : Report) :
    (report.mergeWith rename other).messageCount = report.messageCount + other.messageCount := by
  obtain ⟨⟨entries⟩⟩ := other
  simp only [mergeWith, messageCount, OrderedMap.values]
  induction entries generalizing report with
  | nil => simp
  | cons e rest ih =>
    have hextend := messageCount_extend report (rename e.1) e.2
    simp only [messageCount, OrderedMap.values] at hextend
    rw [List.foldl_cons, ih, hextend]
    simp only [List.map_cons, List.flatten_cons, List.length_append]
    omega

/-! ## The laws -/

/-- Three reports merge as logs append, and keep doing so under paths. -/
structure MergesLawfully (a b c : Report) : Prop where
  /-- The messages of a field are those of the first report, then those of the second. -/
  get?_merge : ∀ field,
    (a.merge b).get? field = Option.merge (· ++ ·) (a.get? field) (b.get? field)
  keys_merge : (a.merge b).fields.keys =
    a.fields.keys ++ b.fields.keys.filter (· ∉ a.fields.keys)
  merge_assoc : (a.merge b).merge c = a.merge (b.merge c)
  empty_merge : (∅ : Report).merge a = a
  merge_empty : a.merge ∅ = a
  messageCount_merge : (a.merge b).messageCount = a.messageCount + b.messageCount
  /-- Under a path every field stays in its place, and no two of them become one. -/
  fields_under : ∀ path, (a.under path).fields = a.fields.rename (Path.join path)
  under_merge : ∀ path, (a.merge b).under path = (a.under path).merge (b.under path)
  mergeUnder_merge : ∀ path,
    a.mergeUnder path (b.merge c) = (a.mergeUnder path b).mergeUnder path c
  under_under : ∀ front back, (a.under back).under front = a.under (Path.join front back)
  mergeUnder_under : ∀ front back,
    a.mergeUnder front (b.under back) = a.mergeUnder (Path.join front back) b

/-- Reports that can be built form a monoid under merging, and to put them under paths is to act on
it by joining paths. -/
theorem mergesLawfully {a b c : Report} (ha : a.Reachable) (hb : b.Reachable) (hc : c.Reachable) :
    MergesLawfully a b c := by
  obtain ⟨a, rfl⟩ := reachable_iff_exists_log.mp ha
  obtain ⟨b, rfl⟩ := reachable_iff_exists_log.mp hb
  obtain ⟨c, rfl⟩ := reachable_iff_exists_log.mp hc
  constructor
  case get?_merge =>
    intro field
    rw [Log.merge_toReport, get?_toReport_append]
  case keys_merge =>
    simp only [Log.merge_toReport, Log.keys_toReport, Log.fields_append]
  case merge_assoc =>
    simp only [Log.merge_toReport, List.append_assoc]
  case empty_merge => exact Log.merge_toReport [] a
  case merge_empty =>
    have hmerge := Log.merge_toReport a []
    rwa [List.append_nil] at hmerge
  case messageCount_merge => exact messageCount_mergeWith id _ _
  case fields_under =>
    intro path
    rw [under_toReport, Log.fields_toReport_rename (Path.join_injective path)]
  case under_merge =>
    intro path
    simp only [Log.merge_toReport, under_toReport, Log.rename_append]
  case mergeUnder_merge =>
    intro path
    simp only [Log.merge_toReport, Log.mergeUnder_toReport, Log.rename_append, List.append_assoc]
  case under_under =>
    intro front back
    simp only [under_toReport, Log.rename_join_rename_join]
  case mergeUnder_under =>
    intro front back
    simp only [under_toReport, Log.mergeUnder_toReport, Log.rename_join_rename_join]

/-- Reports with a field in common, one of them for the empty field, and empty paths. -/
theorem mergesLawfully_of_empty_field :
    let a : Report := .ofList [("", ["x"]), ("k", ["y"])]
    let b : Report := .ofList [("k", ["z"]), ("", ["w"]), ("l", [])]
    let c : Report := mergeUnder ∅ "" b
    a.Reachable ∧ b.Reachable ∧ c.Reachable ∧ MergesLawfully a b c ∧
      ((a.merge b).under "p").fields.entries = [("p", ["x", "w"]), ("p.k", ["y", "z"])] := by
  intro a b c
  have ha : a.Reachable := .ofList _
  have hb : b.Reachable := .ofList _
  have hc : c.Reachable := .mergeUnder "" .new hb
  exact ⟨ha, hb, hc, mergesLawfully ha hb hc, by decide⟩

end Report

end Conform
