import Conform.Proofs.OrderedMap
import Conform.Proofs.Path.Segments
import Conform.Report
import Mathlib.Data.List.Basic

/-!
# Reports as logs

A log lists messages with their fields in the order in which they arose. Grouped by field it is a
report: the fields stand in the order in which they first occur, each with its messages in order.
Every operation on reports is a plain list operation on logs, so laws of reports come from lists.
-/

namespace Conform

/-- Messages in the order in which they arose, each with its field. -/
abbrev Log := List (String × String)

namespace Log

/-- The fields of a log in the order in which they first occur. -/
def fields (log : Log) : List String := (log.map (·.1)).eraseDups

/-- The messages of one field in the order in which they arose. -/
def messages (log : Log) (field : String) : List String :=
  (log.filter (·.1 = field)).map (·.2)

/-- The messages of a log grouped by field. -/
def toReport (log : Log) : Report :=
  ⟨⟨log.fields.map fun field => (field, log.messages field)⟩⟩

/-- The log with every field renamed. -/
def rename (name : String → String) (log : Log) : Log := log.map fun e => (name e.1, e.2)

/-- The messages of one field as a log. -/
def ofField (field : String) (texts : List String) : Log := texts.map (field, ·)

end Log

/-- The messages of a report, field by field. -/
def Report.toLog (report : Report) : Log :=
  report.fields.entries.flatMap fun e => Log.ofField e.1 e.2

namespace Log

@[simp] theorem toReport_nil : toReport [] = ∅ := rfl

@[simp] theorem keys_toReport (log : Log) : (toReport log).fields.keys = fields log := by
  simp [toReport, OrderedMap.keys, Function.comp_def]

@[simp] theorem messages_append (a b : Log) (field : String) :
    messages (a ++ b) field = messages a field ++ messages b field := by
  simp [messages]

@[simp] theorem messages_ofField_self (field : String) (texts : List String) :
    messages (ofField field texts) field = texts := by
  simp [messages, ofField, List.filter_map, Function.comp_def]

theorem messages_ofField_of_ne {field other : String} (h : other ≠ field) (texts : List String) :
    messages (ofField other texts) field = [] := by
  simp [messages, ofField, h]

theorem mem_fields_iff {log : Log} {field : String} :
    field ∈ fields log ↔ ∃ text, (field, text) ∈ log := by
  simp [fields, List.mem_eraseDups]

theorem messages_ne_nil_iff {log : Log} {field : String} :
    messages log field ≠ [] ↔ field ∈ fields log := by
  simp [messages, mem_fields_iff]

theorem get?_toReport (log : Log) (field : String) :
    (toReport log).get? field =
      if messages log field = [] then none else some (messages log field) := by
  have hmem : field ∈ fields log ↔ messages log field ≠ [] := messages_ne_nil_iff.symm
  rw [Report.get?, OrderedMap.get?]
  split
  · rename_i hnone
    refine List.lookup_eq_none_of_not_mem ?_
    rw [← OrderedMap.keys, keys_toReport, hmem]
    exact fun hsome => hsome hnone
  · rename_i hsome
    exact List.lookup_graph _ (hmem.mpr hsome)

theorem mem_of_get?_toReport {log : Log} {field : String} {texts : List String}
    (h : (toReport log).get? field = some texts) {text : String} (ht : text ∈ texts) :
    (field, text) ∈ log := by
  rw [get?_toReport] at h
  split at h
  · cases h
  · cases h
    simpa [messages] using ht

theorem nodup_fields (log : Log) : (fields log).Nodup := List.nodup_eraseDups _

theorem fields_append (a b : Log) :
    fields (a ++ b) = fields a ++ (fields b).filter (· ∉ fields a) := by
  have hnew : (b.map (·.1)).removeAll (a.map (·.1)) = (b.map (·.1)).filter (· ∉ fields a) := by
    refine List.filter_congr fun field _ => ?_
    have : field ∈ fields a ↔ field ∈ a.map (·.1) := List.mem_eraseDups
    by_cases h : field ∈ a.map (·.1) <;> simp only [this, h] <;> simp_all
  rw [fields, List.map_append, List.eraseDups_append, hnew, List.eraseDups_filter]
  rfl

theorem fields_ofField {texts : List String} (h : texts ≠ []) (field : String) :
    fields (ofField field texts) = [field] := by
  cases texts with
  | nil => exact absurd rfl h
  | cons text rest =>
    have same : (rest.map fun _ => field).filter (fun other => !other == field) = [] :=
      List.filter_eq_nil_iff.mpr (by simp)
    rw [fields, ofField, List.map_map, List.map_cons, List.eraseDups_cons]
    simp only [Function.comp_def, same, List.eraseDups_nil]

theorem isEmpty_toReport_iff {log : Log} : (toReport log).isEmpty = true ↔ log = [] := by
  rw [Report.isEmpty, OrderedMap.isEmpty, List.isEmpty_iff]
  cases log with
  | nil => exact iff_of_true rfl rfl
  | cons e rest => simp [toReport, fields, List.eraseDups_cons]

theorem toReport_congr {a b : Log} (hf : fields a = fields b)
    (hm : ∀ field ∈ fields a, messages a field = messages b field) : toReport a = toReport b := by
  simp only [toReport, ← hf]
  congr 2
  exact List.map_congr_left fun field h => by rw [hm field h]

/-- The reports of logs without a common field stand side by side in the report of both. -/
theorem entries_toReport_append {a b : Log} (h : ∀ field ∈ fields a, field ∉ fields b) :
    (toReport (a ++ b)).fields.entries =
      (toReport a).fields.entries ++ (toReport b).fields.entries := by
  have hnew : ∀ field ∈ fields b, decide (field ∉ fields a) = true := by
    intro field hb
    exact decide_eq_true fun ha => h field ha hb
  simp only [toReport, fields_append, List.filter_eq_self.mpr hnew, List.map_append,
    messages_append]
  congr 1
  · refine List.map_congr_left fun field ha => ?_
    have hnone : messages b field = [] := by
      by_contra hsome
      exact h field ha (messages_ne_nil_iff.mp hsome)
    rw [hnone, List.append_nil]
  · refine List.map_congr_left fun field hb => ?_
    have hnone : messages a field = [] := by
      by_contra hsome
      exact h field (messages_ne_nil_iff.mp hsome) hb
    rw [hnone, List.nil_append]

/-! ## Operations on reports append to logs -/

theorem fields_rename {name : String → String} (hn : Function.Injective name) (log : Log) :
    fields (rename name log) = (fields log).map name := by
  have : (rename name log).map (·.1) = (log.map (·.1)).map name := by simp [rename]
  rw [fields, this, List.eraseDups_map hn]
  rfl

theorem messages_rename {name : String → String} (hn : Function.Injective name) (log : Log)
    (field : String) : messages (rename name log) (name field) = messages log field := by
  simp [messages, rename, List.filter_map, Function.comp_def, hn.eq_iff]

theorem messages_rename_of_ne {name : String → String} {field : String}
    (h : ∀ other, name other ≠ field) (log : Log) : messages (rename name log) field = [] := by
  simp [messages, rename, List.filter_map, Function.comp_def, h]

/-- A write into grouped entries is a write into the group of its field, or a new group. -/
theorem insertWith_go_map {α : Type} (merge : α → α → α) (key : String) (value : α)
    (f : String → α) {keys : List String} (h : keys.Nodup) :
    OrderedMap.insertWith.go merge key value (keys.map fun k => (k, f k)) =
      if key ∈ keys then keys.map fun k => (k, if k = key then merge (f k) value else f k)
      else (keys.map fun k => (k, f k)) ++ [(key, value)] := by
  induction keys with
  | nil => simp [OrderedMap.insertWith.go]
  | cons k rest ih =>
    obtain ⟨hk, hrest⟩ := List.nodup_cons.mp h
    by_cases heq : k = key
    · subst heq
      have unchanged : ∀ k' ∈ rest,
          (k', f k') = (k', if k' = k then merge (f k') value else f k') := by
        intro k' hk'
        have : k' ≠ k := fun e => hk (e ▸ hk')
        simp [this]
      simp only [List.map_cons, OrderedMap.insertWith.go, if_true, List.mem_cons, true_or]
      rw [List.map_congr_left unchanged]
    · have hne : key ≠ k := fun e => heq e.symm
      simp only [List.map_cons, OrderedMap.insertWith.go, heq, if_false, List.mem_cons, hne,
        false_or, ih hrest]
      split <;> simp

/-- Recording messages appends them to the log. -/
theorem extend_toReport (log : Log) (field : String) (texts : List String) :
    (toReport log).extend field texts = toReport (log ++ ofField field texts) := by
  by_cases ht : texts = []
  · simp [ht, ofField]
  simp only [Report.extend, ht, if_false, toReport, OrderedMap.insertWith]
  rw [insertWith_go_map _ _ _ _ (nodup_fields log), fields_append, fields_ofField ht]
  by_cases hf : field ∈ fields log
  · have hm : ∀ k ∈ fields log, (k, if k = field then messages log k ++ texts else messages log k) =
        (k, messages (log ++ ofField field texts) k) := by
      intro k _
      by_cases hk : k = field
      · simp [hk]
      · simp [hk, messages_ofField_of_ne (Ne.symm hk)]
    simp only [hf, if_true, List.map_congr_left hm]
    simp [hf]
  · have hm : ∀ k ∈ fields log, (k, messages log k) =
        (k, messages (log ++ ofField field texts) k) := by
      intro k hk
      have : field ≠ k := fun e => hf (e ▸ hk)
      simp [messages_ofField_of_ne this]
    have hnone : messages log field = [] := by
      simpa using fun h => hf (messages_ne_nil_iff.mp h)
    simp only [hf, if_false, List.map_congr_left hm]
    simp [hf, hnone]

theorem foldl_extend_toReport (name : String → String) (entries : List (String × List String))
    (log : Log) :
    entries.foldl (fun r e => r.extend (name e.1) e.2) (toReport log) =
      toReport (log ++ entries.flatMap fun e => ofField (name e.1) e.2) := by
  induction entries generalizing log with
  | nil => simp
  | cons e rest ih =>
    rw [List.foldl_cons, extend_toReport, ih, List.flatMap_cons, List.append_assoc]

/-! ## Reading a report back -/

theorem messages_flatMap_ofField (f : String → List String) {keys : List String} (h : keys.Nodup)
    (field : String) :
    messages (keys.flatMap fun k => ofField k (f k)) field =
      if field ∈ keys then f field else [] := by
  induction keys with
  | nil => simp [messages]
  | cons k rest ih =>
    obtain ⟨hk, hrest⟩ := List.nodup_cons.mp h
    rw [List.flatMap_cons, messages_append, ih hrest]
    by_cases heq : k = field
    · subst heq
      simp [hk]
    · have hne : field ≠ k := fun e => heq e.symm
      simp [messages_ofField_of_ne heq, hne]

theorem fields_flatMap_ofField (f : String → List String) {keys : List String} (h : keys.Nodup)
    (hf : ∀ k ∈ keys, f k ≠ []) : fields (keys.flatMap fun k => ofField k (f k)) = keys := by
  induction keys with
  | nil => rfl
  | cons k rest ih =>
    obtain ⟨hk, hrest⟩ := List.nodup_cons.mp h
    rw [List.flatMap_cons, fields_append, fields_ofField (hf k (by simp)),
      ih hrest fun k' hk' => hf k' (by simp [hk'])]
    have hkeep : ∀ k' ∈ rest, decide (k' ∉ [k]) = true := by
      intro k' hk'
      have : k' ≠ k := fun e => hk (e ▸ hk')
      simp [this]
    rw [List.filter_eq_self.mpr hkeep, List.singleton_append]

theorem toLog_toReport (log : Log) :
    (toReport log).toLog = (fields log).flatMap fun k => ofField k (messages log k) := by
  simp [Report.toLog, toReport, List.flatMap_map]

theorem fields_toLog (log : Log) : fields (toReport log).toLog = fields log := by
  rw [toLog_toReport, fields_flatMap_ofField _ (nodup_fields log)]
  exact fun k hk => messages_ne_nil_iff.mpr hk

theorem messages_toLog (log : Log) (field : String) :
    messages (toReport log).toLog field = messages log field := by
  rw [toLog_toReport, messages_flatMap_ofField _ (nodup_fields log)]
  split
  · rfl
  · rename_i h
    simpa using fun e => h (messages_ne_nil_iff.mp (Ne.symm e))

/-- Merging renamed reports appends the renamed log. Distinct fields must stay distinct: messages of
fields that become one would otherwise be sorted by their old fields. -/
theorem mergeWith_toReport {name : String → String} (hn : Function.Injective name) (a b : Log) :
    (toReport a).mergeWith name (toReport b) = toReport (a ++ rename name b) := by
  have hlog : ((toReport b).fields.entries.flatMap fun e => ofField (name e.1) e.2) =
      rename name (toReport b).toLog := by
    simp [Report.toLog, rename, List.map_flatMap, ofField, Function.comp_def]
  rw [Report.mergeWith, foldl_extend_toReport, hlog]
  have hmessages : ∀ field, messages (rename name (toReport b).toLog) field =
      messages (rename name b) field := by
    intro field
    by_cases h : ∃ other, name other = field
    · obtain ⟨other, rfl⟩ := h
      rw [messages_rename hn, messages_rename hn, messages_toLog]
    · have h' : ∀ other, name other ≠ field := fun other e => h ⟨other, e⟩
      rw [messages_rename_of_ne h', messages_rename_of_ne h']
  apply toReport_congr
  · simp only [fields_append, fields_rename hn, fields_toLog]
  · intro field _
    simp only [messages_append, hmessages]

theorem merge_toReport (a b : Log) : (toReport a).merge (toReport b) = toReport (a ++ b) := by
  rw [Report.merge, mergeWith_toReport Function.injective_id]
  simp [rename]

theorem mergeUnder_toReport (path : String) (a b : Log) :
    (toReport a).mergeUnder path (toReport b) = toReport (a ++ rename (Path.join path) b) :=
  mergeWith_toReport (Path.join_injective path) a b

end Log

end Conform
