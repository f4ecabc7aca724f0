import Conform.Proofs.Schema.Under
import Conform.Rule.Presence

/-!
# List blocks and wildcards

A list block goes through its list item by item and expands its fields in each item. The same fields
behind a wildcard are expanded one by one, each over all items. Below one item both find the same in
the same order, so the outcomes differ in the order of their fields at most.
-/

namespace List

variable {α β : Type}

/-- Elements can be chosen after the concatenation or by the list that they come from. -/
theorem filter_flatMap_of_forall {p : β → Bool} {q : α → Bool} {f : α → List β} {l : List α}
    (h : ∀ a ∈ l, ∀ b ∈ f a, p b = q a) : (l.flatMap f).filter p = (l.filter q).flatMap f := by
  induction l with
  | nil => rfl
  | cons a rest ih =>
    have ha : ∀ b ∈ f a, p b = q a := h a (mem_cons_self ..)
    rw [flatMap_cons, filter_append, ih fun x hx => h x (mem_cons_of_mem _ hx), filter_cons]
    cases hq : q a with
    | true =>
      have hall : ∀ b ∈ f a, p b = true := fun b hb => (ha b hb).trans hq
      rw [filter_eq_self.mpr hall, if_pos rfl, flatMap_cons]
    | false =>
      have hnone : ∀ b ∈ f a, ¬p b = true := fun b hb => by simp [ha b hb, hq]
      rw [filter_eq_nil_iff.mpr hnone, nil_append, if_neg (by simp)]

theorem filter_eq_nil_or_singleton [DecidableEq β] {f : α → β} {l : List α}
    (h : l.Pairwise fun a b => f a ≠ f b) (y : β) :
    l.filter (fun a => f a = y) = [] ∨ ∃ a ∈ l, l.filter (fun a => f a = y) = [a] := by
  have hfilter := h.filter fun a => f a = y
  have hmem : ∀ a ∈ l.filter (fun a => f a = y), a ∈ l ∧ f a = y := by simp
  cases hl : l.filter (fun a => f a = y) with
  | nil => exact .inl rfl
  | cons a rest =>
    rw [hl] at hfilter hmem
    cases rest with
    | nil => exact .inr ⟨a, (hmem a (by simp)).1, rfl⟩
    | cons b rest =>
      have hne := rel_of_pairwise_cons hfilter (mem_cons_self ..)
      exact absurd ((hmem a (by simp)).2.trans (hmem b (by simp)).2.symm) hne

end List

namespace Conform

/-! ## Outcomes up to the order of fields -/

/-- Outcomes that say the same of each field. The order of fields is left open, and so is which of
several faults is met first. -/
inductive Alike : Except Fault Report → Except Fault Report → Prop where
  | faults (fault other : Fault) : Alike (.error fault) (.error other)
  | reports {report other : Report} : report.fields.keys.Perm other.fields.keys →
      (∀ field, report.get? field = other.get? field) → Alike (.ok report) (.ok other)

namespace Log

/-- What is found has the same outcome when it is the same for each field. -/
theorem alike_of_filter_eq {a b : List (String × Objection)}
    (h : ∀ field, a.filter (·.1 = field) = b.filter (·.1 = field)) :
    Alike ((ofObjections a).map toReport) ((ofObjections b).map toReport) := by
  have hmem : ∀ e, e ∈ a ↔ e ∈ b := by
    intro e
    have hfilter : e ∈ a.filter (·.1 = e.1) ↔ e ∈ b.filter (·.1 = e.1) := by rw [h]
    simpa using hfilter
  have hok : (∃ log, ofObjections a = .ok log) ↔ ∃ log, ofObjections b = .ok log := by
    rw [exists_ofObjections_iff, exists_ofObjections_iff]
    simp only [hmem]
  cases ha : ofObjections a with
  | error fault =>
    cases hb : ofObjections b with
    | error other => exact .faults fault other
    | ok log => simp [ha, hb] at hok
  | ok log =>
    cases hb : ofObjections b with
    | error fault => simp [ha, hb] at hok
    | ok log' =>
      have hmessages : ∀ field, messages log field = messages log' field := by
        intro field
        have hfield := h field
        rw [ofObjections_eq_ok_iff.mp ha, ofObjections_eq_ok_iff.mp hb, List.filter_map,
          List.filter_map] at hfield
        have hinjective : Function.Injective fun e : String × String =>
            ((e.1, .ok e.2) : String × Objection) := by
          rintro ⟨k, text⟩ ⟨k', text'⟩ heq
          simpa using heq
        have hentries := List.map_injective_iff.mpr hinjective hfield
        exact congrArg (List.map (·.2)) hentries
      refine .reports ?_ fun field => by rw [get?_toReport, get?_toReport, hmessages]
      rw [keys_toReport, keys_toReport,
        List.perm_ext_iff_of_nodup (nodup_fields _) (nodup_fields _)]
      intro field
      rw [← messages_ne_nil_iff, ← messages_ne_nil_iff, hmessages]

end Log

/-! ## Names behind a path -/

namespace Path

/-- The segment that a path has where the segments of the base end. -/
def segmentAfter (base path : String) : Option String := (segments path)[(segments base).length]?

theorem segmentAfter_item (base : String) (i : Nat) (rest : String) :
    segmentAfter base (join (join base (toString i)) rest) = some (toString i) := by
  have hitem : segments (toString i) = [toString i] := segments_of_isPlain (isPlain_toString i)
  rw [segmentAfter, join_assoc, segments_join, segments_join, hitem,
    List.getElem?_append_right (Nat.le_refl _), Nat.sub_self]
  rfl

/-- Different items have different indices. -/
theorem pairwise_toString_zipIdx (items : List Value) :
    items.zipIdx.Pairwise fun x y => some (toString x.2) ≠ some (toString y.2) := by
  have hindices : items.zipIdx.Pairwise fun x y => x.2 ≠ y.2 := by
    rw [← List.pairwise_map, List.zipIdx_map_snd]
    exact List.nodup_range'
  exact hindices.imp fun hne heq => hne (toString_injective (Option.some.inj heq))

/-- Behind a wildcard, a pattern stands for what it stands for in each of the items. -/
theorem instances_join_wildcard {tree : Value} {base : String} {items : List Value}
    (hbase : IsDeclarable base) (hconcrete : ¬IsPattern base) (hindexable : tree.IsIndexable)
    (h : tree.resolve? base = some (.arr items)) (path : String) :
    instances tree (join (join base wildcard) path) = items.zipIdx.flatMap fun x =>
      (instances x.1 path).map (join (join base (toString x.2))) := by
  have hcount : tree.itemCount base = items.length := by rw [Value.itemCount, h]
  have hrange : List.range items.length = items.zipIdx.map (·.2) := by
    rw [List.zipIdx_map_snd, List.range_eq_range']
  have hplain : ∀ s ∈ segments base, IsPlain s := fun _ => isPlain_of_isDeclarable hbase
  rw [join_assoc, instances_join_eq tree hplain hconcrete, segments_join, segments_wildcard,
    List.singleton_append, instancesFrom, if_pos rfl, hcount, hrange, List.flatMap_map]
  refine List.flatMap_congr fun x hx => ?_
  have hresolve := Value.resolve?_join_toString hindexable h (List.mem_zipIdx_iff_getElem?.mp hx)
  have hjoin := instancesFrom_join hresolve "" (segments path)
  rwa [join_empty_right] at hjoin

end Path

/-! ## Where findings stand -/

theorem Schema.exists_join_of_mem_findings {finding : String × Objection} {path : String}
    {tree : Value} {schema : Schema} (h : finding ∈ schema.findings path tree) :
    ∃ rest, finding.1 = Path.join path rest := by
  obtain ⟨inner, hinner, -⟩ := Schema.reports_findings path tree schema
  rw [hinner] at h
  obtain ⟨entry, -, rfl⟩ := List.mem_map.mp h
  exact ⟨entry.1, rfl⟩

/-- What is found out about a declared field stands at its path or behind it. -/
theorem Shape.exists_join_of_mem_findings {finding : String × Objection} {path : String}
    {tree : Value} {field : String} {shape : Shape}
    (h : finding ∈ shape.findings path tree field) :
    ∃ rest, finding.1 = Path.join (Path.join path field) rest := by
  have hself : finding.1 = Path.join path field →
      ∃ rest, finding.1 = Path.join (Path.join path field) rest :=
    fun heq => ⟨"", by rw [heq, Path.join_empty_right]⟩
  cases shape with
  | rules chain =>
    rw [findings, Log.objectionsTo] at h
    obtain ⟨objection, -, rfl⟩ := List.mem_map.mp h
    exact hself rfl
  | nested nullable fields =>
    rw [findings] at h
    split at h
    · exact Schema.exists_join_of_mem_findings h
    all_goals
      apply hself
      cases nullable <;> simp_all
  | each fields =>
    rw [findings] at h
    split at h
    · obtain ⟨⟨item, i⟩, -, h⟩ := List.mem_flatMap.mp h
      obtain ⟨rest, hrest⟩ := Schema.exists_join_of_mem_findings h
      exact ⟨Path.join (toString i) rest, by rw [hrest, Path.join_assoc _ (toString i)]⟩
    · exact hself (by rw [List.mem_singleton.mp h])

/-! ## Fields behind a wildcard -/

namespace Schema

section

variable {tree : Value} {base : String} {items : List Value} (hbase : Path.IsDeclarable base)
  (hconcrete : ¬Path.IsPattern base) (hindexable : tree.IsIndexable)
  (h : tree.resolve? base = some (.arr items))

include hbase hconcrete hindexable h

theorem filter_concrete_under_wildcard (schema : Schema) (segment : Option String) :
    ((schema.under (Path.join base Path.wildcard)).concrete tree).filter
        (fun e => Path.segmentAfter base e.1 = segment) =
      schema.entries.flatMap fun e =>
        (items.zipIdx.filter fun x => some (toString x.2) = segment).flatMap fun x =>
          (Path.instances x.1 e.1).map fun path =>
            (Path.join (Path.join base (toString x.2)) path, e.2) := by
  rw [concrete, under, OrderedMap.rename, List.flatMap_map, List.filter_flatMap]
  refine List.flatMap_congr fun e _ => ?_
  rw [Path.instances_join_wildcard hbase hconcrete hindexable h, List.map_flatMap]
  simp only [List.map_map]
  refine List.filter_flatMap_of_forall fun x _ entry hentry => ?_
  obtain ⟨path, -, rfl⟩ := List.mem_map.mp hentry
  simp only [Function.comp_apply, Path.segmentAfter_item]

/-- The entries behind a wildcard that stand below one item are those of the item. -/
theorem filter_expand_under_wildcard (schema : Schema) (segment : Option String) :
    ((schema.under (Path.join base Path.wildcard)).expand tree).entries.filter
        (fun e => Path.segmentAfter base e.1 = segment) =
      (items.zipIdx.filter fun x => some (toString x.2) = segment).flatMap fun x =>
        ((schema.expand x.1).under (Path.join base (toString x.2))).entries := by
  rw [expand, OrderedMap.filter_insertAllWith (fun key => Path.segmentAfter base key = segment),
    filter_concrete_under_wildcard hbase hconcrete hindexable h]
  -- at most one item has the segment for its index
  rcases List.filter_eq_nil_or_singleton (Path.pairwise_toString_zipIdx items) segment with
    hnone | ⟨x, -, hone⟩
  · have hempty : (schema.entries.flatMap fun _ => ([] : List (String × Shape))) = [] :=
      List.flatMap_eq_nil_iff.mpr fun _ _ => rfl
    simp only [hnone, List.flatMap_nil]
    rw [hempty]
    rfl
  · have hitem : (schema.entries.flatMap fun e => (Path.instances x.1 e.1).map fun path =>
        (Path.join (Path.join base (toString x.2)) path, e.2)) =
          (schema.concrete x.1).map fun e =>
            (Path.join (Path.join base (toString x.2)) e.1, e.2) := by
      simp only [concrete, List.map_flatMap, List.map_map, Function.comp_def]
    simp only [hone, List.flatMap_singleton]
    rw [hitem, OrderedMap.insertAllWith_rename (Path.join_injective _)]
    rfl

/-- What an entry behind a wildcard finds stands below the same item as the entry. -/
theorem segmentAfter_of_mem_findings {schema : Schema} {e : String × Shape}
    (he : e ∈ ((schema.under (Path.join base Path.wildcard)).expand tree).entries)
    {finding : String × Objection} (hfinding : finding ∈ e.2.findings "" tree e.1) :
    Path.segmentAfter base finding.1 = Path.segmentAfter base e.1 := by
  have hkey := List.mem_map_of_mem (f := (·.1)) he
  rw [← OrderedMap.keys, keys_expand, List.mem_eraseDups] at hkey
  obtain ⟨key, hkey, hinstance⟩ := List.mem_flatMap.mp hkey
  rw [under, OrderedMap.keys_rename] at hkey
  obtain ⟨declared, -, rfl⟩ := List.mem_map.mp hkey
  rw [Path.instances_join_wildcard hbase hconcrete hindexable h] at hinstance
  obtain ⟨x, -, hx⟩ := List.mem_flatMap.mp hinstance
  obtain ⟨inner, -, hinner⟩ := List.mem_map.mp hx
  obtain ⟨rest, hrest⟩ := Shape.exists_join_of_mem_findings hfinding
  rw [hrest, Path.join_empty_left, ← hinner, Path.join_assoc (Path.join base _),
    Path.segmentAfter_item, Path.segmentAfter_item]

/-- Behind a wildcard and in the items one by one, the same is found below each item. -/
theorem filter_findings_under_wildcard {schema : Schema} (hrules : schema.IgnoresTree)
    (segment : Option String) :
    ((schema.under (Path.join base Path.wildcard)).findings "" tree).filter
        (fun finding => Path.segmentAfter base finding.1 = segment) =
      (items.zipIdx.flatMap fun x =>
        schema.findings (Path.join base (toString x.2)) x.1).filter
        (fun finding => Path.segmentAfter base finding.1 = segment) := by
  have hentry : ∀ e ∈ ((schema.under (Path.join base Path.wildcard)).expand tree).entries,
      ∀ finding ∈ e.2.findings "" tree e.1,
        decide (Path.segmentAfter base finding.1 = segment) =
          decide (Path.segmentAfter base e.1 = segment) := by
    intro e he finding hfinding
    rw [segmentAfter_of_mem_findings hbase hconcrete hindexable h he hfinding]
  have hitem : ∀ x ∈ items.zipIdx,
      ∀ finding ∈ schema.findings (Path.join base (toString x.2)) x.1,
        decide (Path.segmentAfter base finding.1 = segment) =
          decide (some (toString x.2) = segment) := by
    intro x _ finding hfinding
    obtain ⟨rest, hrest⟩ := exists_join_of_mem_findings hfinding
    rw [hrest, Path.segmentAfter_item]
  rw [findings_eq, List.filter_flatMap_of_forall hentry, List.filter_flatMap_of_forall hitem,
    filter_expand_under_wildcard hbase hconcrete hindexable h, List.flatMap_assoc]
  refine List.flatMap_congr fun x hx => ?_
  have hresolve := Value.resolve?_join_toString hindexable h
    (List.mem_zipIdx_iff_getElem?.mp (List.mem_filter.mp hx).1)
  rw [findings_entries_under hresolve "" hrules, Path.join_empty_left]

end

/-- A list block is the same schema as its fields behind a wildcard, wherever the path leads to a
list: either both meet a fault, or the reports differ in the order of fields at most. -/
theorem alike_collect_each {path : String} (hpath : Path.IsDeclarable path)
    (hconcrete : ¬Path.IsPattern path) {fields : Schema} (hrules : fields.IgnoresTree)
    {tree : Value} (hindexable : tree.IsIndexable) {items : List Value}
    (htree : tree.resolve? path = some (.arr items)) :
    Alike (Schema.collect ⟨[(path, .each fields)]⟩ tree)
      ((fields.under (Path.join path Path.wildcard)).collect tree) := by
  have hitems : Schema.findings "" tree ⟨[(path, .each fields)]⟩ =
      items.zipIdx.flatMap fun x => fields.findings (Path.join path (toString x.2)) x.1 := by
    rw [findings_singleton hpath hconcrete, Shape.findings, htree, Path.join_empty_left]
  rw [collect_eq_findings, collect_eq_findings, hitems]
  refine Log.alike_of_filter_eq fun field => ?_
  -- the findings of one field all stand below the same item
  have hfield : ∀ findings : List (String × Objection), findings.filter (·.1 = field) =
      (findings.filter fun finding => Path.segmentAfter path finding.1 =
        Path.segmentAfter path field).filter (·.1 = field) := by
    intro findings
    rw [List.filter_filter]
    refine List.filter_congr fun finding _ => ?_
    by_cases heq : finding.1 = field <;> simp [heq]
  rw [hfield, hfield ((fields.under _).findings "" tree),
    filter_findings_under_wildcard hpath hconcrete hindexable htree hrules]

theorem alike_collect_each_of_overlap :
    ∃ (path : String) (fields : Schema) (tree : Value) (items : List Value),
      Path.IsDeclarable path ∧ ¬Path.IsPattern path ∧ fields.IgnoresTree ∧ tree.IsIndexable ∧
      tree.resolve? path = some (.arr items) ∧
      Schema.collect ⟨[(path, .each fields)]⟩ tree =
        .ok (.ofList [("form.items.0.id", ["This field is required."]),
          ("form.items.0.tags.0", ["This field must be a string."]),
          ("form.items.1.id", ["This field is required."])]) ∧
      (fields.under (Path.join path Path.wildcard)).collect tree =
        .ok (.ofList [("form.items.0.id", ["This field is required."]),
          ("form.items.1.id", ["This field is required."]),
          ("form.items.0.tags.0", ["This field must be a string."])]) ∧
      Alike (Schema.collect ⟨[(path, .each fields)]⟩ tree)
        ((fields.under (Path.join path Path.wildcard)).collect tree) := by
  -- the block goes item by item, the patterns go entry by entry
  let fields : Schema := ⟨[("id", .rules { rules := [.required] }),
    ("tags.*", .rules { rules := [.string] }), ("tags.0", .rules { bail := true })]⟩
  let items : List Value := [.obj [("tags", .arr [.null])], .str "none"]
  have hpath : Path.IsDeclarable "form.items" := by decide
  have hconcrete : ¬Path.IsPattern "form.items" := by decide
  have hrules : fields.IgnoresTree := by
    have hrequired : Rule.required.IgnoresTree := fun _ _ _ _ => rfl
    have hstring : Rule.string.IgnoresTree := Rule.ignoresTree_ofPredicate _ _ _
    have hfirst : (Shape.rules { rules := [.required] }).IgnoresTree :=
      .rules (by simpa using hrequired)
    have hsecond : (Shape.rules { rules := [.string] }).IgnoresTree :=
      .rules (by simpa using hstring)
    have hthird : (Shape.rules { bail := true }).IgnoresTree := .rules (by simp)
    simpa [IgnoresTree, fields] using ⟨hfirst, hsecond, hthird⟩
  have hindexable : Value.IsIndexable (.obj [("form", .obj [("items", .arr items)])]) := by
    simp [items, Value.IsIndexable, Value.ItemsIndexable, Value.FieldsIndexable, Path.indexBound]
  have htree : Value.resolve? (.obj [("form", .obj [("items", .arr items)])]) "form.items" =
      some (.arr items) := rfl
  exact ⟨_, fields, _, items, hpath, hconcrete, hrules, hindexable, htree, by cbv, by cbv,
    alike_collect_each hpath hconcrete hrules hindexable htree⟩

end Schema

end Conform
