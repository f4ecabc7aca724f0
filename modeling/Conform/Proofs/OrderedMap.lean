import Conform.OrderedMap
import Mathlib.Data.List.Induction

/-!
# Order and contents of ordered maps

Entries written one after another into an ordered map leave its keys in the order in which they
first arrived, and under each key the merge of all values that were written there.
-/

/-! ## First occurrences -/

namespace List

theorem flatMap_eq_append_cons {α β : Type} {f : α → List β} {xs : List α} {before after : List β}
    {b : β} (h : xs.flatMap f = before ++ b :: after) :
    ∃ ys x zs front back, xs = ys ++ x :: zs ∧ f x = front ++ b :: back ∧
      before = ys.flatMap f ++ front := by
  induction xs generalizing before with
  | nil => simp at h
  | cons x rest ih =>
    rw [flatMap_cons] at h
    rcases append_eq_append_iff.mp h with ⟨tail, rfl, htail⟩ | ⟨tail, hx, htail⟩
    · obtain ⟨ys, y, zs, front, back, rfl, hy, rfl⟩ := ih htail
      exact ⟨x :: ys, y, zs, front, back, rfl, hy, by simp⟩
    · cases tail with
      | nil =>
        obtain ⟨ys, y, zs, front, back, rfl, hy, hbefore⟩ := @ih [] htail.symm
        refine ⟨x :: ys, y, zs, front, back, rfl, hy, ?_⟩
        rw [flatMap_cons, append_assoc, ← hbefore, hx, append_nil, append_nil]
      | cons c tail =>
        obtain ⟨rfl, -⟩ := cons.inj htail
        exact ⟨[], x, rest, before, tail, rfl, hx, rfl⟩

theorem lookup_eq_none_of_not_mem {α β : Type} [BEq α] [LawfulBEq α] {entries : List (α × β)}
    {key : α} (h : key ∉ entries.map (·.1)) : entries.lookup key = none := by
  rw [lookup_eq_none_iff]
  rintro ⟨other, value⟩ hmem
  have hne : key ≠ other := fun heq => h (heq ▸ mem_map_of_mem hmem)
  simpa using hne

variable {α β : Type} [BEq α] [LawfulBEq α] [BEq β] [LawfulBEq β]

theorem eraseDups_concat (l : List α) (a : α) :
    (l ++ [a]).eraseDups = if a ∈ l then l.eraseDups else l.eraseDups ++ [a] := by
  rw [eraseDups_append]
  by_cases h : a ∈ l <;> simp [removeAll, h, eraseDups_cons]

theorem nodup_eraseDups (l : List α) : l.eraseDups.Nodup := by
  induction l using List.reverseRecOn with
  | nil => simp
  | append_singleton l a ih =>
    rw [eraseDups_concat]
    split
    · exact ih
    · rename_i h
      refine nodup_append.mpr ⟨ih, by simp, ?_⟩
      intro b hb c hc
      rw [mem_singleton.mp hc]
      rintro rfl
      exact h (mem_eraseDups.mp hb)

theorem eraseDups_filter (p : α → Bool) (l : List α) :
    (l.filter p).eraseDups = l.eraseDups.filter p := by
  induction l using List.reverseRecOn with
  | nil => rfl
  | append_singleton l a ih =>
    rw [filter_append, eraseDups_concat]
    by_cases hp : p a <;> by_cases ha : a ∈ l <;>
      simp [hp, ha, ih, eraseDups_concat, mem_filter]

theorem eraseDups_map {f : α → β} (hf : Function.Injective f) (l : List α) :
    (l.map f).eraseDups = l.eraseDups.map f := by
  induction l using List.reverseRecOn with
  | nil => rfl
  | append_singleton l a ih =>
    have hmem : f a ∈ l.map f ↔ a ∈ l := by simp [mem_map, hf.eq_iff]
    rw [map_append, map_singleton, eraseDups_concat, eraseDups_concat]
    by_cases ha : a ∈ l <;> simp [hmem, ha, ih]

/-- The order of first occurrences: what stands before an element occurred before it did. -/
theorem pairwise_eraseDups (l : List α) :
    l.eraseDups.Pairwise fun a b =>
      ∃ before after, l = before ++ b :: after ∧ b ∉ before ∧ a ∈ before := by
  induction l using List.reverseRecOn with
  | nil => simp
  | append_singleton l c ih =>
    have hold : l.eraseDups.Pairwise fun a b =>
        ∃ before after, l ++ [c] = before ++ b :: after ∧ b ∉ before ∧ a ∈ before := by
      refine ih.imp ?_
      rintro a b ⟨before, after, rfl, hb, ha⟩
      exact ⟨before, after ++ [c], by simp, hb, ha⟩
    rw [eraseDups_concat]
    split
    · exact hold
    · rename_i hc
      refine pairwise_append.mpr ⟨hold, by simp, ?_⟩
      intro a ha b hb
      rw [mem_singleton.mp hb]
      exact ⟨l, [], rfl, hc, mem_eraseDups.mp ha⟩

end List

/-! ## Writing many entries -/

namespace Conform.OrderedMap

variable {α : Type}

theorem insertAllWith_concat (merge : α → α → α) (m : OrderedMap α) (entries : List (String × α))
    (e : String × α) :
    m.insertAllWith merge (entries ++ [e]) =
      (m.insertAllWith merge entries).insertWith merge e.1 e.2 := by
  simp [insertAllWith]

theorem keys_insertAllWith (merge : α → α → α) (entries : List (String × α)) :
    ((∅ : OrderedMap α).insertAllWith merge entries).keys = (entries.map (·.1)).eraseDups := by
  induction entries using List.reverseRecOn with
  | nil => rfl
  | append_singleton entries e ih =>
    rw [insertAllWith_concat, keys_insertWith, ih, List.map_append, List.map_singleton,
      List.eraseDups_concat]
    simp only [List.mem_eraseDups]

/-- Values merged in order, the first one first. -/
def mergeAll (merge : α → α → α) : List α → Option α
  | [] => none
  | first :: rest => some (rest.foldl merge first)

/-- The values that entries hold for a key. -/
def valuesAt (key : String) (entries : List (String × α)) : List α :=
  (entries.filter (·.1 = key)).map (·.2)

theorem get?_insertAllWith (merge : α → α → α) (entries : List (String × α)) (key : String) :
    ((∅ : OrderedMap α).insertAllWith merge entries).get? key =
      mergeAll merge (valuesAt key entries) := by
  induction entries using List.reverseRecOn with
  | nil => rfl
  | append_singleton entries e ih =>
    rw [insertAllWith_concat]
    by_cases h : e.1 = key
    · subst h
      have hvalues : valuesAt e.1 (entries ++ [e]) = valuesAt e.1 entries ++ [e.2] := by
        simp [valuesAt]
      rw [get?_insertWith_self, ih, hvalues]
      cases valuesAt e.1 entries <;> simp [mergeAll]
    · rw [get?_insertWith_of_ne _ _ _ (Ne.symm h), ih]
      simp [valuesAt, h]

/-- What holds of values and is kept by merging holds of what is merged from them. -/
theorem forall_mergeAll {merge : α → α → α} {p : α → Prop}
    (hmerge : ∀ a b, p a → p b → p (merge a b)) {values : List α} (h : ∀ a ∈ values, p a) {a : α}
    (ha : mergeAll merge values = some a) : p a := by
  cases values with
  | nil => cases ha
  | cons first rest =>
    obtain rfl := Option.some.inj ha
    have hfirst := h first (List.mem_cons_self ..)
    have hrest : ∀ b ∈ rest, p b := fun b hb => h b (List.mem_cons_of_mem _ hb)
    clear h ha
    induction rest generalizing first with
    | nil => exact hfirst
    | cons b rest ih =>
      exact ih (merge first b) (hmerge _ _ hfirst (hrest b (by simp))) fun c hc =>
        hrest c (by simp [hc])

theorem get?_of_mem {m : OrderedMap α} (h : m.Distinct) {e : String × α} (he : e ∈ m.entries) :
    m.get? e.1 = some e.2 := by
  obtain ⟨entries⟩ := m
  rw [Distinct, keys] at h
  rw [get?]
  induction entries with
  | nil => simp at he
  | cons first rest ih =>
    obtain ⟨key, value⟩ := first
    rw [List.map_cons, List.nodup_cons] at h
    rcases List.mem_cons.mp he with rfl | he
    · simp
    · have hkey : e.1 ∈ rest.map (·.1) := List.mem_map_of_mem he
      have hne : e.1 ≠ key := fun eq => h.1 (eq ▸ hkey)
      rw [List.lookup_cons, beq_false_of_ne hne]
      exact ih h.2 he

theorem mem_of_get? {m : OrderedMap α} {key : String} {value : α} (h : m.get? key = some value) :
    (key, value) ∈ m.entries := by
  obtain ⟨before, after, hentries, -⟩ := List.lookup_eq_some_iff.mp h
  simp [hentries]

theorem insertWith_of_not_mem (merge : α → α → α) {m : OrderedMap α} {key : String} (value : α)
    (h : key ∉ m.keys) : m.insertWith merge key value = ⟨m.entries ++ [(key, value)]⟩ := by
  obtain ⟨entries⟩ := m
  simp only [insertWith]
  congr 1
  induction entries with
  | nil => rfl
  | cons e rest ih =>
    simp only [keys, List.map_cons, List.mem_cons, not_or] at h
    have hne : e.1 ≠ key := fun eq => h.1 eq.symm
    simp [insertWith.go, hne, ih h.2]

/-- Entries with distinct keys are written as they are. -/
theorem insertAllWith_of_distinct (merge : α → α → α) {m : OrderedMap α} (h : m.Distinct) :
    (∅ : OrderedMap α).insertAllWith merge m.entries = m := by
  obtain ⟨entries⟩ := m
  induction entries using List.reverseRecOn with
  | nil => rfl
  | append_singleton entries e ih =>
    rw [Distinct, keys, List.map_append, List.map_singleton] at h
    obtain ⟨hentries, _, hne⟩ := List.nodup_append.mp h
    have hnew : e.1 ∉ entries.map (·.1) := fun mem => hne e.1 mem e.1 (by simp) rfl
    rw [insertAllWith_concat, ih hentries, insertWith_of_not_mem _ _ hnew]

/-- Entries that stand in front of a map have no part in a write to another key. -/
theorem insertWith_append (merge : α → α → α) {before : List (String × α)} (m : OrderedMap α)
    {key : String} (value : α) (h : key ∉ before.map (·.1)) :
    (⟨before ++ m.entries⟩ : OrderedMap α).insertWith merge key value =
      ⟨before ++ (m.insertWith merge key value).entries⟩ := by
  simp only [insertWith]
  congr 1
  induction before with
  | nil => rfl
  | cons e rest ih =>
    rw [List.map_cons, List.mem_cons, not_or] at h
    rw [List.cons_append, insertWith.go, if_neg (Ne.symm h.1), ih h.2, List.cons_append]

/-- Entries under new keys make a map of their own behind the one that they are written to. -/
theorem insertAllWith_of_not_mem (merge : α → α → α) {m : OrderedMap α}
    {entries : List (String × α)} (h : ∀ e ∈ entries, e.1 ∉ m.keys) :
    m.insertAllWith merge entries =
      ⟨m.entries ++ ((∅ : OrderedMap α).insertAllWith merge entries).entries⟩ := by
  induction entries using List.reverseRecOn with
  | nil => simp [insertAllWith]
  | append_singleton entries e ih =>
    have he : e.1 ∉ m.keys := h e (by simp)
    rw [insertAllWith_concat, insertAllWith_concat, ih fun x hx => h x (by simp [hx])]
    exact insertWith_append merge _ e.2 he

/-- What holds of the old entries, of a new one and of an old one after a merge holds of all entries
after a write. -/
theorem forall_mem_insertWith {merge : α → α → α} {p : String × α → Prop} {m : OrderedMap α}
    {key : String} {value : α} (h : ∀ e ∈ m.entries, p e) (hnew : p (key, value))
    (hmerge : ∀ old, p (key, old) → p (key, merge old value)) :
    ∀ e ∈ (m.insertWith merge key value).entries, p e := by
  obtain ⟨entries⟩ := m
  simp only [insertWith] at h ⊢
  induction entries with
  | nil => simpa [insertWith.go] using hnew
  | cons first rest ih =>
    obtain ⟨hfirst, hrest⟩ := List.forall_mem_cons.mp h
    rw [insertWith.go]
    split
    · rename_i hkey
      subst hkey
      exact List.forall_mem_cons.mpr ⟨hmerge _ hfirst, hrest⟩
    · exact List.forall_mem_cons.mpr ⟨hfirst, ih hrest⟩

/-- A value that is written replaces at most one entry. -/
theorem mem_insert {m : OrderedMap α} {key : String} {value : α}
    {e : String × α} (h : e ∈ (m.insert key value).entries) : e ∈ m.entries ∨ e.2 = value :=
  forall_mem_insertWith (p := fun e => e ∈ m.entries ∨ e.2 = value) (fun _ he => .inl he)
    (.inr rfl) (fun _ _ => .inr rfl) e h

/-- A value that is written under a key that is there takes the place of the old one. -/
theorem entries_insert_of_distinct {m : OrderedMap α} (h : m.Distinct) {key : String} {old : α}
    {before after : List (String × α)} (hentries : m.entries = before ++ (key, old) :: after)
    (value : α) : (m.insert key value).entries = before ++ (key, value) :: after := by
  obtain ⟨entries⟩ := m
  subst hentries
  rw [Distinct, keys, List.map_append, List.nodup_append] at h
  have hkey : key ∉ before.map (·.1) := fun hmem => h.2.2 key hmem key (by simp) rfl
  have hwrite := insertWith_append (fun _ new => new) ⟨(key, old) :: after⟩ value hkey
  rw [insert, hwrite]
  simp [insertWith, insertWith.go]

/-! ## Changing all values -/

theorem map_insertWith {f : α → β} {merge : α → α → α} {merge' : β → β → β}
    (hf : ∀ a b, f (merge a b) = merge' (f a) (f b)) (m : OrderedMap α) (key : String)
    (value : α) :
    (m.insertWith merge key value).map f = (m.map f).insertWith merge' key (f value) := by
  obtain ⟨entries⟩ := m
  simp only [map, insertWith]
  congr 1
  induction entries with
  | nil => rfl
  | cons e rest ih => by_cases h : e.1 = key <;> simp [insertWith.go, h, hf, ih]

/-- Values may be changed before or after they are written, if merging follows the change. -/
theorem map_insertAllWith {f : α → β} {merge : α → α → α} {merge' : β → β → β}
    (hf : ∀ a b, f (merge a b) = merge' (f a) (f b)) (entries : List (String × α)) :
    ((∅ : OrderedMap α).insertAllWith merge entries).map f =
      (∅ : OrderedMap β).insertAllWith merge' (entries.map fun e => (e.1, f e.2)) := by
  induction entries using List.reverseRecOn with
  | nil => rfl
  | append_singleton entries e ih =>
    rw [List.map_append, List.map_singleton, insertAllWith_concat, insertAllWith_concat,
      map_insertWith hf, ih]

/-! ## Renaming and selecting keys -/

/-- The map with every key renamed. -/
def rename (name : String → String) (m : OrderedMap α) : OrderedMap α :=
  ⟨m.entries.map fun e => (name e.1, e.2)⟩

@[simp] theorem keys_rename (name : String → String) (m : OrderedMap α) :
    (m.rename name).keys = m.keys.map name := by
  simp [keys, rename, Function.comp_def]

theorem insertWith_rename {name : String → String} (hn : Function.Injective name)
    (merge : α → α → α) (m : OrderedMap α) (key : String) (value : α) :
    (m.rename name).insertWith merge (name key) value =
      (m.insertWith merge key value).rename name := by
  obtain ⟨entries⟩ := m
  simp only [rename, insertWith]
  congr 1
  induction entries with
  | nil => rfl
  | cons e rest ih =>
    by_cases h : e.1 = key
    · simp [insertWith.go, h]
    · simp [insertWith.go, h, hn.eq_iff, ih]

/-- Entries under other names make the same map under other names, if different keys stay
different. -/
theorem insertAllWith_rename {name : String → String} (hn : Function.Injective name)
    (merge : α → α → α) (entries : List (String × α)) :
    (∅ : OrderedMap α).insertAllWith merge (entries.map fun e => (name e.1, e.2)) =
      ((∅ : OrderedMap α).insertAllWith merge entries).rename name := by
  induction entries using List.reverseRecOn with
  | nil => rfl
  | append_singleton entries e ih =>
    rw [List.map_append, List.map_singleton, insertAllWith_concat, insertAllWith_concat, ih,
      insertWith_rename hn]

theorem filter_insertWith (p : String → Bool) (merge : α → α → α) (m : OrderedMap α) (key : String)
    (value : α) :
    (m.insertWith merge key value).entries.filter (fun e => p e.1) =
      if p key then
        ((⟨m.entries.filter fun e => p e.1⟩ : OrderedMap α).insertWith merge key value).entries
      else m.entries.filter fun e => p e.1 := by
  obtain ⟨entries⟩ := m
  simp only [insertWith]
  induction entries with
  | nil => cases h : p key <;> simp [insertWith.go, h]
  | cons e rest ih =>
    by_cases hkey : e.1 = key
    · subst hkey
      cases h : p e.1 <;> simp [insertWith.go, h]
    · cases h : p e.1 <;> cases h' : p key <;> simp_all [insertWith.go]

/-- The entries under certain keys are those that are written under these keys. -/
theorem filter_insertAllWith (p : String → Bool) (merge : α → α → α)
    (entries : List (String × α)) :
    ((∅ : OrderedMap α).insertAllWith merge entries).entries.filter (fun e => p e.1) =
      ((∅ : OrderedMap α).insertAllWith merge (entries.filter fun e => p e.1)).entries := by
  induction entries using List.reverseRecOn with
  | nil => rfl
  | append_singleton entries e ih =>
    rw [insertAllWith_concat, filter_insertWith, ih, List.filter_append]
    cases h : p e.1 with
    | true => simp [h, insertAllWith_concat]
    | false => simp [h]

end Conform.OrderedMap
