/-!
# Maps that remember insertion order

An `OrderedMap` lists its entries in the order in which their keys first arrived. Writing to a key
that is present changes its value in place and moves nothing; a new key goes to the end.
-/

namespace Conform

structure OrderedMap (α : Type) where
  entries : List (String × α)

namespace OrderedMap

variable {α β : Type}

instance : EmptyCollection (OrderedMap α) := ⟨⟨[]⟩⟩

instance : Inhabited (OrderedMap α) := ⟨∅⟩

def keys (m : OrderedMap α) : List String := m.entries.map (·.1)

def values (m : OrderedMap α) : List α := m.entries.map (·.2)

def size (m : OrderedMap α) : Nat := m.entries.length

def isEmpty (m : OrderedMap α) : Bool := m.entries.isEmpty

def get? (m : OrderedMap α) (key : String) : Option α := m.entries.lookup key

def contains (m : OrderedMap α) (key : String) : Bool := (m.get? key).isSome

/-- No key occurs twice. Every map built from `∅` by `insertWith` has this property. -/
def Distinct (m : OrderedMap α) : Prop := m.keys.Nodup

/-- Writes `value` under `key`; a value that is already there becomes `merge old value`. -/
def insertWith (merge : α → α → α) (m : OrderedMap α) (key : String) (value : α) : OrderedMap α :=
  ⟨go m.entries⟩
where
  go : List (String × α) → List (String × α)
    | [] => [(key, value)]
    | (k, old) :: rest => if k = key then (k, merge old value) :: rest else (k, old) :: go rest

/-- Writes `value` under `key`, replacing what is there. -/
def insert (m : OrderedMap α) (key : String) (value : α) : OrderedMap α :=
  m.insertWith (fun _ new => new) key value

/-- Writes the entries one after another. -/
def insertAllWith (merge : α → α → α) (m : OrderedMap α) (entries : List (String × α)) :
    OrderedMap α :=
  entries.foldl (fun m e => m.insertWith merge e.1 e.2) m

def map (f : α → β) (m : OrderedMap α) : OrderedMap β := ⟨m.entries.map fun e => (e.1, f e.2)⟩

/-! ## Size, for recursion through the values of a map -/

theorem sizeOf_lt_of_mem [SizeOf α] {m : OrderedMap α} {e : String × α} (h : e ∈ m.entries) :
    sizeOf e.2 < sizeOf m := by
  have inner := List.sizeOf_lt_of_mem h
  obtain ⟨entries⟩ := m
  obtain ⟨key, value⟩ := e
  simp only [OrderedMap.mk.sizeOf_spec, Prod.mk.sizeOf_spec] at *
  omega

/-! ## What a write does to the view -/

@[simp] theorem keys_empty : (∅ : OrderedMap α).keys = [] := rfl

@[simp] theorem entries_empty : (∅ : OrderedMap α).entries = [] := rfl

@[simp] theorem get?_empty (key : String) : (∅ : OrderedMap α).get? key = none := rfl

theorem keys_insertWith (merge : α → α → α) (m : OrderedMap α) (key : String) (value : α) :
    (m.insertWith merge key value).keys = if key ∈ m.keys then m.keys else m.keys ++ [key] := by
  obtain ⟨entries⟩ := m
  simp only [keys, insertWith]
  induction entries with
  | nil => simp [insertWith.go]
  | cons e rest ih =>
    obtain ⟨k, old⟩ := e
    by_cases h : k = key
    · simp [insertWith.go, h]
    · have h' : ¬key = k := fun eq => h eq.symm
      by_cases present : key ∈ rest.map (·.1)
      · simp [insertWith.go, h, h', ih, present]
      · simp [insertWith.go, h, h', ih, present]

theorem get?_insertWith_self (merge : α → α → α) (m : OrderedMap α) (key : String) (value : α) :
    (m.insertWith merge key value).get? key =
      some (match m.get? key with | some old => merge old value | none => value) := by
  obtain ⟨entries⟩ := m
  simp only [get?, insertWith]
  induction entries with
  | nil => simp [insertWith.go]
  | cons e rest ih =>
    obtain ⟨k, old⟩ := e
    by_cases h : k = key
    · simp [insertWith.go, h]
    · have h' : (key == k) = false := by simpa using fun eq => h eq.symm
      simp [insertWith.go, h, List.lookup_cons, h', ih]

theorem get?_insertWith_of_ne (merge : α → α → α) (m : OrderedMap α) {key other : String}
    (value : α) (h : other ≠ key) : (m.insertWith merge key value).get? other = m.get? other := by
  obtain ⟨entries⟩ := m
  simp only [get?, insertWith]
  induction entries with
  | nil =>
    have h' : (other == key) = false := by simpa using h
    simp [insertWith.go, List.lookup_cons, h']
  | cons e rest ih =>
    obtain ⟨k, old⟩ := e
    by_cases hk : k = key
    · have h' : (other == key) = false := by simpa using h
      simp [insertWith.go, hk, List.lookup_cons, h']
    · simp [insertWith.go, hk, List.lookup_cons, ih]

theorem Distinct.empty : (∅ : OrderedMap α).Distinct := List.nodup_nil

theorem Distinct.insertWith {merge : α → α → α} {m : OrderedMap α} (h : m.Distinct) (key : String)
    (value : α) : (m.insertWith merge key value).Distinct := by
  rw [Distinct, keys_insertWith]
  split
  · exact h
  · rename_i absent
    refine List.nodup_append.mpr ⟨h, by simp, ?_⟩
    intro a ha b hb
    simp only [List.mem_singleton] at hb
    rintro rfl
    exact absent (hb ▸ ha)

end OrderedMap

end Conform
