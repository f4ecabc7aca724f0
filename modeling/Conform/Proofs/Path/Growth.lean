import Conform.Proofs.OrderedMap
import Conform.Proofs.Path.Nodes
import Conform.Schema.Expand

/-!
# Trees that grow by a value

A tree grows when a value is put under a new key of one of its objects. A path leads to the same in
both trees unless it follows the steps to the added value. If the value is bare, no list is longer
than before and patterns have the same instances.
-/

namespace Conform.Value

/-- The second tree is the first one with a value added under a new key of one of its objects. The
steps lead to the added value. -/
inductive Grows (added : Value) : List String → Value → Value → Prop where
  | key {before after : List (String × Value)} {key : String} :
      key ∉ (before ++ after).map (·.1) →
      Grows added [key] (.obj (before ++ after)) (.obj (before ++ (key, added) :: after))
  | field {before after : List (String × Value)} {key : String} {child child' : Value}
      {steps : List String} : Grows added steps child child' →
      Grows added (key :: steps) (.obj (before ++ (key, child) :: after))
        (.obj (before ++ (key, child') :: after))
  | item {before after : List Value} {child child' : Value} {steps : List String} :
      Grows added steps child child' →
      Grows added (toString before.length :: steps) (.arr (before ++ child :: after))
        (.arr (before ++ child' :: after))

/-- How the value at a place of the tree differs: it is the added one, or it has grown itself. -/
inductive Differs (added : Value) : List String → Option Value → Value → Prop where
  | added : Differs added [] none added
  | grown {steps : List String} {node node' : Value} : Grows added steps node node' →
      Differs added steps (some node) node'

variable {added : Value}

/-- A bare value leads nowhere. -/
theorem IsBare.child? {value : Value} (h : value.IsBare) (segment : String) :
    value.child? segment = none := by
  cases value with
  | obj fields => rw [IsBare] at h; simp [h, Value.child?]
  | arr items => rw [IsBare] at h; cases hi : Path.index? segment <;> simp [h, Value.child?, hi]
  | _ => rfl

theorem lookup_insert_of_ne {before after : List (String × Value)} {key other : String}
    (h : other ≠ key) (value : Value) :
    (before ++ (key, value) :: after).lookup other = (before ++ after).lookup other := by
  have hne : (other == key) = false := by simpa using h
  simp [List.lookup_append, List.lookup_cons, hne]

theorem lookup_insert_self {before after : List (String × Value)} {key : String}
    (h : before.lookup key = none) (value : Value) :
    (before ++ (key, value) :: after).lookup key = some value := by
  simp [List.lookup_append, h]

theorem Follows.trans {tree inner node : Value} {segments steps segments' steps' : List String}
    (h : tree.Follows segments steps inner) (h' : inner.Follows segments' steps' node) :
    tree.Follows (segments ++ segments') (steps ++ steps') node := by
  induction h with
  | here => exact h'
  | field hlookup _ ih => exact .field hlookup (ih h')
  | item hi hitem _ ih => exact .item hi hitem (ih h')

theorem Follows.child? {tree node : Value} {segment step : String}
    (h : tree.Follows [segment] [step] node) : tree.child? segment = some node := by
  cases h with
  | field hlookup hend => cases hend; exact hlookup
  | item hi hitem hend => cases hend; rw [Value.child?, hi, Option.bind_some, hitem]

/-- What is put in one place of an object or a list is not seen from another place. -/
theorem Grows.child? {steps : List String} {tree tree' : Value}
    (h : Grows added steps tree tree') (segment : String) :
    tree.child? segment = tree'.child? segment ∨
      ∃ step rest node', steps = step :: rest ∧ tree'.Follows [segment] [step] node' ∧
        Differs added rest (tree.child? segment) node' := by
  cases h with
  | @key before after key hnew =>
    by_cases hkey : segment = key
    · subst hkey
      have hold : (before ++ after).lookup segment = none := List.lookup_eq_none_of_not_mem hnew
      have hbefore : before.lookup segment = none := by
        rw [List.lookup_append, Option.or_eq_none_iff] at hold
        exact hold.1
      refine .inr ⟨segment, [], added, rfl, .field (lookup_insert_self hbefore added) (.here _), ?_⟩
      rw [Value.child?, hold]
      exact .added
    · exact .inl (lookup_insert_of_ne hkey added).symm
  | @field before after key child child' steps h =>
    by_cases hkey : segment = key
    · subst hkey
      cases hbefore : before.lookup segment with
      | some first => exact .inl (by simp [Value.child?, List.lookup_append, hbefore])
      | none =>
        refine .inr ⟨segment, steps, child', rfl,
          .field (lookup_insert_self hbefore child') (.here _), ?_⟩
        rw [Value.child?, lookup_insert_self hbefore]
        exact .grown h
    · refine .inl ?_
      simp only [Value.child?, lookup_insert_of_ne hkey]
  | @item before after child child' steps h =>
    cases hindex : Path.index? segment with
    | none => exact .inl (by simp [Value.child?, hindex])
    | some i =>
      by_cases hi : i = before.length
      · subst hi
        refine .inr ⟨_, steps, child', rfl, .item hindex (by simp) (.here _), ?_⟩
        have hchild : (arr (before ++ child :: after)).child? segment = some child := by
          simp [Value.child?, hindex]
        rw [hchild]
        exact .grown h
      · refine .inl ?_
        simp only [Value.child?, hindex, Option.bind_some]
        grind

/-- A path leads to the same in both trees, or it takes steps that lead to the added value or to one
that has grown by it. -/
theorem Grows.resolve? (hbare : added.IsBare) {steps : List String} {tree tree' : Value}
    (h : Grows added steps tree tree') (path : String) :
    tree.resolve? path = tree'.resolve? path ∨
      ∃ front rest node', steps = front ++ rest ∧ tree'.Follows (Path.segments path) front node' ∧
        tree'.resolve? path = some node' ∧ Differs added rest (tree.resolve? path) node' := by
  simp only [Value.resolve?]
  generalize Path.segments path = segments
  induction segments generalizing tree tree' steps with
  | nil => exact .inr ⟨[], steps, tree', rfl, .here tree', rfl, .grown h⟩
  | cons segment more ih =>
    simp only [List.foldlM_cons]
    rcases h.child? segment with heq | ⟨step, rest, child', rfl, hstep, hdiffers⟩
    · exact .inl (by rw [heq])
    · rw [hstep.child?]
      generalize tree.child? segment = child? at hdiffers
      cases hdiffers with
      | added =>
        cases more with
        | nil => exact .inr ⟨[step], [], added, rfl, hstep, rfl, .added⟩
        | cons next more =>
          refine .inl ?_
          simp [hbare.child? next]
      | grown hgrows =>
        rcases ih hgrows with heq | ⟨front, rest, node', rfl, hfollows, hresolve, hdiffers⟩
        · exact .inl heq
        · exact .inr ⟨step :: front, rest, node', rfl, hstep.trans hfollows, hresolve, hdiffers⟩

/-- Growth by a bare value makes no list longer. -/
theorem Grows.itemCount (hbare : added.IsBare) {steps : List String} {tree tree' : Value}
    (h : Grows added steps tree tree') (path : String) :
    tree.itemCount path = tree'.itemCount path := by
  rcases h.resolve? hbare path with heq | ⟨front, rest, node', -, -, hnew, hdiffers⟩
  · rw [Value.itemCount, heq, Value.itemCount]
  · rw [Value.itemCount, Value.itemCount, hnew]
    generalize tree.resolve? path = node? at hdiffers
    cases hdiffers with
    | added =>
      cases added with
      | arr items => rw [IsBare] at hbare; rw [hbare]; rfl
      | _ => rfl
    | grown hgrows => cases hgrows <;> simp

end Conform.Value

namespace Conform.Schema

/-- Patterns stand for the same paths when all lists are as long as before. -/
theorem expand_congr {tree tree' : Value} (h : ∀ path, tree.itemCount path = tree'.itemCount path)
    (schema : Schema) : schema.expand tree = schema.expand tree' := by
  have hinstances : ∀ front segments,
      Path.instancesFrom tree front segments = Path.instancesFrom tree' front segments := by
    intro front segments
    induction segments generalizing front with
    | nil => rfl
    | cons segment rest ih => simp only [Path.instancesFrom, h, ih]
  simp only [expand, concrete, Path.instances, hinstances]

end Conform.Schema
