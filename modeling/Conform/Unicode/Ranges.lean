/-!
# Ranges of code points

A set of code points can be listed as ranges. In their canonical list the ranges ascend, and there
is a gap before each but the first. Every list can be brought into that form (`canonical_ofList`,
`contains_ofList`), and the operations on sets keep it (`contains_compl`, `contains_diff`).
-/

namespace Conform.Unicode

/-- The code points from `first` to `last`. -/
structure Range where
  first : Nat
  last : Nat
deriving DecidableEq, Repr

namespace Range

def contains (r : Range) (n : Nat) : Bool := r.first ≤ n && n ≤ r.last

end Range

namespace Ranges

def contains (ranges : List Range) (n : Nat) : Bool := ranges.any (·.contains n)

/-- Joins ascending ranges between which there is no gap. -/
def join : List Range → List Range
  | r :: s :: ranges =>
    if s.first ≤ r.last + 1 then join (⟨r.first, max r.last s.last⟩ :: ranges)
    else r :: join (s :: ranges)
  | ranges => ranges
termination_by ranges => ranges.length

/-- The canonical list of ranges that may come in any order and overlap. -/
def ofList (ranges : List Range) : List Range :=
  join ((ranges.filter fun r => r.first ≤ r.last).mergeSort fun r s => r.first ≤ s.first)

def union (ranges others : List Range) : List Range := ofList (ranges ++ others)

/-- The code points from `start` on that are in none of the ranges. -/
def gapsFrom (start : Nat) : List Range → List Range
  | [] => if start ≤ 0x10FFFF then [⟨start, 0x10FFFF⟩] else []
  | r :: ranges =>
    if start < r.first then ⟨start, r.first - 1⟩ :: gapsFrom (r.last + 1) ranges
    else gapsFrom (r.last + 1) ranges

/-- All other code points. -/
def compl (ranges : List Range) : List Range := gapsFrom 0 ranges

def diff (ranges others : List Range) : List Range := compl (union (compl ranges) others)

def inter (ranges others : List Range) : List Range := diff ranges (compl others)

def symmDiff (ranges others : List Range) : List Range :=
  union (diff ranges others) (diff others ranges)

/-- The code points that are characters: surrogates are not. -/
def characters (ranges : List Range) : List Range := diff ranges [⟨0xD800, 0xDFFF⟩]

/-! ## Lemmas -/

/-- The ranges hold something each, and ascend with gaps between them. -/
structure Canonical (ranges : List Range) : Prop where
  proper : ∀ r ∈ ranges, r.first ≤ r.last
  apart : ranges.Pairwise fun r s => r.last + 1 < s.first

theorem contains_nil {n : Nat} : contains [] n = false := rfl

theorem contains_cons {r : Range} {ranges : List Range} {n : Nat} :
    contains (r :: ranges) n = (r.contains n || contains ranges n) := rfl

/-- A range that takes in the one behind it still holds something. -/
theorem proper_joined {r s : Range} {ranges : List Range}
    (proper : ∀ t, t = r ∨ t = s ∨ t ∈ ranges → t.first ≤ t.last) :
    ∀ t ∈ (⟨r.first, max r.last s.last⟩ : Range) :: ranges, t.first ≤ t.last := by
  intro t inside
  rcases List.mem_cons.mp inside with rfl | inside
  · exact Nat.le_trans (proper r (.inl rfl)) (Nat.le_max_left ..)
  · exact proper t (.inr (.inr inside))

/-- Ranges that ascend keep their code points when they are joined. -/
theorem contains_join {ranges : List Range} {n : Nat}
    (ascending : ranges.Pairwise fun r s => r.first ≤ s.first)
    (proper : ∀ r ∈ ranges, r.first ≤ r.last) :
    contains (join ranges) n = contains ranges n := by
  fun_induction join ranges with
  | case1 r s ranges touching ih =>
    simp only [List.pairwise_cons, List.mem_cons] at ascending proper
    rw [ih (by simp_all) (proper_joined proper)]
    simp only [contains_cons, Range.contains, ← Bool.or_assoc]
    congr 1
    have := ascending.1 s (.inl rfl)
    have := proper r (.inl rfl)
    have := proper s (.inr (.inl rfl))
    rw [Bool.eq_iff_iff]
    simp only [Bool.and_eq_true, Bool.or_eq_true, decide_eq_true_eq]
    omega
  | case2 r s ranges apart ih =>
    rw [List.pairwise_cons] at ascending
    rw [contains_cons, ih ascending.2 fun t inside => proper t (.tail _ inside)]
    rfl
  | case3 => rfl

/-- Joining leaves no range without a gap before it. -/
theorem canonical_join {ranges : List Range}
    (ascending : ranges.Pairwise fun r s => r.first ≤ s.first)
    (proper : ∀ r ∈ ranges, r.first ≤ r.last) :
    Canonical (join ranges) ∧ ∀ t ∈ join ranges, ∃ r ∈ ranges, r.first = t.first := by
  fun_induction join ranges with
  | case1 r s ranges touching ih =>
    simp only [List.pairwise_cons, List.mem_cons] at ascending proper
    obtain ⟨canonical, firsts⟩ := ih (by simp_all) (proper_joined proper)
    refine ⟨canonical, fun t inside => ?_⟩
    obtain ⟨u, inside, eq⟩ := firsts t inside
    rcases List.mem_cons.mp inside with rfl | inside
    · exact ⟨r, by simp, eq⟩
    · exact ⟨u, by simp [inside], eq⟩
  | case2 r s ranges apart ih =>
    rw [List.pairwise_cons] at ascending
    obtain ⟨canonical, firsts⟩ := ih ascending.2 fun t inside => proper t (.tail _ inside)
    refine ⟨⟨?_, List.pairwise_cons.mpr ⟨fun t inside => ?_, canonical.apart⟩⟩, fun t inside => ?_⟩
    · simp only [List.mem_cons, forall_eq_or_imp]
      exact ⟨proper r (by simp), canonical.proper⟩
    · obtain ⟨u, inside, eq⟩ := firsts t inside
      have := List.pairwise_cons.mp ascending.2
      rcases List.mem_cons.mp inside with rfl | inside
      · omega
      · have := this.1 u inside
        omega
    · rcases List.mem_cons.mp inside with rfl | inside
      · exact ⟨t, by simp, rfl⟩
      · obtain ⟨u, inside, eq⟩ := firsts t inside
        exact ⟨u, .tail _ inside, eq⟩
  | case3 ranges short =>
    refine ⟨⟨proper, ?_⟩, fun t inside => ⟨t, inside, rfl⟩⟩
    match ranges with
    | [] => exact .nil
    | [r] => simp
    | r :: s :: ranges => exact absurd rfl (short r s ranges)

/-- Sorting brings ranges into ascending order. -/
theorem pairwise_sorted (ranges : List Range) :
    (ranges.mergeSort fun r s => r.first ≤ s.first).Pairwise fun r s => r.first ≤ s.first := by
  refine (List.pairwise_mergeSort ?_ ?_ ranges).imp of_decide_eq_true
  · intro r s t hrs hst
    rw [decide_eq_true_eq] at *
    omega
  · intro r s
    rw [Bool.or_eq_true, decide_eq_true_eq, decide_eq_true_eq]
    omega

theorem contains_ofList {ranges : List Range} {n : Nat} :
    contains (ofList ranges) n = contains ranges n := by
  rw [ofList, contains_join]
  · rw [Bool.eq_iff_iff]
    simp only [contains, List.any_eq_true, List.mem_mergeSort, List.mem_filter, Range.contains,
      Bool.and_eq_true, decide_eq_true_eq]
    exact ⟨fun ⟨r, ⟨inside, _⟩, bounds⟩ => ⟨r, inside, bounds⟩,
      fun ⟨r, inside, bounds⟩ => ⟨r, ⟨inside, by omega⟩, bounds⟩⟩
  · exact pairwise_sorted _
  · simp

theorem contains_gapsFrom {start n : Nat} {ranges : List Range} (small : n ≤ 0x10FFFF)
    (canonical : Canonical ranges) (later : ∀ r ∈ ranges, start ≤ r.first) :
    contains (gapsFrom start ranges) n = (decide (start ≤ n) && !contains ranges n) := by
  induction ranges generalizing start with
  | nil =>
    simp only [gapsFrom, contains_nil]
    split <;> simp [contains, Range.contains] <;> omega
  | cons r ranges ih =>
    obtain ⟨proper, apart⟩ := canonical
    rw [List.pairwise_cons] at apart
    simp only [List.mem_cons, forall_eq_or_imp] at proper later
    have ih := @ih (r.last + 1) ⟨proper.2, apart.2⟩
      fun s inside => Nat.le_of_lt (apart.1 s inside)
    have beyond : contains ranges n = true → r.last < n := by
      simp only [contains, List.any_eq_true, Range.contains, Bool.and_eq_true, decide_eq_true_eq]
      rintro ⟨s, inside, bounds⟩
      have := apart.1 s inside
      omega
    rw [gapsFrom, Bool.eq_iff_iff]
    split <;>
      simp only [contains_cons, ih, Range.contains, Bool.or_eq_true, Bool.and_eq_true,
        Bool.not_eq_true', Bool.or_eq_false_iff, Bool.and_eq_false_iff, decide_eq_true_eq,
        decide_eq_false_iff_not] <;>
      cases member : contains ranges n <;> simp_all <;> omega

/-- The gaps are canonical, and none begins before `start`. -/
theorem canonical_gapsFrom {start : Nat} {ranges : List Range} (canonical : Canonical ranges)
    (later : ∀ r ∈ ranges, start ≤ r.first) :
    Canonical (gapsFrom start ranges) ∧ ∀ t ∈ gapsFrom start ranges, start ≤ t.first := by
  induction ranges generalizing start with
  | nil =>
    rw [gapsFrom]
    split
    · exact ⟨⟨by simpa, by simp⟩, by simp⟩
    · exact ⟨⟨by simp, .nil⟩, by simp⟩
  | cons r ranges ih =>
    obtain ⟨proper, apart⟩ := canonical
    rw [List.pairwise_cons] at apart
    simp only [List.mem_cons, forall_eq_or_imp] at proper later
    obtain ⟨rest, begins⟩ := @ih (r.last + 1) ⟨proper.2, apart.2⟩
      fun s inside => Nat.le_of_lt (apart.1 s inside)
    rw [gapsFrom]
    split
    · refine ⟨⟨?_, List.pairwise_cons.mpr ⟨fun t inside => ?_, rest.apart⟩⟩, ?_⟩
      · simp only [List.mem_cons, forall_eq_or_imp]
        exact ⟨by omega, rest.proper⟩
      · have := begins t inside
        simp only
        omega
      · simp only [List.mem_cons, forall_eq_or_imp]
        exact ⟨Nat.le_refl _, fun t inside => by have := begins t inside; omega⟩
    · exact ⟨rest, fun t inside => by have := begins t inside; omega⟩

theorem canonical_ofList (ranges : List Range) : Canonical (ofList ranges) := by
  refine (canonical_join ?_ ?_).1
  · exact pairwise_sorted _
  · simp

theorem canonical_union (ranges others : List Range) : Canonical (union ranges others) :=
  canonical_ofList _

theorem canonical_compl {ranges : List Range} (canonical : Canonical ranges) :
    Canonical (compl ranges) := (canonical_gapsFrom canonical fun _ _ => Nat.zero_le _).1

/-- The complement has exactly the other code points. -/
theorem contains_compl {n : Nat} {ranges : List Range} (small : n ≤ 0x10FFFF)
    (canonical : Canonical ranges) : contains (compl ranges) n = !contains ranges n := by
  rw [compl, contains_gapsFrom small canonical fun _ _ => Nat.zero_le _]
  simp

theorem contains_union {n : Nat} {ranges others : List Range} :
    contains (union ranges others) n = (contains ranges n || contains others n) := by
  rw [union, contains_ofList, contains, List.any_append, contains, contains]

theorem contains_diff {n : Nat} {ranges others : List Range} (small : n ≤ 0x10FFFF)
    (canonical : Canonical ranges) :
    contains (diff ranges others) n = (contains ranges n && !contains others n) := by
  rw [diff, contains_compl small (canonical_union _ _), contains_union,
    contains_compl small canonical]
  simp

theorem canonical_diff (ranges others : List Range) : Canonical (diff ranges others) :=
  canonical_compl (canonical_union _ _)

end Ranges

end Conform.Unicode
