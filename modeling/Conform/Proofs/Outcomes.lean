import Mathlib.Data.List.Forall2

/-!
# Outcomes

When the errors of a run are mapped, its steps are the same with their errors mapped.

A list is gone through element by element, and the first error ends the run. The outcome of the run
is told by those of the elements: all results in order, or the error of the first element that has
one.
-/

namespace Except

variable {ε ε' α β : Type}

theorem mapError_map (f : ε → ε') (g : α → β) (outcome : Except ε α) :
    (outcome.map g).mapError f = (outcome.mapError f).map g := by
  cases outcome <;> rfl

theorem mapError_bind (f : ε → ε') (g : α → Except ε β) (outcome : Except ε α) :
    (outcome.bind g).mapError f = (outcome.mapError f).bind fun a => (g a).mapError f := by
  cases outcome <;> rfl

end Except

namespace List

variable {ε α β γ : Type}

theorem Forall₂.exists_of_mem_right {r : α → β → Prop} {xs : List α} {ys : List β}
    (h : Forall₂ r xs ys) {y : β} (hy : y ∈ ys) : ∃ x ∈ xs, r x y := by
  induction h with
  | nil => cases hy
  | @cons x _ rest _ hxy _ ih =>
    rcases mem_cons.mp hy with rfl | hy
    · exact ⟨x, mem_cons_self .., hxy⟩
    · obtain ⟨x', hx', hr⟩ := ih hy
      exact ⟨x', mem_cons_of_mem _ hx', hr⟩

theorem mapM_eq_ok_iff {f : α → Except ε β} {xs : List α} {ys : List β} :
    xs.mapM f = .ok ys ↔ Forall₂ (fun x y => f x = .ok y) xs ys := by
  induction xs generalizing ys with
  | nil => cases ys <;> simp [pure, Except.pure]
  | cons x rest ih =>
    rw [mapM_cons, forall₂_cons_left_iff]
    cases hx : f x with
    | error error => simp [bind, Except.bind]
    | ok y =>
      cases hrest : rest.mapM f with
      | error error => simp [bind, Except.bind, ← ih, hrest]
      | ok others => simp [bind, Except.bind, pure, Except.pure, ← ih, hrest, eq_comm]

theorem exists_mapM_eq_ok_iff {f : α → Except ε β} {xs : List α} :
    (∃ ys, xs.mapM f = .ok ys) ↔ ∀ x ∈ xs, ∃ y, f x = .ok y := by
  simp only [mapM_eq_ok_iff]
  induction xs with
  | nil => simp
  | cons x rest ih =>
    rw [forall_mem_cons, ← ih]
    constructor
    · rintro ⟨_, hys⟩
      obtain ⟨y, others, hy, hothers, rfl⟩ := forall₂_cons_left_iff.mp hys
      exact ⟨⟨y, hy⟩, others, hothers⟩
    · rintro ⟨⟨y, hy⟩, others, hothers⟩
      exact ⟨y :: others, .cons hy hothers⟩

/-- The error of a run is that of the first element that has one. -/
theorem mapM_eq_error_iff {f : α → Except ε β} {xs : List α} {error : ε} :
    xs.mapM f = .error error ↔
      ∃ before x after, xs = before ++ x :: after ∧ (∀ y ∈ before, ∃ z, f y = .ok z) ∧
        f x = .error error := by
  induction xs with
  | nil => simp [pure, Except.pure]
  | cons x rest ih =>
    rw [mapM_cons]
    constructor
    · intro h
      cases hx : f x with
      | error first =>
        rw [hx] at h
        cases h
        exact ⟨[], x, rest, rfl, by simp, hx⟩
      | ok y =>
        have hrest : rest.mapM f = .error error := by
          cases hrest : rest.mapM f <;> simp_all [bind, Except.bind, pure, Except.pure]
        obtain ⟨before, x', after, rfl, hbefore, hx'⟩ := ih.mp hrest
        exact ⟨x :: before, x', after, rfl, by simpa using ⟨⟨y, hx⟩, hbefore⟩, hx'⟩
    · rintro ⟨before, x', after, hsplit, hbefore, hx'⟩
      cases before with
      | nil =>
        obtain ⟨rfl, rfl⟩ := cons.inj hsplit
        rw [hx']
        rfl
      | cons first before =>
        obtain ⟨rfl, htail⟩ := cons.inj hsplit
        obtain ⟨y, hx⟩ := hbefore x (mem_cons_self ..)
        have hrest := ih.mpr ⟨before, x', after, htail,
          fun z hz => hbefore z (mem_cons_of_mem _ hz), hx'⟩
        rw [hx, hrest]
        rfl

/-- A run that adds each result to what it has adds up the list of results. -/
theorem foldlM_map_eq_mapM (f : α → Except ε β) (add : γ → β → γ) (start : γ) (xs : List α) :
    xs.foldlM (fun total x => (f x).map (add total)) start =
      (xs.mapM f).map (·.foldl add start) := by
  induction xs generalizing start with
  | nil => rfl
  | cons x rest ih =>
    rw [foldlM_cons, mapM_cons]
    cases f x with
    | error error => rfl
    | ok y =>
      change rest.foldlM _ (add start y) = _
      rw [ih]
      cases rest.mapM f <;> rfl

/-- Runs whose steps agree when errors are mapped agree themselves when errors are mapped. -/
theorem mapError_foldlM_congr {f g : γ → α → Except ε γ} {h : ε → β}
    (hstep : ∀ total x, (f total x).mapError h = (g total x).mapError h) (start : γ)
    (xs : List α) : (xs.foldlM f start).mapError h = (xs.foldlM g start).mapError h := by
  induction xs generalizing start with
  | nil => rfl
  | cons x rest ih =>
    rw [foldlM_cons, foldlM_cons]
    have hfirst := hstep start x
    cases hf : f start x with
    | error error =>
      cases hg : g start x with
      | error other => rwa [hf, hg] at hfirst
      | ok next => rw [hf, hg] at hfirst; cases hfirst
    | ok next =>
      cases hg : g start x with
      | error error => rw [hf, hg] at hfirst; cases hfirst
      | ok other =>
        rw [hf, hg] at hfirst
        cases hfirst
        exact ih next

/-- What every step keeps is kept by a run. -/
theorem foldlM_preserves {f : γ → α → Except ε γ} {p : γ → Prop} {start last : γ} {xs : List α}
    (hf : ∀ total x next, p total → f total x = .ok next → p next) (hstart : p start)
    (h : xs.foldlM f start = .ok last) : p last := by
  induction xs generalizing start with
  | nil =>
    cases h
    exact hstart
  | cons x rest ih =>
    rw [foldlM_cons] at h
    cases hnext : f start x with
    | error error => rw [hnext] at h; cases h
    | ok next =>
      rw [hnext] at h
      exact ih (hf start x next hstart hnext) h

end List
