import Mathlib.Data.List.Forall2

/-!
# Parts that may raise

A sequence returns when its parts do. A loop raises at one of its items, and has then got through
those before it.
-/

namespace Base

variable {ε α β σ : Type}

/-- A sequence returns when its first part does and the rest returns on that value. -/
theorem bind_eq_ok {x : Except ε α} {f : α → Except ε β} {b : β} :
    x >>= f = .ok b ↔ ∃ a, x = .ok a ∧ f a = .ok b := by
  cases x with
  | ok a => simp [bind, Except.bind]
  | error e => simp [bind, Except.bind]

theorem forM_eq_ok {f : α → Except ε PUnit} {items : List α} {u : PUnit} :
    items.forM f = .ok u ↔ ∀ a ∈ items, f a = .ok () := by
  induction items with
  | nil => simp [pure, Except.pure]
  | cons a rest ih =>
    change (f a >>= fun _ => rest.forM f) = .ok u ↔ _
    rw [bind_eq_ok, List.forall_mem_cons]
    constructor
    · rintro ⟨_, first, others⟩
      exact ⟨first, ih.mp others⟩
    · rintro ⟨first, others⟩
      exact ⟨(), first, ih.mpr others⟩

theorem mapM_eq_ok {f : α → Except ε β} {items : List α} {results : List β} :
    items.mapM f = .ok results ↔ List.Forall₂ (fun a b => f a = .ok b) items results := by
  induction items generalizing results with
  | nil => simp [pure, Except.pure, eq_comm]
  | cons a rest ih =>
    simp only [List.mapM_cons, bind_eq_ok, ih]
    constructor
    · rintro ⟨b, first, others, each, same⟩
      cases same
      exact .cons first each
    · rintro (_ | ⟨first, each⟩)
      exact ⟨_, first, _, each, rfl⟩

/-- Every result is that of an item. -/
theorem mapM_mem {f : α → Except ε β} {items : List α} {results : List β}
    (loop : items.mapM f = .ok results) : ∀ b ∈ results, ∃ a ∈ items, f a = .ok b := by
  have each := mapM_eq_ok.mp loop
  clear loop
  induction each with
  | nil =>
    intro b there
    cases there
  | cons first _ ih =>
    refine List.forall_mem_cons.mpr ⟨⟨_, List.mem_cons_self, first⟩, fun b there => ?_⟩
    obtain ⟨a, listed, done⟩ := ih b there
    exact ⟨a, List.mem_cons_of_mem _ listed, done⟩

theorem mapM_returns {f : α → Except ε β} {items : List α} :
    (∃ results, items.mapM f = .ok results) ↔ ∀ a ∈ items, ∃ b, f a = .ok b := by
  induction items with
  | nil => simp [pure, Except.pure]
  | cons a rest ih =>
    rw [List.forall_mem_cons, ← ih]
    simp only [List.mapM_cons, bind_eq_ok]
    constructor
    · rintro ⟨_, b, first, others, loop, _⟩
      exact ⟨⟨b, first⟩, others, loop⟩
    · rintro ⟨⟨b, first⟩, others, loop⟩
      exact ⟨_, b, first, others, loop, rfl⟩

theorem foldlM_error {step : σ → α → Except ε σ} {items : List α} {s : σ} {e : ε}
    (raised : items.foldlM step s = .error e) : ∃ before a after s',
      items = before ++ a :: after ∧ before.foldlM step s = .ok s' ∧ step s' a = .error e := by
  induction items generalizing s with
  | nil => cases raised
  | cons a rest ih =>
    rw [List.foldlM_cons] at raised
    cases first : step s a with
    | error e' =>
      rw [first] at raised
      cases raised
      exact ⟨[], a, rest, s, rfl, rfl, first⟩
    | ok s' =>
      rw [first] at raised
      obtain ⟨before, b, after, s'', rfl, ran, last⟩ := ih raised
      refine ⟨a :: before, b, after, s'', rfl, ?_, last⟩
      rw [List.foldlM_cons, first]
      exact ran

/-- A loop none of whose steps raises. -/
theorem foldlM_eq_foldl {step : σ → α → Except ε σ} {f : σ → α → σ} {items : List α}
    (each : ∀ a ∈ items, ∀ s, step s a = .ok (f s a)) (s : σ) :
    items.foldlM step s = .ok (items.foldl f s) := by
  induction items generalizing s with
  | nil => rfl
  | cons a rest ih =>
    obtain ⟨first, others⟩ := List.forall_mem_cons.mp each
    rw [List.foldlM_cons, first s]
    exact ih others (f s a)

end Base
