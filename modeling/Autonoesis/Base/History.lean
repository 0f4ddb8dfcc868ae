import Mathlib.Data.List.Basic
import Mathlib.Data.List.Chain

/-!
# Histories of calls

A history is a list of calls that a state takes one after the other. `Along` says
that something holds of every call and the state it is made in, and
`along_congr` exchanges one such property for another under an invariant.
-/

namespace Base

variable {σ ι : Type}

/-- The state after a history. -/
def after (step : σ → ι → σ) : σ → List ι → σ := List.foldl step

/-- Each call of the history, in the state it is made in, meets `P`. -/
def Along (step : σ → ι → σ) (P : σ → ι → Prop) : σ → List ι → Prop
  | _, [] => True
  | s, c :: rest => P s c ∧ Along step P (step s c) rest

instance Along.decidable (step : σ → ι → σ) (P : σ → ι → Prop) [∀ s c, Decidable (P s c)] :
    ∀ s calls, Decidable (Along step P s calls)
  | _, [] => inferInstanceAs (Decidable True)
  | s, c :: rest =>
    have := Along.decidable step P (step s c) rest
    inferInstanceAs (Decidable (P s c ∧ Along step P (step s c) rest))

variable {step : σ → ι → σ} {P Q Legal : σ → ι → Prop} {Inv : σ → Prop}

theorem along_of_forall (all : ∀ s c, P s c) (s : σ) (calls : List ι) : Along step P s calls := by
  induction calls generalizing s with
  | nil => trivial
  | cons c rest ih => exact ⟨all s c, ih (step s c)⟩

/-- Two properties agree on a legal history when they agree on each legal call from an
invariant state and the second keeps the invariant. -/
theorem along_congr
    (same : ∀ s c, Inv s → Legal s c → (P s c ↔ Q s c))
    (keeps : ∀ s c, Inv s → Legal s c → Q s c → Inv (step s c)) {s : σ} {calls : List ι}
    (inv : Inv s) (legal : Along step Legal s calls) :
    Along step P s calls ↔ Along step Q s calls := by
  induction calls generalizing s with
  | nil => rfl
  | cons c rest ih =>
    obtain ⟨here, later⟩ := legal
    have head := same s c inv here
    constructor
    · rintro ⟨p, along⟩
      have q := head.mp p
      exact ⟨q, (ih (keeps s c inv here q) later).mp along⟩
    · rintro ⟨q, along⟩
      exact ⟨head.mpr q, (ih (keeps s c inv here q) later).mpr along⟩

theorem along_and (step : σ → ι → σ) {s : σ} {calls : List ι} :
    Along step (fun s c => P s c ∧ Q s c) s calls ↔ Along step P s calls ∧ Along step Q s calls := by
  induction calls generalizing s with
  | nil => exact ⟨fun _ => ⟨trivial, trivial⟩, fun _ => trivial⟩
  | cons c rest ih =>
    simp only [Along, ih]
    exact ⟨fun ⟨⟨p, q⟩, ps, qs⟩ => ⟨⟨p, ps⟩, q, qs⟩, fun ⟨⟨p, ps⟩, q, qs⟩ => ⟨⟨p, q⟩, ps, qs⟩⟩

/-- What each legal call from an invariant state has, with the invariant kept, each call of a legal
history has. -/
theorem along_of_inv (each : ∀ s c, Inv s → Legal s c → P s c ∧ Inv (step s c)) {s : σ}
    {calls : List ι} (inv : Inv s) (legal : Along step Legal s calls) : Along step P s calls := by
  induction calls generalizing s with
  | nil => trivial
  | cons c rest ih =>
    obtain ⟨here, later⟩ := legal
    obtain ⟨head, kept⟩ := each s c inv here
    exact ⟨head, ih kept later⟩

/-- An invariant that each call keeps holds after any history. -/
theorem inv_after (Inv : σ → Prop) (keeps : ∀ s c, Inv s → Inv (step s c)) {s : σ}
    (inv : Inv s) (calls : List ι) : Inv (after step s calls) := by
  induction calls generalizing s with
  | nil => exact inv
  | cons c rest ih => exact ih (keeps s c inv)

/-! ## Calls in several steps -/

section
variable {passage : σ → ι → List σ} {R : σ → σ → Prop}

/-- The last of the states a call passes through, or the one it is made in. -/
def reached (passage : σ → ι → List σ) (s : σ) (c : ι) : σ := (passage s c).getLast?.getD s

/-- The states a history passes through. -/
def states (passage : σ → ι → List σ) : σ → List ι → List σ
  | _, [] => []
  | s, c :: rest => passage s c ++ states passage (reached passage s c) rest

/-- A relation holds from each state of a history to the next exactly when it does so within each
of its calls. -/
theorem isChain_states {s : σ} {calls : List ι} :
    (s :: states passage s calls).IsChain R ↔
      Along (reached passage) (fun s c => (s :: passage s c).IsChain R) s calls := by
  induction calls generalizing s with
  | nil => exact iff_of_true (.singleton s) trivial
  | cons c rest ih =>
    rw [states, Along, ← ih]
    obtain empty | ⟨front, last, passed⟩ := (passage s c).eq_nil_or_concat
    · have here : reached passage s c = s := by rw [reached, empty]; rfl
      rw [empty, here, List.nil_append]
      exact ⟨fun chain => ⟨.singleton s, chain⟩, And.right⟩
    · have there : reached passage s c = last := by rw [reached, passed]; simp
      rw [passed, there]
      simp only [List.concat_eq_append, List.append_assoc, List.singleton_append]
      exact List.isChain_cons_split

end

end Base
