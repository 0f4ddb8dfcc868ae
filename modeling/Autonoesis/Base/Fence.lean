import Mathlib.Algebra.GroupWithZero.Nat
import Autonoesis.Base.Rely

/-!
# Fences

Any number of clients run the same program side by side, and one kind of call is to take effect
at most once among them all. It does when the call's own answer tells something that stays true
and that rules the call out from then on: a row that has been moved on cannot be moved there
again. No lock is held and nobody has to remember who was first.
-/

namespace Base

namespace Prog

variable {Req : Type} {Resp : Req → Type} {ε α β : Type}

/-- A step that asks no port leaves the history as it is. -/
theorem ensures_ofExcept_bind {P : List (Event Req Resp ε) → Req → Prop}
    {R : List (Event Req Resp ε) → α → Prop} {h : List (Event Req Resp ε)} {x : Except ε β}
    {f : β → Prog Req Resp ε α} (rest : ∀ b, x = .ok b → Ensures P R h (f b)) :
    Ensures P R h (ofExcept x >>= f) := by
  cases x with
  | ok b => exact rest b rfl
  | error e => exact ensures_raise

/-- A loop whose every round keeps what is known of the history. -/
theorem ensures_forM {P : List (Event Req Resp ε) → Req → Prop}
    {known : List (Event Req Resp ε) → Prop} {f : β → Prog Req Resp ε PUnit} {items : List β}
    {h : List (Event Req Resp ε)}
    (each : ∀ b h, known h → Ensures P (fun h' _ => known h') h (f b)) (start : known h) :
    Ensures P (fun h' _ => known h') h (items.forM f) := by
  induction items generalizing h with
  | nil => exact ensures_ret start
  | cons b rest ih => exact ensures_bind (each b h start) fun _ _ => ih

end Prog

namespace Pool

variable {σ κ Req : Type} {Resp : Req → Type} {ε α : Type} {sys : System σ κ Req Resp ε α}
  {ok : Pool σ Req Resp ε α → Label κ Req Resp ε α → Pool σ Req Resp ε α → Prop}
  {s₀ : σ} {w : Pool σ Req Resp ε α}

/-- What one effect tells rules out a second one, so there is no second one. -/
theorem Rely.once {P : List (Event Req Resp ε) → Req → Prop} {inv : σ → Prop}
    {tells : σ → Event Req Resp ε → Prop} {effect : Event Req Resp ε → Bool}
    (rely : Rely sys P inv tells) (start : inv s₀)
    (fenced : ∀ {s s' : σ} {h : List (Event Req Resp ε)} {r : Req} {ans : Except ε (Resp r)}
      {e : Event Req Resp ε}, inv s → (∀ e ∈ h, tells s e) → P h r → sys.answers s r ans s' →
        effect ⟨r, ans⟩ = true → effect e = true → ¬ tells s e)
    (reach : Reach sys ok s₀ w) : w.events.countP effect ≤ 1 := by
  induction reach with
  | init => simp [events]
  | next past move _ ih =>
    rw [move.countP_events]
    cases move with
    | start | crash | outside => simpa [Label.event?] using ih
    | @call i t r k ans s here alive next answered =>
      simp only [Label.event?, Option.toList_some, List.countP_singleton]
      by_cases again : effect ⟨r, ans⟩ = true
      · have thread := List.mem_of_getElem? here
        obtain ⟨p, starts, run⟩ := Reach.exec past thread
        rw [next] at run
        obtain ⟨holds, told⟩ := rely.reach start past
        have none : ∀ e ∈ events _, ¬ effect e = true := fun e there same =>
          fenced holds (fun e before => told e (mem_events_of_thread thread before))
            (Prog.conforms_exec (rely.starts p starts) run).1 answered again same (told e there)
        rw [List.countP_eq_zero.mpr none]
        split <;> omega
      · simpa [again] using ih

theorem le_sum_of_getElem {ns : List Nat} {i a : Nat} (here : ns[i]? = some a) : a ≤ ns.sum := by
  induction ns generalizing i with
  | nil => simp at here
  | cons n rest ih =>
    rw [List.sum_cons]
    cases i with
    | zero =>
      cases here
      exact Nat.le_add_right _ _
    | succ i => exact Nat.le_trans (ih here) (Nat.le_add_left _ _)

theorem add_le_sum_of_getElem {ns : List Nat} {i j a b : Nat} (other : i < j)
    (here : ns[i]? = some a) (there : ns[j]? = some b) : a + b ≤ ns.sum := by
  induction ns generalizing i j with
  | nil => simp at here
  | cons n rest ih =>
    obtain ⟨j, rfl⟩ := Nat.exists_eq_succ_of_ne_zero (Nat.ne_zero_of_lt other)
    rw [List.getElem?_cons_succ] at there
    rw [List.sum_cons]
    cases i with
    | zero =>
      cases here
      exact Nat.add_le_add_left (le_sum_of_getElem there) _
    | succ i =>
      exact Nat.le_trans (ih (Nat.lt_of_succ_lt_succ other) here there) (Nat.le_add_left _ _)

/-- An effect that has happened once has happened in one thread. -/
theorem eq_of_once {effect : Event Req Resp ε → Bool} (once : w.events.countP effect ≤ 1)
    {i j : Nat} {t u : Thread Req Resp ε α} (here : w.threads[i]? = some t)
    (there : w.threads[j]? = some u) (first : ∃ e ∈ t.past, effect e = true)
    (second : ∃ e ∈ u.past, effect e = true) : i = j := by
  have many {i j : Nat} {t u : Thread Req Resp ε α} (other : i < j)
      (here : w.threads[i]? = some t) (there : w.threads[j]? = some u) :
      t.past.countP effect + u.past.countP effect ≤ w.events.countP effect := by
    rw [events, List.countP_flatMap]
    exact add_le_sum_of_getElem other (by simp [here]) (by simp [there])
  have some_ := List.countP_pos_iff.mpr first
  have more := List.countP_pos_iff.mpr second
  rcases Nat.lt_trichotomy i j with before | same | after
  · have := many before here there
    omega
  · exact same
  · have := many after there here
    omega

end Pool

end Base
