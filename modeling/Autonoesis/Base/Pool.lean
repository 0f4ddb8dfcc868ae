import Mathlib.Data.List.Perm.Basic
import Autonoesis.Base.Prog

/-!
# Interleaved programs over shared state

Any number of programs run side by side and are scheduled at their port calls: a
call changes the shared state and answers in one step. A call that stays in
flight is a thread that is not scheduled again until later, and a crash in the
middle of one is a crash before or after that step, so both are covered. The
shared state may also change on its own, by commands from outside.

`Steps` are the schedules, under a condition on each step, and `Reach` what they
reach when nothing has been started.
-/

namespace Base

/-- One program in progress, with its answered calls. -/
structure Thread (Req : Type) (Resp : Req → Type) (ε α : Type) where
  prog : Prog Req Resp ε α
  past : List (Event Req Resp ε) := []
  alive : Bool := true

/-- Which programs may start, how ports answer, and what else moves the state. -/
structure System (σ κ Req : Type) (Resp : Req → Type) (ε α : Type) where
  starts : Prog Req Resp ε α → Prop
  answers : σ → (r : Req) → Except ε (Resp r) → σ → Prop
  outside : σ → κ → σ → Prop

structure Pool (σ Req : Type) (Resp : Req → Type) (ε α : Type) where
  shared : σ
  threads : List (Thread Req Resp ε α) := []

namespace Pool

inductive Label (κ Req : Type) (Resp : Req → Type) (ε α : Type) where
  | start (p : Prog Req Resp ε α)
  | call (i : Nat) (e : Event Req Resp ε)
  | crash (i : Nat)
  | outside (c : κ)

variable {σ κ Req : Type} {Resp : Req → Type} {ε α : Type}

/-- The call a step answers, if it answers one. -/
def Label.event? : Label κ Req Resp ε α → Option (Event Req Resp ε)
  | call _ e => some e
  | _ => none

inductive Move (sys : System σ κ Req Resp ε α) (w : Pool σ Req Resp ε α) :
    Label κ Req Resp ε α → Pool σ Req Resp ε α → Prop
  | start {p : Prog Req Resp ε α} (starts : sys.starts p) :
      Move sys w (.start p) { w with threads := w.threads ++ [⟨p, [], true⟩] }
  | call {i : Nat} {t : Thread Req Resp ε α} {r : Req}
      {k : Except ε (Resp r) → Prog Req Resp ε α} {ans : Except ε (Resp r)} {s : σ}
      (here : w.threads[i]? = some t) (alive : t.alive = true) (next : t.prog = .call r k)
      (answered : sys.answers w.shared r ans s) :
      Move sys w (.call i ⟨r, ans⟩)
        ⟨s, w.threads.set i ⟨k ans, t.past ++ [⟨r, ans⟩], true⟩⟩
  | crash {i : Nat} {t : Thread Req Resp ε α} (here : w.threads[i]? = some t) :
      Move sys w (.crash i) { w with threads := w.threads.set i { t with alive := false } }
  | outside {c : κ} {s : σ} (moved : sys.outside w.shared c s) :
      Move sys w (.outside c) { w with shared := s }

/-- The schedules from `w₀` whose steps all meet `ok`, which sees the step and the pools
before and after it. -/
inductive Steps (sys : System σ κ Req Resp ε α)
    (ok : Pool σ Req Resp ε α → Label κ Req Resp ε α → Pool σ Req Resp ε α → Prop)
    (w₀ : Pool σ Req Resp ε α) : Pool σ Req Resp ε α → Prop
  | init : Steps sys ok w₀ w₀
  | next {w w' : Pool σ Req Resp ε α} {l : Label κ Req Resp ε α} (past : Steps sys ok w₀ w)
      (move : Move sys w l w') (legal : ok w l w') : Steps sys ok w₀ w'

/-- What schedules reach from `s₀` with no program started. -/
abbrev Reach (sys : System σ κ Req Resp ε α)
    (ok : Pool σ Req Resp ε α → Label κ Req Resp ε α → Pool σ Req Resp ε α → Prop) (s₀ : σ)
    (w : Pool σ Req Resp ε α) : Prop :=
  Steps sys ok { shared := s₀ } w

/-- Every answered call of the pool. -/
def events (w : Pool σ Req Resp ε α) : List (Event Req Resp ε) := w.threads.flatMap (·.past)

variable {sys : System σ κ Req Resp ε α} {w w' : Pool σ Req Resp ε α}
  {l : Label κ Req Resp ε α}

theorem flatMap_set_perm {ts : List (Thread Req Resp ε α)} {i : Nat}
    {t t' : Thread Req Resp ε α} {new : List (Event Req Resp ε)} (here : ts[i]? = some t)
    (grown : t'.past = t.past ++ new) :
    ((ts.set i t').flatMap (·.past)).Perm (new ++ ts.flatMap (·.past)) := by
  induction ts generalizing i with
  | nil => simp at here
  | cons u rest ih =>
    cases i with
    | zero =>
      simp only [List.getElem?_cons_zero, Option.some.injEq] at here
      subst here
      simp only [List.set_cons_zero, List.flatMap_cons, grown, List.append_assoc]
      rw [← List.append_assoc, ← List.append_assoc]
      exact List.perm_append_comm.append_right _
    | succ i =>
      simp only [List.getElem?_cons_succ] at here
      simp only [List.set_cons_succ, List.flatMap_cons]
      refine ((ih here).append_left u.past).trans ?_
      rw [← List.append_assoc, ← List.append_assoc]
      exact List.perm_append_comm.append_right _

/-- A step adds the call it answers to the events, and nothing else. -/
theorem Move.events_perm (move : Move sys w l w') :
    w'.events.Perm (l.event?.toList ++ w.events) := by
  cases move with
  | start => simp [events, Label.event?]
  | call here => exact flatMap_set_perm here rfl
  | crash here => exact flatMap_set_perm here (List.append_nil _).symm
  | outside => rfl

theorem Move.countP_events (move : Move sys w l w') (f : Event Req Resp ε → Bool) :
    w'.events.countP f = l.event?.toList.countP f + w.events.countP f := by
  rw [move.events_perm.countP_eq f, List.countP_append]

theorem Move.mem_events (move : Move sys w l w') {e : Event Req Resp ε} :
    e ∈ w'.events ↔ l.event? = some e ∨ e ∈ w.events := by
  rw [move.events_perm.mem_iff, List.mem_append, Option.mem_toList]

theorem mem_events_of_thread {t : Thread Req Resp ε α} (there : t ∈ w.threads)
    {e : Event Req Resp ε} (past : e ∈ t.past) : e ∈ w.events :=
  List.mem_flatMap.mpr ⟨t, there, past⟩

/-- A thread after a step is a new one, an old one, or the one that was answered. -/
theorem Move.thread_cases (move : Move sys w l w') {t : Thread Req Resp ε α}
    (there : t ∈ w'.threads) :
    (∃ p, sys.starts p ∧ l = .start p ∧ t = ⟨p, [], true⟩) ∨
    (∃ u ∈ w.threads, t.prog = u.prog ∧ t.past = u.past ∧ (t.alive = true → u.alive = true)) ∨
    (∃ u ∈ w.threads, ∃ i r k ans, u.alive = true ∧ u.prog = .call r k ∧ l = .call i ⟨r, ans⟩ ∧
      t = ⟨k ans, u.past ++ [⟨r, ans⟩], true⟩) := by
  cases move with
  | start starts =>
    rcases List.mem_append.mp there with old | new
    · exact Or.inr (Or.inl ⟨t, old, rfl, rfl, id⟩)
    · exact Or.inl ⟨_, starts, rfl, List.mem_singleton.mp new⟩
  | call here alive next =>
    rcases List.mem_or_eq_of_mem_set there with old | new
    · exact Or.inr (Or.inl ⟨t, old, rfl, rfl, id⟩)
    · exact Or.inr (Or.inr ⟨_, List.mem_of_getElem? here, _, _, _, _, alive, next, rfl, new⟩)
  | crash here =>
    rcases List.mem_or_eq_of_mem_set there with old | new
    · exact Or.inr (Or.inl ⟨t, old, rfl, rfl, id⟩)
    · refine Or.inr (Or.inl ⟨_, List.mem_of_getElem? here, by rw [new], by rw [new], ?_⟩)
      rw [new]
      nofun
  | outside => exact Or.inr (Or.inl ⟨t, there, rfl, rfl, id⟩)

variable {ok : Pool σ Req Resp ε α → Label κ Req Resp ε α → Pool σ Req Resp ε α → Prop} {s₀ : σ}
  {w₀ : Pool σ Req Resp ε α}

/-- Every thread is a run of a program that was started. -/
theorem Reach.exec (reach : Reach sys ok s₀ w) {t : Thread Req Resp ε α}
    (there : t ∈ w.threads) : ∃ p, sys.starts p ∧ Prog.Exec p t.past t.prog := by
  induction reach generalizing t with
  | init => simp at there
  | next _ move _ ih =>
    obtain ⟨p, starts, _, rfl⟩ | ⟨u, old, prog, past, _⟩ | ⟨u, old, i, r, k, ans, _, next, _, rfl⟩ :=
      move.thread_cases there
    · exact ⟨p, starts, .start p⟩
    · rw [prog, past]
      exact ih old
    · obtain ⟨p, starts, run⟩ := ih old
      rw [next] at run
      exact ⟨p, starts, run.step ans⟩

theorem Steps.trans (first : Steps sys ok w₀ w) (later : Steps sys ok w w') :
    Steps sys ok w₀ w' := by
  induction later with
  | init => exact first
  | next _ move legal ih => exact ih.next move legal

/-- The end of a schedule, to go on from. -/
theorem Steps.stay (_ : Steps sys ok w₀ w) : Steps sys ok w w := .init

/-- Thread `i` crashes. -/
def halt (i : Nat) (w : Pool σ Req Resp ε α) : Pool σ Req Resp ε α :=
  match w.threads[i]? with
  | some t => { w with threads := w.threads.set i { t with alive := false } }
  | none => w

theorem Steps.halt (reach : Steps sys ok w₀ w) (i : Nat)
    (legal : ∀ w w', ok w (.crash i) w') : Steps sys ok w₀ (w.halt i) := by
  unfold Pool.halt
  split
  · rename_i here
    exact reach.next (.crash here) (legal _ _)
  · exact reach

/-- Schedule thread `i` for up to `n` calls, answered by `handle`. -/
def advance (handle : σ → (r : Req) → Except ε (Resp r) × σ) (i : Nat) :
    Nat → Pool σ Req Resp ε α → Pool σ Req Resp ε α
  | 0, w => w
  | n + 1, w =>
    match w.threads[i]? with
    | some ⟨.call r k, past, true⟩ =>
      let ans := (handle w.shared r).1
      advance handle i n
        ⟨(handle w.shared r).2, w.threads.set i ⟨k ans, past ++ [⟨r, ans⟩], true⟩⟩
    | _ => w

/-- Whether every step of `advance` passes a check. -/
def advanceMeets (check : Pool σ Req Resp ε α → Event Req Resp ε → Pool σ Req Resp ε α → Bool)
    (handle : σ → (r : Req) → Except ε (Resp r) × σ) (i : Nat) :
    Nat → Pool σ Req Resp ε α → Bool
  | 0, _ => true
  | n + 1, w =>
    match w.threads[i]? with
    | some ⟨.call r k, past, true⟩ =>
      let ans := (handle w.shared r).1
      let w' : Pool σ Req Resp ε α :=
        ⟨(handle w.shared r).2, w.threads.set i ⟨k ans, past ++ [⟨r, ans⟩], true⟩⟩
      check w ⟨r, ans⟩ w' && advanceMeets check handle i n w'
    | _ => true

theorem Steps.advance_of_meets {handle : σ → (r : Req) → Except ε (Resp r) × σ}
    {check : Pool σ Req Resp ε α → Event Req Resp ε → Pool σ Req Resp ε α → Bool}
    (answers : ∀ s r, sys.answers s r (handle s r).1 (handle s r).2) (i : Nat)
    (legal : ∀ w e w', check w e w' = true → ok w (.call i e) w') {n : Nat}
    (reach : Steps sys ok w₀ w) (met : w.advanceMeets check handle i n = true) :
    Steps sys ok w₀ (w.advance handle i n) := by
  induction n generalizing w with
  | zero => exact reach
  | succ n ih =>
    unfold Pool.advanceMeets at met
    unfold Pool.advance
    split at met
    · rename_i r k past here
      simp only [Bool.and_eq_true] at met
      exact ih (reach.next (.call here rfl rfl (answers w.shared r)) (legal _ _ _ met.1)) met.2
    · exact reach

/-- Any steps of one thread are reached when all of them are legal. -/
theorem Steps.advance {handle : σ → (r : Req) → Except ε (Resp r) × σ}
    (answers : ∀ s r, sys.answers s r (handle s r).1 (handle s r).2) (i : Nat)
    (legal : ∀ w e w', ok w (.call i e) w') (n : Nat) (reach : Steps sys ok w₀ w) :
    Steps sys ok w₀ (w.advance handle i n) := by
  have all : ∀ (n : Nat) (w : Pool σ Req Resp ε α),
      w.advanceMeets (fun _ _ _ => true) handle i n = true := by
    intro n
    induction n with
    | zero => exact fun _ => rfl
    | succ n ih =>
      intro w
      unfold Pool.advanceMeets
      split
      · rw [Bool.true_and]
        exact ih _
      · rfl
  exact reach.advance_of_meets answers i (fun w e w' _ => legal w e w') (all n w)

end Pool

end Base
