import Autonoesis.Base.Pool

/-!
# What answered calls tell

Programs side by side over a shared state, each of which knows the state only by the answers it
has got. `Rely` says when what an answer tells stays true: the answer makes it so, and every later
step, of this program, of another one or from outside, keeps it. A call may rest on what the
answers before it have told its own program.
-/

namespace Base

variable {σ κ Req : Type} {Resp : Req → Type} {ε α : Type}

theorem Prog.Exec.trans {p q r : Prog Req Resp ε α} {h h' : List (Event Req Resp ε)}
    (first : Exec p h q) (later : Exec q h' r) : Exec p (h ++ h') r := by
  induction later with
  | start => simpa using first
  | step _ ans ih =>
    rw [← List.append_assoc]
    exact ih.step ans

namespace Pool

variable {sys : System σ κ Req Resp ε α}
  {ok : Pool σ Req Resp ε α → Label κ Req Resp ε α → Pool σ Req Resp ε α → Prop}
  {s₀ : σ} {w w₀ w' : Pool σ Req Resp ε α} {l : Label κ Req Resp ε α}

/-- `tells s e`: what the answered call `e` tells is true of the state `s`. -/
structure Rely (sys : System σ κ Req Resp ε α) (P : List (Event Req Resp ε) → Req → Prop)
    (inv : σ → Prop) (tells : σ → Event Req Resp ε → Prop) : Prop where
  starts : ∀ p, sys.starts p → Prog.Conforms P (fun _ _ => True) [] p
  answered : ∀ {s s' : σ} {h : List (Event Req Resp ε)} {r : Req} {ans : Except ε (Resp r)},
    inv s → (∀ e ∈ h, tells s e) → P h r → sys.answers s r ans s' →
      inv s' ∧ tells s' ⟨r, ans⟩ ∧ ∀ e, tells s e → tells s' e
  outside : ∀ {s s' : σ} {c : κ}, inv s → sys.outside s c s' →
    inv s' ∧ ∀ e, tells s e → tells s' e

section
variable {P : List (Event Req Resp ε) → Req → Prop} {inv : σ → Prop}
  {tells : σ → Event Req Resp ε → Prop}

/-- What one step keeps. -/
theorem Rely.move (rely : Rely sys P inv tells) (reach : Reach sys ok s₀ w)
    (holds : inv w.shared) (told : ∀ e ∈ w.events, tells w.shared e) (move : Move sys w l w') :
    inv w'.shared ∧ ∀ e ∈ w'.events, tells w'.shared e := by
  have event (e) : e ∈ w'.events ↔ l.event? = some e ∨ e ∈ w.events := move.mem_events
  cases move with
  | start =>
    refine ⟨holds, fun e there => told e ?_⟩
    exact ((event e).mp there).resolve_left (by simp [Label.event?])
  | call here alive next answer =>
    have thread := List.mem_of_getElem? here
    obtain ⟨p, starts, run⟩ := reach.exec thread
    rw [next] at run
    have asked := (Prog.conforms_exec (rely.starts p starts) run).1
    obtain ⟨holds', new, kept⟩ := rely.answered holds
      (fun e past => told e (mem_events_of_thread thread past)) asked answer
    refine ⟨holds', fun e there => ?_⟩
    rcases (event e).mp there with same | old
    · cases same
      exact new
    · exact kept e (told e old)
  | crash =>
    refine ⟨holds, fun e there => told e ?_⟩
    exact ((event e).mp there).resolve_left (by simp [Label.event?])
  | outside moved =>
    obtain ⟨holds', kept⟩ := rely.outside holds moved
    refine ⟨holds', fun e there => kept e (told e ?_)⟩
    exact ((event e).mp there).resolve_left (by simp [Label.event?])

/-- In every pool reached, the invariant holds and every answer still tells the truth. -/
theorem Rely.reach (rely : Rely sys P inv tells) (start : inv s₀) (reach : Reach sys ok s₀ w) :
    inv w.shared ∧ ∀ e ∈ w.events, tells w.shared e := by
  induction reach with
  | init => exact ⟨start, by simp [events]⟩
  | next past move _ ih => exact rely.move past ih.1 ih.2 move

end

/-- A thread goes on from where it stands. -/
theorem Move.thread_later (move : Move sys w l w') {i : Nat} {t : Thread Req Resp ε α}
    (here : w.threads[i]? = some t) :
    ∃ t' more, w'.threads[i]? = some t' ∧ t'.past = t.past ++ more ∧
      Prog.Exec t.prog more t'.prog := by
  have there := (List.getElem?_eq_some_iff.mp here).1
  have stays : ∃ t' more, w.threads[i]? = some t' ∧ t'.past = t.past ++ more ∧
      Prog.Exec t.prog more t'.prog := ⟨t, [], here, by simp, .start _⟩
  cases move with
  | start =>
    rw [List.getElem?_append_left there]
    exact stays
  | @call j u r k ans s at_ alive next =>
    by_cases same : j = i
    · subst same
      cases at_.symm.trans here
      refine ⟨_, [⟨r, ans⟩], List.getElem?_set_self there, rfl, ?_⟩
      rw [next]
      exact Prog.Exec.step (.start _) ans
    · rw [List.getElem?_set_ne same]
      exact stays
  | @crash j u at_ =>
    by_cases same : j = i
    · subst same
      cases at_.symm.trans here
      exact ⟨_, [], List.getElem?_set_self there, by simp, .start _⟩
    · rw [List.getElem?_set_ne same]
      exact stays
  | outside => exact stays

theorem Steps.thread_later (steps : Steps sys ok w₀ w) {i : Nat} {t : Thread Req Resp ε α}
    (here : w₀.threads[i]? = some t) :
    ∃ t' more, w.threads[i]? = some t' ∧ t'.past = t.past ++ more ∧
      Prog.Exec t.prog more t'.prog := by
  induction steps with
  | init => exact ⟨t, [], here, by simp, .start _⟩
  | next _ move _ ih =>
    obtain ⟨u, before, there, past, run⟩ := ih
    obtain ⟨t', more, there', past', run'⟩ := move.thread_later there
    exact ⟨t', before ++ more, there', by rw [past', past, List.append_assoc],
      run.trans run'⟩

end Pool

end Base
