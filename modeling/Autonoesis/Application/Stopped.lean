import Autonoesis.Application.Denial

/-! A Run that was cancelled, failed, succeeded or taken over, and the egress port. No command
that executes an Action looks at the Run, so a stopped Run is not by itself left alone; where
Actions are read for execution only while their Run is live, and Runs are stopped only while
no such read is pending, nothing of a stopped Run is executed. -/

namespace Autonoesis
open Base

/-- A Run that nothing should be executed for: it has ended or was taken over. -/
def Run.isStopped (r : Run) : Bool :=
  r.status = .succeeded || r.status = .failed || r.status = .cancelled || r.status = .blocked

/-- Whether the event calls the egress port for an Action of the Run. -/
def egressForRun (runId : Uuid) (e : AppEvent) : Bool :=
  (egressOf e.req).any fun a => a.runId = runId

/-- The thread goes on, has read an open Action of the Run and not called the egress port. -/
def InFlight (t : Thread AppReq AppResp Exc AppReply) (runId : Uuid) : Prop :=
  (t.alive = true ∧ ∃ r k, t.prog = .call r k) ∧ (∀ e ∈ t.past, egressOf e.req = none) ∧
    ∃ ctx cmd action approval, App.Loaded ctx cmd action approval t.past ∧ App.isOpen action = true ∧ action.runId = runId

/-- A step that minds stopped Runs: an open Action is read for execution only while its Run is
not stopped, and a Run is stopped only while none of its Actions is in flight. -/
structure Minds (w : AppPool) (l : AppLabel) (w' : AppPool) : Prop where
  loads : ∀ i ctx cmd action approval,
    l = .call i ⟨.load ctx cmd, .ok (.fresh action approval)⟩ → App.isOpen action = true →
    ∀ run ∈ w.shared.store.runs.values, run.runId = action.runId → run.isStopped = false
  stops : ∀ run ∈ w'.shared.store.runs.values, run.isStopped = true →
    (∃ old ∈ w.shared.store.runs.values, old.runId = run.runId ∧ old.isStopped = true) ∨
    ∀ t ∈ w.threads, ¬ InFlight t run.runId

/-- Nothing of a stopped Run is in flight. -/
def Settled (w : AppPool) : Prop :=
  ∀ t ∈ w.threads, ∀ runId, InFlight t runId →
    ∀ run ∈ w.shared.store.runs.values, run.runId = runId → run.isStopped = false

/-- Runs are stored under their own ids. -/
def Core.RunKeys (c : Core) : Prop := ∀ id r, c.runs.get? id = some r → r.runId = id

/-- The Run with this id is stored, and stopped. -/
def Core.Stopped (c : Core) (runId : Uuid) : Prop :=
  ∃ run, c.runs.get? runId = some run ∧ run.isStopped = true

namespace Core
variable {c c' : Core} {runId : Uuid}

theorem RunKeys.set (keys : c.RunKeys) (run : Run) (tasks : Dict Uuid Task) :
    Core.RunKeys { c with runs := c.runs.set run.runId run, tasks := tasks } :=
  Dict.keys_set (f := fun r : Run => r.runId) keys run

/-- A Run stays stopped when what replaces it is, if it was. -/
theorem Stopped.set (stopped : c.Stopped runId) {run' : Run} (tasks : Dict Uuid Task)
    (halts : ∀ run, c.runs.get? run'.runId = some run → run.isStopped = true →
      run'.isStopped = true) :
    Core.Stopped { c with runs := c.runs.set run'.runId run', tasks := tasks } runId := by
  obtain ⟨run, found, halted⟩ := stopped
  unfold Stopped
  simp only [Dict.get?_set]
  split
  · rename_i here
    rw [here] at found
    exact ⟨run', rfl, halts run found halted⟩
  · exact ⟨run, found, halted⟩

/-- No change of a command lets a stopped Run go on. -/
theorem RunKeys.change (keys : c.RunKeys) (change : Change c c') :
    c'.RunKeys ∧ ∀ runId, c.Stopped runId → c'.Stopped runId := by
  cases change with
  | @runAdded run fresh =>
    refine ⟨keys.set run _, fun runId stopped => stopped.set _ fun old found => ?_⟩
    rw [fresh] at found
    cases found
  | @planned id run run' tasks found pending same =>
    refine ⟨keys.set run' _, fun runId stopped => stopped.set _ fun old there halted => ?_⟩
    have key : run'.runId = run.runId := congrArg (·.2.2) same
    rw [key, keys id run found, found] at there
    cases there
    simp [Run.isStopped, pending] at halted
  | @runMoved id run run' found same legal halts =>
    refine ⟨keys.set run' _, fun runId stopped => stopped.set _ fun old there halted => ?_⟩
    have key : run'.runId = run.runId := congrArg (·.2.2) same
    rw [key, keys id run found, found] at there
    cases there
    simp only [Run.isStopped, Bool.or_eq_true, decide_eq_true_eq] at halted ⊢
    rcases halted with ((ended | ended) | ended) | blocked
    · simp [ended, runTransitions] at legal
    · simp [ended, runTransitions] at legal
    · simp [ended, runTransitions] at legal
    · simp only [blocked, runTransitions, List.mem_cons, List.not_mem_nil, or_false] at legal
      rcases legal with running | failed | cancelled
      · exact absurd running halts
      · exact Or.inl (Or.inl (Or.inr failed))
      · exact Or.inl (Or.inr cancelled)
  | _ => exact ⟨keys, fun _ stopped => stopped⟩

end Core

section
variable [Sha256] {limit : Int} {ok : AppPool → AppLabel → AppPool → Prop} {w w' : AppPool}
  {l : AppLabel}

theorem move_runs (reach : Pool.Reach system ok (World.initial limit) w)
    (move : Pool.Move system w l w') (keys : w.shared.store.core.RunKeys) :
    w'.shared.store.core.RunKeys ∧
      ∀ runId, w.shared.store.core.Stopped runId → w'.shared.store.core.Stopped runId := by
  rcases move_core reach move with change | ⟨_, _, _, _, _, _, _, saved⟩
  · exact keys.change change
  · rw [saved]
    exact ⟨keys, fun _ stopped => stopped⟩

theorem reach_runKeys (reach : Pool.Reach system ok (World.initial limit) w) :
    w.shared.store.core.RunKeys := by
  induction reach with
  | init => simp [Core.RunKeys, World.initial, Store.core]
  | next past move _ ih => exact (move_runs past move ih).1

/-- A Run that is stopped once is stopped ever after. -/
theorem steps_stopped (reach : Pool.Reach system ok (World.initial limit) w)
    (later : Pool.Steps system ok w w') {runId : Uuid}
    (stopped : w.shared.store.core.Stopped runId) : w'.shared.store.core.Stopped runId := by
  induction later with
  | init => exact stopped
  | next past move _ ih =>
    have before := reach.trans past
    exact (move_runs before move (reach_runKeys before)).2 runId ih

/-- What is in flight after a step was in flight before it, or was just read. -/
theorem move_inFlight (move : Pool.Move system w l w') {t : Thread AppReq AppResp Exc AppReply}
    (there : t ∈ w'.threads) {runId : Uuid} (flight : InFlight t runId) :
    (∃ u ∈ w.threads, InFlight u runId) ∨ ∃ i ctx cmd action approval,
      l = .call i ⟨.load ctx cmd, .ok (.fresh action approval)⟩ ∧ App.isOpen action = true ∧
        action.runId = runId := by
  obtain ⟨⟨alive, goes⟩, first, ctx, cmd, action, approval, loaded, live, member⟩ := flight
  obtain ⟨p, _, _, rfl⟩ | ⟨u, old, prog, past, lives⟩ |
      ⟨u, old, i, r, k, ans, lives, next, rfl, rfl⟩ :=
    move.thread_cases there
  · exact absurd loaded List.not_mem_nil
  · rw [past] at first loaded
    exact Or.inl ⟨u, old, ⟨lives alive, prog ▸ goes⟩, first, ctx, cmd, action, approval, loaded,
      live, member⟩
  · rcases List.mem_append.mp loaded with earlier | new
    · refine Or.inl ⟨u, old, ⟨lives, r, k, next⟩, fun e there => ?_, ctx, cmd, action, approval,
        earlier, live, member⟩
      exact first e (List.mem_append_left _ there)
    · cases List.mem_singleton.mp new
      exact Or.inr ⟨i, ctx, cmd, action, approval, rfl, live, member⟩

theorem move_settled (move : Pool.Move system w l w') (minds : Minds w l w')
    (settled : Settled w) : Settled w' := by
  intro t there runId flight run stored member
  by_contra halted
  rw [Bool.not_eq_false] at halted
  rcases move_inFlight move there flight with
    ⟨u, old, before⟩ | ⟨i, ctx, cmd, action, approval, rfl, live, same⟩
  · rcases minds.stops run stored halted with ⟨stopped, kept, sameId, ended⟩ | none
    · have goes := settled u old runId before stopped kept (sameId.trans member)
      rw [ended] at goes
      cases goes
    · rw [member] at none
      exact none u old before
  · -- the read itself leaves the Runs as they are
    have runs : w'.shared.store.core = w.shared.store.core := by
      cases move with
      | call _ _ _ answered => exact answered.core_eq rfl rfl
    have unchanged : w'.shared.store.runs = w.shared.store.runs := congrArg Core.runs runs
    rw [unchanged] at stored
    have goes := minds.loads i ctx cmd action approval rfl live run stored (member.trans same.symm)
    rw [halted] at goes
    cases goes

theorem reach_settled (reach : Pool.Reach system Minds (World.initial limit) w) : Settled w := by
  induction reach with
  | init => exact List.forall_mem_nil _
  | next _ move minds ih => exact move_settled move minds ih

/-- An egress call is made for an Action whose Run is not stopped. -/
theorem egress_runs (reach : Pool.Reach system Minds (World.initial limit) w)
    (move : Pool.Move system w l w') {e : AppEvent} (called : l.event? = some e) {runId : Uuid}
    (egress : egressForRun runId e = true) : ¬ w.shared.store.core.Stopped runId := by
  rintro ⟨run, found, halted⟩
  cases move with
  | @call i t r k ans s here alive next answered =>
    cases called
    simp only [egressForRun, Option.any_eq_true, decide_eq_true_eq] at egress
    obtain ⟨a, made, member⟩ := egress
    have listed := List.mem_of_getElem? here
    obtain ⟨config, ctx, cmd, permitted⟩ :=
      permitted_of_thread reach listed next (egress_notWorker made)
    obtain ⟨action, approval, cause⟩ := permitted.cause made
    have flight : InFlight t runId := ⟨⟨alive, r, k, next⟩, cause.first, ctx, cmd, action, approval,
      cause.loaded, cause.live, (Action.runId_of_core cause.same).symm.trans member⟩
    have goes := reach_settled reach t listed runId flight run (Dict.mem_values_of_get? found)
      (reach_runKeys reach runId run found)
    rw [halted] at goes
    cases goes
  | _ => cases called

/-- From the moment a Run is persisted as cancelled, failed, succeeded or taken over, no step
of any command, crash or activity calls the egress port for an Action of it. -/
theorem stopped_run_never_executes (reach : Pool.Reach system Minds (World.initial limit) w)
    (later : Pool.Steps system Minds w w') :
    ∀ run ∈ w.shared.store.runs.values, run.isStopped = true →
      w'.events.countP (egressForRun run.runId) = w.events.countP (egressForRun run.runId) := by
  intro run there halted
  obtain ⟨id, found⟩ := (w.shared.store.runs.mem_values run).mp there
  have stopped : w.shared.store.core.Stopped run.runId := by
    rw [reach_runKeys reach id run found]
    exact ⟨run, found, halted⟩
  induction later with
  | init => rfl
  | @next w₁ w₂ l past move _ ih =>
    have before := reach.trans past
    rw [move.countP_events, ih]
    cases called : l.event? with
    | none => simp
    | some e =>
      have quiet : egressForRun run.runId e = false := by
        by_contra egress
        rw [Bool.not_eq_false] at egress
        exact egress_runs before move called egress (steps_stopped reach past stopped)
      simp [quiet]

end

namespace Sample

def cancellation : List (Uuid × Command) := [
  (120, .cancelRun (context "cancel-1" (by decide)) 32 "no longer needed")]

/-- The Run is cancelled, and its Action executed after that. -/
theorem executed_after_cancel :
    let _ := sha256
    ∃ w w', Pool.Reach system (fun _ _ _ => True) (World.initial 10) w ∧
      Pool.Steps system (fun _ _ _ => True) w w' ∧
      ∃ run ∈ w.shared.store.runs.values, run.status = .cancelled ∧
        w'.events.countP (egressForRun run.runId) ≠ w.events.countP (egressForRun run.runId) := by
  intro _
  have r₁ : Pool.Reach system (fun _ _ _ => True) (World.initial 10) preparedPool :=
    commands_reach _ .init (fun _ _ _ _ => trivial) preparation_early
  obtain ⟨unused, executed⟩ :
      commandsMeet (fun _ _ => true) cancellation preparedPool = true ∧
      ∃ run ∈ (commands cancellation preparedPool).shared.store.runs.values,
        run.status = .cancelled ∧
        ((started (commands cancellation preparedPool)).advance (handle false "r1") 0
          12).events.countP (egressForRun run.runId) ≠
        (commands cancellation preparedPool).events.countP (egressForRun run.runId) := by
    decide +kernel
  have r₂ := commands_reach _ r₁ (fun _ _ _ _ => trivial) unused
  have l₁ := r₂.stay.next (program_starts _) trivial
  have l₂ := l₁.advance (handle_answers false "r1") 0 (fun _ _ _ => trivial) 12
  exact ⟨_, _, r₂, l₂, executed⟩

/-- Whether what is stopped after a step was so before it. -/
def stopsNone (w w' : AppPool) : Bool :=
  w'.shared.store.runs.values.all fun run => !run.isStopped ||
    w.shared.store.runs.values.any fun old => old.runId = run.runId && old.isStopped

def mindsCall (w : AppPool) (e : AppEvent) (w' : AppPool) : Bool :=
  stopsNone w w' && match e with
    | ⟨.load .., .ok (.fresh action _)⟩ => w.shared.store.runs.values.all fun run =>
      run.runId ≠ action.runId || !run.isStopped
    | _ => true

theorem stops_of_stopsNone {w w' : AppPool} (met : stopsNone w w' = true) :
    ∀ run ∈ w'.shared.store.runs.values, run.isStopped = true →
      (∃ old ∈ w.shared.store.runs.values, old.runId = run.runId ∧ old.isStopped = true) ∨
      ∀ t ∈ w.threads, ¬ InFlight t run.runId := by
  intro run there halted
  have here := List.all_eq_true.mp met run there
  rw [halted, Bool.not_true, Bool.false_or, List.any_eq_true] at here
  obtain ⟨old, kept, same⟩ := here
  simp only [Bool.and_eq_true, decide_eq_true_eq] at same
  exact Or.inl ⟨old, kept, same⟩

theorem minds_call (i : Nat) (w : AppPool) (e : AppEvent) (w' : AppPool)
    (met : mindsCall w e w' = true) : Minds w (.call i e) w' := by
  simp only [mindsCall, Bool.and_eq_true] at met
  refine ⟨?_, stops_of_stopsNone met.1⟩
  rintro _ ctx cmd action approval ⟨⟩ _ run there member
  have here := List.all_eq_true.mp met.2 run there
  simpa [member] using here

theorem minds_start (w : AppPool) (p : AppProg AppReply) (threads) :
    Minds w (.start p) { w with threads := threads } :=
  ⟨by rintro _ _ _ _ _ ⟨⟩, fun run there halted => Or.inl ⟨run, there, rfl, halted⟩⟩

/-- A command from outside, beside threads that have called the egress port. -/
def past (w : AppPool) : Bool := w.threads.all fun t => t.past.any fun e => (egressOf e.req).isSome

theorem minds_outside (w : AppPool) (c : Command) (w' : AppPool) (met : past w = true) :
    Minds w (.outside c) w' := by
  refine ⟨by rintro _ _ _ _ _ ⟨⟩, fun run _ _ => Or.inr ?_⟩
  rintro t there ⟨_, first, _⟩
  obtain ⟨e, earlier, called⟩ := List.any_eq_true.mp (List.all_eq_true.mp met t there)
  rw [first e earlier] at called
  cases called

theorem minds_early (w : AppPool) (c : Command) (w' : AppPool) (met : early w w' = true) :
    Minds w (.outside c) w' := by
  simp only [early, Bool.and_eq_true, List.isEmpty_iff] at met
  refine minds_outside w c w' ?_
  rw [past, met.2]
  rfl

section
variable [Sha256]

/-- The command executed its Action. -/
def executed : AppPool := (started preparedPool).advance (handle false "r1") 0 30

/-- The Run is cancelled after that. -/
def cancelled : AppPool := commands cancellation executed

/-- The command is repeated. -/
def repeated : AppPool := (started cancelled).advance (handle false "r2") 1 1

end

/-- A Run whose Action was executed is cancelled, and the command is repeated: the egress port
is not called again. -/
theorem stopped_run_never_executes_repeated :
    let _ := sha256
    ∃ w w', Pool.Reach system Minds (World.initial 10) w ∧ Pool.Steps system Minds w w' ∧
      w.events.length < w'.events.length ∧
      ∃ run ∈ w.shared.store.runs.values, run.status = .cancelled ∧
        w.events.countP (egressForRun run.runId) = 1 ∧
        w'.events.countP (egressForRun run.runId) = w.events.countP (egressForRun run.runId) := by
  intro _
  obtain ⟨first, outside, second, grown, run, there, status, once⟩ :
      (started preparedPool).advanceMeets mindsCall (handle false "r1") 0 30 = true ∧
      commandsMeet (fun w _ => past w) cancellation executed = true ∧
      (started cancelled).advanceMeets mindsCall (handle false "r2") 1 1 = true ∧
      cancelled.events.length < repeated.events.length ∧
      ∃ run ∈ cancelled.shared.store.runs.values, run.status = .cancelled ∧
        cancelled.events.countP (egressForRun run.runId) = 1 := by
    decide +kernel
  have r₁ : Pool.Reach system Minds (World.initial 10) preparedPool :=
    commands_reach _ .init minds_early preparation_early
  have r₂ : Pool.Reach system Minds (World.initial 10) (started preparedPool) :=
    r₁.next (program_starts _) (minds_start _ _ _)
  have r₃ : Pool.Reach system Minds (World.initial 10) executed :=
    r₂.advance_of_meets (handle_answers false "r1") 0 (minds_call 0) first
  have r₄ : Pool.Reach system Minds (World.initial 10) cancelled :=
    commands_reach cancellation r₃ (fun w c w' => minds_outside w c w') outside
  have l₁ : Pool.Steps system Minds cancelled (started cancelled) :=
    r₄.stay.next (program_starts _) (minds_start _ _ _)
  have l₂ : Pool.Steps system Minds cancelled repeated :=
    l₁.advance_of_meets (handle_answers false "r2") 1 (minds_call 1) second
  refine ⟨cancelled, repeated, r₄, l₂, grown, run, there, status, once, ?_⟩
  exact stopped_run_never_executes r₄ l₂ run there (by simp [Run.isStopped, status])

end Sample

end Autonoesis
