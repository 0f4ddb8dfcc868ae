import Autonoesis.Domain.Values

/-!
# The workflow of a Run

`GoalRunWorkflow` as a machine: where its coroutine is suspended, the flags its signal handlers
set, and the activities it has scheduled. Between two await points the coroutine runs alone, so
an event is the start of the coroutine, a signal, the end of the running activity, a wait
condition found true, or the deadline of a wait; they come in any order. The signals are
recorded across Continue-as-New.
-/

namespace Autonoesis
open Base

structure GoalRunInput where
  tenantId : String
  goalId : String
  runId : String
  deadline : Instant
  requiresApproval : Bool := false
  riskTier : String := "low"
  continuationCount : Int := 0
  maxContinuations : Int := 100

def GoalRunInput.continued (c : GoalRunInput) : GoalRunInput :=
  { c with requiresApproval := false, continuationCount := c.continuationCount + 1 }

namespace Workflow

inductive Signal where
  | approvalDecided (approvalId : String)
  | cancel (reason : String)
  | pause
  | resume
  | takeOver (reason : String)

/-- The activities by name, with what differs from the identity of the Run. -/
inductive Activity where
  | prepareRun
  | cancelRun (reason : String)
  | takeOverRun (reason : String)
  | loadApproval (approvalId : String)
  | executeRun
  | evaluateRun
  | rejectRun (reason : String)

/-- The places `_apply_control` is called from. -/
inductive Site where
  | prepared | approval | executed | progressed
  deriving DecidableEq

/-- Where the coroutine is suspended, or how it ended. -/
inductive Point where
  | starting
  | preparing
  | cancelling
  | takingOver
  | paused (site : Site)
  | awaitingApproval
  | loadingApproval
  | executing
  | evaluating
  | waitingForProgress (observedGeneration : Nat)
  | rejecting
  | returned (result : String)
  | assertionFailed
  | activityFailed
  deriving DecidableEq

structure State where
  command : GoalRunInput
  point : Point
  approvalId : Option String := none
  cancelReason : Option String := none
  takeoverReason : Option String := none
  paused : Bool := false
  resumeGeneration : Nat := 0
  phase : String := "pending"
  scheduled : List Activity := []
  signals : List Signal := []

namespace State

/-- `execute_activity`, up to its await. -/
def schedule (s : State) (activity : Activity) (point : Point) (phase : String) : State :=
  { s with scheduled := s.scheduled ++ [activity], point := point, phase := phase }

/-- `_reject`. -/
def reject (s : State) (reason : String) : State :=
  s.schedule (.rejectRun reason) .rejecting "rejecting"

/-- `_expire`. -/
def expire (s : State) : State := s.reject "goal_business_deadline_expired"

/-- `_terminal_control_requested`. -/
def terminalControlRequested (s : State) : Bool :=
  s.cancelReason.isSome || s.takeoverReason.isSome

/-- The scheduling of the write activity. -/
def execute (s : State) : State := s.schedule .executeRun .executing "executing"

/-- A workflow whose coroutine has not started: signals may come before it does. -/
def start (command : GoalRunInput) (scheduled : List Activity) (signals : List Signal) : State :=
  { command := command, point := .starting, scheduled := scheduled, signals := signals }

/-- What follows where `_apply_control` has returned `None`. Continue-as-New starts a new run,
in which no flag is set. -/
def proceed (s : State) : Site → State
  | .prepared =>
    if s.command.requiresApproval then
      { s with phase := "awaiting_approval", point := .awaitingApproval }
    else s.execute
  | .approval =>
    match s.approvalId with
    | none => { s with point := .assertionFailed }
    | some approvalId =>
      { s with approvalId := none }.schedule (.loadApproval approvalId) .loadingApproval s.phase
  | .executed => s.schedule .evaluateRun .evaluating "evaluating"
  | .progressed =>
    if s.command.maxContinuations ≤ s.command.continuationCount then
      s.reject "continue_as_new_limit_exhausted"
    else start s.command.continued s.scheduled s.signals

/-- `_apply_control`, up to its await or to the next one of its caller. -/
def applyControl (s : State) (site : Site) : State :=
  match s.cancelReason, s.takeoverReason with
  | some reason, _ => s.schedule (.cancelRun reason) .cancelling "cancelling"
  | none, some reason => s.schedule (.takeOverRun reason) .takingOver "taking_over"
  | none, none =>
    if s.paused then { s with phase := "paused", point := .paused site } else s.proceed site

/-- The signal handlers. -/
def handle (s : State) : Signal → State
  | .approvalDecided approvalId =>
    if approvalId = "" then s else { s with approvalId := some approvalId }
  | .cancel reason =>
    { s with cancelReason := some (if reason = "" then "cancelled_by_user" else reason) }
  | .pause => { s with paused := true }
  | .resume => { s with paused := false, resumeGeneration := s.resumeGeneration + 1 }
  | .takeOver reason =>
    { s with takeoverReason := some (if reason = "" then "manual_takeover" else reason) }

/-- Whether the workflow has ended. -/
def closed (s : State) : Bool :=
  match s.point with
  | .returned _ | .assertionFailed | .activityFailed => true
  | _ => false

/-- What follows the return of the running activity; `result` is its result, and of
`load_approval` the status. -/
def completed (s : State) (result : String) : Option State :=
  match s.point with
  | .preparing => some (s.applyControl .prepared)
  | .cancelling => some { s with phase := "cancelled", point := .returned "cancelled" }
  | .takingOver => some { s with phase := "taken_over", point := .returned "taken_over" }
  | .loadingApproval =>
    if result = "approved" then some s.execute
    else if result = "rejected" || result = "expired" then some (s.reject ("approval_" ++ result))
    else some { s with point := .awaitingApproval }
  | .executing => some (s.applyControl .executed)
  | .evaluating =>
    if result = "succeeded" || result = "failed" || result = "cancelled" then
      some { s with phase := result, point := .returned result }
    else some { s with
      phase := "waiting_for_progress"
      point := .waitingForProgress s.resumeGeneration }
  | .rejecting => some { s with phase := "rejected", point := .returned "rejected" }
  | _ => none

/-- What follows a wait whose condition holds. -/
def woken (s : State) : Option State :=
  match s.point with
  | .awaitingApproval =>
    if s.approvalId.isSome || s.terminalControlRequested || s.paused then
      some (s.applyControl .approval)
    else none
  | .paused site =>
    if s.terminalControlRequested then some (s.applyControl site)
    else if s.paused then none
    else some (s.proceed site)
  | .waitingForProgress observedGeneration =>
    if observedGeneration < s.resumeGeneration || s.terminalControlRequested || s.paused then
      some (s.applyControl .progressed)
    else none
  | _ => none

/-- Whether an activity is running. -/
def running (s : State) : Bool :=
  match s.point with
  | .preparing | .cancelling | .takingOver | .loadingApproval | .executing | .evaluating
  | .rejecting => true
  | _ => false

end State

inductive Event where
  | begun
  | signal (signal : Signal)
  | completed (result : String)
  | failed
  | woken
  | timedOut

/-- One event; `none` where it cannot happen. -/
def step (s : State) : Event → Option State
  | .begun =>
    if s.point = .starting then
      if s.command.continuationCount = 0 then
        some (s.schedule .prepareRun .preparing "planning")
      else some (s.applyControl .prepared)
    else none
  | .signal signal =>
    if s.closed then none
    else some { s.handle signal with signals := s.signals ++ [signal] }
  | .completed result => s.completed result
  | .failed => if s.running then some { s with point := .activityFailed } else none
  | .woken => s.woken
  | .timedOut =>
    match s.point with
    | .awaitingApproval | .paused _ | .waitingForProgress _ => some s.expire
    | _ => none

/-- The states a workflow reaches when each event meets `ok`. -/
inductive Reach (ok : State → Event → Prop) (command : GoalRunInput) : State → Prop
  | start : Reach ok command (.start command [] [])
  | next {s s' : State} (event : Event) (past : Reach ok command s)
      (taken : step s event = some s') (legal : ok s event) : Reach ok command s'

variable {s s' : State} {command : GoalRunInput}

/-! ## What an event can do -/

/-- The calls of `_apply_control`: the event each comes with, and the site. -/
inductive Controls (s : State) : Event → Site → Prop
  | continued (here : s.point = .starting) (again : s.command.continuationCount ≠ 0) :
      Controls s .begun .prepared
  | prepared (result : String) (here : s.point = .preparing) :
      Controls s (.completed result) .prepared
  | executed (result : String) (here : s.point = .executing) :
      Controls s (.completed result) .executed
  | approval (here : s.point = .awaitingApproval)
      (condition : s.approvalId.isSome = true ∨ s.terminalControlRequested = true ∨
        s.paused = true) : Controls s .woken .approval
  | stopped (site : Site) (here : s.point = .paused site)
      (requested : s.terminalControlRequested = true) : Controls s .woken site
  | progressed (generation : Nat) (here : s.point = .waitingForProgress generation) :
      Controls s .woken .progressed

/-- Where `_apply_control` ends: at an activity of its own, at the pause, or behind it. -/
inductive Passed (s : State) (site : Site) : State → Prop
  | cancels (reason : String) (requested : s.terminalControlRequested = true) :
      Passed s site (s.schedule (.cancelRun reason) .cancelling "cancelling")
  | takesOver (reason : String) (requested : s.terminalControlRequested = true) :
      Passed s site (s.schedule (.takeOverRun reason) .takingOver "taking_over")
  | pauses (quiet : s.terminalControlRequested = false) (paused : s.paused = true) :
      Passed s site { s with phase := "paused", point := .paused site }
  | proceeds (quiet : s.terminalControlRequested = false) (unpaused : s.paused = false) :
      Passed s site (s.proceed site)

theorem applyControl_passed (s : State) (site : Site) : Passed s site (s.applyControl site) := by
  unfold State.applyControl
  split
  · rename_i cancel
    exact .cancels _ (by simp [State.terminalControlRequested, cancel])
  · rename_i takeover
    exact .takesOver _ (by simp [State.terminalControlRequested, takeover])
  · rename_i cancel takeover
    have quiet : s.terminalControlRequested = false := by
      simp [State.terminalControlRequested, cancel, takeover]
    split
    · rename_i paused
      exact .pauses quiet paused
    · rename_i unpaused
      exact .proceeds quiet (by simpa using unpaused)

/-- Everything an event can do, with what it takes. -/
inductive Moved (s : State) : Event → State → Prop
  | prepares (here : s.point = .starting) (first : s.command.continuationCount = 0) :
      Moved s .begun (s.schedule .prepareRun .preparing "planning")
  | controlled {event : Event} {site : Site} {s' : State} (call : Controls s event site)
      (passed : Passed s site s') : Moved s event s'
  | lifted (site : Site) (here : s.point = .paused site)
      (quiet : s.terminalControlRequested = false) (unpaused : s.paused = false) :
      Moved s .woken (s.proceed site)
  | signalled (signal : Signal) (opened : s.closed = false) :
      Moved s (.signal signal) { s.handle signal with signals := s.signals ++ [signal] }
  | approved (here : s.point = .loadingApproval) : Moved s (.completed "approved") s.execute
  | refused (result : String) (here : s.point = .loadingApproval) :
      Moved s (.completed result) (s.reject ("approval_" ++ result))
  | undecided (result : String) (here : s.point = .loadingApproval)
      (open_ : result ≠ "approved") :
      Moved s (.completed result) { s with point := .awaitingApproval }
  | unfinished (result : String) (here : s.point = .evaluating) :
      Moved s (.completed result) { s with
        phase := "waiting_for_progress"
        point := .waitingForProgress s.resumeGeneration }
  | returned (result phase : String)
      (here : s.point = .cancelling ∨ s.point = .takingOver ∨ s.point = .evaluating ∨
        s.point = .rejecting) :
      Moved s (.completed result) { s with phase := phase, point := .returned phase }
  | failed (running : s.running = true) : Moved s .failed { s with point := .activityFailed }
  | expired (here : s.point = .awaitingApproval ∨ (∃ site, s.point = .paused site) ∨
      ∃ generation, s.point = .waitingForProgress generation) : Moved s .timedOut s.expire

theorem completed_moved {result : String} (taken : s.completed result = some s') :
    Moved s (.completed result) s' := by
  unfold State.completed at taken
  split at taken
  case h_1 here =>
    cases taken
    exact .controlled (.prepared result here) (applyControl_passed _ _)
  case h_2 here =>
    cases taken
    exact .returned result "cancelled" (.inl here)
  case h_3 here =>
    cases taken
    exact .returned result "taken_over" (.inr (.inl here))
  case h_4 here =>
    split at taken
    · rename_i approved
      cases taken
      subst approved
      exact .approved here
    · rename_i other
      split at taken <;> cases taken
      · exact .refused result here
      · exact .undecided result here other
  case h_5 here =>
    cases taken
    exact .controlled (.executed result here) (applyControl_passed _ _)
  case h_6 here =>
    split at taken <;> cases taken
    · exact .returned result result (.inr (.inr (.inl here)))
    · exact .unfinished result here
  case h_7 here =>
    cases taken
    exact .returned result "rejected" (.inr (.inr (.inr here)))
  case h_8 => cases taken

theorem woken_moved (taken : s.woken = some s') : Moved s .woken s' := by
  unfold State.woken at taken
  split at taken
  case h_1 here =>
    split at taken <;> cases taken
    rename_i condition
    simp only [Bool.or_eq_true] at condition
    exact .controlled (.approval here (or_assoc.mp condition)) (applyControl_passed _ _)
  case h_2 site here =>
    split at taken
    · rename_i requested
      cases taken
      exact .controlled (.stopped site here requested) (applyControl_passed _ _)
    · rename_i quiet
      split at taken <;> cases taken
      rename_i unpaused
      exact .lifted site here (by simpa using quiet) (by simpa using unpaused)
  case h_3 generation here =>
    split at taken <;> cases taken
    exact .controlled (.progressed generation here) (applyControl_passed _ _)
  case h_4 => cases taken

theorem step_moved {event : Event} (taken : step s event = some s') : Moved s event s' := by
  cases event with
  | begun =>
    simp only [step] at taken
    split at taken
    · rename_i here
      split at taken <;> cases taken
      · rename_i first
        exact .prepares here first
      · rename_i again
        exact .controlled (.continued here again) (applyControl_passed _ _)
    · cases taken
  | signal signal =>
    simp only [step] at taken
    split at taken <;> cases taken
    rename_i opened
    exact .signalled signal (by simpa using opened)
  | completed result => exact completed_moved taken
  | failed =>
    simp only [step] at taken
    split at taken <;> cases taken
    rename_i running
    exact .failed running
  | woken => exact woken_moved taken
  | timedOut =>
    simp only [step] at taken
    split at taken <;> cases taken
    · rename_i here
      exact .expired (.inl here)
    · rename_i site here
      exact .expired (.inr (.inl ⟨site, here⟩))
    · rename_i generation here
      exact .expired (.inr (.inr ⟨generation, here⟩))

/-! ## The approval the assertion asks for -/

/-- A resume that lifts a pause in the wait for an approval comes after an approval id. -/
def ResumedWithApproval (s : State) (event : Event) : Prop :=
  event = .signal .resume → s.point = .paused .approval → s.approvalId.isSome = true

/-- The assertion has not failed, and a pause of the approval wait that is lifted has an
approval id waiting. -/
def Approvable (s : State) : Prop :=
  s.point ≠ .assertionFailed ∧
    (s.point = .paused .approval → s.paused = true ∨ s.approvalId.isSome = true)

/-- The points at which no approval is asked for. -/
def Point.unasked : Point → Bool
  | .paused .approval | .assertionFailed => false
  | _ => true

theorem approvable_of_point (elsewhere : s.point.unasked = true) : Approvable s :=
  ⟨fun failed => by simp [failed, Point.unasked] at elsewhere,
    fun waits => by simp [waits, Point.unasked] at elsewhere⟩

theorem proceed_approvable {site : Site}
    (approved : site = .approval → s.approvalId.isSome = true) : Approvable (s.proceed site) := by
  cases site with
  | prepared =>
    simp only [State.proceed]
    split <;> exact approvable_of_point rfl
  | approval =>
    obtain ⟨approvalId, given⟩ := Option.isSome_iff_exists.mp (approved rfl)
    simp only [State.proceed, given]
    exact approvable_of_point rfl
  | executed => exact approvable_of_point rfl
  | progressed =>
    simp only [State.proceed]
    split <;> exact approvable_of_point rfl

theorem Controls.condition {event : Event} (call : Controls s event .approval) :
    s.approvalId.isSome = true ∨ s.terminalControlRequested = true ∨ s.paused = true := by
  cases call with
  | approval _ condition => exact condition
  | stopped _ _ requested => exact .inr (.inl requested)

theorem Passed.approvable {site : Site} (passed : Passed s site s') (approved : site = .approval →
      s.approvalId.isSome = true ∨ s.terminalControlRequested = true ∨ s.paused = true) :
    Approvable s' := by
  cases passed with
  | cancels => exact approvable_of_point rfl
  | takesOver => exact approvable_of_point rfl
  | pauses _ paused => exact ⟨nofun, fun _ => .inl paused⟩
  | proceeds quiet unpaused =>
    refine proceed_approvable fun here => ?_
    rcases approved here with given | requested | paused
    · exact given
    · simp [quiet] at requested
    · simp [unpaused] at paused

theorem handle_approvable {signal : Signal} (sound : Approvable s)
    (legal : ResumedWithApproval s (.signal signal)) (signals : List Signal) :
    Approvable { s.handle signal with signals := signals } := by
  obtain ⟨sound, waiting⟩ := sound
  cases signal with
  | approvalDecided approvalId =>
    by_cases empty : approvalId = ""
    · simp only [State.handle, empty, if_true]
      exact ⟨sound, waiting⟩
    · simp only [State.handle, empty, if_false]
      exact ⟨sound, fun _ => .inr rfl⟩
  | cancel reason => exact ⟨sound, waiting⟩
  | takeOver reason => exact ⟨sound, waiting⟩
  | pause => exact ⟨sound, fun _ => .inl rfl⟩
  | resume => exact ⟨sound, fun here => .inr (legal rfl here)⟩

theorem step_approvable {event : Event} (sound : Approvable s) (taken : step s event = some s')
    (legal : ResumedWithApproval s event) : Approvable s' := by
  cases step_moved taken with
  | controlled call passed =>
    refine passed.approvable fun here => ?_
    subst here
    exact call.condition
  | lifted site here _ unpaused =>
    refine proceed_approvable fun approval => ?_
    exact (sound.2 (approval ▸ here)).resolve_left (by simp [unpaused])
  | signalled signal => exact handle_approvable sound legal _
  | _ => exact approvable_of_point rfl

/-- In every run in which a resume lifts a pause of the approval wait only when an approval id
is waiting, the assertion never fails. -/
theorem assertion_never_fails {s : State} (reach : Reach ResumedWithApproval command s) :
    s.point ≠ .assertionFailed := by
  suffices sound : Approvable s from sound.1
  induction reach with
  | start => exact approvable_of_point rfl
  | next event _ taken legal sound => exact step_approvable sound taken legal

theorem proceed_fails_iff {site : Site} : (s.proceed site).point = .assertionFailed ↔
    site = .approval ∧ s.approvalId = none := by
  cases site with
  | prepared =>
    simp only [State.proceed]
    split <;> simp [State.execute, State.schedule]
  | approval => cases given : s.approvalId <;> simp [State.proceed, State.schedule, given]
  | executed => simp [State.proceed, State.schedule]
  | progressed =>
    simp only [State.proceed]
    split <;> simp [State.reject, State.schedule, State.start]

/-- The assertion fails where a pause of the approval wait is left without an approval id, and
nowhere else. -/
theorem fails_iff {event : Event} (taken : step s event = some s')
    (before : s.point ≠ .assertionFailed) : s'.point = .assertionFailed ↔
      event = .woken ∧ s.point = .paused .approval ∧ s.terminalControlRequested = false ∧
        s.paused = false ∧ s.approvalId = none := by
  cases step_moved taken with
  | controlled call passed =>
    have other : ¬(event = .woken ∧ s.point = .paused .approval ∧
        s.terminalControlRequested = false ∧ s.paused = false ∧ s.approvalId = none) := by
      rintro ⟨rfl, here, quiet, -, -⟩
      cases call with
      | approval there => simp [here] at there
      | stopped _ _ requested => simp [quiet] at requested
      | progressed _ there => simp [here] at there
    refine iff_of_false (fun failed => ?_) other
    cases passed with
    | cancels => cases failed
    | takesOver => cases failed
    | pauses => cases failed
    | proceeds quiet unpaused =>
      obtain ⟨rfl, missing⟩ := proceed_fails_iff.mp failed
      rcases call.condition with given | requested | paused
      · simp [missing] at given
      · simp [quiet] at requested
      · simp [unpaused] at paused
  | lifted site here quiet unpaused =>
    rw [proceed_fails_iff]
    constructor
    · rintro ⟨rfl, missing⟩
      exact ⟨rfl, here, quiet, unpaused, missing⟩
    · rintro ⟨-, there, -, -, missing⟩
      cases here.symm.trans there
      exact ⟨rfl, missing⟩
  | signalled signal =>
    refine iff_of_false (fun failed => before ?_) fun other => by cases other.1
    rw [← failed]
    cases signal with
    | approvalDecided approvalId =>
      simp only [State.handle]
      split <;> rfl
    | _ => rfl
  | prepares | approved | refused | undecided | unfinished | returned | failed | expired =>
    exact iff_of_false (fun failed => by cases failed) fun other => by cases other.1

namespace Sample

def approvedRun : GoalRunInput where
  tenantId := "t"
  goalId := "g"
  runId := "r"
  deadline := 1000
  requiresApproval := true

/-- The workflow after its preparation, waiting for an approval. -/
def waiting : State where
  command := approvedRun
  point := .awaitingApproval
  phase := "awaiting_approval"
  scheduled := [.prepareRun]

theorem waits {ok : State → Event → Prop} (free : ∀ s, ok s .begun ∧ ok s (.completed "ready")) :
    Reach ok approvedRun waiting :=
  .next (.completed "ready") (.next .begun .start rfl (free _).1) rfl (free _).2

/-- A pause and a resume while no approval id has come: the assertion fails. -/
theorem resumed_without_approval :
    ¬ ∀ command s, Reach (fun _ _ => True) command s → s.point ≠ .assertionFailed := by
  intro holds
  have ready : Reach (fun _ _ => True) approvedRun waiting := waits fun _ => ⟨trivial, trivial⟩
  have paused := Reach.next .woken (.next (.signal .pause) ready rfl trivial) rfl trivial
  have resumed := Reach.next .woken (.next (.signal .resume) paused rfl trivial) rfl trivial
  exact holds approvedRun _ resumed rfl

/-- The same with an approval id before the resume: the approval is loaded. -/
theorem resumed_with_approval : ∃ s, Reach ResumedWithApproval approvedRun s ∧
    s.point = .loadingApproval ∧ s.point ≠ .assertionFailed := by
  have ready : Reach ResumedWithApproval approvedRun waiting := waits fun _ => ⟨nofun, nofun⟩
  have paused := Reach.next .woken (.next (.signal .pause) ready rfl nofun) rfl nofun
  have decided := Reach.next (.signal (.approvalDecided "a")) paused rfl nofun
  have resumed := Reach.next (.signal .resume) decided rfl fun _ _ => rfl
  have loading := Reach.next .woken resumed rfl nofun
  exact ⟨_, loading, rfl, assertion_never_fails loading⟩

end Sample

/-! ## Control requests before the write -/

/-- Whether a cancel or take-over was delivered. -/
def stoppedBy (signals : List Signal) : Bool :=
  signals.any fun signal => match signal with
    | .cancel _ | .takeOver _ => true
    | _ => false

/-- Whether the last pause or resume was a pause. -/
def pausedBy (signals : List Signal) : Bool :=
  signals.foldl (fun paused signal => match signal with
    | .pause => true
    | .resume => false
    | _ => paused) false

/-- Whether a cancel or take-over, or a pause without a resume after it, was delivered. -/
def requested (signals : List Signal) : Bool := stoppedBy signals || pausedBy signals

/-- The flags say what was delivered. -/
def Flagged (s : State) : Prop :=
  s.terminalControlRequested = stoppedBy s.signals ∧ s.paused = pausedBy s.signals

theorem Flagged.requested_eq (flagged : Flagged s) :
    requested s.signals = (s.terminalControlRequested || s.paused) := by
  rw [flagged.1, flagged.2]
  rfl

/-- The control flags are those of `s`, and its signals are recorded. -/
theorem Flagged.congr (flagged : Flagged s) (cancel : s'.cancelReason = s.cancelReason)
    (takeover : s'.takeoverReason = s.takeoverReason) (paused : s'.paused = s.paused)
    (recorded : s'.signals = s.signals) : Flagged s' := by
  obtain ⟨terminal, pause⟩ := flagged
  refine ⟨?_, ?_⟩
  · rw [State.terminalControlRequested, cancel, takeover, recorded]
    exact terminal
  · rw [paused, recorded]
    exact pause

theorem handle_flagged (flagged : Flagged s) (signal : Signal) :
    Flagged { s.handle signal with signals := s.signals ++ [signal] } := by
  obtain ⟨terminal, paused⟩ := flagged
  simp only [Flagged, stoppedBy, State.terminalControlRequested] at terminal ⊢
  simp only [List.any_append, List.any_cons, List.any_nil, Bool.or_false, pausedBy,
    List.foldl_append, List.foldl_cons, List.foldl_nil, ← terminal]
  cases signal with
  | approvalDecided approvalId =>
    by_cases empty : approvalId = "" <;> simp [State.handle, empty, paused, pausedBy]
  | cancel reason => simp [State.handle, paused, pausedBy]
  | takeOver reason => simp [State.handle, paused, pausedBy]
  | pause => simp [State.handle]
  | resume => simp [State.handle]

/-- Control is only passed on when nothing is requested. -/
theorem proceed_flagged (flagged : Flagged s) (quiet : requested s.signals = false)
    (site : Site) : Flagged (s.proceed site) := by
  rw [flagged.requested_eq, Bool.or_eq_false_iff] at quiet
  cases site with
  | prepared =>
    simp only [State.proceed]
    split <;> exact flagged.congr rfl rfl rfl rfl
  | approval =>
    simp only [State.proceed]
    split <;> exact flagged.congr rfl rfl rfl rfl
  | executed => exact flagged.congr rfl rfl rfl rfl
  | progressed =>
    simp only [State.proceed]
    split
    · exact flagged.congr rfl rfl rfl rfl
    · exact ⟨quiet.1.symm.trans flagged.1, quiet.2.symm.trans flagged.2⟩

theorem Flagged.quiet (flagged : Flagged s) (quiet : s.terminalControlRequested = false)
    (unpaused : s.paused = false) : requested s.signals = false := by
  rw [flagged.requested_eq, quiet, unpaused]
  rfl

theorem step_flagged {event : Event} (flagged : Flagged s) (taken : step s event = some s') :
    Flagged s' := by
  cases step_moved taken with
  | controlled _ passed =>
    cases passed with
    | proceeds quiet unpaused => exact proceed_flagged flagged (flagged.quiet quiet unpaused) _
    | _ => exact flagged.congr rfl rfl rfl rfl
  | lifted site _ quiet unpaused =>
    exact proceed_flagged flagged (flagged.quiet quiet unpaused) site
  | signalled signal => exact handle_flagged flagged signal
  | _ => exact flagged.congr rfl rfl rfl rfl

/-- An approval is answered when no control request is outstanding. -/
def ApprovedUndisturbed (s : State) (event : Event) : Prop :=
  event = .completed "approved" → s.point = .loadingApproval → requested s.signals = false

/-- Whether the event schedules the write activity. -/
def Writes (s s' : State) : Prop := s'.scheduled = s.scheduled ++ [.executeRun]

theorem not_writes_of_same (same : s'.scheduled = s.scheduled) : ¬ Writes s s' := by
  intro writes
  rw [Writes, same] at writes
  simp at writes

theorem handle_scheduled (s : State) (signal : Signal) :
    (s.handle signal).scheduled = s.scheduled := by
  cases signal with
  | approvalDecided approvalId =>
    by_cases empty : approvalId = "" <;> simp [State.handle, empty]
  | _ => rfl

theorem step_quiet {event : Event} (flagged : Flagged s) (taken : step s event = some s')
    (legal : ApprovedUndisturbed s event) (writes : Writes s s') :
    requested s.signals = false := by
  cases step_moved taken with
  | controlled _ passed =>
    cases passed with
    | proceeds quiet unpaused => exact flagged.quiet quiet unpaused
    | pauses => exact absurd writes (not_writes_of_same rfl)
    | _ => simp [Writes, State.schedule] at writes
  | lifted _ _ quiet unpaused => exact flagged.quiet quiet unpaused
  | approved here => exact legal rfl here
  | signalled signal => exact absurd writes (not_writes_of_same (handle_scheduled s signal))
  | prepares => simp [Writes, State.schedule] at writes
  | refused => simp [Writes, State.reject, State.schedule] at writes
  | expired => simp [Writes, State.expire, State.reject, State.schedule] at writes
  | _ => exact absurd writes (not_writes_of_same rfl)

theorem reach_flagged {ok : State → Event → Prop} (reach : Reach ok command s) : Flagged s := by
  induction reach with
  | start => exact ⟨rfl, rfl⟩
  | next event _ taken _ flagged => exact step_flagged flagged taken

/-- In every run in which `load_approval` answers `approved` only when no control request is
outstanding, the write activity is never scheduled while one is. -/
theorem write_after_control {s s' : State} {event : Event}
    (reach : Reach ApprovedUndisturbed command s) (taken : step s event = some s')
    (legal : ApprovedUndisturbed s event) (writes : Writes s s') :
    requested s.signals = false :=
  step_quiet (reach_flagged reach) taken legal writes

namespace Sample

/-- The workflow while `load_approval` runs. -/
def loading : State where
  command := approvedRun
  point := .loadingApproval
  phase := "awaiting_approval"
  scheduled := [.prepareRun, .loadApproval "a"]
  signals := [.approvalDecided "a"]

theorem loads {ok : State → Event → Prop}
    (free : ∀ s, ok s .begun ∧ ok s (.completed "ready") ∧ ok s .woken ∧
      ok s (.signal (.approvalDecided "a"))) : Reach ok approvedRun loading :=
  .next .woken (.next (.signal (.approvalDecided "a"))
    (waits fun s => ⟨(free s).1, (free s).2.1⟩) rfl (free _).2.2.2) rfl (free _).2.2.1

/-- A cancel is delivered while `load_approval` runs, and the write is scheduled all the same. -/
theorem write_after_cancel :
    ¬ ∀ command s event s', Reach (fun _ _ => True) command s → step s event = some s' →
      Writes s s' → requested s.signals = false := by
  intro holds
  have ready : Reach (fun _ _ => True) approvedRun loading :=
    loads fun _ => ⟨trivial, trivial, trivial, trivial⟩
  have cancelled := Reach.next (.signal (.cancel "stop")) ready rfl trivial
  have quiet := holds approvedRun _ (.completed "approved") _ cancelled rfl rfl
  exact absurd quiet (by decide)

/-- A pause that is resumed before the answer does not hold the write up. -/
theorem write_after_resume : ∃ s s', Reach ApprovedUndisturbed approvedRun s ∧
    step s (.completed "approved") = some s' ∧ Writes s s' ∧
      s.signals = [.approvalDecided "a", .pause, .resume] ∧ requested s.signals = false := by
  have ready : Reach ApprovedUndisturbed approvedRun loading :=
    loads fun _ => ⟨nofun, by simp [ApprovedUndisturbed], nofun, nofun⟩
  have paused := Reach.next (.signal .pause) ready rfl nofun
  have resumed := Reach.next (.signal .resume) paused rfl nofun
  exact ⟨_, _, resumed, rfl, rfl, rfl,
    write_after_control (s := _) resumed (show step _ (.completed "approved") = some _ from rfl)
      (fun _ _ => rfl) rfl⟩

end Sample

end Workflow

end Autonoesis
