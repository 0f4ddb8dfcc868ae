import Autonoesis.Base.Lifecycle
import Autonoesis.Domain.Execution
import Autonoesis.Domain.Improvement

/-!
# The lifecycles of the aggregates

Goals, Runs, Tasks, Actions, candidates and deployments are values: a call returns a new one or
raises. Whatever is called in whatever order, the log of the value is a path through the table of
its statuses, and what was bound to it on the way stays bound.
-/

namespace Autonoesis
open Base

/-- The entry names the two statuses. -/
def Tells {σ : Type} (value : σ → String) (s : σ) (e : StateTransition) (t : σ) : Prop :=
  e.fromStatus = value s ∧ e.toStatus = value t

/-- The arguments of `transition_to`. -/
structure Move (σ : Type) where
  target : σ
  actorId : Uuid
  reason : String
  occurredAt : Instant

/-! ## Goals, Tasks and Actions -/

def goalLifecycle : Lifecycle GoalContract (Move GoalStatus) GoalStatus StateTransition Exc where
  call g m := g.transitionTo m.target m.actorId m.reason m.occurredAt
  status g := g.status
  version g := g.version
  log g := g.transitions
  successors := goalTransitions
  tells := Tells GoalStatus.value
  isMove _ := true
  moves ran _ := by
    obtain ⟨legal, fields⟩ := GoalContract.transitionTo_ok ran
    rw [fields]
    exact ⟨legal, rfl, _, ⟨rfl, rfl⟩, rfl⟩
  stays _ still := by cases still

def taskLifecycle : Lifecycle Task (Move TaskStatus) TaskStatus StateTransition Exc where
  call t m := t.transitionTo m.target m.actorId m.reason m.occurredAt
  status t := t.status
  version t := t.optimisticVersion
  log t := t.transitions
  successors := taskTransitions
  tells := Tells TaskStatus.value
  isMove _ := true
  moves ran _ := by
    obtain ⟨legal, fields⟩ := Task.transitionTo_ok ran
    rw [fields]
    exact ⟨legal, rfl, _, ⟨rfl, rfl⟩, rfl⟩
  stays _ still := by cases still

def actionLifecycle : Lifecycle Action (Move ActionStatus) ActionStatus StateTransition Exc where
  call a m := a.transitionTo m.target m.actorId m.reason m.occurredAt
  status a := a.status
  version a := a.optimisticVersion
  log a := a.transitions
  successors := actionTransitions
  tells := Tells ActionStatus.value
  isMove _ := true
  moves ran _ := by
    obtain ⟨legal, fields⟩ := Action.transitionTo_ok ran
    rw [fields]
    exact ⟨legal, rfl, _, ⟨rfl, rfl⟩, rfl⟩
  stays _ still := by cases still

/-! ## Runs -/

inductive RunCall where
  | transitionTo (move : Move RunStatus)
  | bindExecution (snapshot : RunExecutionSnapshot)

def Run.perform (r : Run) : RunCall → Except Exc Run
  | .transitionTo m => r.transitionTo m.target m.actorId m.reason m.occurredAt
  | .bindExecution snapshot => r.bindExecution snapshot

def RunCall.isMove : RunCall → Bool
  | transitionTo _ => true
  | bindExecution _ => false

def runLifecycle : Lifecycle Run RunCall RunStatus StateTransition Exc where
  call := Run.perform
  status r := r.status
  version r := r.optimisticVersion
  log r := r.transitions
  successors := runTransitions
  tells := Tells RunStatus.value
  isMove := RunCall.isMove
  moves {r r' c} ran move := by
    cases c with
    | bindExecution => cases move
    | transitionTo m =>
      obtain ⟨legal, fields⟩ := Run.transitionTo_ok ran
      rw [fields]
      exact ⟨legal, rfl, _, ⟨rfl, rfl⟩, rfl⟩
  stays {r r' c} ran still := by
    cases c with
    | transitionTo => cases still
    | bindExecution snapshot =>
      obtain ⟨pending, fields⟩ := Run.bindExecution_ok ran
      rw [fields, pending]
      exact ⟨by decide, rfl, rfl, rfl⟩

/-- A Run that has left `pending` has its snapshot, unless it was cancelled right there. -/
def Run.Bound (r : Run) : Prop :=
  r.status = .pending ∧ r.transitions = [] ∨ r.executionSnapshot.isSome ∨
    r.status = .cancelled ∧ ∃ e, Tells RunStatus.value .pending e .cancelled ∧ r.transitions = [e]

theorem Run.bound_perform {r r' : Run} {c : RunCall} (bound : r.Bound)
    (ran : r.perform c = .ok r') : r'.Bound := by
  cases c with
  | bindExecution snapshot =>
    obtain ⟨_, fields⟩ := Run.bindExecution_ok ran
    rw [Run.Bound, fields]
    exact .inr (.inl rfl)
  | transitionTo m =>
    have guard : m.target = .running → r.executionSnapshot.isSome := by
      intro running
      simp only [perform, Run.transitionTo, bind_eq_ok, raiseIf_eq_ok] at ran
      obtain ⟨_, _, _, guarded, _⟩ := ran
      simpa [running] using guarded
    obtain ⟨legal, fields⟩ := Run.transitionTo_ok ran
    rw [Run.Bound, fields]
    obtain ⟨pending, fresh⟩ | held | ⟨cancelled, _⟩ := bound
    · rw [pending] at legal
      simp only [runTransitions, List.mem_cons, List.not_mem_nil, or_false] at legal
      obtain running | cancelled := legal
      · exact .inr (.inl (guard running))
      · refine .inr (.inr ⟨cancelled, _, ⟨?_, ?_⟩, congrArg (· ++ [_]) fresh⟩)
        · exact congrArg RunStatus.value pending
        · exact congrArg RunStatus.value cancelled
    · exact .inr (.inl held)
    · rw [cancelled] at legal
      cases legal

/-- A bound snapshot stays. -/
theorem Run.snapshot_perform {r r' : Run} {c : RunCall} {s : RunExecutionSnapshot}
    (bound : r.executionSnapshot = some s) (ran : r.perform c = .ok r') :
    r'.executionSnapshot = some s := by
  cases c with
  | bindExecution snapshot =>
    have same : snapshot = s := by
      simp only [perform, Run.bindExecution, bind_eq_ok, raiseIf_eq_ok, bound, Option.any_some,
        decide_eq_false_iff_not, not_not] at ran
      obtain ⟨_, _, _, same, _⟩ := ran
      exact same.symm
    obtain ⟨_, fields⟩ := Run.bindExecution_ok ran
    rw [fields, same]
  | transitionTo m =>
    obtain ⟨_, fields⟩ := Run.transitionTo_ok ran
    rw [fields]
    exact bound

/-! ## Candidates -/

inductive CandidateCall where
  | transitionTo (move : Move CandidateStatus)
  | recordEvaluation (target : CandidateStatus) (graderPrincipalId : Uuid) (occurredAt : Instant)
  | recordApproval (target : CandidateStatus) (approverPrincipalId : Uuid) (reason : String)
      (occurredAt : Instant)

def CandidateVersion.perform (c : CandidateVersion) : CandidateCall → Except Exc CandidateVersion
  | .transitionTo m => c.transitionTo m.target m.actorId m.reason m.occurredAt
  | .recordEvaluation target graderPrincipalId occurredAt =>
    c.recordEvaluation target graderPrincipalId occurredAt
  | .recordApproval target approverPrincipalId reason occurredAt =>
    c.recordApproval target approverPrincipalId reason occurredAt

/-- Each call goes through one `transition_to`, and changes of its result only who decided. -/
theorem CandidateVersion.perform_ok {c c' : CandidateVersion} {call : CandidateCall}
    (ran : c.perform call = .ok c') : ∃ target actorId reason occurredAt moved,
      c.transitionTo target actorId reason occurredAt = .ok moved ∧ c'.status = moved.status ∧
        c'.optimisticVersion = moved.optimisticVersion ∧ c'.transitions = moved.transitions := by
  cases call with
  | transitionTo m => exact ⟨_, _, _, _, c', ran, rfl, rfl, rfl⟩
  | recordEvaluation =>
    simp only [perform, CandidateVersion.recordEvaluation, bind_eq_ok] at ran
    obtain ⟨_, _, graded, moved, made⟩ := ran
    cases made
    exact ⟨_, _, _, _, graded, moved, rfl, rfl, rfl⟩
  | recordApproval =>
    simp only [perform, CandidateVersion.recordApproval, bind_eq_ok] at ran
    obtain ⟨_, _, _, _, decided, moved, made⟩ := ran
    cases made
    exact ⟨_, _, _, _, decided, moved, rfl, rfl, rfl⟩

def candidateLifecycle :
    Lifecycle CandidateVersion CandidateCall CandidateStatus StateTransition Exc where
  call := CandidateVersion.perform
  status c := c.status
  version c := c.optimisticVersion
  log c := c.transitions
  successors := candidateTransitions
  tells := Tells CandidateStatus.value
  isMove _ := true
  moves ran _ := by
    obtain ⟨_, _, _, _, moved, ran, status, version, log⟩ := CandidateVersion.perform_ok ran
    obtain ⟨legal, fields⟩ := CandidateVersion.transitionTo_ok ran
    rw [status, version, log, fields]
    exact ⟨legal, rfl, _, ⟨rfl, rfl⟩, rfl⟩
  stays _ still := by cases still

/-! ## Deployments -/

inductive DeploymentCall where
  | transitionTo (move : Move DeploymentStatus)
  | enterCanary (allocation : TrafficAllocation) (actorId : Uuid) (reason : String)
      (occurredAt : Instant)

def Deployment.perform (d : Deployment) : DeploymentCall → Except Exc Deployment
  | .transitionTo m => d.transitionTo m.target m.actorId m.reason m.occurredAt
  | .enterCanary allocation actorId reason occurredAt =>
    d.enterCanary allocation actorId reason occurredAt

/-- What `enter_canary` leaves. -/
theorem Deployment.enterCanary_ok {d d' : Deployment} {allocation : TrafficAllocation}
    {actorId : Uuid} {reason : String} {occurredAt : Instant}
    (h : d.enterCanary allocation actorId reason occurredAt = .ok d') :
    .canary ∈ deploymentTransitions d.status ∧
      d'.toDeploymentFields = { d.moved .canary
        ⟨d.status.value, DeploymentStatus.canary.value, occurredAt, reason, actorId⟩ with
        trafficAllocation := some allocation } := by
  simp only [enterCanary, bind_eq_ok] at h
  obtain ⟨promoted, moved, made⟩ := h
  obtain ⟨legal, fields⟩ := Deployment.transitionTo_ok moved
  cases made
  exact ⟨legal, congrArg (fun f : DeploymentFields => { f with trafficAllocation := some allocation })
    fields⟩

def deploymentLifecycle :
    Lifecycle Deployment DeploymentCall DeploymentStatus StateTransition Exc where
  call := Deployment.perform
  status d := d.status
  version d := d.optimisticVersion
  log d := d.transitions
  successors := deploymentTransitions
  tells := Tells DeploymentStatus.value
  isMove _ := true
  moves {d d' c} ran _ := by
    cases c with
    | transitionTo m =>
      obtain ⟨legal, fields⟩ := Deployment.transitionTo_ok ran
      rw [fields]
      exact ⟨legal, rfl, _, ⟨rfl, rfl⟩, rfl⟩
    | enterCanary =>
      obtain ⟨legal, fields⟩ := Deployment.enterCanary_ok ran
      rw [fields]
      exact ⟨legal, rfl, _, ⟨rfl, rfl⟩, rfl⟩
  stays _ still := by cases still

/-- A deployment out of `shadow` does not enter the canary stage through `enter_canary` again, and
nothing else touches its allocation. -/
theorem Deployment.allocation_perform {d d' : Deployment} {c : DeploymentCall}
    {allocation : TrafficAllocation}
    (inv : d.status ≠ .shadow ∧ d.trafficAllocation = some allocation)
    (ran : d.perform c = .ok d') :
    d'.status ≠ .shadow ∧ d'.trafficAllocation = some allocation := by
  obtain ⟨left, allocated⟩ := inv
  have never : ∀ s, DeploymentStatus.shadow ∉ deploymentTransitions s := by
    intro s
    cases s <;> decide
  cases c with
  | transitionTo m =>
    obtain ⟨legal, fields⟩ := Deployment.transitionTo_ok ran
    rw [fields]
    refine ⟨?_, allocated⟩
    rintro (shadow : m.target = .shadow)
    exact never _ (shadow ▸ legal)
  | enterCanary =>
    obtain ⟨legal, _⟩ := Deployment.enterCanary_ok ran
    cases stage : d.status with
    | shadow => exact absurd stage left
    | _ =>
      rw [stage] at legal
      exact absurd legal (by decide)

/-- What `begin_deployment` creates. -/
theorem CandidateVersion.beginDeployment_fields {c : CandidateVersion} {actorId id : Uuid}
    {reason : String} {now : Instant} {d : Deployment}
    (begun : c.beginDeployment actorId reason id now = .ok d) : d.status = .shadow ∧
      d.transitions = [⟨"approved", DeploymentStatus.shadow.value, now, reason, actorId⟩] := by
  simp only [beginDeployment, bind_eq_ok] at begun
  obtain ⟨_, _, _, _, made⟩ := begun
  cases made
  exact ⟨rfl, rfl⟩

/-- A Run through any calls: its log and version, and the snapshot it is bound to. -/
theorem Run.bound_lifecycle {r : Run} (status : r.status = .pending) (log : r.transitions = [])
    (calls : List RunCall) : runLifecycle.Sound r calls .pending [] ∧
      (runLifecycle.after r calls).Bound ∧
        ∀ s, (runLifecycle.after r calls).executionSnapshot = some s →
          ∀ more, (runLifecycle.after r (calls ++ more)).executionSnapshot = some s := by
  refine ⟨Lifecycle.sound status log calls, ?_, fun s bound more => ?_⟩
  · exact Lifecycle.inv_after (L := runLifecycle) Run.bound_perform (.inl ⟨status, log⟩) calls
  · have kept (more : List RunCall) (r : Run) (bound : r.executionSnapshot = some s) :
        (runLifecycle.after r more).executionSnapshot = some s :=
      Lifecycle.inv_after (L := runLifecycle) Run.snapshot_perform bound more
    rw [Lifecycle.after_append]
    exact kept more _ bound

/-- A deployment in the canary stage keeps the allocation it was given there. -/
theorem Deployment.canary_lifecycle {d canary : Deployment} {allocation : TrafficAllocation}
    {actorId : Uuid} {reason : String} {occurredAt : Instant}
    (entered : d.enterCanary allocation actorId reason occurredAt = .ok canary)
    (more : List DeploymentCall) :
    (deploymentLifecycle.after canary more).trafficAllocation = some allocation := by
  obtain ⟨_, fields⟩ := Deployment.enterCanary_ok entered
  have other : DeploymentStatus.canary ≠ .shadow := by decide
  have start : canary.status ≠ .shadow ∧ canary.trafficAllocation = some allocation := by
    rw [fields]
    exact ⟨other, rfl⟩
  exact (Lifecycle.inv_after (L := deploymentLifecycle) Deployment.allocation_perform start more).2

/-- Every aggregate, from when it is created on, through any calls. -/
theorem lifecycles :
    (∀ (g : GoalContract) calls, g.status = .draft → g.transitions = [] →
      goalLifecycle.Sound g calls .draft []) ∧
    (∀ (t : Task) calls, t.status = .pending → t.transitions = [] →
      taskLifecycle.Sound t calls .pending []) ∧
    (∀ (a : Action) calls, a.status = .proposed → a.transitions = [] →
      actionLifecycle.Sound a calls .proposed []) ∧
    (∀ (c : CandidateVersion) calls, c.status = .draft → c.transitions = [] →
      candidateLifecycle.Sound c calls .draft []) ∧
    (∀ (r : Run) calls, r.status = .pending → r.transitions = [] →
      runLifecycle.Sound r calls .pending [] ∧ (runLifecycle.after r calls).Bound ∧
        ∀ s, (runLifecycle.after r calls).executionSnapshot = some s →
          ∀ more, (runLifecycle.after r (calls ++ more)).executionSnapshot = some s) ∧
    ∀ (c : CandidateVersion) (actorId : Uuid) (reason : String) (id : Uuid) (now : Instant)
      (d : Deployment) calls, c.beginDeployment actorId reason id now = .ok d →
        deploymentLifecycle.Sound d calls .shadow
          [⟨"approved", DeploymentStatus.shadow.value, now, reason, actorId⟩] ∧
        ∀ allocation actorId reason occurredAt canary,
          (deploymentLifecycle.after d calls).enterCanary allocation actorId reason occurredAt =
            .ok canary →
          ∀ more, (deploymentLifecycle.after canary more).trafficAllocation = some allocation := by
  refine ⟨?_, ?_, ?_, ?_, ?_, ?_⟩
  · intro g calls status log
    exact Lifecycle.sound status log calls
  · intro t calls status log
    exact Lifecycle.sound status log calls
  · intro a calls status log
    exact Lifecycle.sound status log calls
  · intro c calls status log
    exact Lifecycle.sound status log calls
  · intro r calls status log
    exact Run.bound_lifecycle status log calls
  · intro c actorId reason id now d calls begun
    obtain ⟨status, log⟩ := CandidateVersion.beginDeployment_fields begun
    refine ⟨Lifecycle.sound status log calls, ?_⟩
    intro allocation actorId reason occurredAt canary entered more
    exact Deployment.canary_lifecycle entered more

namespace LifecycleSample

def run : Run where
  tenantId := 1
  goalId := 2
  agentVersionId := 3
  runId := 4
  createdAt := 0
  valid := by decide

def snapshot : RunExecutionSnapshot where
  planId := 5
  contextSnapshotId := 6
  agentVersionId := 3
  skillVersions := []
  toolVersions := []
  modelRoute := "default"
  policyVersion := "policy@1"

/-- The first call raises, and so does the last. -/
def calls : List RunCall :=
  [.transitionTo ⟨.running, 7, "too early", 1⟩, .bindExecution snapshot,
    .transitionTo ⟨.running, 7, "start", 2⟩, .transitionTo ⟨.failed, 7, "broken", 3⟩,
    .transitionTo ⟨.running, 7, "again", 4⟩]

theorem run_failed : (runLifecycle.after run calls).status = .failed ∧
    runLifecycle.moved run calls = 2 ∧ runLifecycle.Sound run calls .pending [] :=
  ⟨by decide +kernel, by decide +kernel, (lifecycles.2.2.2.2.1 run calls rfl rfl).1⟩

end LifecycleSample

end Autonoesis
