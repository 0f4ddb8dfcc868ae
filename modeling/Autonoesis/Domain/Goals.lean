import Autonoesis.Domain.Transitions

/-! Goal and Run aggregates. A value carries the proof that its constructor's
checks passed, so that a Goal without criteria or a Run of version zero cannot be built. -/

namespace Autonoesis
open Base

inductive GoalStatus where
  | draft | active | paused | satisfied | failed | cancelled
  deriving DecidableEq

def GoalStatus.value : GoalStatus → String
  | draft => "draft"
  | active => "active"
  | paused => "paused"
  | satisfied => "satisfied"
  | failed => "failed"
  | cancelled => "cancelled"

inductive RunStatus where
  | pending | running | blocked | awaitingEvidence | succeeded | failed | cancelled
  deriving DecidableEq

def RunStatus.value : RunStatus → String
  | pending => "pending"
  | running => "running"
  | blocked => "blocked"
  | awaitingEvidence => "awaiting_evidence"
  | succeeded => "succeeded"
  | failed => "failed"
  | cancelled => "cancelled"

/-- `_GOAL_TRANSITIONS`. -/
def goalTransitions : GoalStatus → List GoalStatus
  | .draft => [.active, .cancelled]
  | .active => [.paused, .satisfied, .failed, .cancelled]
  | .paused => [.active, .failed, .cancelled]
  | _ => []

/-- `_RUN_TRANSITIONS`. -/
def runTransitions : RunStatus → List RunStatus
  | .pending => [.running, .cancelled]
  | .running => [.blocked, .awaitingEvidence, .succeeded, .failed, .cancelled]
  | .blocked => [.running, .failed, .cancelled]
  | .awaitingEvidence => [.succeeded, .failed, .cancelled]
  | _ => []

structure SubjectRef where
  system : String
  subjectType : String
  subjectId : String
  version : Option String := none
  deriving DecidableEq

def SubjectRef.check (s : SubjectRef) : Except Exc Unit :=
  checks [([s.system, s.subjectType, s.subjectId].any isBlank,
    .valueError "subject system, type, and id must not be empty")]

structure SuccessCriterion where
  criterionId : String
  description : String
  evidenceType : String
  deriving DecidableEq

def SuccessCriterion.check (c : SuccessCriterion) : Except Exc Unit :=
  checks [([c.criterionId, c.description, c.evidenceType].any isBlank,
    .valueError "success criterion fields must not be empty")]

structure GoalFields where
  tenantId : Uuid
  goalType : String
  statement : String
  desiredOutcome : String
  subjectRefs : List SubjectRef
  successCriteria : List SuccessCriterion
  constraints : List String
  ownerId : Uuid
  riskTier : RiskTier
  budgetLimit : BudgetAmount
  deadline : Instant
  inputPayload : JsonObject
  delegationId : Option Uuid := none
  dataPolicy : DataPolicy := {}
  executionMode : ExecutionMode := .supervised
  maxConcurrentRuns : Int := 1
  goalId : Uuid
  version : Int := 1
  status : GoalStatus := .draft
  createdAt : Instant
  transitions : List StateTransition := []
  deriving DecidableEq

def GoalFields.check (g : GoalFields) : Except Exc Unit :=
  checks [
    ([g.goalType, g.statement, g.desiredOutcome].any isBlank,
      .valueError "goal type, statement, and desired outcome must not be empty"),
    (g.subjectRefs.isEmpty || g.successCriteria.isEmpty,
      .valueError "goal requires subjects and success criteria"),
    (g.budgetLimit.amount ≤ 0, .valueError "goal budget must be positive"),
    (g.maxConcurrentRuns ≤ 0, .valueError "goal concurrent run limit must be positive"),
    (g.version < 1, .valueError "goal version must be positive"),
    (g.deadline ≤ g.createdAt, .valueError "goal deadline must be after creation")]

structure GoalContract extends GoalFields where
  valid : toGoalFields.check = .ok ()
  deriving DecidableEq

def GoalContract.make (g : GoalFields) : Except Exc GoalContract :=
  guarded g.check fun h => ⟨g, h⟩

/-- The fields a legal transition replaces. -/
def GoalFields.moved (g : GoalFields) (target : GoalStatus) (t : StateTransition) : GoalFields :=
  { g with status := target, version := g.version + 1, transitions := g.transitions ++ [t] }

theorem GoalFields.moved_check {g : GoalFields} (h : g.check = .ok ()) (target : GoalStatus)
    (t : StateTransition) : (g.moved target t).check = .ok () := by
  simp only [check, checks_cons, checks_nil, decide_eq_false_iff_not] at h ⊢
  obtain ⟨texts, parts, budget, runs, version, deadline⟩ := h
  refine ⟨texts, parts, budget, runs, ?_, deadline⟩
  dsimp only [moved]
  omega

/-- `GoalContract.transition_to`, with the clock reading it takes. -/
def GoalContract.transitionTo (g : GoalContract) (target : GoalStatus) (actorId : Uuid)
    (reason : String) (at_ : Instant) : Except Exc GoalContract := do
  requireTransition GoalStatus.value goalTransitions g.status target
  raiseIf (target = .active && g.deadline ≤ at_) (.valueError "expired goal cannot be activated")
  let t ← transitionRecord g.status.value target.value actorId reason at_
  return ⟨g.moved target t, GoalFields.moved_check g.valid target t⟩

/-- What a successful transition leaves. -/
theorem GoalContract.transitionTo_ok {g g' : GoalContract} {target : GoalStatus} {actorId : Uuid}
    {reason : String} {at_ : Instant}
    (h : g.transitionTo target actorId reason at_ = .ok g') :
    target ∈ goalTransitions g.status ∧
      g'.toGoalFields = g.moved target ⟨g.status.value, target.value, at_, reason, actorId⟩ := by
  simp only [transitionTo, bind_eq_ok, transitionRecord_ok] at h
  obtain ⟨_, legal, _, _, _, ⟨_, rfl⟩, moved⟩ := h
  cases moved
  exact ⟨requireTransition_ok.mp legal, rfl⟩

/-- `GoalContract.assert_run_request_allowed`. -/
def GoalContract.assertRunRequestAllowed (g : GoalContract) (activeRunCount : Int) (now : Instant) :
    Except Exc Unit :=
  checks [
    (g.status ≠ .active, .valueError "run requires an active goal"),
    (g.deadline ≤ now, .valueError "run cannot be requested for an expired goal"),
    (g.maxConcurrentRuns ≤ activeRunCount, .valueError "goal concurrent run limit reached")]

/-- `name@version` references, each once. -/
def versionRefsCheck (versions : List String) (label : String) : Except Exc Unit :=
  checks [
    (versions.any (fun v => !v.toList.contains '@' || v.toList.all (· = '@')),
      .valueError ("run " ++ label ++ " versions must use immutable name@version references")),
    (!decide versions.Nodup, .valueError ("run " ++ label ++ " versions must be unique"))]

structure RunExecutionSnapshot where
  planId : Uuid
  contextSnapshotId : Uuid
  agentVersionId : Uuid
  skillVersions : List String
  toolVersions : List String
  modelRoute : String
  policyVersion : String
  deriving DecidableEq

def RunExecutionSnapshot.check (s : RunExecutionSnapshot) : Except Exc Unit := do
  raiseIf (isBlank s.modelRoute || isBlank s.policyVersion)
    (.valueError "run model route and policy version must not be empty")
  versionRefsCheck s.skillVersions "skill"
  versionRefsCheck s.toolVersions "tool"

structure RunFields where
  tenantId : Uuid
  goalId : Uuid
  agentVersionId : Uuid
  executionSnapshot : Option RunExecutionSnapshot := none
  runId : Uuid
  status : RunStatus := .pending
  optimisticVersion : Int := 1
  createdAt : Instant
  transitions : List StateTransition := []
  deploymentId : Option Uuid := none

def RunFields.check (r : RunFields) : Except Exc Unit :=
  checks [(r.optimisticVersion < 1, .valueError "run optimistic version must be positive")]

structure Run extends RunFields where
  valid : toRunFields.check = .ok ()

def Run.make (r : RunFields) : Except Exc Run := guarded r.check fun h => ⟨r, h⟩

def Run.bindExecution (r : Run) (snapshot : RunExecutionSnapshot) : Except Exc Run := do
  raiseIf (r.status ≠ .pending)
    (.valueError "execution snapshot can only be bound while run is pending")
  raiseIf (r.executionSnapshot.any (· ≠ snapshot))
    (.valueError "run execution snapshot is immutable once bound")
  raiseIf (snapshot.agentVersionId ≠ r.agentVersionId)
    (.valueError "run and snapshot agent versions must match")
  return { r with executionSnapshot := some snapshot, valid := r.valid }

theorem Run.bindExecution_ok {r r' : Run} {snapshot : RunExecutionSnapshot}
    (h : r.bindExecution snapshot = .ok r') :
    r.status = .pending ∧
      r'.toRunFields = { r.toRunFields with executionSnapshot := some snapshot } := by
  simp only [bindExecution, bind_eq_ok, raiseIf_eq_ok, decide_eq_false_iff_not, not_not] at h
  obtain ⟨_, pending, _, _, _, _, bound⟩ := h
  cases bound
  exact ⟨pending, rfl⟩

def RunFields.moved (r : RunFields) (target : RunStatus) (t : StateTransition) : RunFields :=
  { r with
    status := target
    optimisticVersion := r.optimisticVersion + 1
    transitions := r.transitions ++ [t] }

theorem RunFields.moved_check {r : RunFields} (h : r.check = .ok ()) (target : RunStatus)
    (t : StateTransition) : (r.moved target t).check = .ok () := by
  simp only [check, checks_cons, checks_nil, decide_eq_false_iff_not, and_true] at h ⊢
  dsimp only [moved]
  omega

def Run.transitionTo (r : Run) (target : RunStatus) (actorId : Uuid) (reason : String)
    (occurredAt : Instant) : Except Exc Run := do
  requireTransition RunStatus.value runTransitions r.status target
  raiseIf (target = .running && r.executionSnapshot.isNone)
    (.valueError "run requires a fixed execution snapshot before starting")
  let t ← transitionRecord r.status.value target.value actorId reason occurredAt
  return ⟨r.moved target t, RunFields.moved_check r.valid target t⟩

/-- What a successful transition leaves. -/
theorem Run.transitionTo_ok {r r' : Run} {target : RunStatus} {actorId : Uuid} {reason : String}
    {occurredAt : Instant} (h : r.transitionTo target actorId reason occurredAt = .ok r') :
    target ∈ runTransitions r.status ∧
      r'.toRunFields = r.moved target
        ⟨r.status.value, target.value, occurredAt, reason, actorId⟩ := by
  simp only [transitionTo, bind_eq_ok, transitionRecord_ok] at h
  obtain ⟨_, legal, _, _, _, ⟨_, rfl⟩, moved⟩ := h
  cases moved
  exact ⟨requireTransition_ok.mp legal, rfl⟩

/-- `_run_is_active`. -/
def Run.isActive (r : Run) : Bool :=
  r.status ∈ [RunStatus.pending, .running, .blocked, .awaitingEvidence]

end Autonoesis
