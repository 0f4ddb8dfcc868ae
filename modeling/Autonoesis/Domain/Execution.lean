import Autonoesis.Domain.Goals

/-! Plans, side effects, approvals and evidence. As for Goals, every record carries
the proof that its constructor accepted it. -/

namespace Autonoesis
open Base

inductive TaskStatus where
  | pending | ready | running | blocked | succeeded | failed
  deriving DecidableEq

def TaskStatus.value : TaskStatus → String
  | pending => "pending"
  | ready => "ready"
  | running => "running"
  | blocked => "blocked"
  | succeeded => "succeeded"
  | failed => "failed"

inductive RiskLevel where
  | l0Compute | l1Read | l2ReversibleWrite | l3HighImpactWrite | l4Privileged
  deriving DecidableEq

def RiskLevel.value : RiskLevel → String
  | l0Compute => "l0_compute"
  | l1Read => "l1_read"
  | l2ReversibleWrite => "l2_reversible_write"
  | l3HighImpactWrite => "l3_high_impact_write"
  | l4Privileged => "l4_privileged"

/-- `_WRITE_RISKS`. -/
def RiskLevel.isWrite (r : RiskLevel) : Bool :=
  r ∈ [l2ReversibleWrite, l3HighImpactWrite, l4Privileged]

inductive ActionStatus where
  | proposed | awaitingApproval | authorized | executing | succeeded | failed | denied | unknown
  deriving DecidableEq

def ActionStatus.value : ActionStatus → String
  | proposed => "proposed"
  | awaitingApproval => "awaiting_approval"
  | authorized => "authorized"
  | executing => "executing"
  | succeeded => "succeeded"
  | failed => "failed"
  | denied => "denied"
  | unknown => "unknown"

inductive ActionAttemptStatus where
  | started | succeeded | failed | unknown
  deriving DecidableEq

inductive OutcomeStatus where
  | verified | notMet | unknown
  deriving DecidableEq

def OutcomeStatus.value : OutcomeStatus → String
  | verified => "verified"
  | notMet => "not_met"
  | unknown => "unknown"

inductive ApprovalStatus where
  | pending | approved | rejected | expired
  deriving DecidableEq

def ApprovalStatus.value : ApprovalStatus → String
  | pending => "pending"
  | approved => "approved"
  | rejected => "rejected"
  | expired => "expired"

inductive CompensationCapability where
  | none | available | required
  deriving DecidableEq

inductive EvidenceCaptureMethod where
  | authoritativeReadback | signedEvent | systemQuery | humanAttestation
  deriving DecidableEq

inductive EvidenceIntegrity where
  | verified | unverified | invalid
  deriving DecidableEq

/-- `_TASK_TRANSITIONS`. -/
def taskTransitions : TaskStatus → List TaskStatus
  | .pending => [.ready, .blocked]
  | .ready => [.running, .blocked]
  | .running => [.blocked, .succeeded, .failed]
  | .blocked => [.ready, .failed]
  | _ => []

/-- `_ACTION_TRANSITIONS`. -/
def actionTransitions : ActionStatus → List ActionStatus
  | .proposed => [.awaitingApproval, .authorized, .denied]
  | .awaitingApproval => [.authorized, .denied]
  | .authorized => [.executing]
  | .executing => [.succeeded, .failed, .unknown]
  | .unknown => [.succeeded, .failed]
  | _ => []

/-! ## Tasks and plans -/

structure TaskFields where
  tenantId : Uuid
  runId : Uuid
  name : String
  completionCriterion : String
  dependsOn : List Uuid := []
  preconditions : List String := []
  estimatedCost : BudgetAmount := ⟨0, .costUnits⟩
  riskLevel : RiskLevel := .l0Compute
  compensation : CompensationCapability := .none
  evidenceRequirements : List String := []
  taskId : Uuid
  status : TaskStatus := .pending
  optimisticVersion : Int := 1
  transitions : List StateTransition := []
  deriving DecidableEq

def TaskFields.check (t : TaskFields) : Except Exc Unit :=
  checks [
    (isBlank t.name || isBlank t.completionCriterion,
      .valueError "task name and completion criterion must not be empty"),
    (t.taskId ∈ t.dependsOn, .valueError "task cannot depend on itself"),
    ((t.preconditions ++ t.evidenceRequirements).any isBlank,
      .valueError "task preconditions and evidence requirements must not be empty"),
    (t.riskLevel.isWrite && t.evidenceRequirements.isEmpty,
      .valueError "write task requires evidence requirements"),
    (t.optimisticVersion < 1, .valueError "task optimistic version must be positive")]

structure Task extends TaskFields where
  valid : toTaskFields.check = .ok ()
  deriving DecidableEq

def Task.make (t : TaskFields) : Except Exc Task := guarded t.check fun h => ⟨t, h⟩

def TaskFields.moved (t : TaskFields) (target : TaskStatus) (e : StateTransition) : TaskFields :=
  { t with
    status := target
    optimisticVersion := t.optimisticVersion + 1
    transitions := t.transitions ++ [e] }

theorem TaskFields.moved_check {t : TaskFields} (h : t.check = .ok ()) (target : TaskStatus)
    (e : StateTransition) : (t.moved target e).check = .ok () := by
  simp only [check, checks_cons, checks_nil, decide_eq_false_iff_not, and_true] at h ⊢
  obtain ⟨texts, self, parts, write, version⟩ := h
  refine ⟨texts, self, parts, write, ?_⟩
  dsimp only [moved]
  omega

def Task.transitionTo (t : Task) (target : TaskStatus) (actorId : Uuid) (reason : String)
    (occurredAt : Instant) : Except Exc Task := do
  requireTransition TaskStatus.value taskTransitions t.status target
  let e ← transitionRecord t.status.value target.value actorId reason occurredAt
  return ⟨t.moved target e, TaskFields.moved_check t.valid target e⟩

/-- What a successful transition leaves. -/
theorem Task.transitionTo_ok {t t' : Task} {target : TaskStatus} {actorId : Uuid}
    {reason : String} {occurredAt : Instant}
    (h : t.transitionTo target actorId reason occurredAt = .ok t') :
    target ∈ taskTransitions t.status ∧
      t'.toTaskFields = t.moved target
        ⟨t.status.value, target.value, occurredAt, reason, actorId⟩ := by
  simp only [transitionTo, bind_eq_ok, transitionRecord_ok] at h
  obtain ⟨_, legal, _, ⟨_, rfl⟩, moved⟩ := h
  cases moved
  exact ⟨requireTransition_ok.mp legal, rfl⟩

/-- `visit` in `Plan.__post_init__`: the tasks on the current path and those done. `frames` is how
many of these calls the interpreter's stack has room for; a call beyond them raises. -/
def Plan.visit (dependencies : Uuid → List Uuid) :
    (frames : Nat) → List Uuid × List Uuid → Uuid → Except Exc (List Uuid × List Uuid)
  | 0, _, _ => .error (.recursionError "maximum recursion depth exceeded")
  | frames + 1, (visiting, visited), taskId =>
    if taskId ∈ visiting then .error (.valueError "plan task graph must not contain a cycle")
    else if taskId ∈ visited then .ok (visiting, visited)
    else do
      let (_, visited) ← (dependencies taskId).foldlM (Plan.visit dependencies frames)
        (taskId :: visiting, visited)
      return (visiting, taskId :: visited)

structure PlanFields where
  tenantId : Uuid
  goalId : Uuid
  runId : Uuid
  tasks : List Task
  version : Int := 1
  planId : Uuid

def PlanFields.dependencies (p : PlanFields) (taskId : Uuid) : List Uuid :=
  ((p.tasks.find? (·.taskId = taskId)).map (·.dependsOn)).getD []

/-- The checks on one task, in the order the loop makes them. -/
def PlanFields.checkTask (p : PlanFields) (t : Task) : Except Exc Unit :=
  checks [
    (t.tenantId ≠ p.tenantId || t.runId ≠ p.runId,
      .valueError "plan tasks must share tenant_id and run_id"),
    (!t.dependsOn.all (fun d => decide (d ∈ p.tasks.map (·.taskId))),
      .valueError "task dependency must exist in the same plan")]

/-- `Plan.__post_init__`, visiting the task ids in the order given, on a stack with room for
`frames` visits. -/
def PlanFields.checkIn (p : PlanFields) (frames : Nat) (order : List Uuid) : Except Exc Unit := do
  checks [
    (p.version < 1, .valueError "plan version must be positive"),
    (p.tasks.isEmpty, .valueError "plan must contain at least one task"),
    (!decide (p.tasks.map (·.taskId)).Nodup, .valueError "plan task ids must be unique")]
  p.tasks.forM p.checkTask
  let _ ← order.foldlM (Plan.visit p.dependencies frames) ([], [])

/-- The constructor, where the stack has room for a path through all the tasks. -/
def PlanFields.check (p : PlanFields) : Except Exc Unit :=
  p.checkIn (p.tasks.length + 1) (p.tasks.map (·.taskId))

structure Plan extends PlanFields where
  valid : toPlanFields.check = .ok ()

def Plan.make (p : PlanFields) : Except Exc Plan := guarded p.check fun h => ⟨p, h⟩

/-- The tasks of a plan are tasks of its Run. -/
theorem Plan.members (p : Plan) {t : Task} (there : t ∈ p.tasks) :
    t.tenantId = p.tenantId ∧ t.runId = p.runId := by
  have valid := p.valid
  simp only [PlanFields.check, PlanFields.checkIn, bind_eq_ok, forM_eq_ok] at valid
  obtain ⟨_, _, _, checked, _⟩ := valid
  have member := checked t there
  simp only [PlanFields.checkTask, checks_cons, Bool.or_eq_false_iff, decide_eq_false_iff_not,
    not_not] at member
  exact member.1

/-! ## Actions and attempts -/

structure ActionFields where
  tenantId : Uuid
  runId : Uuid
  taskId : Uuid
  toolName : String
  toolVersion : String
  operation : String
  resourceScope : String
  parameters : JsonObject
  riskLevel : RiskLevel
  idempotencyKey : String
  expectedEffect : String
  classification : DataClassification := .internal
  executionMode : ExecutionMode := .supervised
  actionId : Uuid
  status : ActionStatus := .proposed
  optimisticVersion : Int := 1
  transitions : List StateTransition := []
  deriving DecidableEq

def ActionFields.check (a : ActionFields) : Except Exc Unit :=
  checks [
    ([a.toolName, a.toolVersion, a.operation, a.resourceScope, a.idempotencyKey,
        a.expectedEffect].any isBlank,
      .valueError "action identifiers and expected effect must not be empty"),
    (a.optimisticVersion < 1, .valueError "action optimistic version must be positive")]

structure Action extends ActionFields where
  valid : toActionFields.check = .ok ()
  deriving DecidableEq

def Action.make (a : ActionFields) : Except Exc Action := guarded a.check fun h => ⟨a, h⟩

def ActionFields.moved (a : ActionFields) (target : ActionStatus) (e : StateTransition) :
    ActionFields :=
  { a with
    status := target
    optimisticVersion := a.optimisticVersion + 1
    transitions := a.transitions ++ [e] }

theorem ActionFields.moved_check {a : ActionFields} (h : a.check = .ok ()) (target : ActionStatus)
    (e : StateTransition) : (a.moved target e).check = .ok () := by
  simp only [check, checks_cons, checks_nil, decide_eq_false_iff_not, and_true] at h ⊢
  refine ⟨h.1, ?_⟩
  dsimp only [moved]
  omega

def Action.transitionTo (a : Action) (target : ActionStatus) (actorId : Uuid) (reason : String)
    (occurredAt : Instant) : Except Exc Action := do
  requireTransition ActionStatus.value actionTransitions a.status target
  let e ← transitionRecord a.status.value target.value actorId reason occurredAt
  return ⟨a.moved target e, ActionFields.moved_check a.valid target e⟩

/-- An Action without its lifecycle: what a transition never touches. -/
def ActionFields.core (a : ActionFields) : ActionFields :=
  { a with status := .proposed, optimisticVersion := 1, transitions := [] }

/-- What a successful transition leaves. -/
theorem Action.transitionTo_ok {a a' : Action} {target : ActionStatus} {actorId : Uuid}
    {reason : String} {occurredAt : Instant}
    (h : a.transitionTo target actorId reason occurredAt = .ok a') :
    target ∈ actionTransitions a.status ∧
      a'.toActionFields = a.moved target
        ⟨a.status.value, target.value, occurredAt, reason, actorId⟩ := by
  simp only [transitionTo, bind_eq_ok, transitionRecord_ok] at h
  obtain ⟨_, legal, _, ⟨_, rfl⟩, moved⟩ := h
  cases moved
  exact ⟨requireTransition_ok.mp legal, rfl⟩

section
variable [Sha256]

def ActionFields.parameterDigest (a : ActionFields) : String := a.parameters.digest

/-- The executable fields of an Action, one a line. -/
def ActionFields.canonical (a : ActionFields) : String :=
  "\n".intercalate [a.tenantId.str, a.runId.str, a.taskId.str, a.actionId.str, a.toolName,
    a.toolVersion, a.operation, a.resourceScope, a.parameters.canonical, a.riskLevel.value,
    a.idempotencyKey, a.expectedEffect, a.classification.value, a.executionMode.value]

def ActionFields.canonicalDigest (a : ActionFields) : String := Sha256.hexdigest a.canonical

end

structure ActionAttemptFields where
  tenantId : Uuid
  runId : Uuid
  actionId : Uuid
  invocationId : Uuid
  status : ActionAttemptStatus
  idempotencyKey : String
  receiptRef : String
  executorIdentity : String
  failureReason : Option String := none
  attemptId : Uuid
  recordedAt : Instant

def ActionAttemptFields.check (a : ActionAttemptFields) : Except Exc Unit :=
  checks [
    ([a.idempotencyKey, a.receiptRef, a.executorIdentity].any isBlank,
      .valueError "action attempt identity, idempotency, and receipt are required"),
    (a.status = .failed && a.failureReason.all isBlank,
      .valueError "failed action attempt requires a failure reason")]

structure ActionAttempt extends ActionAttemptFields where
  valid : toActionAttemptFields.check = .ok ()

def ActionAttempt.make (a : ActionAttemptFields) : Except Exc ActionAttempt :=
  guarded a.check fun h => ⟨a, h⟩

/-! ## Approvals -/

structure ApprovalReview where
  actorId : Uuid
  principalId : Uuid
  approved : Bool
  reason : String
  reviewedAt : Instant

def ApprovalReview.check (r : ApprovalReview) : Except Exc Unit :=
  checks [(isBlank r.reason,
    .valueError "approval review requires a reason and timezone-aware timestamp")]

structure ApprovalFields where
  tenantId : Uuid
  runId : Uuid
  actionId : Uuid
  actionDigest : String
  toolVersion : String
  operation : String
  resourceScope : String
  argumentDigest : String
  policyVersion : String
  impactSummary : String
  requiredRole : String
  expiresAt : Instant
  approvalId : Uuid
  status : ApprovalStatus := .pending
  decidedBy : Option Uuid := none
  reason : Option String := none
  createdAt : Instant
  decidedAt : Option Instant := none
  optimisticVersion : Int := 1
  transitions : List StateTransition := []
  requiredReviews : Int := 1
  reviews : List ApprovalReview := []

def ApprovalFields.check (a : ApprovalFields) : Except Exc Unit :=
  checks [
    ([a.actionDigest, a.toolVersion, a.operation, a.resourceScope, a.argumentDigest,
        a.policyVersion, a.impactSummary, a.requiredRole].any isBlank,
      .valueError "approval binding, impact, and role are required"),
    (a.expiresAt ≤ a.createdAt, .valueError "approval expiry must be after creation"),
    ([a.actionDigest, a.argumentDigest].any (fun d => !isSha256Hex d),
      .valueError "approval digests must be lowercase SHA-256 values"),
    (a.optimisticVersion < 1, .valueError "approval optimistic version must be positive"),
    (a.requiredReviews ≠ 1 && a.requiredReviews ≠ 2,
      .valueError "approval review count must be one or two"),
    (!decide (a.reviews.map (·.principalId)).Nodup,
      .valueError "approval reviews must come from distinct principals")]

structure ApprovalRequest extends ApprovalFields where
  valid : toApprovalFields.check = .ok ()

def ApprovalRequest.make (a : ApprovalFields) : Except Exc ApprovalRequest :=
  guarded a.check fun h => ⟨a, h⟩

/-- `ApprovalRequest.decide`, with the clock reading it takes after its own checks. -/
def ApprovalRequest.decide (a : ApprovalRequest) (approverId : Uuid) (approved : Bool)
    (reason : String) (principalId : Option Uuid) (now : Instant) :
    Except Exc ApprovalRequest := do
  raiseIf (a.status ≠ .pending) (.valueError "approval has already been decided")
  raiseIf (isBlank reason) (.valueError "approval decision requires a reason")
  let reviewer := principalId.getD approverId
  raiseIf (reviewer ∈ a.reviews.map (·.principalId))
    (.permissionError "the same principal cannot submit two approval reviews")
  if a.expiresAt ≤ now then
    let t ← transitionRecord a.status.value ApprovalStatus.expired.value approverId
      "approval expired before decision" now
    ApprovalRequest.make { a.toApprovalFields with
      status := .expired
      decidedAt := some now
      optimisticVersion := a.optimisticVersion + 1
      transitions := a.transitions ++ [t] }
  else
    let reviews := a.reviews ++ [⟨approverId, reviewer, approved, reason, now⟩]
    if approved && reviews.length < a.requiredReviews then
      ApprovalRequest.make { a.toApprovalFields with
        reviews := reviews
        optimisticVersion := a.optimisticVersion + 1 }
    else
      let target := if approved then ApprovalStatus.approved else ApprovalStatus.rejected
      let t ← transitionRecord a.status.value target.value approverId reason now
      ApprovalRequest.make { a.toApprovalFields with
        status := target
        decidedBy := some approverId
        reason := some reason
        decidedAt := some now
        optimisticVersion := a.optimisticVersion + 1
        transitions := a.transitions ++ [t]
        reviews := reviews }

/-- `ApprovalRequest.authorizes` at the instant `now`. -/
def ApprovalRequest.authorizes [Sha256] (a : ApprovalRequest) (action : Action)
    (policyVersion : String) (now : Instant) : Bool :=
  a.status = .approved && now < a.expiresAt && a.tenantId = action.tenantId &&
    a.runId = action.runId && a.actionId = action.actionId &&
    a.actionDigest = action.canonicalDigest && a.toolVersion = action.toolVersion &&
    a.operation = action.operation && a.resourceScope = action.resourceScope &&
    a.argumentDigest = action.parameterDigest && a.policyVersion = policyVersion

/-! ## Evidence and outcomes -/

structure EvidenceFields where
  tenantId : Uuid
  runId : Uuid
  actionId : Uuid
  source : String
  sourceIdentity : String
  captureMethod : EvidenceCaptureMethod
  reference : String
  observedState : String
  contentDigest : String
  classification : DataClassification
  validFrom : Instant
  validUntil : Instant
  integrity : EvidenceIntegrity
  sourceReference : String := ""
  subjectRefs : List SubjectRef := []
  retainedUntil : Option Instant := none
  artifactVersionId : Option String := none
  evidenceId : Uuid
  capturedAt : Instant
  deriving DecidableEq

def EvidenceFields.check (e : EvidenceFields) : Except Exc Unit :=
  checks [
    ([e.source, e.sourceIdentity, e.reference, e.observedState].any isBlank,
      .valueError "evidence source, identity, reference, and state must not be empty"),
    (!isSha256Hex e.contentDigest,
      .valueError "evidence content digest must be a lowercase SHA-256 value"),
    (e.capturedAt < e.validFrom || e.validUntil < e.capturedAt,
      .valueError "evidence capture must fall within its validity interval"),
    (e.sourceReference ≠ "" && isBlank e.sourceReference,
      .valueError "evidence source reference must not be blank"),
    (!decide e.subjectRefs.Nodup, .valueError "evidence subject references must be unique"),
    (e.retainedUntil.any (· < e.capturedAt),
      .valueError "evidence retention cannot end before capture")]

structure Evidence extends EvidenceFields where
  valid : toEvidenceFields.check = .ok ()
  deriving DecidableEq

def Evidence.make (e : EvidenceFields) : Except Exc Evidence := guarded e.check fun h => ⟨e, h⟩

structure OutcomeFields where
  tenantId : Uuid
  goalId : Uuid
  runId : Uuid
  criterionId : String
  verifierVersion : String
  status : OutcomeStatus
  evidence : List Evidence
  outcomeId : Uuid
  verifiedAt : Option Instant := none
  deriving DecidableEq

/-- What a verified Outcome demands of one of its evidence items. -/
def OutcomeFields.checkEvidence (o : OutcomeFields) (verifiedAt : Instant) (e : Evidence) :
    Except Exc Unit :=
  checks [
    (e.tenantId ≠ o.tenantId || e.runId ≠ o.runId,
      .valueError "outcome evidence must share tenant and run"),
    (e.integrity ≠ .verified,
      .valueError "verified outcome requires integrity-verified evidence"),
    (!(decide (e.validFrom ≤ verifiedAt) && decide (verifiedAt ≤ e.validUntil)),
      .valueError "verified outcome requires currently valid evidence")]

def OutcomeFields.check (o : OutcomeFields) : Except Exc Unit := do
  checks [
    (isBlank o.criterionId || isBlank o.verifierVersion,
      .valueError "outcome criterion id and verifier version must not be empty"),
    (!decide (o.evidence.map (·.evidenceId)).Nodup,
      .valueError "outcome evidence ids must be unique"),
    (o.status = .verified && o.evidence.isEmpty,
      .valueError "verified outcome requires evidence"),
    (o.status = .verified && o.verifiedAt.isNone,
      .valueError "verified outcome requires a verification timestamp")]
  if o.status = .verified then
    match o.verifiedAt with
    | some at_ => o.evidence.forM (o.checkEvidence at_)
    | none => .ok ()
  else .ok ()

structure Outcome extends OutcomeFields where
  valid : toOutcomeFields.check = .ok ()
  deriving DecidableEq

def Outcome.make (o : OutcomeFields) : Except Exc Outcome := guarded o.check fun h => ⟨o, h⟩

/-- Integrity-verified evidence of the Outcome's own tenant and Run, current when
the Outcome was verified. -/
def OutcomeFields.Proven (o : OutcomeFields) : Prop :=
  o.evidence ≠ [] ∧ ∃ at_, o.verifiedAt = some at_ ∧ ∀ e ∈ o.evidence,
    e.tenantId = o.tenantId ∧ e.runId = o.runId ∧ e.integrity = .verified ∧
    e.validFrom ≤ at_ ∧ at_ ≤ e.validUntil

/-- A verified Outcome cannot be built on anything less. -/
theorem Outcome.proven (o : Outcome) (verified : o.status = .verified) : o.Proven := by
  have valid := o.valid
  simp only [OutcomeFields.check, verified, bind_eq_ok, checks_cons, if_true] at valid
  obtain ⟨_, ⟨_, _, evidence, timestamp, _⟩, each⟩ := valid
  cases at_ : o.verifiedAt with
  | none => simp [at_] at timestamp
  | some instant =>
    refine ⟨by simpa using evidence, instant, at_, fun e there => ?_⟩
    rw [at_] at each
    have item := forM_eq_ok.mp each e there
    simp only [OutcomeFields.checkEvidence, checks_cons, checks_nil, Bool.or_eq_false_iff,
      decide_eq_false_iff_not, not_not, Bool.not_eq_false', Bool.and_eq_true,
      decide_eq_true_eq] at item
    obtain ⟨⟨tenant, run⟩, integrity, ⟨since, until_⟩, _⟩ := item
    exact ⟨tenant, run, integrity, since, until_⟩

/-! ## Execution envelopes -/

structure EnvelopeFields where
  invocationId : Uuid
  tenantId : Uuid
  runId : Uuid
  taskId : Uuid
  actionId : Uuid
  actorId : Uuid
  principalId : Uuid
  agentIdentity : String
  delegationRef : String
  toolName : String
  toolVersion : String
  operation : String
  resourceScope : String
  arguments : JsonObject
  actionDigest : String
  riskLevel : RiskLevel
  idempotencyKey : String
  budgetRef : String
  approvalId : Option Uuid
  policyVersion : String
  expectedEffect : String
  deadline : Instant
  traceparent : String
  classification : DataClassification
  executionMode : ExecutionMode

def EnvelopeFields.canonical (e : EnvelopeFields) : String :=
  "\n".intercalate [e.tenantId.str, e.runId.str, e.taskId.str, e.actionId.str, e.toolName,
    e.toolVersion, e.operation, e.resourceScope, e.arguments.canonical, e.riskLevel.value,
    e.idempotencyKey, e.expectedEffect, e.classification.value, e.executionMode.value]

def EnvelopeFields.check [Sha256] (e : EnvelopeFields) : Except Exc Unit :=
  checks [
    ([e.agentIdentity, e.delegationRef, e.toolName, e.toolVersion, e.operation, e.resourceScope,
        e.idempotencyKey, e.budgetRef, e.policyVersion, e.expectedEffect, e.traceparent].any isBlank,
      .valueError "execution envelope identifiers must not be empty"),
    (!isSha256Hex e.actionDigest, .valueError "execution envelope action digest must be SHA-256"),
    (Sha256.hexdigest e.canonical ≠ e.actionDigest,
      .valueError "execution envelope digest does not match executable fields")]

structure ActionExecutionEnvelope [Sha256] extends EnvelopeFields where
  valid : toEnvelopeFields.check = .ok ()

def ActionExecutionEnvelope.make [Sha256] (e : EnvelopeFields) :
    Except Exc ActionExecutionEnvelope :=
  guarded e.check fun h => ⟨e, h⟩

/-- `replace(envelope, invocation_id=...)`: no check reads the invocation. -/
def ActionExecutionEnvelope.withInvocation [Sha256] (e : ActionExecutionEnvelope)
    (invocationId : Uuid) : ActionExecutionEnvelope :=
  { e with invocationId := invocationId, valid := e.valid }

end Autonoesis
