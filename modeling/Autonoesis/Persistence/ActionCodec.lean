import Autonoesis.Persistence.GoalCodec

/-!
# Actions, their attempts and their approvals as rows
-/

namespace Autonoesis
open Base Json

instance : StrEnum ActionStatus where
  name := "ActionStatus"
  members := [.proposed, .awaitingApproval, .authorized, .executing, .succeeded, .failed, .denied,
    .unknown]
  value := ActionStatus.value
  complete a := by cases a <;> decide
  distinct a b := by cases a <;> cases b <;> decide

instance : StrEnum ActionAttemptStatus where
  name := "ActionAttemptStatus"
  members := [.started, .succeeded, .failed, .unknown]
  value
    | .started => "started"
    | .succeeded => "succeeded"
    | .failed => "failed"
    | .unknown => "unknown"
  complete a := by cases a <;> decide
  distinct a b := by cases a <;> cases b <;> decide

instance : StrEnum ApprovalStatus where
  name := "ApprovalStatus"
  members := [.pending, .approved, .rejected, .expired]
  value := ApprovalStatus.value
  complete a := by cases a <;> decide
  distinct a b := by cases a <;> cases b <;> decide

/-! ## Actions -/

/-- A row of `actions`. -/
structure ActionRow where
  id : String
  tenantId : String
  runId : String
  taskId : String
  status : String
  idempotencyKey : String
  actionDigest : String
  definition : Json
  optimisticVersion : Int

/-- `action_payload`. -/
def Action.payload (action : Action) : Json :=
  .obj [
    ("tool_name", .str action.toolName),
    ("tool_version", .str action.toolVersion),
    ("operation", .str action.operation),
    ("resource_scope", .str action.resourceScope),
    ("parameters", .obj action.parameters.toValue),
    ("risk_level", memberJson action.riskLevel),
    ("expected_effect", .str action.expectedEffect),
    ("classification", memberJson action.classification),
    ("execution_mode", memberJson action.executionMode),
    ("transitions", transitionsJson action.transitions)]

/-- The row `add_action` inserts. -/
def Action.row [Sha256] (action : Action) : ActionRow where
  id := action.actionId.str
  tenantId := action.tenantId.str
  runId := action.runId.str
  taskId := action.taskId.str
  status := StrEnum.value action.status
  idempotencyKey := action.idempotencyKey
  actionDigest := action.canonicalDigest
  definition := action.payload
  optimisticVersion := action.optimisticVersion

/-- The row after `save_action`. -/
def Action.save [Sha256] (row : ActionRow) (action : Action) : ActionRow :=
  { row with
    status := StrEnum.value action.status
    actionDigest := action.canonicalDigest
    definition := action.payload
    optimisticVersion := action.optimisticVersion }

/-- `action_from_row`. -/
def actionFromRow (row : ActionRow) : Except Exc Action := do
  let definition := row.definition
  Action.make {
    tenantId := ← Uuid.parse row.tenantId
    runId := ← Uuid.parse row.runId
    taskId := ← Uuid.parse row.taskId
    toolName := ← definition.at_ "tool_name" asStr
    toolVersion := ← definition.at_ "tool_version" asStr
    operation := ← definition.at_ "operation" asStr
    resourceScope := ← definition.at_ "resource_scope" asStr
    parameters := ← definition.at_ "parameters" asJsonObject
    riskLevel := ← definition.at_ "risk_level" asMember
    idempotencyKey := row.idempotencyKey
    expectedEffect := ← definition.at_ "expected_effect" asStr
    classification := ← definition.at_ "classification" asMember
    executionMode := ← definition.at_ "execution_mode" asMember
    actionId := ← Uuid.parse row.id
    status := ← ofValue row.status
    optimisticVersion := row.optimisticVersion
    transitions := ← definition.getD "transitions" [] transitionsFrom }

/-- Every part of the Action was accepted by its own constructor. -/
def Action.Accepted (action : Action) : Prop := ∀ item ∈ action.transitions, item.check = .ok ()

theorem actionFromRow_row [Sha256] {action : Action} (accepted : action.Accepted) :
    actionFromRow action.row = .ok action := by
  have same : Action.make action.toActionFields = .ok action :=
    guarded_eq_ok.mpr ⟨action.valid, rfl⟩
  have transitions := transitionsFrom_json accepted
  simp [actionFromRow, Action.row, Action.payload, at_, getD, transitions]
  exact same

/-! ## Attempts -/

/-- A row of `action_attempts`. -/
structure ActionAttemptRow where
  id : String
  tenantId : String
  runId : String
  actionId : String
  invocationId : String
  status : String
  idempotencyKey : String
  receiptRef : String
  definition : Json
  createdAt : Instant

/-- `action_attempt_payload`. -/
def ActionAttempt.payload (item : ActionAttempt) : Json :=
  .obj [
    ("executor_identity", .str item.executorIdentity),
    ("failure_reason", optional .str item.failureReason),
    ("recorded_at", item.recordedAt.json)]

/-- The row `add_action_attempt` inserts. -/
def ActionAttempt.row (attempt : ActionAttempt) : ActionAttemptRow where
  id := attempt.attemptId.str
  tenantId := attempt.tenantId.str
  runId := attempt.runId.str
  actionId := attempt.actionId.str
  invocationId := attempt.invocationId.str
  status := StrEnum.value attempt.status
  idempotencyKey := attempt.idempotencyKey
  receiptRef := attempt.receiptRef
  definition := attempt.payload
  createdAt := attempt.recordedAt

/-- `action_attempt_from_row`. -/
def actionAttemptFromRow (row : ActionAttemptRow) : Except Exc ActionAttempt := do
  let definition := row.definition
  ActionAttempt.make {
    tenantId := ← Uuid.parse row.tenantId
    runId := ← Uuid.parse row.runId
    actionId := ← Uuid.parse row.actionId
    invocationId := ← Uuid.parse row.invocationId
    status := ← ofValue row.status
    idempotencyKey := row.idempotencyKey
    receiptRef := row.receiptRef
    executorIdentity := ← definition.at_ "executor_identity" asStr
    failureReason := ← definition.get? "failure_reason" asStr
    attemptId := ← Uuid.parse row.id
    recordedAt := ← definition.at_ "recorded_at" asInstant }

theorem actionAttemptFromRow_row (attempt : ActionAttempt) :
    actionAttemptFromRow attempt.row = .ok attempt := by
  have same : ActionAttempt.make attempt.toActionAttemptFields = .ok attempt :=
    guarded_eq_ok.mpr ⟨attempt.valid, rfl⟩
  simp [actionAttemptFromRow, ActionAttempt.row, ActionAttempt.payload, at_, get?, getD]
  exact same

/-! ## Approvals -/

/-- A row of `approvals`. -/
structure ApprovalRow where
  id : String
  tenantId : String
  runId : String
  actionId : String
  status : String
  actionDigest : String
  expiresAt : Instant
  definition : Json
  optimisticVersion : Int
  createdAt : Instant

def ApprovalReview.payload (review : ApprovalReview) : Json :=
  .obj [
    ("actor_id", review.actorId.json),
    ("principal_id", review.principalId.json),
    ("approved", .bool review.approved),
    ("reason", .str review.reason),
    ("reviewed_at", review.reviewedAt.json)]

def approvalReviewFrom (item : Json) : Except Exc ApprovalReview := do
  checked ApprovalReview.check {
    actorId := ← item.at_ "actor_id" asUuid
    principalId := ← item.at_ "principal_id" asUuid
    approved := ← item.at_ "approved" (.ok ·.truthy)
    reason := ← item.at_ "reason" asStr
    reviewedAt := ← item.at_ "reviewed_at" asInstant }

/-- `approval_payload`. -/
def ApprovalRequest.payload (approval : ApprovalRequest) : Json :=
  .obj [
    ("tool_version", .str approval.toolVersion),
    ("operation", .str approval.operation),
    ("resource_scope", .str approval.resourceScope),
    ("argument_digest", .str approval.argumentDigest),
    ("policy_version", .str approval.policyVersion),
    ("impact_summary", .str approval.impactSummary),
    ("required_role", .str approval.requiredRole),
    ("decided_by", optional Uuid.json approval.decidedBy),
    ("reason", optional .str approval.reason),
    ("decided_at", optional Instant.json approval.decidedAt),
    ("required_reviews", .int approval.requiredReviews),
    ("reviews", .arr (approval.reviews.map (·.payload))),
    ("transitions", transitionsJson approval.transitions)]

/-- The row `add_approval` inserts. -/
def ApprovalRequest.row (approval : ApprovalRequest) : ApprovalRow where
  id := approval.approvalId.str
  tenantId := approval.tenantId.str
  runId := approval.runId.str
  actionId := approval.actionId.str
  status := StrEnum.value approval.status
  actionDigest := approval.actionDigest
  expiresAt := approval.expiresAt
  definition := approval.payload
  optimisticVersion := approval.optimisticVersion
  createdAt := approval.createdAt

/-- The row after `save_approval`. -/
def ApprovalRequest.save (row : ApprovalRow) (approval : ApprovalRequest) : ApprovalRow :=
  { row with
    status := StrEnum.value approval.status
    definition := approval.payload
    expiresAt := approval.expiresAt
    optimisticVersion := approval.optimisticVersion }

/-- `approval_from_row`. -/
def approvalFromRow (row : ApprovalRow) : Except Exc ApprovalRequest := do
  let definition := row.definition
  ApprovalRequest.make {
    tenantId := ← Uuid.parse row.tenantId
    runId := ← Uuid.parse row.runId
    actionId := ← Uuid.parse row.actionId
    actionDigest := row.actionDigest
    toolVersion := ← definition.at_ "tool_version" asStr
    operation := ← definition.at_ "operation" asStr
    resourceScope := ← definition.at_ "resource_scope" asStr
    argumentDigest := ← definition.at_ "argument_digest" asStr
    policyVersion := ← definition.at_ "policy_version" asStr
    impactSummary := ← definition.at_ "impact_summary" asStr
    requiredRole := ← definition.at_ "required_role" asStr
    expiresAt := row.expiresAt
    approvalId := ← Uuid.parse row.id
    status := ← ofValue row.status
    decidedBy := ← definition.ifGiven "decided_by" asUuid
    reason := ← definition.get? "reason" asStr
    createdAt := row.createdAt
    decidedAt := ← definition.ifGiven "decided_at" asInstant
    optimisticVersion := row.optimisticVersion
    transitions := ← definition.getD "transitions" [] transitionsFrom
    requiredReviews := ← definition.getD "required_reviews" 1 asInt
    reviews := ← definition.getD "reviews" [] (asList approvalReviewFrom) }

/-- Every part of the request was accepted by its own constructor. -/
structure ApprovalRequest.Accepted (approval : ApprovalRequest) : Prop where
  transitions : ∀ item ∈ approval.transitions, item.check = .ok ()
  reviews : ∀ review ∈ approval.reviews, review.check = .ok ()

theorem approvalReviewFrom_payload {review : ApprovalReview} (accepted : review.check = .ok ()) :
    approvalReviewFrom review.payload = .ok review := by
  simp [approvalReviewFrom, ApprovalReview.payload, at_, truthy, checked_ok accepted]

theorem approvalFromRow_row {approval : ApprovalRequest} (accepted : approval.Accepted) :
    approvalFromRow approval.row = .ok approval := by
  have same : ApprovalRequest.make approval.toApprovalFields = .ok approval :=
    guarded_eq_ok.mpr ⟨approval.valid, rfl⟩
  have transitions := transitionsFrom_json accepted.transitions
  have reviews : asList approvalReviewFrom (.arr (approval.reviews.map (·.payload))) =
      .ok approval.reviews :=
    asList_map fun review there => approvalReviewFrom_payload (accepted.reviews review there)
  simp [approvalFromRow, ApprovalRequest.row, ApprovalRequest.payload, at_, get?, getD, ifGiven,
    transitions, reviews]
  exact same

end Autonoesis
