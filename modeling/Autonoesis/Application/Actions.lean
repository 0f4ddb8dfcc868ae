import Autonoesis.Application.Commands

/-! The commands on Tasks, Actions, approvals, evidence and outcomes that run in one
transaction. -/

namespace Autonoesis.App
open Base

/-! ## Tasks -/

/-- The Task `start_task` saves: a pending one passes through `READY`. -/
def startedTask (task : Task) (actorId : Uuid) (readyAt startedAt : Instant) :
    Except Exc Task := do
  let ready ← if task.status = .pending
    then task.transitionTo .ready actorId "task dependencies satisfied" readyAt
    else .ok task
  ready.transitionTo .running actorId "task execution started" startedAt

section
variable [Sha256]

def startTask (env : Env) (ctx : CommandContext) (taskId : Uuid) : StoreTx Task := do
  requireAny ctx operators
  let key := ctx.key "start_task"
  let task ← cachedTask ctx key taskId
  if task.status = .running then
    remember ctx key task.taskId
    return task
  else
    let dependencies ← task.dependsOn.mapM (Store.getTask ctx.tenantId)
    Tx.check (dependencies.any (fun t => t.status ≠ .succeeded))
      (.valueError "task dependencies must succeed before the task starts")
    let started ← Tx.ofExcept (startedTask task ctx.identity.actorId (env.now 0) (env.now 1))
    Store.saveTask started task.optimisticVersion
    audit ctx "task.started" started.auditItem (env.uuid 0) (env.now 2)
    remember ctx key started.taskId
    return started

def completeTask (env : Env) (ctx : CommandContext) (taskId : Uuid) (succeeded : Bool)
    (reason : String) : StoreTx Task := do
  requireAny ctx operators
  Tx.check (isBlank reason) (.valueError "Task completion requires a reason")
  let key := ctx.key "complete_task"
  let task ← cachedTask ctx key taskId
  let target := if succeeded then TaskStatus.succeeded else TaskStatus.failed
  if task.status = target then
    remember ctx key task.taskId
    return task
  else
    Tx.check (task.status ≠ .running) (.valueError "only a running Task can be completed")
    let completed ← Tx.ofExcept
      (task.transitionTo target ctx.identity.actorId reason (env.now 0))
    Store.saveTask completed task.optimisticVersion
    audit ctx ("task." ++ target.value) completed.auditItem (env.uuid 0) (env.now 1)
    remember ctx key completed.taskId
    return completed

/-! ## Actions -/

def proposeAction (env : Env) (ctx : CommandContext) (cmd : ProposeAction) : StoreTx Action := do
  requireAny ctx operators
  let key := ctx.key "propose_action"
  match ← loadIdempotency ctx key with
  | some cached => Store.getAction ctx.tenantId cached
  | none =>
    let task ← Store.getTask ctx.tenantId cmd.taskId
    Tx.check (task.status ≠ .running) (.valueError "Action proposal requires a running Task")
    let run ← Store.getRun ctx.tenantId task.runId
    let toolRef := cmd.toolName ++ "@" ++ cmd.toolVersion
    Tx.check (!run.executionSnapshot.any fun s => decide (toolRef ∈ s.toolVersions))
      (.permissionError "Action tool version is not bound to the Run snapshot")
    let parameters ← Tx.ofExcept (JsonObject.fromValue cmd.parameters)
    let action ← Tx.ofExcept (Action.make {
      tenantId := ctx.tenantId
      runId := task.runId
      taskId := task.taskId
      toolName := cmd.toolName
      toolVersion := cmd.toolVersion
      operation := cmd.operation
      resourceScope := cmd.resourceScope
      parameters := parameters
      riskLevel := cmd.riskLevel
      idempotencyKey := ctx.idempotencyKey
      expectedEffect := cmd.expectedEffect
      classification := cmd.classification
      executionMode := cmd.executionMode
      actionId := env.uuid 0 })
    Store.addAction action
    audit ctx "action.proposed" action.auditItem (env.uuid 1) (env.now 0)
    remember ctx key action.actionId
    return action

/-- Two reviews for the two highest risk levels, one for the others. -/
def requiredReviews (risk : RiskLevel) : Int :=
  if risk = .l3HighImpactWrite || risk = .l4Privileged then 2 else 1

/-- The request `request_approval` builds for an Action. -/
def approvalFor (cmd : RequestApproval) (action : Action) (approvalId : Uuid)
    (createdAt : Instant) : ApprovalFields where
  tenantId := action.tenantId
  runId := action.runId
  actionId := action.actionId
  actionDigest := action.canonicalDigest
  toolVersion := action.toolVersion
  operation := action.operation
  resourceScope := action.resourceScope
  argumentDigest := action.parameterDigest
  policyVersion := cmd.policyVersion
  impactSummary := cmd.impactSummary
  requiredRole := cmd.requiredRole
  expiresAt := cmd.expiresAt
  approvalId := approvalId
  createdAt := createdAt
  requiredReviews := requiredReviews action.riskLevel

def requestApproval (env : Env) (ctx : CommandContext) (cmd : RequestApproval) :
    StoreTx ApprovalRequest := do
  requireAny ctx operators
  let key := ctx.key "request_approval"
  match ← loadIdempotency ctx key with
  | some cached => Store.getApproval ctx.tenantId cached
  | none =>
    let action ← Store.getAction ctx.tenantId cmd.actionId
    Tx.check (action.status ≠ .proposed)
      (.valueError "approval can only be requested for a proposed Action")
    let approval ← Tx.ofExcept
      (ApprovalRequest.make (approvalFor cmd action (env.uuid 0) (env.now 0)))
    let awaiting ← Tx.ofExcept (action.transitionTo .awaitingApproval ctx.identity.actorId
      "approval required before execution" (env.now 1))
    Store.addApproval approval
    Store.saveAction awaiting action.optimisticVersion
    audit ctx "approval.requested" approval.auditItem (env.uuid 1) (env.now 2)
    remember ctx key approval.approvalId
    return approval

/-- The Action a rejected or expired approval denies, with the approval's status as reason. -/
def denyByApproval (env : Env) (ctx : CommandContext) (approval decided : ApprovalRequest) :
    StoreTx Unit := do
  let action ← Store.getAction ctx.tenantId approval.actionId
  let denied ← Tx.ofExcept (action.transitionTo .denied ctx.identity.actorId
    ("approval " ++ decided.status.value) (env.now 1))
  Store.saveAction denied action.optimisticVersion

def decideApproval (env : Env) (ctx : CommandContext) (cmd : DecideApproval) :
    StoreTx ApprovalRequest := do
  let key := ctx.key "decide_approval"
  match ← loadIdempotency ctx key with
  | some cached => Store.getApproval ctx.tenantId cached
  | none =>
    let approval ← Store.getApproval ctx.tenantId cmd.approvalId
    requireAny ctx [approval.requiredRole, "tenant_admin", "platform_admin"]
    Tx.check (approval.actionDigest ≠ cmd.actionDigest)
      (.permissionError "approval digest does not match the persisted request")
    let decided ← Tx.ofExcept (approval.decide ctx.identity.actorId cmd.approved cmd.reason
      (some ctx.identity.principalId) (env.now 0))
    Store.saveApproval decided approval.optimisticVersion
    if decided.status = .rejected || decided.status = .expired then
      denyByApproval env ctx approval decided
    else pure ()
    audit ctx ("approval." ++ decided.status.value) decided.auditItem (env.uuid 0) (env.now 2)
    remember ctx key decided.approvalId
    return decided

/-- The approval a command names, if it names one. -/
def suppliedApproval (ctx : CommandContext) : Option Uuid → StoreTx (Option ApprovalRequest)
  | some id => do
    let approval ← Store.getApproval ctx.tenantId id
    return some approval
  | none => return none

/-- Why the legacy authorization denies the Action, if it does. -/
def legacyDenial (cmd : AuthorizeActionAtExecutionTime) (action : Action)
    (approval : Option ApprovalRequest) (now : Instant) : Option String :=
  if !cmd.policyAllowed then
    some (if cmd.policyReason = "" then "policy denied execution" else cmd.policyReason)
  else if action.riskLevel.isWrite && !approval.any (fun a => a.authorizes action cmd.policyVersion now)
  then some "a current, exact-bound approval is required"
  else none

/-- The Action once the legacy authorization allows it: an open one is authorized here. -/
def legacyAuthorized (env : Env) (ctx : CommandContext) (policyVersion : String)
    (action : Action) : StoreTx Action :=
  if action.status = .proposed || action.status = .awaitingApproval then do
    let authorized ← Tx.ofExcept (action.transitionTo .authorized ctx.identity.actorId
      ("execution-time policy " ++ policyVersion ++ " allowed") (env.now 2))
    Store.saveAction authorized action.optimisticVersion
    audit ctx "action.authorized" authorized.auditItem (env.uuid 0) (env.now 3)
    return authorized
  else return action

/-- The envelope of the legacy authorization, or the reason it was denied for. The denial is
committed; the caller raises it afterwards. -/
def authorizeActionAtExecutionTime (ports : Ports) (env : Env) (ctx : CommandContext)
    (cmd : AuthorizeActionAtExecutionTime) : StoreTx (Except String ActionExecutionEnvelope) := do
  Tx.check (!ports.legacyAuthorizationEnabled) (.runtimeError
    "direct execution authorization is disabled; use execute_governed_action")
  requireAny ctx operators
  Tx.check (cmd.deadline ≤ env.now 0)
    (.valueError "execution authorization deadline has expired")
  let key := ctx.key "authorize_action"
  let cachedInvocation ← loadIdempotency ctx key
  let action ← Store.getAction ctx.tenantId cmd.actionId
  let approval ← suppliedApproval ctx cmd.approvalId
  match legacyDenial cmd action approval (env.now 1) with
  | some reason =>
    if action.status = .proposed || action.status = .awaitingApproval then
      let denied ← Tx.ofExcept (action.transitionTo .denied ctx.identity.actorId reason (env.now 2))
      Store.saveAction denied action.optimisticVersion
      audit ctx "action.denied" denied.auditItem (env.uuid 0) (env.now 3)
      remember ctx key denied.actionId
      return .error reason
    else return .error reason
  | none =>
    let current ← legacyAuthorized env ctx cmd.policyVersion action
    Tx.check (current.status ≠ .authorized)
      (.valueError "Action is not executable in its current state")
    let envelope ← Tx.ofExcept (ActionExecutionEnvelope.make {
      invocationId := env.uuid 1
      tenantId := current.tenantId
      runId := current.runId
      taskId := current.taskId
      actionId := current.actionId
      actorId := ctx.identity.actorId
      principalId := ctx.identity.principalId
      agentIdentity := cmd.agentIdentity
      delegationRef := cmd.delegationRef
      toolName := current.toolName
      toolVersion := current.toolVersion
      operation := current.operation
      resourceScope := current.resourceScope
      arguments := current.parameters
      actionDigest := current.canonicalDigest
      riskLevel := current.riskLevel
      idempotencyKey := current.idempotencyKey
      budgetRef := cmd.budgetRef
      approvalId := cmd.approvalId
      policyVersion := cmd.policyVersion
      expectedEffect := current.expectedEffect
      deadline := cmd.deadline
      traceparent := cmd.traceparent
      classification := current.classification
      executionMode := current.executionMode })
    match cachedInvocation with
    | some invocation => return .ok (envelope.withInvocation invocation)
    | none =>
      remember ctx key envelope.invocationId
      return .ok envelope

/-- The executing Action once the attempt's status is applied; a `STARTED` attempt leaves it
as it is. -/
def settledAction (executing : Action) (cmd : RecordActionAttempt) (actorId : Uuid)
    (settledAt : Instant) : Except Exc Action :=
  match actionTarget cmd.status with
  | none => .ok executing
  | some target =>
    let reason := match cmd.failureReason with
      | some r => if r = "" then "tool receipt: " ++ cmd.receiptRef else r
      | none => "tool receipt: " ++ cmd.receiptRef
    executing.transitionTo target actorId reason settledAt

/-- The Action `record_action_attempt` saves: an authorized one passes through `EXECUTING`. -/
def attemptedAction (action : Action) (cmd : RecordActionAttempt) (actorId : Uuid)
    (startedAt settledAt : Instant) : Except Exc Action :=
  if action.status = .authorized then do
    let executing ← action.transitionTo .executing actorId "tool invocation started" startedAt
    settledAction executing cmd actorId settledAt
  else settledAction action cmd actorId settledAt

def recordActionAttempt (env : Env) (ctx : CommandContext) (cmd : RecordActionAttempt) :
    StoreTx Action := do
  requireAny ctx operators
  let key := ctx.key "record_action_attempt"
  match ← loadIdempotency ctx key with
  | some cached => Store.getAction ctx.tenantId cached
  | none =>
    let action ← Store.getAction ctx.tenantId cmd.actionId
    Tx.check (action.status ≠ .authorized && action.status ≠ .executing)
      (.valueError "Action attempt requires execution-time authorization")
    let updated ← Tx.ofExcept
      (attemptedAction action cmd ctx.identity.actorId (env.now 0) (env.now 1))
    let fallback := if cmd.status = .failed then some "tool execution failed" else none
    let attempt ← Tx.ofExcept (ActionAttempt.make {
      tenantId := action.tenantId
      runId := action.runId
      actionId := action.actionId
      invocationId := cmd.invocationId
      status := cmd.status
      idempotencyKey := ctx.idempotencyKey
      receiptRef := cmd.receiptRef
      executorIdentity := cmd.executorIdentity
      failureReason := match cmd.failureReason with
        | some r => if r = "" then fallback else some r
        | none => fallback
      attemptId := env.uuid 0
      recordedAt := env.now 2 })
    Store.addActionAttempt attempt
    Store.saveAction updated action.optimisticVersion
    audit ctx "action.attempt_recorded" attempt.auditItem (env.uuid 1) (env.now 3)
    remember ctx key updated.actionId
    return updated

def reconcileUnknownAction (env : Env) (ctx : CommandContext) (cmd : ReconcileUnknownAction) :
    StoreTx Action := do
  requireAny ctx operators
  let key := ctx.key "reconcile_unknown_action"
  match ← loadIdempotency ctx key with
  | some cached => Store.getAction ctx.tenantId cached
  | none =>
    let action ← Store.getAction ctx.tenantId cmd.actionId
    Tx.check (action.status ≠ .unknown) (.valueError "only an Unknown Action can be reconciled")
    let target := if cmd.succeeded then ActionStatus.succeeded else ActionStatus.failed
    let reason := match cmd.failureReason with
      | some r => if r = "" then "reconciled from " ++ cmd.receiptRef else r
      | none => "reconciled from " ++ cmd.receiptRef
    let updated ← Tx.ofExcept
      (action.transitionTo target ctx.identity.actorId reason (env.now 0))
    let fallback := if cmd.succeeded then none else some "reconciliation reported failure"
    let attempt ← Tx.ofExcept (ActionAttempt.make {
      tenantId := action.tenantId
      runId := action.runId
      actionId := action.actionId
      invocationId := cmd.invocationId
      status := if cmd.succeeded then .succeeded else .failed
      idempotencyKey := ctx.idempotencyKey
      receiptRef := cmd.receiptRef
      executorIdentity := cmd.executorIdentity
      failureReason := match cmd.failureReason with
        | some r => if r = "" then fallback else some r
        | none => fallback
      attemptId := env.uuid 0
      recordedAt := env.now 1 })
    Store.addActionAttempt attempt
    Store.saveAction updated action.optimisticVersion
    audit ctx "action.reconciled" updated.auditItem (env.uuid 1) (env.now 2)
    remember ctx key updated.actionId
    return updated

/-! ## Evidence and outcomes -/

def recordEvidence (env : Env) (ctx : CommandContext) (item : Evidence) : StoreTx Evidence := do
  requireAny ctx operators
  Tx.check (item.integrity = .verified) (.valueError
    "integrity-verified Evidence must be captured through authoritative readback")
  Tx.check (item.tenantId ≠ ctx.tenantId)
    (.permissionError "Evidence tenant does not match command identity")
  let key := ctx.key "record_evidence"
  match ← loadIdempotency ctx key with
  | some cached => Store.getEvidence ctx.tenantId cached
  | none =>
    let action ← Store.getAction item.tenantId item.actionId
    Tx.check (action.status ≠ .succeeded || action.runId ≠ item.runId)
      (.valueError "Evidence requires a succeeded authoritative Action")
    Store.addEvidence item
    audit ctx "evidence.recorded" item.auditItem (env.uuid 0) (env.now 0)
    remember ctx key item.evidenceId
    return item

def verifyOutcome (ports : Ports) (env : Env) (ctx : CommandContext) (runId : Uuid)
    (criterionId : String) (evidenceIds : List Uuid) : StoreTx Outcome := do
  requireAny ctx operators
  Tx.check (!(ports.authoritativeReadbackConfigured && ports.evidenceArtifactsConfigured))
    (.runtimeError "trusted Outcome verification is not configured")
  let key := ctx.key "verify_outcome"
  match ← loadIdempotency ctx key with
  | some cached => Store.getOutcome ctx.tenantId cached
  | none =>
    let run ← Store.getRun ctx.tenantId runId
    let goal ← Store.getGoal ctx.tenantId run.goalId
    match goal.successCriteria.find? (·.criterionId = criterionId) with
    | none => Tx.raise (.valueError "Outcome criterion is not part of the Goal contract")
    | some criterion =>
      let items ← evidenceIds.mapM (Store.getEvidence ctx.tenantId)
      Tx.check (items.any fun e => e.runId ≠ run.runId)
        (.valueError "Outcome Evidence must belong to the verified Run")
      let decision ← Tx.ofExcept (TrustedOutcomeVerifier.verify ports.evidence ctx.tenantId
        goal.subjectRefs criterion items (env.now 0))
      let outcome ← Tx.ofExcept (Outcome.make {
        tenantId := ctx.tenantId
        goalId := goal.goalId
        runId := run.runId
        criterionId := criterionId
        verifierVersion := decision.verifierVersion
        status := decision.status
        evidence := items
        outcomeId := env.uuid 0
        verifiedAt := some decision.verifiedAt })
      Store.addOutcome outcome
      audit ctx "outcome.verified" outcome.auditItem (env.uuid 1) (env.now 1)
      remember ctx key outcome.outcomeId
      return outcome

end

end Autonoesis.App
