import Autonoesis.Base.Prog
import Autonoesis.Domain.Execution

/-! The governed tool gateway: the ports it calls and the program `execute` runs
over them. Every read of the clock is a call of its own, so a statement about all
behaviours of the ports also ranges over all readings. -/

namespace Autonoesis
open Base

structure KillSwitchQuery where
  tenantId : Option String := none
  agentId : Option String := none
  toolName : Option String := none
  operation : Option String := none
  provider : Option String := none
  capabilityPackId : Option String := none

structure AuthorizationContext where
  tenantId : String
  actorId : String
  principalId : String
  agentId : String
  roles : List String
  policyVersion : String
  delegationId : Option String := none
  correlationId : String := ""
  purpose : String := "governed_action"

structure PolicyDecision where
  allowed : Bool
  requiresApproval : Bool
  reason : String
  policyVersion : String

structure ResolvedToolVersion where
  toolName : String
  version : String
  provider : String
  operations : List String
  resourcePrefixes : List String
  inputSchema : Json
  riskLevel : RiskLevel
  credentialScope : String

structure CredentialLease where
  reference : String
  scope : String
  expiresAt : Instant

inductive ToolResultStatus where
  | rejected | accepted | succeeded | failed | unknown
  deriving DecidableEq

def ToolResultStatus.value : ToolResultStatus → String
  | rejected => "rejected"
  | accepted => "accepted"
  | succeeded => "succeeded"
  | failed => "failed"
  | unknown => "unknown"

structure ToolReceipt where
  externalId : String
  status : ToolResultStatus
  output : List (String × String) := []
  deriving DecidableEq

inductive ReservationStatus where
  | acquired | cached | inProgress | unknown | conflict | budgetExhausted
  deriving DecidableEq

structure ExecutionReservation where
  tenantId : String
  runId : String
  actionId : String
  toolName : String
  toolVersion : String
  idempotencyKey : String
  requestDigest : String
  costUnits : Int
  deriving DecidableEq

structure ReservationDecision where
  status : ReservationStatus
  reservationId : Option String := none
  receipt : Option ToolReceipt := none

structure GatewayAuditRecord where
  tenantId : String
  actionId : String
  correlationId : String
  event : String
  status : ToolResultStatus
  reason : String
  requestDigest : String
  externalId : String := ""
  occurredAt : Instant

structure GatewayResult where
  action : Action
  receipt : ToolReceipt
  cached : Bool := false

/-- A call of one of the gateway's ports. -/
inductive GatewayReq where
  | resolve (toolName version : String)
  | delegation (context : AuthorizationContext) (action : Action) (tool : ResolvedToolVersion)
  | validate (schema : Json) (value : JsonObject)
  | policy (context : AuthorizationContext) (action : Action)
  | isBlocked (query : KillSwitchQuery)
  | issue (context : AuthorizationContext) (action : Action) (tool : ResolvedToolVersion)
  | reserve (request : ExecutionReservation)
  | complete (tenantId reservationId : String) (receipt : ToolReceipt)
  | egressExecute (action : Action) (tool : ResolvedToolVersion) (credential : CredentialLease)
  | egressVerify (action : Action) (tool : ResolvedToolVersion) (receipt : ToolReceipt)
  | audit (item : GatewayAuditRecord)
  | now

abbrev GatewayResp : GatewayReq → Type
  | .resolve .. => ResolvedToolVersion
  | .delegation .. => Bool
  | .validate .. => Unit
  | .policy .. => PolicyDecision
  | .isBlocked .. => Bool
  | .issue .. => CredentialLease
  | .reserve .. => ReservationDecision
  | .complete .. => Unit
  | .egressExecute .. => ToolReceipt
  | .egressVerify .. => Bool
  | .audit .. => Unit
  | .now => Instant

abbrev GatewayProg := Prog GatewayReq GatewayResp Exc
abbrev GatewayEvent := Event GatewayReq GatewayResp Exc

namespace Gateway

abbrev now : GatewayProg Instant := Prog.request GatewayReq.now
abbrev resolve (toolName version : String) : GatewayProg ResolvedToolVersion :=
  Prog.request (GatewayReq.resolve toolName version)
abbrev delegationAuthorize (context : AuthorizationContext) (action : Action)
    (tool : ResolvedToolVersion) : GatewayProg Bool :=
  Prog.request (GatewayReq.delegation context action tool)
abbrev validate (schema : Json) (value : JsonObject) : GatewayProg Unit :=
  Prog.request (GatewayReq.validate schema value)
abbrev policyAuthorize (context : AuthorizationContext) (action : Action) :
    GatewayProg PolicyDecision :=
  Prog.request (GatewayReq.policy context action)
abbrev isBlocked (query : KillSwitchQuery) : GatewayProg Bool :=
  Prog.request (GatewayReq.isBlocked query)
abbrev issue (context : AuthorizationContext) (action : Action) (tool : ResolvedToolVersion) :
    GatewayProg CredentialLease :=
  Prog.request (GatewayReq.issue context action tool)
abbrev reserve (request : ExecutionReservation) : GatewayProg ReservationDecision :=
  Prog.request (GatewayReq.reserve request)
abbrev complete (tenantId reservationId : String) (receipt : ToolReceipt) : GatewayProg Unit :=
  Prog.request (GatewayReq.complete tenantId reservationId receipt)
abbrev egressExecute (action : Action) (tool : ResolvedToolVersion)
    (credential : CredentialLease) : GatewayProg ToolReceipt :=
  Prog.request (GatewayReq.egressExecute action tool credential)
abbrev egressVerify (action : Action) (tool : ResolvedToolVersion) (receipt : ToolReceipt) :
    GatewayProg Bool :=
  Prog.request (GatewayReq.egressVerify action tool receipt)
abbrev auditRecord (item : GatewayAuditRecord) : GatewayProg Unit :=
  Prog.request (GatewayReq.audit item)

/-- `action.transition_to(target)` with the default actor and reason. -/
def transition (action : Action) (target : ActionStatus) : GatewayProg Action := do
  let occurredAt ← now
  Prog.ofExcept (action.transitionTo target systemActorId "system transition" occurredAt)

section
variable [Sha256]

/-- `_record`. -/
def record (context : AuthorizationContext) (result : GatewayResult) (reason : String) :
    GatewayProg Unit := do
  let occurredAt ← now
  auditRecord {
    tenantId := result.action.tenantId.str
    actionId := result.action.actionId.str
    correlationId := context.correlationId
    event := "tool.execution"
    status := result.receipt.status
    reason := reason
    requestDigest := result.action.canonicalDigest
    externalId := result.receipt.externalId
    occurredAt := occurredAt }

/-- `_reject`. -/
def reject (context : AuthorizationContext) (action : Action) (reason : String) :
    GatewayProg GatewayResult := do
  let denied ← transition action .denied
  let result : GatewayResult := ⟨denied, ⟨"", .rejected, [("reason", reason)]⟩, false⟩
  record context result reason
  return result

/-- `action.transition_to(AUTHORIZED).transition_to(EXECUTING)`. -/
def toExecuting (action : Action) : GatewayProg Action := do
  let authorized ← transition action .authorized
  transition authorized .executing

/-- `_unknown`. -/
def unknown (context : AuthorizationContext) (action : Action) (reason : String) :
    GatewayProg GatewayResult := do
  let executing ← toExecuting action
  let settled ← transition executing .unknown
  let result : GatewayResult := ⟨settled, ⟨"", .unknown, [("reason", reason)]⟩, true⟩
  record context result reason
  return result

/-- The Action status a receipt status maps to in `_result_from_receipt`. -/
def receiptTarget : ToolResultStatus → ActionStatus
  | .succeeded => .succeeded
  | .failed => .failed
  | .unknown => .unknown
  | .accepted => .unknown
  | .rejected => .failed

/-- `_result_from_receipt`. -/
def resultFromReceipt (action : Action) (receipt : ToolReceipt) (cached : Bool) :
    GatewayProg GatewayResult := do
  let current ←
    if action.status = .proposed || action.status = .awaitingApproval then toExecuting action
    else pure action
  let settled ← transition current (receiptTarget receipt.status)
  return ⟨settled, receipt, cached⟩

/-- `_approval_is_exact`. The conjunction stops at its first false member, so the
clock is read only once the members before the reading hold. -/
def approvalIsExact (context : AuthorizationContext) (action : Action)
    (approval : Option ApprovalRequest) (decision : PolicyDecision) : GatewayProg Bool := do
  match approval with
  | none => return false
  | some approval =>
    if approval.status ≠ .approved || approval.decidedBy.isNone || isBlank approval.requiredRole
    then return false
    let readAt ← now
    if approval.expiresAt ≤ readAt || approval.policyVersion ≠ decision.policyVersion
    then return false
    let authorizedAt ← now
    return approval.authorizes action decision.policyVersion authorizedAt &&
      context.policyVersion = decision.policyVersion

/-- The receipt the `try` block around the egress call leaves. -/
def egressReceipt (executing : Action) (tool : ResolvedToolVersion)
    (credential : CredentialLease) : GatewayProg ToolReceipt := do
  let attempted ← Prog.attempt do
    let receipt ← egressExecute executing tool credential
    if receipt.status = .succeeded then
      if ← egressVerify executing tool receipt then return receipt
      return ⟨receipt.externalId, .unknown, receipt.output⟩
    if receipt.status = .accepted then return ⟨receipt.externalId, .accepted, receipt.output⟩
    return receipt
  match attempted with
  | .ok receipt => return receipt
  | .error e =>
    if e.isA .timeoutError then return ⟨"", .unknown, [("reason", "egress_timeout")]⟩
    if e.isA .exception then return ⟨"", .failed, [("reason", e.name)]⟩
    Prog.raise e

/-- The query `execute` asks the kill switch. -/
def killSwitchQuery (context : AuthorizationContext) (action : Action)
    (tool : ResolvedToolVersion) : KillSwitchQuery where
  tenantId := some action.tenantId.str
  agentId := some context.agentId
  toolName := some action.toolName
  operation := some action.operation
  provider := some tool.provider

/-- The request `execute` hands to the reservation port. -/
def reservationRequest (action : Action) (costUnits : Int) : ExecutionReservation where
  tenantId := action.tenantId.str
  runId := action.runId.str
  actionId := action.actionId.str
  toolName := action.toolName
  toolVersion := action.toolVersion
  idempotencyKey := action.idempotencyKey
  requestDigest := action.canonicalDigest
  costUnits := costUnits

/-- From the reservation on: the answers that end the call without a side effect,
and the egress call behind an acquired reservation. -/
def executeReserved (context : AuthorizationContext) (action : Action) (costUnits : Int)
    (tool : ResolvedToolVersion) (credential : CredentialLease) : GatewayProg GatewayResult := do
  let reservation ← reserve (reservationRequest action costUnits)
  match reservation.status with
  | .conflict =>
    Prog.raise (.valueError "idempotency key was reused with a different request digest")
  | .budgetExhausted => reject context action "budget_exhausted"
  | .inProgress | .unknown => unknown context action "execution_not_safe_to_retry"
  | .cached =>
    match reservation.receipt with
    | none => Prog.raise (.runtimeError "cached reservation is missing its receipt")
    | some receipt =>
      let result ← resultFromReceipt action receipt true
      record context result "idempotency_cache_hit"
      return result
  | .acquired =>
    match reservation.reservationId with
    | none => Prog.raise (.runtimeError "acquired reservation has no identity")
    | some reservationId =>
      let executing ← toExecuting action
      let receipt ← egressReceipt executing tool credential
      complete action.tenantId.str reservationId receipt
      let result ← resultFromReceipt executing receipt false
      record context result "external_execution_completed"
      return result

/-- From the credential on. -/
def executeApproved (context : AuthorizationContext) (action : Action) (costUnits : Int)
    (tool : ResolvedToolVersion) : GatewayProg GatewayResult := do
  let credential ← issue context action tool
  if credential.scope ≠ tool.credentialScope then
    return ← reject context action "credential_scope_or_expiry_invalid"
  let issuedAt ← now
  if credential.expiresAt ≤ issuedAt then
    return ← reject context action "credential_scope_or_expiry_invalid"
  executeReserved context action costUnits tool credential

/-- From the policy decision on. -/
def executeAuthorized (context : AuthorizationContext) (action : Action)
    (approval : Option ApprovalRequest) (costUnits : Int) (tool : ResolvedToolVersion) :
    GatewayProg GatewayResult := do
  let decision ← policyAuthorize context action
  if decision.policyVersion ≠ context.policyVersion then
    return ← reject context action "policy_version_changed"
  if !decision.allowed then
    return ← reject context action
      (if decision.reason = "" then "policy_denied" else decision.reason)
  if ← isBlocked (killSwitchQuery context action tool) then
    return ← reject context action "kill_switch_active"
  if decision.requiresApproval then
    if !(← approvalIsExact context action approval decision) then
      return ← reject context action "approval_invalid_expired_or_stale"
  executeApproved context action costUnits tool

/-- `GovernedToolGateway.execute`. -/
def execute (allowL4 : Bool) (context : AuthorizationContext) (action : Action)
    (approval : Option ApprovalRequest) (costUnits : Int) : GatewayProg GatewayResult := do
  if action.status ≠ .proposed && action.status ≠ .awaitingApproval then
    return ← Prog.raise (.valueError "action is not executable from its current state")
  if context.tenantId ≠ action.tenantId.str then
    return ← Prog.raise (.permissionError "authorization tenant differs from action tenant")
  if costUnits ≤ 0 then
    return ← Prog.raise (.valueError "execution cost must be positive")
  match ← (resolve action.toolName action.toolVersion).attempt with
  | .error e =>
    if e.isA .lookupError then
      return ← reject context action "immutable_tool_version_not_found"
    Prog.raise e
  | .ok tool =>
    if tool.toolName ≠ action.toolName || tool.version ≠ action.toolVersion then
      return ← reject context action "immutable_tool_version_mismatch"
    if !(← delegationAuthorize context action tool) then
      return ← reject context action "delegation_denied_or_revoked"
    if action.operation ∉ tool.operations then
      return ← reject context action "operation_not_allowed"
    if !tool.resourcePrefixes.any (startsWith action.resourceScope) then
      return ← reject context action "resource_scope_not_allowed"
    match ← (validate tool.inputSchema action.parameters).attempt with
    | .error e =>
      if e.isA .valueError then
        return ← reject context action "schema_or_semantic_validation_failed"
      Prog.raise e
    | .ok _ =>
      if action.riskLevel ≠ tool.riskLevel then
        return ← reject context action "server_risk_reclassification_changed_digest"
      if tool.riskLevel = .l4Privileged && !allowL4 then
        return ← reject context action "l4_default_deny"
      executeAuthorized context action approval costUnits tool

end

end Gateway

end Autonoesis
