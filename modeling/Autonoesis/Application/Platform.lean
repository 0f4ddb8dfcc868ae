import Autonoesis.Domain.Context
import Autonoesis.Domain.Execution

/-! Identities, command contexts and audit events. -/

namespace Autonoesis
open Base

structure IdentityContext where
  tenantId : Uuid
  actorId : Uuid
  principalId : Uuid
  roles : List String
  agentId : Option String := none
  subject : Option String := none
  tokenType : String := "access"
  deriving DecidableEq

structure CommandContextFields where
  identity : IdentityContext
  correlationId : Uuid
  causationId : Uuid
  idempotencyKey : String
  requestDigest : String

def CommandContextFields.check (c : CommandContextFields) : Except Exc Unit :=
  checks [
    (isBlank c.idempotencyKey || 300 < c.idempotencyKey.length,
      .valueError "command idempotency key must be non-empty and bounded"),
    (!isSha256Hex c.requestDigest, .valueError "command request digest must be lowercase SHA-256")]

structure CommandContext extends CommandContextFields where
  valid : toCommandContextFields.check = .ok ()

/-- `_key`. -/
def CommandContext.key (c : CommandContext) (operation : String) : String :=
  operation ++ ":" ++ c.idempotencyKey

def CommandContext.tenantId (c : CommandContext) : Uuid := c.identity.tenantId

structure AuditEvent where
  tenantId : Uuid
  actorId : Uuid
  principalId : Uuid
  eventType : String
  objectType : String
  objectId : String
  correlationId : Uuid
  details : List (String × Json)
  eventId : Uuid
  sequence : Option Int := none
  previousDigest : Option String := none
  eventDigest : Option String := none
  createdAt : Option Instant := none

/-- The digest the first event of a chain follows. -/
def genesisDigest : String := String.ofList (List.replicate 64 '0')

section
variable [Sha256]

/-- The text an event is digested by, behind the digest it follows. -/
def AuditEvent.canonical (e : AuditEvent) (sequence : Int) (createdAt : Instant) : String :=
  Json.dumps true (.obj [
    ("event_id", .str e.eventId.str),
    ("tenant_id", .str e.tenantId.str),
    ("actor_id", .str e.actorId.str),
    ("principal_id", .str e.principalId.str),
    ("event_type", .str e.eventType),
    ("object_type", .str e.objectType),
    ("object_id", .str e.objectId),
    ("correlation_id", .str e.correlationId.str),
    ("details", .obj e.details),
    ("sequence", .int sequence),
    ("created_at", .str createdAt.isoformat)])

def AuditEvent.chained (e : AuditEvent) (sequence : Int) (previousDigest : String)
    (createdAt : Instant) : Except Exc AuditEvent := do
  raiseIf (sequence ≤ 0 || previousDigest.length ≠ 64)
    (.valueError "audit chain metadata is invalid")
  return { e with
    sequence := some sequence
    previousDigest := some previousDigest
    eventDigest := some
      (Sha256.hexdigest (previousDigest ++ "\n" ++ e.canonical sequence createdAt))
    createdAt := some createdAt }

end

/-- What `_audit` can see of an aggregate: its class name without `Contract`, in lower
case, and those of its attributes that the two scans look for, as text. -/
structure AuditItem where
  objectType : String
  attributes : List (String × String)
  outcome : Option (List String × String) := none

def AuditItem.attr? (i : AuditItem) (name : String) : Option String :=
  (i.attributes.find? (·.1 = name)).map (·.2)

/-- The names the object id is looked up under; the first the item has wins. -/
def auditIdNames : List String :=
  ["goal_id", "run_id", "snapshot_id", "plan_id", "task_id", "action_id", "approval_id",
    "attempt_id", "evidence_id", "outcome_id"]

def auditDetailNames : List String :=
  ["goal_id", "run_id", "task_id", "action_id", "approval_id", "criterion_id", "policy_version",
    "verifier_version", "source_identity", "tool_name", "tool_version"]

/-- `_audit`, with the identifier `uuid4` draws for the event. -/
def CommandContext.audit (c : CommandContext) (eventType : String) (item : AuditItem)
    (eventId : Uuid) : AuditEvent where
  tenantId := c.identity.tenantId
  actorId := c.identity.actorId
  principalId := c.identity.principalId
  eventType := eventType
  objectType := item.objectType
  objectId := (auditIdNames.findSome? item.attr?).getD ""
  correlationId := c.correlationId
  details :=
    [("causation_id", .str c.causationId.str), ("idempotency_key", .str c.idempotencyKey)] ++
    auditDetailNames.filterMap (fun n => (item.attr? n).map fun v => (n, .str v)) ++
    match item.outcome with
    | some (ids, status) =>
      [("evidence_ids", .arr (ids.map .str)), ("outcome_status", .str status)]
    | none => []
  eventId := eventId

def GoalContract.auditItem (g : GoalContract) : AuditItem :=
  ⟨"goal", [("goal_id", g.goalId.str)], none⟩

def Run.auditItem (r : Run) : AuditItem :=
  ⟨"run", [("goal_id", r.goalId.str), ("run_id", r.runId.str)], none⟩

def ContextSnapshot.auditItem (s : ContextSnapshot) : AuditItem :=
  ⟨"contextsnapshot", [("goal_id", s.goalId.str), ("run_id", s.runId.str),
    ("snapshot_id", s.snapshotId.str), ("policy_version", s.policyVersion)], none⟩

def Task.auditItem (t : Task) : AuditItem :=
  ⟨"task", [("run_id", t.runId.str), ("task_id", t.taskId.str)], none⟩

def Action.auditItem (a : Action) : AuditItem :=
  ⟨"action", [("run_id", a.runId.str), ("task_id", a.taskId.str), ("action_id", a.actionId.str),
    ("tool_name", a.toolName), ("tool_version", a.toolVersion)], none⟩

def ApprovalRequest.auditItem (a : ApprovalRequest) : AuditItem :=
  ⟨"approvalrequest", [("run_id", a.runId.str), ("action_id", a.actionId.str),
    ("approval_id", a.approvalId.str), ("policy_version", a.policyVersion),
    ("tool_version", a.toolVersion)], none⟩

def ActionAttempt.auditItem (a : ActionAttempt) : AuditItem :=
  ⟨"actionattempt", [("run_id", a.runId.str), ("action_id", a.actionId.str),
    ("attempt_id", a.attemptId.str)], none⟩

def Evidence.auditItem (e : Evidence) : AuditItem :=
  ⟨"evidence", [("run_id", e.runId.str), ("action_id", e.actionId.str),
    ("evidence_id", e.evidenceId.str), ("source_identity", e.sourceIdentity)], none⟩

def Outcome.auditItem (o : Outcome) : AuditItem :=
  ⟨"outcome", [("goal_id", o.goalId.str), ("run_id", o.runId.str),
    ("criterion_id", o.criterionId), ("outcome_id", o.outcomeId.str),
    ("verifier_version", o.verifierVersion)],
    some (o.evidence.map (·.evidenceId.str), o.status.value)⟩

end Autonoesis
