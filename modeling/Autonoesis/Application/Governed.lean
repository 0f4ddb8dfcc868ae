import Autonoesis.Application.Actions
import Autonoesis.Runtime.Guards

/-! `execute_governed_action` and the worker's `execute_run`, as programs: each transaction of
the store, each port of the gateway and each draw of a clock or identifier is a call, so
that other commands may come between any two of them. -/

namespace Autonoesis
open Base

structure ExecuteGovernedAction where
  actionId : Uuid
  approvalId : Option Uuid
  policyVersion : String
  delegationId : Option String
  costUnits : Int

structure GovernedActionExecution where
  result : GatewayResult
  attempt : ActionAttempt
  evidence : Evidence

/-- What the first transaction reads: an execution recorded earlier under the same command
key, or the Action and approval to execute with. -/
inductive LoadedAction where
  | cached (execution : GovernedActionExecution)
  | fresh (action : Action) (approval : Option ApprovalRequest)

/-- What the second transaction records. -/
structure ExecutionFacts where
  context : CommandContext
  action : Action
  result : GatewayResult
  attempt : ActionAttempt
  evidence : Evidence

/-- How the application was built, as far as the two programs read it. -/
structure GatewayConfig where
  gatewayConfigured : Bool
  shadowGuardConfigured : Bool
  allowL4 : Bool
  executorConfigured : Bool

namespace App

/-- The first of the items with the latest time: `max(items, key=...)`. -/
def latest {α : Type} (time : α → Instant) : List α → Option α
  | [] => none
  | x :: rest => some (rest.foldl (fun best y => if time best < time y then y else best) x)

/-- The receipt status a persisted Action status proves. -/
def durableStatus : ActionStatus → ToolResultStatus
  | .succeeded => .succeeded
  | .failed => .failed
  | .denied => .rejected
  | _ => .unknown

/-- The execution an earlier call recorded, rebuilt from what is stored of it. -/
def cachedExecution (ctx : CommandContext) (actionId : Uuid) :
    StoreTx GovernedActionExecution := do
  let action ← Store.getAction ctx.tenantId actionId
  let attempts ← Store.listActionAttempts ctx.tenantId action.actionId
  let items ← Store.listEvidence ctx.tenantId
  match latest (·.recordedAt) attempts,
      latest (·.capturedAt) (items.filter (·.actionId = action.actionId)) with
  | some attempt, some evidence =>
    return {
      result := ⟨action, ⟨attempt.receiptRef, durableStatus action.status, []⟩, true⟩
      attempt := attempt
      evidence := evidence }
  | _, _ => Tx.raise (.runtimeError "cached governed execution is missing durable facts")

/-- The first transaction of `execute_governed_action`. -/
def loadAction (ctx : CommandContext) (cmd : ExecuteGovernedAction) : StoreTx LoadedAction := do
  match ← loadIdempotency ctx (ctx.key "execute_governed_action") with
  | some cached =>
    let execution ← cachedExecution ctx cached
    return .cached execution
  | none =>
    let action ← Store.getAction ctx.tenantId cmd.actionId
    let approval ← suppliedApproval ctx cmd.approvalId
    return .fresh action approval

/-- The second transaction of `execute_governed_action`. -/
def recordExecution [Sha256] (env : Env) (facts : ExecutionFacts) : StoreTx Unit := do
  let action := facts.action
  let current ← Store.getAction action.tenantId action.actionId
  Tx.check (current.optimisticVersion ≠ action.optimisticVersion)
    (.concurrencyConflict "Action changed while external execution was in flight")
  Store.saveAction facts.result.action action.optimisticVersion
  Store.addActionAttempt facts.attempt
  Store.addEvidence facts.evidence
  audit facts.context "action.governed_execution_recorded" facts.attempt.auditItem (env.uuid 0)
    (env.now 0)
  audit facts.context "evidence.recorded" facts.evidence.auditItem (env.uuid 1) (env.now 1)
  remember facts.context (facts.context.key "execute_governed_action") action.actionId

end App

/-- A call of one of the two programs. -/
inductive AppReq where
  | load (context : CommandContext) (command : ExecuteGovernedAction)
  | assertWritable (tenantId runId : Uuid)
  | gateway (request : GatewayReq)
  | uuid4
  | now
  | record (facts : ExecutionFacts)
  | getRun (tenantId runId : Uuid)
  | listTasks (tenantId runId : Uuid)
  | startTask (context : CommandContext) (taskId : Uuid)
  | executor (runId : Uuid) (task : Task)

abbrev AppResp : AppReq → Type
  | .load .. => LoadedAction
  | .assertWritable .. => Unit
  | .gateway r => GatewayResp r
  | .uuid4 => Uuid
  | .now => Instant
  | .record .. => Unit
  | .getRun .. => Run
  | .listTasks .. => List Task
  | .startTask .. => Task
  | .executor .. => Unit

/-- What the programs return. -/
inductive AppReply where
  | executed (execution : GovernedActionExecution)
  | dispatched (status : String)

abbrev AppProg := Prog AppReq AppResp Exc
abbrev AppEvent := Event AppReq AppResp Exc

namespace App

def authorizationContext (ctx : CommandContext) (cmd : ExecuteGovernedAction) :
    AuthorizationContext where
  tenantId := ctx.tenantId.str
  actorId := ctx.identity.actorId.str
  principalId := ctx.identity.principalId.str
  agentId := match ctx.identity.agentId with
    | some id => if id = "" then "human-operator" else id
    | none => "human-operator"
  roles := ctx.identity.roles.dedup.insertionSort (· ≤ ·)
  policyVersion := cmd.policyVersion
  delegationId := cmd.delegationId
  correlationId := ctx.correlationId.str

/-- The gateway call `execute_governed_action` makes. -/
def gatewayCall (config : GatewayConfig) (ctx : CommandContext) (cmd : ExecuteGovernedAction)
    (action : Action) (approval : Option ApprovalRequest) : Gateway.Call where
  allowL4 := config.allowL4
  context := authorizationContext ctx cmd
  action := action
  approval := approval
  costUnits := cmd.costUnits

def attemptStatus : ToolResultStatus → ActionAttemptStatus
  | .succeeded => .succeeded
  | .accepted => .unknown
  | .unknown => .unknown
  | .failed => .failed
  | .rejected => .failed

def receiptRef (action : Action) (receipt : ToolReceipt) : String :=
  if receipt.externalId = "" then
    "gateway://" ++ receipt.status.value ++ "/" ++ action.actionId.str
  else receipt.externalId

/-- `dict(output).get("reason", status)`: the last of several wins. -/
def receiptReason (receipt : ToolReceipt) : String :=
  ((receipt.output.reverse.find? (·.1 = "reason")).map (·.2)).getD receipt.status.value

def receiptPayload (receipt : ToolReceipt) : String :=
  Json.dumps true (.obj [
    ("external_id", .str receipt.externalId),
    ("output", .arr (receipt.output.map fun p => .arr [.str p.1, .str p.2])),
    ("status", .str receipt.status.value)])

section
variable [Sha256]

def gatewayAttempt (action : Action) (receipt : ToolReceipt) (invocationId attemptId : Uuid)
    (recordedAt : Instant) : Except Exc ActionAttempt :=
  ActionAttempt.make {
    tenantId := action.tenantId
    runId := action.runId
    actionId := action.actionId
    invocationId := invocationId
    status := attemptStatus receipt.status
    idempotencyKey := action.idempotencyKey
    receiptRef := receiptRef action receipt
    executorIdentity := "gateway:" ++ action.toolName ++ "@" ++ action.toolVersion
    failureReason := if attemptStatus receipt.status = .failed then some (receiptReason receipt)
      else none
    attemptId := attemptId
    recordedAt := recordedAt }

/-- A receipt proves the invocation only, so its evidence is unverified. -/
def gatewayEvidence (action : Action) (receipt : ToolReceipt) (evidenceId : Uuid)
    (now : Instant) : Except Exc Evidence :=
  Evidence.make {
    tenantId := action.tenantId
    runId := action.runId
    actionId := action.actionId
    source := "governed-tool-gateway"
    sourceIdentity := action.toolName ++ "@" ++ action.toolVersion
    captureMethod := .systemQuery
    reference := receiptRef action receipt
    observedState := receipt.status.value
    contentDigest := Sha256.hexdigest (receiptPayload receipt)
    classification := action.classification
    validFrom := now
    validUntil := now + days 1
    integrity := .unverified
    evidenceId := evidenceId
    capturedAt := now }

/-- From the gateway's result to the recording transaction. -/
def recordResult (ctx : CommandContext) (action : Action) (result : GatewayResult) :
    AppProg AppReply := do
  let invocationId ← Prog.request AppReq.uuid4
  let attemptId ← Prog.request AppReq.uuid4
  let recordedAt ← Prog.request AppReq.now
  let attempt ← Prog.ofExcept
    (gatewayAttempt action result.receipt invocationId attemptId recordedAt)
  let now ← Prog.request AppReq.now
  let evidenceId ← Prog.request AppReq.uuid4
  let evidence ← Prog.ofExcept (gatewayEvidence action result.receipt evidenceId now)
  Prog.request (AppReq.record ⟨ctx, action, result, attempt, evidence⟩)
  return .executed ⟨result, attempt, evidence⟩

/-- From a loaded Action on. -/
def executeLoaded (config : GatewayConfig) (ctx : CommandContext) (cmd : ExecuteGovernedAction)
    (action : Action) (approval : Option ApprovalRequest) : AppProg AppReply := do
  if action.riskLevel.isWrite && config.shadowGuardConfigured then
    Prog.request (AppReq.assertWritable ctx.tenantId action.runId)
  let result ← (gatewayCall config ctx cmd action approval).prog.embed AppReq.gateway
    (fun _ v => v)
  recordResult ctx action result

def executeGovernedAction (config : GatewayConfig) (ctx : CommandContext)
    (cmd : ExecuteGovernedAction) : AppProg AppReply := do
  Prog.ofExcept (roleCheck ctx operators)
  Prog.ofExcept (raiseIf (!config.gatewayConfigured)
    (.runtimeError "a governed tool gateway is required for external execution"))
  match ← Prog.request (AppReq.load ctx cmd) with
  | .cached execution => return .executed execution
  | .fresh action approval => executeLoaded config ctx cmd action approval

/-! ## The worker -/

/-- `_context`. -/
def workerContext (tenantId runId : Uuid) (operation : String) : Except Exc CommandContext :=
  let fields : CommandContextFields := {
    identity := {
      tenantId := tenantId
      actorId := 0
      principalId := 0
      roles := ["worker"]
      agentId := some "temporal-worker" }
    correlationId := runId
    causationId := runId
    idempotencyKey := "temporal:" ++ operation ++ ":" ++ runId.str
    requestDigest := Sha256.hexdigest (operation ++ "\n" ++ runId.str) }
  guarded fields.check fun h => ⟨fields, h⟩

/-- The loop of `execute_run` over the Tasks. -/
def dispatchTasks (config : GatewayConfig) (tenantId runId : Uuid) : List Task → AppProg Unit
  | [] => return ()
  | task :: rest => do
    let current ← if task.status = .pending then do
        let ctx ← Prog.ofExcept
          (workerContext tenantId runId ("start-task:" ++ task.taskId.str))
        Prog.request (AppReq.startTask ctx task.taskId)
      else pure task
    if current.status = .running && config.executorConfigured then
      Prog.request (AppReq.executor runId current)
    dispatchTasks config tenantId runId rest

/-- The `execute_run` activity. -/
def executeRun (config : GatewayConfig) (tenantId runId : Uuid) : AppProg AppReply := do
  let run ← Prog.request (AppReq.getRun tenantId runId)
  if run.status = .succeeded || run.status = .failed || run.status = .cancelled then
    return .dispatched run.status.value
  let tasks ← Prog.request (AppReq.listTasks tenantId runId)
  dispatchTasks config tenantId runId tasks
  return .dispatched "dispatched"

end

end App

end Autonoesis
