import Autonoesis.Application.Store
import Autonoesis.Runtime.Tools

/-! The commands of `GoalExecutionApplication` that run in one transaction. `Env` holds what a
call draws from outside the store: the identifiers of `uuid4` and the readings of the clock,
each in the order in which the call takes them. -/

namespace Autonoesis
open Base

structure Env where
  uuid : Nat → Uuid
  now : Nat → Instant
  /-- `uuid5` in the URL namespace, a function of the name alone. -/
  uuid5 : String → Uuid

structure CreateGoal where
  goalType : String
  statement : String
  desiredOutcome : String
  subjectRefs : List SubjectRef
  successCriteria : List SuccessCriterion
  constraints : List String
  ownerId : Uuid
  riskTier : RiskTier
  budgetLimit : Option Int
  deadline : Instant
  inputPayload : List (String × Json)
  budgetUnit : BudgetUnit := .costUnits
  delegationId : Option Uuid := none
  maximumClassification : DataClassification := .internal
  allowedRegions : List String := []
  retentionDays : Int := 30
  executionMode : ExecutionMode := .supervised
  maxConcurrentRuns : Int := 1

structure PrepareRunContext where
  runId : Uuid
  environmentFacts : List EnvironmentFact
  knowledgeRefs : List KnowledgeRef
  memoryIds : List Uuid
  historyDigest : String
  toolVersions : List String
  conflicts : List String := []
  purpose : String := "run_context"
  policyVersion : String := "context-policy@1"
  maximumClassification : DataClassification := .internal
  allowedSubjects : List String := []

structure TaskDefinition where
  name : String
  completionCriterion : String
  dependsOn : List Uuid := []
  preconditions : List String := []
  estimatedCost : BudgetAmount := ⟨0, .costUnits⟩
  riskLevel : RiskLevel := .l0Compute
  compensation : CompensationCapability := .none
  evidenceRequirements : List String := []
  taskId : Option Uuid := none

structure CreateValidatedPlan where
  runId : Uuid
  tasks : List TaskDefinition
  skillVersions : List String
  toolVersions : List String
  modelRoute : String
  policyVersion : String

structure ProposeAction where
  taskId : Uuid
  toolName : String
  toolVersion : String
  operation : String
  resourceScope : String
  parameters : List (String × Json)
  riskLevel : RiskLevel
  expectedEffect : String
  classification : DataClassification := .internal
  executionMode : ExecutionMode := .supervised

structure RequestApproval where
  actionId : Uuid
  policyVersion : String
  impactSummary : String
  requiredRole : String
  expiresAt : Instant

structure DecideApproval where
  approvalId : Uuid
  actionDigest : String
  approved : Bool
  reason : String

structure AuthorizeActionAtExecutionTime where
  actionId : Uuid
  policyVersion : String
  policyAllowed : Bool
  policyReason : String
  approvalId : Option Uuid
  agentIdentity : String
  delegationRef : String
  budgetRef : String
  deadline : Instant
  traceparent : String

structure RecordActionAttempt where
  actionId : Uuid
  invocationId : Uuid
  status : ActionAttemptStatus
  receiptRef : String
  executorIdentity : String
  failureReason : Option String := none

structure ReconcileUnknownAction where
  actionId : Uuid
  invocationId : Uuid
  succeeded : Bool
  receiptRef : String
  executorIdentity : String
  failureReason : Option String := none

/-- The collaborators a command may call, as one call sees them, and the switches the
application is built with. -/
structure Ports where
  getGoalType : Uuid → String → Except Exc GoalTypeManifest
  validatePayload : GoalTypeManifest → List (String × Json) → Except Exc Unit
  getStableAgent : Uuid → String → Except Exc Uuid
  runDeploymentRouter : Option (Uuid → Uuid → Except Exc (Option Uuid))
  assemble : Run → CommandContext → PrepareRunContext → List MemoryRecord →
    Except Exc ContextSnapshot
  evidence : EvidencePorts
  evidenceArtifactsConfigured : Bool
  authoritativeReadbackConfigured : Bool
  legacyAuthorizationEnabled : Bool

namespace App

def operators : List String := ["platform_admin", "tenant_admin", "operator", "worker"]

/-- The check of `_require_any`. -/
def roleCheck (ctx : CommandContext) (allowed : List String) : Except Exc Unit :=
  raiseIf (!ctx.identity.roles.any (fun r => decide (r ∈ allowed)))
    (.permissionError "the current principal does not have the required role")

/-- `_require_any`. -/
def requireAny (ctx : CommandContext) (allowed : List String) : StoreTx Unit :=
  Tx.ofExcept (roleCheck ctx allowed)

/-- `_load_idempotency`. -/
def loadIdempotency (ctx : CommandContext) (key : String) : StoreTx (Option Uuid) :=
  Store.getIdempotency ctx.tenantId key ctx.requestDigest

/-- `_remember`. -/
def remember (ctx : CommandContext) (key : String) (value : Uuid) : StoreTx Unit :=
  Store.putIdempotency ctx.tenantId key value ctx.requestDigest

/-- `_cached_goal`. -/
def cachedGoal (ctx : CommandContext) (key : String) (requested : Uuid) : StoreTx GoalContract := do
  let cached ← loadIdempotency ctx key
  Store.getGoal ctx.tenantId (cached.getD requested)

/-- `_cached_run`. -/
def cachedRun (ctx : CommandContext) (key : String) (requested : Uuid) : StoreTx Run := do
  let cached ← loadIdempotency ctx key
  Store.getRun ctx.tenantId (cached.getD requested)

/-- `_cached_task`. -/
def cachedTask (ctx : CommandContext) (key : String) (requested : Uuid) : StoreTx Task := do
  let cached ← loadIdempotency ctx key
  Store.getTask ctx.tenantId (cached.getD requested)

/-- `BudgetAmount(amount, unit)`. -/
def budgetAmount (amount : Int) (unit : BudgetUnit) : Except Exc BudgetAmount := do
  raiseIf (amount < 0) (.valueError "budget amount must be a non-negative integer")
  return ⟨amount.toNat, unit⟩

/-- `_build_task`, with the identifier drawn when the definition names none. -/
def buildTask (tenantId runId : Uuid) (item : TaskDefinition) (drawn : Uuid) : Except Exc Task :=
  Task.make {
    tenantId := tenantId
    runId := runId
    name := item.name
    completionCriterion := item.completionCriterion
    dependsOn := item.dependsOn
    preconditions := item.preconditions
    estimatedCost := item.estimatedCost
    riskLevel := item.riskLevel
    compensation := item.compensation
    evidenceRequirements := item.evidenceRequirements
    taskId := item.taskId.getD drawn }

/-- `_action_target`. -/
def actionTarget : ActionAttemptStatus → Option ActionStatus
  | .started => none
  | .succeeded => some .succeeded
  | .failed => some .failed
  | .unknown => some .unknown

section
variable [Sha256]

/-- `record_audit(self._audit(context, event_type, item))`, with the event's identifier and
the reading of the clock. -/
def audit (ctx : CommandContext) (eventType : String) (item : AuditItem) (eventId : Uuid)
    (now : Instant) : StoreTx Unit :=
  Store.recordAudit (ctx.audit eventType item eventId) now

/-! ## Goals and Runs -/

def createGoal (ports : Ports) (env : Env) (ctx : CommandContext) (cmd : CreateGoal) :
    StoreTx GoalContract := do
  requireAny ctx operators
  let key := ctx.key "create_goal"
  match ← loadIdempotency ctx key with
  | some cached => Store.getGoal ctx.tenantId cached
  | none =>
    let goalType ← Tx.ofExcept (ports.getGoalType ctx.tenantId cmd.goalType)
    Tx.ofExcept (ports.validatePayload goalType cmd.inputPayload)
    let limit := match cmd.budgetLimit with
      | some n => if n = 0 then goalType.defaultBudget.value else n
      | none => goalType.defaultBudget.value
    let budget ← Tx.ofExcept (budgetAmount limit cmd.budgetUnit)
    let payload ← Tx.ofExcept (JsonObject.fromValue cmd.inputPayload)
    let policy : DataPolicy := ⟨cmd.maximumClassification, cmd.allowedRegions, cmd.retentionDays⟩
    Tx.ofExcept policy.check
    let goal ← Tx.ofExcept (GoalContract.make {
      tenantId := ctx.tenantId
      goalType := cmd.goalType
      statement := cmd.statement
      desiredOutcome := cmd.desiredOutcome
      subjectRefs := cmd.subjectRefs
      successCriteria := cmd.successCriteria
      constraints := cmd.constraints
      ownerId := cmd.ownerId
      riskTier := cmd.riskTier
      budgetLimit := budget
      deadline := cmd.deadline
      inputPayload := payload
      delegationId := cmd.delegationId
      dataPolicy := policy
      executionMode := cmd.executionMode
      maxConcurrentRuns := cmd.maxConcurrentRuns
      goalId := env.uuid 0
      createdAt := env.now 0 })
    Store.addGoal goal (ctx.audit "goal.created" goal.auditItem (env.uuid 1)) (env.now 1)
    remember ctx key goal.goalId
    return goal

def activateGoal (env : Env) (ctx : CommandContext) (goalId : Uuid) (reason : String) :
    StoreTx GoalContract := do
  requireAny ctx operators
  let key := ctx.key "activate_goal"
  let goal ← cachedGoal ctx key goalId
  if goal.status = .active then
    remember ctx key goal.goalId
    return goal
  else
    let active ← Tx.ofExcept (goal.transitionTo .active ctx.identity.actorId reason (env.now 0))
    Store.saveGoal active goal.version
      (ctx.audit "goal.activated" active.auditItem (env.uuid 0)) (env.now 1)
    remember ctx key active.goalId
    return active

/-- The deployment the router assigns a Run to, when there is a router. -/
def routeDeployment (ports : Ports) (tenantId runId : Uuid) : Except Exc (Option Uuid) :=
  match ports.runDeploymentRouter with
  | some resolve => resolve tenantId runId
  | none => .ok none

def requestRun (ports : Ports) (env : Env) (ctx : CommandContext) (goalId : Uuid) :
    StoreTx Run := do
  requireAny ctx operators
  let key := ctx.key "request_run"
  match ← loadIdempotency ctx key with
  | some cached => Store.getRun ctx.tenantId cached
  | none =>
    let goal ← Store.getGoal ctx.tenantId goalId
    let runs ← Store.listRuns ctx.tenantId (some goal.goalId)
    Tx.ofExcept (goal.assertRunRequestAllowed (runs.countP Run.isActive) (env.now 0))
    let goalType ← Tx.ofExcept (ports.getGoalType ctx.tenantId goal.goalType)
    let agentVersionId ← Tx.ofExcept (ports.getStableAgent ctx.tenantId goalType.agent)
    let runId := env.uuid 0
    let deploymentId ← Tx.ofExcept (routeDeployment ports ctx.tenantId runId)
    let run ← Tx.ofExcept (Run.make {
      tenantId := ctx.tenantId
      goalId := goal.goalId
      agentVersionId := agentVersionId
      runId := runId
      createdAt := env.now 1
      deploymentId := deploymentId })
    Store.addRun run (ctx.audit "run.requested" run.auditItem (env.uuid 1)) (env.now 2)
    remember ctx key run.runId
    return run

/-- `tuple(sorted({*left, *right}))`. -/
def mergedConflicts (left right : List String) : List String :=
  ((left ++ right).dedup).insertionSort (· ≤ ·)

def prepareRunContext (ports : Ports) (env : Env) (ctx : CommandContext)
    (cmd : PrepareRunContext) : StoreTx ContextSnapshot := do
  requireAny ctx operators
  let key := ctx.key "prepare_run_context"
  match ← loadIdempotency ctx key with
  | some _ => Store.getContextSnapshot ctx.tenantId cmd.runId
  | none =>
    let run ← Store.getRun ctx.tenantId cmd.runId
    let memories ← cmd.memoryIds.mapM (Store.getMemory ctx.tenantId)
    let assembled ← Tx.ofExcept (ports.assemble run ctx cmd memories)
    let snapshot := if cmd.conflicts.isEmpty then assembled
      else assembled.withConflicts (mergedConflicts assembled.conflicts cmd.conflicts)
    Store.addContextSnapshot snapshot
    audit ctx "run.context_prepared" snapshot.auditItem (env.uuid 0) (env.now 0)
    remember ctx key snapshot.snapshotId
    return snapshot

/-- The Run a validated plan starts: bound to its snapshot, then running. -/
def startRun (run : Run) (snapshot : RunExecutionSnapshot) (actorId : Uuid) (now : Instant) :
    Except Exc Run := do
  snapshot.check
  let bound ← run.bindExecution snapshot
  bound.transitionTo .running actorId "validated Plan and immutable execution snapshot bound" now

def createValidatedPlan (env : Env) (ctx : CommandContext) (cmd : CreateValidatedPlan) :
    StoreTx Plan := do
  requireAny ctx operators
  let key := ctx.key "create_validated_plan"
  match ← loadIdempotency ctx key with
  | some cached => Store.getPlan ctx.tenantId cached
  | none =>
    let run ← Store.getRun ctx.tenantId cmd.runId
    Tx.check (run.status ≠ .pending)
      (.valueError "a Plan can only be created for a pending Run")
    let snapshot ← Store.getContextSnapshot ctx.tenantId run.runId
    let tasks ← Tx.ofExcept (cmd.tasks.zipIdx.mapM fun (item, i) =>
      buildTask ctx.tenantId run.runId item (env.uuid (i + 2)))
    let plan ← Tx.ofExcept (Plan.make {
      tenantId := ctx.tenantId
      goalId := run.goalId
      runId := run.runId
      tasks := tasks
      planId := env.uuid 0 })
    let bound ← Tx.ofExcept (startRun run {
      planId := plan.planId
      contextSnapshotId := snapshot.snapshotId
      agentVersionId := run.agentVersionId
      skillVersions := cmd.skillVersions
      toolVersions := cmd.toolVersions
      modelRoute := cmd.modelRoute
      policyVersion := cmd.policyVersion } ctx.identity.actorId (env.now 0))
    Store.addPlan plan
    Store.saveRun bound run.optimisticVersion
      (ctx.audit "run.started" bound.auditItem (env.uuid 1)) (env.now 1)
    remember ctx key plan.planId
    return plan

/-- `_transition_run`. -/
def transitionRun (env : Env) (ctx : CommandContext) (runId : Uuid) (target : RunStatus)
    (reason operation : String) : StoreTx Run := do
  Tx.check (isBlank reason) (.valueError "Run transition requires a reason")
  let key := ctx.key operation
  let run ← cachedRun ctx key runId
  if run.status = target then
    remember ctx key run.runId
    return run
  else
    let updated ← Tx.ofExcept (run.transitionTo target ctx.identity.actorId reason (env.now 0))
    Store.saveRun updated run.optimisticVersion
      (ctx.audit ("run." ++ target.value) updated.auditItem (env.uuid 0)) (env.now 1)
    remember ctx key updated.runId
    return updated

def cancelRun (env : Env) (ctx : CommandContext) (runId : Uuid) (reason : String) :
    StoreTx Run := do
  requireAny ctx operators
  transitionRun env ctx runId .cancelled reason "cancel_run"

def failRun (env : Env) (ctx : CommandContext) (runId : Uuid) (reason : String) : StoreTx Run := do
  requireAny ctx operators
  transitionRun env ctx runId .failed reason "fail_run"

def takeOverRun (env : Env) (ctx : CommandContext) (runId : Uuid) (reason : String) :
    StoreTx Run := do
  requireAny ctx ["platform_admin", "tenant_admin", "operator"]
  transitionRun env ctx runId .blocked reason "take_over_run"

/-- The criteria ids of the outcomes a filter keeps. -/
def criteriaOf (outcomes : List Outcome) (keep : Outcome → Bool) : List String :=
  (outcomes.filter keep).map (·.criterionId)

/-- The status and reason `complete_run` decides on from the Goal and the outcomes. -/
def completionTarget (goal : GoalContract) (outcomes : List Outcome) : RunStatus × String :=
  let required := goal.successCriteria.map (·.criterionId)
  let verified := criteriaOf outcomes (fun o => o.status = .verified)
  let observed := criteriaOf outcomes (fun _ => true)
  if required.all (fun c => decide (c ∈ verified)) then
    (.succeeded, "all required Outcomes verified")
  else if required.all (fun c => decide (c ∈ observed)) &&
      outcomes.any (fun o => o.status = .notMet) then
    (.failed, "one or more required Outcomes were not met")
  else (.awaitingEvidence, "required Outcomes remain unverified")

def completeRun (env : Env) (ctx : CommandContext) (runId : Uuid) : StoreTx Run := do
  requireAny ctx operators
  let key := ctx.key "complete_run"
  let run ← cachedRun ctx key runId
  if run.status = .succeeded || run.status = .failed then
    remember ctx key run.runId
    return run
  else
    Tx.check (run.status ≠ .running && run.status ≠ .awaitingEvidence)
      (.valueError "Run is not ready for completion evaluation")
    let goal ← Store.getGoal ctx.tenantId run.goalId
    let tasks ← Store.listTasks ctx.tenantId run.runId
    let actions ← Store.listActions ctx.tenantId run.runId
    let outcomes ← Store.listOutcomes ctx.tenantId run.runId
    Tx.check (tasks.any (fun t => t.status ≠ .succeeded) ||
        actions.any (fun a => a.status ≠ .succeeded))
      (.valueError "Run tasks and Actions must succeed before completion")
    let decided := completionTarget goal outcomes
    if run.status = decided.1 then
      remember ctx key run.runId
      return run
    else
      let updated ← Tx.ofExcept
        (run.transitionTo decided.1 ctx.identity.actorId decided.2 (env.now 0))
      Store.saveRun updated run.optimisticVersion
        (ctx.audit ("run." ++ decided.1.value) updated.auditItem (env.uuid 0)) (env.now 1)
      remember ctx key updated.runId
      return updated

/-- Whether one of the succeeded Runs has every required outcome verified. -/
def someRunVerified (goal : GoalContract) (tenantId : Uuid) : List Run → StoreTx Bool
  | [] => return false
  | run :: rest => do
    let outcomes ← Store.listOutcomes tenantId run.runId
    let verified := criteriaOf outcomes (fun o => o.status = .verified)
    if (goal.successCriteria.map (·.criterionId)).all (fun c => decide (c ∈ verified)) then
      return true
    else someRunVerified goal tenantId rest

/-- The status `satisfy_or_fail_goal` decides on. -/
def finishTarget (goal : GoalContract) (tenantId : Uuid) (satisfied : Bool) (runs : List Run) :
    StoreTx GoalStatus :=
  if satisfied then do
    let succeeded := runs.filter (fun r => r.status = .succeeded)
    Tx.check succeeded.isEmpty (.valueError "Goal satisfaction requires a succeeded Run")
    let verified ← someRunVerified goal tenantId succeeded
    Tx.check (!verified) (.valueError "Goal satisfaction requires all required Outcomes")
    return .satisfied
  else do
    Tx.check (runs.isEmpty || runs.any Run.isActive)
      (.valueError "Goal failure requires all Runs to be terminal")
    return .failed

def satisfyOrFailGoal (env : Env) (ctx : CommandContext) (goalId : Uuid) (satisfied : Bool)
    (reason : String) : StoreTx GoalContract := do
  requireAny ctx operators
  Tx.check (isBlank reason) (.valueError "Goal terminal decision requires a reason")
  let key := ctx.key "finish_goal"
  let goal ← cachedGoal ctx key goalId
  if goal.status = .satisfied || goal.status = .failed then
    remember ctx key goal.goalId
    return goal
  else
    let runs ← Store.listRuns ctx.tenantId (some goal.goalId)
    let target ← finishTarget goal ctx.tenantId satisfied runs
    let updated ← Tx.ofExcept (goal.transitionTo target ctx.identity.actorId reason (env.now 0))
    Store.saveGoal updated goal.version
      (ctx.audit ("goal." ++ target.value) updated.auditItem (env.uuid 0)) (env.now 1)
    remember ctx key updated.goalId
    return updated

end

end App

end Autonoesis
