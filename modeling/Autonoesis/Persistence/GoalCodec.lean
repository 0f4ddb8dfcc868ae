import Autonoesis.Persistence.ExecutionCodec

/-!
# Goals and Runs as rows

`_goal_payload` and `run_payload` with their readers. The identity of an aggregate, its status and
its version are columns, and everything else is in the JSON of its definition.
-/

namespace Autonoesis
open Base Json

instance : StrEnum RiskTier where
  name := "RiskTier"
  members := [.low, .medium, .high, .critical]
  value := RiskTier.value
  complete a := by cases a <;> decide
  distinct a b := by cases a <;> cases b <;> decide

instance : StrEnum DataClassification where
  name := "DataClassification"
  members := [.pub, .internal, .confidential, .restricted]
  value := DataClassification.value
  complete a := by cases a <;> decide
  distinct a b := by cases a <;> cases b <;> decide

instance : StrEnum ExecutionMode where
  name := "ExecutionMode"
  members := [.autonomous, .supervised, .humanOnly, .shadow]
  value := ExecutionMode.value
  complete a := by cases a <;> decide
  distinct a b := by cases a <;> cases b <;> decide

instance : StrEnum GoalStatus where
  name := "GoalStatus"
  members := [.draft, .active, .paused, .satisfied, .failed, .cancelled]
  value := GoalStatus.value
  complete a := by cases a <;> decide
  distinct a b := by cases a <;> cases b <;> decide

instance : StrEnum RunStatus where
  name := "RunStatus"
  members := [.pending, .running, .blocked, .awaitingEvidence, .succeeded, .failed, .cancelled]
  value := RunStatus.value
  complete a := by cases a <;> decide
  distinct a b := by cases a <;> cases b <;> decide

/-! ## Parts of a Goal -/

def SubjectRef.payload (ref : SubjectRef) : Json :=
  .obj [
    ("system", .str ref.system),
    ("subject_type", .str ref.subjectType),
    ("subject_id", .str ref.subjectId),
    ("version", optional .str ref.version)]

/-- A subject reference from the keys of an object. -/
def subjectRefFrom (item : Json) : Except Exc SubjectRef := do
  checked SubjectRef.check {
    system := ← item.at_ "system" asStr
    subjectType := ← item.at_ "subject_type" asStr
    subjectId := ← item.at_ "subject_id" asStr
    version := ← item.get? "version" asStr }

/-- `SubjectRef(**item)`. -/
def asSubjectRef (item : Json) : Except Exc SubjectRef := do
  item.keywords ["system", "subject_type", "subject_id"] ["version"]
  subjectRefFrom item

def SuccessCriterion.payload (item : SuccessCriterion) : Json :=
  .obj [
    ("criterion_id", .str item.criterionId),
    ("description", .str item.description),
    ("evidence_type", .str item.evidenceType)]

/-- `SuccessCriterion(**item)`. -/
def asSuccessCriterion (item : Json) : Except Exc SuccessCriterion := do
  item.keywords ["criterion_id", "description", "evidence_type"] []
  checked SuccessCriterion.check {
    criterionId := ← item.at_ "criterion_id" asStr
    description := ← item.at_ "description" asStr
    evidenceType := ← item.at_ "evidence_type" asStr }

def BudgetAmount.payload (amount : BudgetAmount) : Json :=
  .obj [("amount", .int amount.amount), ("unit", memberJson amount.unit)]

def asBudgetAmount (item : Json) : Except Exc BudgetAmount := do
  BudgetAmount.make (← item.at_ "amount" asInt) (← item.at_ "unit" asMember)

def DataPolicy.payload (policy : DataPolicy) : Json :=
  .obj [
    ("maximum_classification", memberJson policy.maximumClassification),
    ("allowed_regions", .arr (policy.allowedRegions.map .str)),
    ("retention_days", .int policy.retentionDays)]

def asDataPolicy (policy : Json) : Except Exc DataPolicy := do
  checked DataPolicy.check {
    maximumClassification := ← policy.getD "maximum_classification" .internal asMember
    allowedRegions := ← policy.getD "allowed_regions" [] (asList asStr)
    retentionDays := ← policy.getD "retention_days" 30 asInt }

/-- `JsonObject.from_value(value)`. -/
def asJsonObject (value : Json) : Except Exc JsonObject := do
  JsonObject.fromValue (← asObj value)

theorem subjectRefFrom_payload {ref : SubjectRef} (accepted : ref.check = .ok ()) :
    subjectRefFrom ref.payload = .ok ref := by
  simp [subjectRefFrom, SubjectRef.payload, at_, get?, getD, checked_ok accepted]

theorem asSubjectRef_payload {ref : SubjectRef} (accepted : ref.check = .ok ()) :
    asSubjectRef ref.payload = .ok ref := by
  have known : (ref.payload.keywords ["system", "subject_type", "subject_id"] ["version"] :
      Except Exc Unit) = .ok () := keywords_obj rfl
  rw [asSubjectRef, known]
  exact subjectRefFrom_payload accepted

theorem asSuccessCriterion_payload {item : SuccessCriterion} (accepted : item.check = .ok ()) :
    asSuccessCriterion item.payload = .ok item := by
  have known : (item.payload.keywords ["criterion_id", "description", "evidence_type"] [] :
      Except Exc Unit) = .ok () := keywords_obj rfl
  rw [asSuccessCriterion, known]
  simp [SuccessCriterion.payload, at_, checked_ok accepted]

@[simp] theorem asBudgetAmount_payload (amount : BudgetAmount) :
    asBudgetAmount amount.payload = .ok amount := by
  simp [asBudgetAmount, BudgetAmount.payload, at_]

theorem asDataPolicy_payload {policy : DataPolicy} (accepted : policy.check = .ok ()) :
    asDataPolicy policy.payload = .ok policy := by
  simp [asDataPolicy, DataPolicy.payload, getD, checked_ok accepted]

@[simp] theorem asJsonObject_toValue (j : JsonObject) : asJsonObject (.obj j.toValue) = .ok j := by
  simp [asJsonObject]

/-! ## Goals -/

/-- A row of `goals`. -/
structure GoalRow where
  id : String
  tenantId : String
  goalType : String
  ownerId : String
  status : String
  contract : Json
  optimisticVersion : Int
  createdAt : Instant

/-- `_goal_payload`. -/
def GoalContract.payload (goal : GoalContract) : Json :=
  .obj [
    ("statement", .str goal.statement),
    ("desired_outcome", .str goal.desiredOutcome),
    ("subject_refs", .arr (goal.subjectRefs.map (·.payload))),
    ("success_criteria", .arr (goal.successCriteria.map (·.payload))),
    ("constraints", .arr (goal.constraints.map .str)),
    ("risk_tier", memberJson goal.riskTier),
    ("budget_limit", goal.budgetLimit.payload),
    ("deadline", goal.deadline.json),
    ("input_payload", .obj goal.inputPayload.toValue),
    ("delegation_id", optional Uuid.json goal.delegationId),
    ("data_policy", goal.dataPolicy.payload),
    ("execution_mode", memberJson goal.executionMode),
    ("max_concurrent_runs", .int goal.maxConcurrentRuns),
    ("transitions", transitionsJson goal.transitions)]

/-- The row `add_goal` inserts. -/
def GoalContract.row (goal : GoalContract) : GoalRow where
  id := goal.goalId.str
  tenantId := goal.tenantId.str
  goalType := goal.goalType
  ownerId := goal.ownerId.str
  status := StrEnum.value goal.status
  contract := goal.payload
  optimisticVersion := goal.version
  createdAt := goal.createdAt

/-- The row after `save_goal`. -/
def GoalContract.save (row : GoalRow) (goal : GoalContract) : GoalRow :=
  { row with
    status := StrEnum.value goal.status
    contract := goal.payload
    optimisticVersion := goal.version }

/-- `_goal_from_row`. -/
def goalFromRow (row : GoalRow) : Except Exc GoalContract := do
  let payload := row.contract
  GoalContract.make {
    tenantId := ← Uuid.parse row.tenantId
    goalType := row.goalType
    statement := ← payload.at_ "statement" asStr
    desiredOutcome := ← payload.at_ "desired_outcome" asStr
    subjectRefs := ← payload.at_ "subject_refs" (asList asSubjectRef)
    successCriteria := ← payload.at_ "success_criteria" (asList asSuccessCriterion)
    constraints := ← payload.at_ "constraints" (asList asStr)
    ownerId := ← Uuid.parse row.ownerId
    riskTier := ← payload.at_ "risk_tier" asMember
    budgetLimit := ← payload.at_ "budget_limit" asBudgetAmount
    deadline := ← payload.at_ "deadline" asInstant
    inputPayload := ← payload.at_ "input_payload" asJsonObject
    delegationId := ← payload.ifGiven "delegation_id" asUuid
    dataPolicy := ← asDataPolicy (← payload.getD "data_policy" (.obj []) .ok)
    executionMode := ← payload.getD "execution_mode" .supervised asMember
    maxConcurrentRuns := ← payload.getD "max_concurrent_runs" 1 asInt
    goalId := ← Uuid.parse row.id
    version := row.optimisticVersion
    status := ← ofValue row.status
    createdAt := row.createdAt
    transitions := ← payload.getD "transitions" [] transitionsFrom }

/-- Every part of the Goal was accepted by its own constructor. -/
structure GoalContract.Accepted (goal : GoalContract) : Prop where
  subjectRefs : ∀ ref ∈ goal.subjectRefs, ref.check = .ok ()
  successCriteria : ∀ item ∈ goal.successCriteria, item.check = .ok ()
  dataPolicy : goal.dataPolicy.check = .ok ()
  transitions : ∀ item ∈ goal.transitions, item.check = .ok ()

theorem goalFromRow_row {goal : GoalContract} (accepted : goal.Accepted) :
    goalFromRow goal.row = .ok goal := by
  have same : GoalContract.make goal.toGoalFields = .ok goal := guarded_eq_ok.mpr ⟨goal.valid, rfl⟩
  have refs : asList asSubjectRef (.arr (goal.subjectRefs.map (·.payload))) = .ok goal.subjectRefs :=
    asList_map fun ref there => asSubjectRef_payload (accepted.subjectRefs ref there)
  have criteria : asList asSuccessCriterion (.arr (goal.successCriteria.map (·.payload))) =
      .ok goal.successCriteria :=
    asList_map fun item there => asSuccessCriterion_payload (accepted.successCriteria item there)
  have policy := asDataPolicy_payload accepted.dataPolicy
  have transitions := transitionsFrom_json accepted.transitions
  simp [goalFromRow, GoalContract.row, GoalContract.payload, at_, getD, ifGiven, refs, criteria,
    policy, transitions]
  exact same

/-! ## Runs -/

/-- A row of `runs`, without the identifier of its workflow, which is not read back. -/
structure RunRow where
  id : String
  tenantId : String
  goalId : String
  agentVersionId : String
  status : String
  definition : Json
  optimisticVersion : Int
  createdAt : Instant

def RunExecutionSnapshot.payload (snapshot : RunExecutionSnapshot) : Json :=
  .obj [
    ("plan_id", snapshot.planId.json),
    ("context_snapshot_id", snapshot.contextSnapshotId.json),
    ("agent_version_id", snapshot.agentVersionId.json),
    ("skill_versions", .arr (snapshot.skillVersions.map .str)),
    ("tool_versions", .arr (snapshot.toolVersions.map .str)),
    ("model_route", .str snapshot.modelRoute),
    ("policy_version", .str snapshot.policyVersion)]

def asExecutionSnapshot (snapshot : Json) : Except Exc RunExecutionSnapshot := do
  checked RunExecutionSnapshot.check {
    planId := ← snapshot.at_ "plan_id" asUuid
    contextSnapshotId := ← snapshot.at_ "context_snapshot_id" asUuid
    agentVersionId := ← snapshot.at_ "agent_version_id" asUuid
    skillVersions := ← snapshot.at_ "skill_versions" (asList asStr)
    toolVersions := ← snapshot.at_ "tool_versions" (asList asStr)
    modelRoute := ← snapshot.at_ "model_route" asStr
    policyVersion := ← snapshot.at_ "policy_version" asStr }

/-- `run_payload`. -/
def Run.payload (run : Run) : Json :=
  .obj [
    ("execution_snapshot", optional RunExecutionSnapshot.payload run.executionSnapshot),
    ("transitions", transitionsJson run.transitions),
    ("deployment_id", optional Uuid.json run.deploymentId)]

/-- The row `add_run` inserts. -/
def Run.row (run : Run) : RunRow where
  id := run.runId.str
  tenantId := run.tenantId.str
  goalId := run.goalId.str
  agentVersionId := run.agentVersionId.str
  status := StrEnum.value run.status
  definition := run.payload
  optimisticVersion := run.optimisticVersion
  createdAt := run.createdAt

/-- The row after `save_run`. -/
def Run.save (row : RunRow) (run : Run) : RunRow :=
  { row with
    status := StrEnum.value run.status
    definition := run.payload
    optimisticVersion := run.optimisticVersion }

/-- `run_from_row`. -/
def runFromRow (row : RunRow) : Except Exc Run := do
  let definition := row.definition.orEmpty
  Run.make {
    tenantId := ← Uuid.parse row.tenantId
    goalId := ← Uuid.parse row.goalId
    agentVersionId := ← Uuid.parse row.agentVersionId
    executionSnapshot := ← definition.ifGiven "execution_snapshot" asExecutionSnapshot
    runId := ← Uuid.parse row.id
    status := ← ofValue row.status
    optimisticVersion := row.optimisticVersion
    createdAt := row.createdAt
    transitions := ← definition.getD "transitions" [] transitionsFrom
    deploymentId := ← definition.ifGiven "deployment_id" asUuid }

/-- Every part of the Run was accepted by its own constructor. -/
structure Run.Accepted (run : Run) : Prop where
  executionSnapshot : ∀ snapshot ∈ run.executionSnapshot, snapshot.check = .ok ()
  transitions : ∀ item ∈ run.transitions, item.check = .ok ()

theorem asExecutionSnapshot_payload {snapshot : RunExecutionSnapshot}
    (accepted : snapshot.check = .ok ()) : asExecutionSnapshot snapshot.payload = .ok snapshot := by
  simp [asExecutionSnapshot, RunExecutionSnapshot.payload, at_, checked_ok accepted]

theorem runFromRow_row {run : Run} (accepted : run.Accepted) : runFromRow run.row = .ok run := by
  have same : Run.make run.toRunFields = .ok run := guarded_eq_ok.mpr ⟨run.valid, rfl⟩
  have snapshot : given asExecutionSnapshot
      (optional RunExecutionSnapshot.payload run.executionSnapshot) = .ok run.executionSnapshot :=
    given_optional
      (fun snapshot there => asExecutionSnapshot_payload (accepted.executionSnapshot snapshot there))
      (fun _ _ => rfl)
  have transitions := transitionsFrom_json accepted.transitions
  simp [runFromRow, Run.row, Run.payload, getD, ifGiven, snapshot, transitions]
  exact same

end Autonoesis
