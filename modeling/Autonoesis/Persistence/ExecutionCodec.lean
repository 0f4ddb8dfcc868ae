import Autonoesis.Domain.Columns
import Autonoesis.Domain.Execution

/-!
# Tasks and their transitions as rows

`task_payload` and `task_from_row`, with what they share with the other codecs. A tuple is stored
as a list, and a timestamp inside of JSON as its text.
-/

namespace Autonoesis
open Base Json

instance : StrEnum BudgetUnit where
  name := "BudgetUnit"
  members := [.costUnits, .tokens, .usdMicros]
  value
    | .costUnits => "cost_units"
    | .tokens => "tokens"
    | .usdMicros => "usd_micros"
  complete a := by cases a <;> decide
  distinct a b := by cases a <;> cases b <;> decide

instance : StrEnum RiskLevel where
  name := "RiskLevel"
  members := [.l0Compute, .l1Read, .l2ReversibleWrite, .l3HighImpactWrite, .l4Privileged]
  value := RiskLevel.value
  complete a := by cases a <;> decide
  distinct a b := by cases a <;> cases b <;> decide

instance : StrEnum CompensationCapability where
  name := "CompensationCapability"
  members := [.none, .available, .required]
  value
    | .none => "none"
    | .available => "available"
    | .required => "required"
  complete a := by cases a <;> decide
  distinct a b := by cases a <;> cases b <;> decide

instance : StrEnum TaskStatus where
  name := "TaskStatus"
  members := [.pending, .ready, .running, .blocked, .succeeded, .failed]
  value := TaskStatus.value
  complete a := by cases a <;> decide
  distinct a b := by cases a <;> cases b <;> decide

/-! ## Transitions -/

/-- `transition_payload`. -/
def StateTransition.payload (item : StateTransition) : Json :=
  .obj [
    ("from_status", .str item.fromStatus),
    ("to_status", .str item.toStatus),
    ("occurred_at", item.occurredAt.json),
    ("reason", .str item.reason),
    ("actor_id", item.actorId.json)]

def transitionFrom (item : Json) : Except Exc StateTransition := do
  checked StateTransition.check {
    fromStatus := ← item.at_ "from_status" asStr
    toStatus := ← item.at_ "to_status" asStr
    occurredAt := ← item.at_ "occurred_at" asInstant
    reason := ← item.at_ "reason" asStr
    actorId := ← item.at_ "actor_id" asUuid }

/-- `transitions_from`: none where the payload is not a list. -/
def transitionsFrom : Json → Except Exc (List StateTransition)
  | .arr items => items.mapM transitionFrom
  | _ => .ok []

def transitionsJson (items : List StateTransition) : Json := .arr (items.map (·.payload))

theorem transitionFrom_payload {item : StateTransition} (accepted : item.check = .ok ()) :
    transitionFrom item.payload = .ok item := by
  simp [transitionFrom, StateTransition.payload, at_, checked_ok accepted]

/-- The records that their constructor accepted are read back. -/
theorem transitionsFrom_json {items : List StateTransition}
    (accepted : ∀ item ∈ items, item.check = .ok ()) :
    transitionsFrom (transitionsJson items) = .ok items :=
  asList_map fun item there => transitionFrom_payload (accepted item there)

/-! ## Tasks -/

/-- A row of `tasks`. -/
structure TaskRow where
  id : String
  tenantId : String
  runId : String
  planId : String
  status : String
  definition : Json
  optimisticVersion : Int

/-- `task_payload`. -/
def Task.payload (task : Task) : Json :=
  .obj [
    ("name", .str task.name),
    ("completion_criterion", .str task.completionCriterion),
    ("depends_on", .arr (task.dependsOn.map (·.json))),
    ("preconditions", .arr (task.preconditions.map .str)),
    ("estimated_cost", .obj [
      ("amount", .int task.estimatedCost.amount),
      ("unit", memberJson task.estimatedCost.unit)]),
    ("risk_level", memberJson task.riskLevel),
    ("compensation", memberJson task.compensation),
    ("evidence_requirements", .arr (task.evidenceRequirements.map .str)),
    ("transitions", transitionsJson task.transitions)]

/-- The row `add_plan` inserts for a task. -/
def Task.row (planId : Uuid) (task : Task) : TaskRow where
  id := task.taskId.str
  tenantId := task.tenantId.str
  runId := task.runId.str
  planId := planId.str
  status := StrEnum.value task.status
  definition := task.payload
  optimisticVersion := task.optimisticVersion

/-- The row after `save_task`. -/
def Task.save (row : TaskRow) (task : Task) : TaskRow :=
  { row with
    status := StrEnum.value task.status
    definition := task.payload
    optimisticVersion := task.optimisticVersion }

/-- The constructor of an amount. -/
def BudgetAmount.make (amount : Int) (unit : BudgetUnit) : Except Exc BudgetAmount :=
  if amount < 0 then .error (.valueError "budget amount must be a non-negative integer")
  else .ok ⟨amount.toNat, unit⟩

@[simp] theorem BudgetAmount.make_self (cost : BudgetAmount) :
    BudgetAmount.make cost.amount cost.unit = .ok cost := by
  rw [make, if_neg (by omega)]
  rfl

/-- `task_from_row`. -/
def taskFromRow (row : TaskRow) : Except Exc Task := do
  let definition := row.definition
  let estimated ← definition.at_ "estimated_cost" .ok
  let estimatedCost ← BudgetAmount.make (← estimated.at_ "amount" asInt)
    (← estimated.at_ "unit" asMember)
  Task.make {
    tenantId := ← Uuid.parse row.tenantId
    runId := ← Uuid.parse row.runId
    name := ← definition.at_ "name" asStr
    completionCriterion := ← definition.at_ "completion_criterion" asStr
    dependsOn := ← definition.at_ "depends_on" (asList asUuid)
    preconditions := ← definition.at_ "preconditions" (asList asStr)
    estimatedCost := estimatedCost
    riskLevel := ← definition.at_ "risk_level" asMember
    compensation := ← definition.at_ "compensation" asMember
    evidenceRequirements := ← definition.at_ "evidence_requirements" (asList asStr)
    taskId := ← Uuid.parse row.id
    status := ← ofValue row.status
    optimisticVersion := row.optimisticVersion
    transitions := ← definition.getD "transitions" [] transitionsFrom }

/-- Every part of the task was accepted by its own constructor. -/
def Task.Accepted (task : Task) : Prop := ∀ item ∈ task.transitions, item.check = .ok ()

theorem taskFromRow_row (planId : Uuid) {task : Task} (accepted : task.Accepted) :
    taskFromRow (task.row planId) = .ok task := by
  have same : Task.make task.toTaskFields = .ok task := guarded_eq_ok.mpr ⟨task.valid, rfl⟩
  have transitions := transitionsFrom_json accepted
  simp [taskFromRow, Task.row, Task.payload, at_, Json.getD, transitions]
  exact same

end Autonoesis
