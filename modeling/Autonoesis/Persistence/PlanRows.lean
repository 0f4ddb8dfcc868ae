import Autonoesis.Application.Store
import Autonoesis.Base.Newest
import Autonoesis.Domain.Plans
import Autonoesis.Persistence.ExecutionCodec
import Autonoesis.Persistence.Reservations

/-!
# Plans as rows

`add_plan` writes a row for the plan, with the identifiers of its tasks, and one for each task.
`get_plan` reads the tasks back in the order in which the database returns their rows.
-/

namespace Autonoesis
open Base Json

/-- A row of `plans`. -/
structure PlanRow where
  id : String
  tenantId : String
  goalId : String
  runId : String
  version : Int
  definition : Json
  optimisticVersion : Int := 1

structure PlanTables where
  plans : List PlanRow := []
  tasks : List TaskRow := []

def Plan.row (plan : Plan) : PlanRow where
  id := plan.planId.str
  tenantId := plan.tenantId.str
  goalId := plan.goalId.str
  runId := plan.runId.str
  version := plan.version
  definition := .obj [("task_ids", .arr (plan.tasks.map (·.taskId.json)))]

namespace PlanTables

abbrev Method (α : Type) := Tx PlanTables Exc α

/-- Inserting into `plans`. -/
def insertPlan (row : PlanRow) : Method Unit := do
  Tx.check ((← Tx.read (·.plans)).any (·.id = row.id)) (.integrityError "plans_pkey")
  Tx.check ((← Tx.read (·.plans)).any fun r =>
    r.tenantId = row.tenantId && r.runId = row.runId && r.version = row.version)
    (.integrityError "uq_plan_run_version")
  Tx.write fun t => { t with plans := t.plans ++ [row] }

/-- Inserting into `tasks`. -/
def insertTask (row : TaskRow) : Method Unit := do
  Tx.check ((← Tx.read (·.tasks)).any (·.id = row.id)) (.integrityError "tasks_pkey")
  Tx.check (!(← Tx.read (·.plans)).any fun r => r.tenantId = row.tenantId && r.id = row.planId)
    (.integrityError "plan_id")
  Tx.write fun t => { t with tasks := t.tasks ++ [row] }

def addPlan (plan : Plan) : Method Unit := do
  insertPlan plan.row
  plan.tasks.forM fun task => insertTask (task.row plan.planId)

/-- The rows of tasks that `get_plan` asks for, without an order. -/
def selected (t : PlanTables) (tenantId planId : Uuid) : List TaskRow :=
  t.tasks.filter fun row => row.planId = planId.str && row.tenantId = tenantId.str

/-- `plan_from_rows`. -/
def planFromRows (planRow : PlanRow) (taskRows : List TaskRow) : Except Exc Plan := do
  Plan.make {
    tenantId := ← Uuid.parse planRow.tenantId
    goalId := ← Uuid.parse planRow.goalId
    runId := ← Uuid.parse planRow.runId
    tasks := ← taskRows.mapM taskFromRow
    version := planRow.version
    planId := ← Uuid.parse planRow.id }

/-- `get_plan`, where the database returns these rows of tasks. -/
def getPlan (tenantId planId : Uuid) (taskRows : List TaskRow) (t : PlanTables) : Except Exc Plan :=
  match t.plans.find? fun row => row.id = planId.str && row.tenantId = tenantId.str with
  | none => .error (.recordNotFound ("plan " ++ planId.str ++ " was not found"))
  | some planRow => planFromRows planRow taskRows

/-- The reference of `tasks` to `plans`. -/
def Referenced (t : PlanTables) : Prop :=
  ∀ row ∈ t.tasks, ∃ planRow ∈ t.plans, planRow.tenantId = row.tenantId ∧ planRow.id = row.planId

theorem insertTask_ok {row : TaskRow} {t t' : PlanTables}
    (inserted : insertTask row t = .ok ((), t')) : t' = { t with tasks := t.tasks ++ [row] } := by
  simp only [insertTask, Tx.bind_ok, Tx.read_ok, Tx.check_ok, Tx.write_ok] at inserted
  obtain ⟨_, _, ⟨⟩, _, _, ⟨_, rfl⟩, _, _, ⟨⟩, _, _, ⟨_, rfl⟩, rfl⟩ := inserted
  rfl

theorem insertTasks_ok {planId : Uuid} {items : List Task} {t t' : PlanTables}
    (inserted : (items.forM fun task => insertTask (task.row planId)) t = .ok ((), t')) :
    t' = { t with tasks := t.tasks ++ items.map (Task.row planId) } := by
  induction items generalizing t with
  | nil =>
    cases inserted
    rw [List.map_nil, List.append_nil]
  | cons task rest ih =>
    obtain ⟨_, t₁, first, others⟩ := Tx.bind_ok.mp inserted
    rw [ih others, insertTask_ok first, List.append_assoc]
    rfl

theorem addPlan_ok {plan : Plan} {t t' : PlanTables} (added : addPlan plan t = .ok ((), t')) :
    (∀ r ∈ t.plans, r.id ≠ plan.planId.str) ∧
      t' = ⟨t.plans ++ [plan.row], t.tasks ++ plan.tasks.map (Task.row plan.planId)⟩ := by
  simp only [addPlan, insertPlan, Tx.bind_ok, Tx.read_ok, Tx.check_ok, Tx.write_ok] at added
  obtain ⟨_, t₁, ⟨_, _, ⟨⟩, _, _, ⟨fresh, rfl⟩, _, _, ⟨⟩, _, _, ⟨_, rfl⟩, rfl⟩, loop⟩ := added
  refine ⟨fun r there same => ?_, insertTasks_ok loop⟩
  exact List.any_eq_false.mp fresh r there (decide_eq_true same)

/-- Of an added plan the database has the rows of its tasks, and no others. -/
theorem selected_added {plan : Plan} {t t' : PlanTables} (referenced : t.Referenced)
    (added : addPlan plan t = .ok ((), t')) :
    t'.selected plan.tenantId plan.planId = plan.tasks.map (Task.row plan.planId) := by
  obtain ⟨fresh, rfl⟩ := addPlan_ok added
  have none : t.tasks.filter (fun row => row.planId = plan.planId.str &&
      row.tenantId = plan.tenantId.str) = [] := by
    refine List.filter_eq_nil_iff.mpr fun row there mine => ?_
    obtain ⟨planRow, stored, _, same⟩ := referenced row there
    simp only [Bool.and_eq_true, decide_eq_true_eq] at mine
    exact fresh planRow stored (same.trans mine.1)
  rw [selected, List.filter_append, none, List.nil_append, List.filter_eq_self]
  intro row listed
  obtain ⟨task, there, rfl⟩ := List.mem_map.mp listed
  have member := (plan.members there).1
  simp [Task.row, member]

theorem mapM_rows (planId : Uuid) {items : List Task} (accepted : ∀ task ∈ items, task.Accepted) :
    (items.map (Task.row planId)).mapM taskFromRow = .ok items := by
  induction items with
  | nil => rfl
  | cons task rest ih =>
    obtain ⟨first, others⟩ := List.forall_mem_cons.mp accepted
    rw [List.map_cons, List.mapM_cons, taskFromRow_row planId first, ih others]
    rfl

/-- Rows of tasks are read back as the tasks in the order in which they come. -/
theorem exists_tasks {planId : Uuid} {known : List Task} {rows : List TaskRow}
    (accepted : ∀ task ∈ known, task.Accepted)
    (each : ∀ row ∈ rows, ∃ task ∈ known, row = task.row planId) :
    ∃ tasks, rows.mapM taskFromRow = .ok tasks ∧ rows = tasks.map (Task.row planId) := by
  suffices written : ∃ tasks : List Task, (∀ task ∈ tasks, task.Accepted) ∧
      rows = tasks.map (Task.row planId) by
    obtain ⟨tasks, sound, rfl⟩ := written
    exact ⟨tasks, mapM_rows planId sound, rfl⟩
  induction rows with
  | nil => exact ⟨[], fun _ there => absurd there List.not_mem_nil, rfl⟩
  | cons row rest ih =>
    obtain ⟨⟨task, listed, rfl⟩, others⟩ := List.forall_mem_cons.mp each
    obtain ⟨tasks, sound, rfl⟩ := ih others
    exact ⟨task :: tasks, List.forall_mem_cons.mpr ⟨accepted task listed, sound⟩, rfl⟩

/-- An added plan is read back exactly when the rows of its tasks come in their order. -/
theorem getPlan_added {plan : Plan} (accepted : ∀ task ∈ plan.tasks, task.Accepted)
    {t t' : PlanTables} (referenced : t.Referenced)
    (added : addPlan plan t = .ok ((), t')) {rows : List TaskRow}
    (answer : rows.Perm (t'.selected plan.tenantId plan.planId)) :
    t'.getPlan plan.tenantId plan.planId rows = .ok plan ↔
      rows = plan.tasks.map (Task.row plan.planId) := by
  rw [selected_added referenced added] at answer
  obtain ⟨fresh, rfl⟩ := addPlan_ok added
  have none : t.plans.find? (fun row => row.id = plan.planId.str &&
      row.tenantId = plan.tenantId.str) = none := by
    refine List.find?_eq_none.mpr fun r there => ?_
    simp [fresh r there]
  have found : (t.plans ++ [plan.row]).find? (fun row => row.id = plan.planId.str &&
      row.tenantId = plan.tenantId.str) = some plan.row := by
    rw [List.find?_append, none]
    simp [Plan.row]
  have each : ∀ row ∈ rows, ∃ task ∈ plan.tasks, row = task.row plan.planId := by
    intro row there
    obtain ⟨task, listed, rfl⟩ := List.mem_map.mp (answer.mem_iff.mp there)
    exact ⟨task, listed, rfl⟩
  obtain ⟨tasks, read, same⟩ := exists_tasks accepted each
  have made : PlanTables.getPlan plan.tenantId plan.planId rows
      ⟨t.plans ++ [plan.row], t.tasks ++ plan.tasks.map (Task.row plan.planId)⟩ =
      Plan.make { plan.toPlanFields with tasks := tasks } := by
    unfold getPlan
    dsimp only
    rw [found]
    simp only [planFromRows, Plan.row, Uuid.parse_str, read]
    rfl
  rw [made]
  constructor
  · intro whole
    obtain ⟨_, built⟩ := guarded_eq_ok.mp whole
    have tasks_eq : tasks = plan.tasks := congrArg (fun p : Plan => p.tasks) built
    rw [same, tasks_eq]
  · intro order
    have again : (plan.tasks.map (Task.row plan.planId)).mapM taskFromRow = .ok plan.tasks :=
      mapM_rows plan.planId accepted
    rw [← order, read] at again
    obtain rfl := Except.ok.inj again
    exact guarded_eq_ok.mpr ⟨plan.valid, rfl⟩

end PlanTables

/-- The in-memory store gives a plan back as long as its tables hold what was added. -/
theorem Store.getPlan_of_added {plan : Plan} {s : Store} {plans : Dict Uuid Plan}
    {tasks : Dict Uuid Task} (planned : s.plans = plans.set plan.planId plan)
    (listed : s.tasks = plan.tasks.foldl (fun d t => d.set t.taskId t) tasks) :
    Store.getPlan plan.tenantId plan.planId s = .ok (plan, s) := by
  have stored (task : Task) (there : task ∈ plan.tasks) : s.tasks.get? task.taskId = some task := by
    rw [listed, Dict.get?_foldl_set]
    cases found : plan.tasks.reverse.find? fun t => decide (t.taskId = task.taskId) with
    | none =>
      have missing := List.find?_eq_none.mp found task (List.mem_reverse.mpr there)
      simp at missing
    | some t =>
      have same : t.taskId = task.taskId := by simpa using List.find?_some found
      have inside := List.mem_reverse.mp (List.mem_of_find?_eq_some found)
      rw [List.inj_on_of_nodup_map plan.wellFormed.unique inside there same]
      rfl
  have found : Store.find (·.plans) (·.tenantId) ("plan " ++ plan.planId.str ++ " was not found")
      plan.tenantId plan.planId s = .ok (plan, s) :=
    Store.find_ok.mpr ⟨by rw [planned, Dict.get?_set_self], rfl, rfl⟩
  rw [Store.getPlan, Tx.bind_run found]
  refine Tx.bind_ok.mpr ⟨plan.tasks, s, ?_, ?_⟩
  · refine (Tx.mapM_returns (f := id) fun task there => ?_).trans (by rw [List.map_id])
    simp only [bind, StateT.bind, Tx.read, stored task there]
    rfl
  · exact Tx.ofExcept_ok.mpr ⟨guarded_eq_ok.mpr ⟨plan.valid, rfl⟩, rfl⟩

/-- The in-memory store gives an added plan back. -/
theorem Store.getPlan_addPlan (plan : Plan) (s : Store) :
    ∃ s', Store.addPlan plan s = .ok ((), s') ∧
      Store.getPlan plan.tenantId plan.planId s' = .ok (plan, s') :=
  ⟨_, rfl, Store.getPlan_of_added rfl rfl⟩

namespace PlanTables

/-- Reading back a plan that was added gives the plan exactly when the database returns the rows of
its tasks in their order; in memory it always does. -/
theorem getPlan_addPlan_iff (plan : Plan) (accepted : ∀ task ∈ plan.tasks, task.Accepted)
    {t t' : PlanTables} (referenced : t.Referenced)
    (added : addPlan plan t = .ok ((), t')) {rows : List TaskRow}
    (answer : rows.Perm (t'.selected plan.tenantId plan.planId)) (s : Store) :
    (t'.getPlan plan.tenantId plan.planId rows = .ok plan ↔
      rows = plan.tasks.map (Task.row plan.planId)) ∧
    ∃ s', Store.addPlan plan s = .ok ((), s') ∧
      Store.getPlan plan.tenantId plan.planId s' = .ok (plan, s') :=
  ⟨getPlan_added accepted referenced added answer, Store.getPlan_addPlan plan s⟩

namespace Sample

def waiting : Plan := ⟨PlanFields.Sample.waiting, by decide +kernel⟩

def added : PlanTables := ⟨[waiting.row], waiting.tasks.map (Task.row waiting.planId)⟩

theorem waiting_accepted : ∀ task ∈ waiting.tasks, task.Accepted := by
  have fresh : ∀ task ∈ waiting.tasks, task.transitions = [] := by decide +kernel
  intro task there item listed
  rw [fresh task there] at listed
  cases listed

theorem added_empty : addPlan waiting {} = .ok ((), added) := by
  rfl

theorem referenced_empty : ({} : PlanTables).Referenced := fun _ there => nomatch there

/-- The rows come in the order in which they were written. -/
theorem waiting_kept : added.getPlan 1 4 (waiting.tasks.map (Task.row 4)) = .ok waiting := by
  apply (getPlan_addPlan_iff waiting waiting_accepted referenced_empty added_empty _ {}).1.mpr
  · rfl
  · exact List.Perm.of_eq (selected_added referenced_empty added_empty).symm

/-- They come the other way round. -/
theorem waiting_reversed :
    addPlan waiting {} = .ok ((), added) ∧
    (waiting.tasks.map (Task.row 4)).reverse.Perm (added.selected 1 4) ∧
    added.getPlan 1 4 (waiting.tasks.map (Task.row 4)).reverse ≠ .ok waiting := by
  have answer : (waiting.tasks.map (Task.row 4)).reverse.Perm (added.selected 1 4) := by
    have rows := selected_added referenced_empty added_empty
    change added.selected 1 4 = _ at rows
    rw [rows]
    exact List.reverse_perm _
  refine ⟨added_empty, answer, fun whole => ?_⟩
  have order := (getPlan_added waiting_accepted referenced_empty added_empty answer).mp whole
  exact absurd (congrArg (List.map TaskRow.id) order) (by decide +kernel)

end Sample

end PlanTables

end Autonoesis
