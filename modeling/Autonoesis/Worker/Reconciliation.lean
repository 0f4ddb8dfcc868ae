import Mathlib.Data.List.ReduceOption
import Autonoesis.Base.Rely
import Autonoesis.Runtime.Namespaces
import Autonoesis.Worker.Dispatch

/-!
# Reconciling Runs with their workflows

`reconcile_once` lists the Runs, asks Temporal about the workflow of each, starts what is missing
and reports what it cannot repair. Any number of passes run beside the pollers, the commands and
Temporal itself, where workflows continue as new and close, closed ones are removed when their
retention ends, and a start may fail with or without having taken effect. A workflow is found under
an id made of the tenant and the Run. Temporal is not modelled: what is relied on is that of an id
it keeps one chain of executions, each of which continues the one before.
-/

namespace Autonoesis
open Base

/-- `IsolationRiskPool.from_risk_tier`. -/
def IsolationRiskPool.fromRiskTier (riskTier : String) : IsolationRiskPool :=
  let normalized := (strip riskTier).toList.flatMap loweredChar
  if normalized ∈ ["critical".toList, "high".toList] then .highRisk
  else if normalized ∈ ["medium".toList, "write".toList] then .write
  else .read

namespace Reconciliation
open Prog Dispatch

/-- `workflow_id_for_run`. -/
def workflowIdForRun (tenantId runId : String) : Except Exc String := do
  let namespaces ← TenantNamespaces.make { tenantId := ← Uuid.parse tenantId }
  return namespaces.workflowId (← Uuid.parse runId)

structure ReconciliationRun where
  command : GoalRunInput
  databaseStatus : String

structure WorkflowObservation where
  exists_ : Bool
  running : Bool
  status : String

structure ReconciliationFinding where
  runId : String
  kind : String
  recovered : Bool
  detail : String
  deriving DecidableEq

inductive WorkflowExecutionStatus where
  | running | completed | failed | canceled | terminated | continuedAsNew | timedOut
  deriving DecidableEq

/-- `status.name.lower()`. -/
def WorkflowExecutionStatus.name : WorkflowExecutionStatus → String
  | running => "running"
  | completed => "completed"
  | failed => "failed"
  | canceled => "canceled"
  | terminated => "terminated"
  | continuedAsNew => "continued_as_new"
  | timedOut => "timed_out"

/-- What `describe` answers: the RPC error NOT_FOUND, or a description. -/
inductive Described where
  | notFound
  | found (status : Option WorkflowExecutionStatus)

inductive Req where
  | list (scope : Option Uuid) (limit : Nat)
  | describe (workflowId : String)
  | start (workflowId : String) (command : GoalRunInput) (taskQueue : String)

abbrev Resp : Req → Type
  | .list .. => List ReconciliationRun
  | .describe _ => Described
  | .start .. => Unit

abbrev Pass := Prog Req Resp Exc

def listReconciliationRuns (scope : Option Uuid) (limit : Nat) : Pass (List ReconciliationRun) :=
  request (Req.list scope limit)

def describe (workflowId : String) : Pass Described :=
  request (Req.describe workflowId)

def startWorkflow (workflowId : String) (command : GoalRunInput) (taskQueue : String) : Pass Unit :=
  request (Req.start workflowId command taskQueue)

/-- `TemporalRunWorkflowControl`. -/
structure RunWorkflowControl where
  taskQueue : String
  tenantId : Option Uuid := none
  riskPool : Option IsolationRiskPool := none

/-- `TemporalRunWorkflowControl.start`. -/
def RunWorkflowControl.start (control : RunWorkflowControl) (command : GoalRunInput) :
    Pass String := do
  ofExcept (checks [
    (control.tenantId.any fun tenantId => command.tenantId ≠ tenantId.str,
      .permissionError "workflow worker pool is bound to another tenant"),
    (control.riskPool.any (IsolationRiskPool.fromRiskTier command.riskTier ≠ ·),
      .permissionError "workflow worker pool is bound to another risk tier")])
  let workflowId ← ofExcept (workflowIdForRun command.tenantId command.runId)
  startWorkflow workflowId command control.taskQueue
  return workflowId

/-- `TemporalRunWorkflowControl.observe`. -/
def observe (workflowId : String) : Pass WorkflowObservation := do
  match ← describe workflowId with
  | .notFound => return ⟨false, false, "not_found"⟩
  | .found none => return ⟨true, false, "unspecified"⟩
  | .found (some status) => return ⟨true, status = .running, status.name⟩

def activeStatuses : List String := ["pending", "running", "awaiting_evidence"]

/-- `f"Temporal={observed.status}; DB={item.database_status}"`. -/
def detail (observed : WorkflowObservation) (item : ReconciliationRun) : String :=
  "Temporal=" ++ observed.status ++ "; DB=" ++ item.databaseStatus

/-- The body of the loop of `reconcile_once`. -/
def reconcileRun (control : RunWorkflowControl) (item : ReconciliationRun) :
    Pass (Option ReconciliationFinding) := do
  let workflowId ← ofExcept (workflowIdForRun item.command.tenantId item.command.runId)
  let observed ← observe workflowId
  if item.databaseStatus ∉ activeStatuses then
    if observed.exists_ && observed.running then
      return some ⟨item.command.runId, "running_workflow_with_terminal_or_manual_run", false,
        detail observed item⟩
    else return none
  else if !observed.exists_ then
    match ← (control.start item.command).attempt with
    | .error e =>
      if e.isA .exception then
        return some ⟨item.command.runId, "missing_workflow", false, e.name⟩
      else raise e
    | .ok _ => return some ⟨item.command.runId, "missing_workflow", true, "fixed workflow ID started"⟩
  else if !observed.running then
    return some ⟨item.command.runId, "closed_workflow_with_active_run", false,
      detail observed item⟩
  else return none

/-- The findings of the Runs one after the other. -/
def reconcileRuns (control : RunWorkflowControl) (findings : List ReconciliationFinding) :
    List ReconciliationRun → Pass (List ReconciliationFinding)
  | [] => return findings
  | item :: rest => do
    let finding ← reconcileRun control item
    reconcileRuns control (findings ++ finding.toList) rest

/-- `RunWorkflowReconciler.reconcile_once`. -/
def reconcileOnce (control : RunWorkflowControl) (scope : Option Uuid) (limit : Nat) :
    Pass (List ReconciliationFinding) := do
  let items ← listReconciliationRuns scope limit
  reconcileRuns control [] items

/-! ## Temporal and the database -/

/-- The latest execution of a workflow. -/
structure WorkflowExecution where
  command : GoalRunInput
  status : WorkflowExecutionStatus := .running

/-- A service that keeps workflows: the latest execution it has of an id, what it may answer to
`describe` and to `start_workflow`, and what may happen to an id without a call. -/
structure WorkflowService where
  State : Type
  latest : State → String → Option WorkflowExecution
  describes : State → String → Described → Prop
  starts : State → String → GoalRunInput → Except Exc Unit → State → Prop
  moves : State → String → State → Prop

/-- What `describe` says of a workflow. -/
def Described.of : Option WorkflowExecution → Described
  | none => .notFound
  | some execution => .found (some execution.status)

/-- What happens to a workflow: it closes, it continues as new, as `GoalRunWorkflow` does, and once
it is closed its retention ends. -/
inductive Becomes : Option WorkflowExecution → Option WorkflowExecution → Prop
  | closed {execution : WorkflowExecution} (running : execution.status = .running)
      {status : WorkflowExecutionStatus} (ended : status ≠ .running) :
      Becomes (some execution) (some { execution with status })
  | continued {execution : WorkflowExecution} (running : execution.status = .running)
      (within : execution.command.continuationCount < execution.command.maxContinuations) :
      Becomes (some execution) (some { command := execution.command.continued })
  | removed {execution : WorkflowExecution} (ended : execution.status ≠ .running) :
      Becomes (some execution) none

/-- What Temporal documents of itself. Starts are under REJECT_DUPLICATE and USE_EXISTING: where
there is no workflow the start makes one or fails, with or without an effect, and a workflow that
is there stays and is accepted only if it is running. -/
structure WorkflowService.Documented (service : WorkflowService) : Prop where
  described : ∀ {t workflowId described}, service.describes t workflowId described →
    described = .of (service.latest t workflowId)
  new : ∀ {t workflowId command answer t'}, service.starts t workflowId command answer t' →
    service.latest t workflowId = none →
      service.latest t' workflowId = some { command } ∨
        service.latest t' workflowId = none ∧ answer ≠ .ok ()
  existing : ∀ {t workflowId command answer t'}, service.starts t workflowId command answer t' →
    ∀ execution, service.latest t workflowId = some execution →
      service.latest t' workflowId = some execution ∧
        (answer = .ok () → execution.status = .running)
  startOf : ∀ {t workflowId command answer t'}, service.starts t workflowId command answer t' →
    ∀ other, other ≠ workflowId → service.latest t' other = service.latest t other
  becomes : ∀ {t workflowId t'}, service.moves t workflowId t' →
    Becomes (service.latest t workflowId) (service.latest t' workflowId)
  moveOf : ∀ {t workflowId t'}, service.moves t workflowId t' →
    ∀ other, other ≠ workflowId → service.latest t' other = service.latest t other

/-- The database and the service; the starts that have made a workflow so far and the ids of those
removed, which nothing reads. -/
structure World (service : WorkflowService) where
  db : Dispatch.System
  temporal : service.State
  started : List (String × GoalRunInput) := []
  removed : List String := []

variable {service : WorkflowService}

/-- The service has answered a start. -/
def World.start (s : World service) (workflowId : String) (command : GoalRunInput)
    (temporal : service.State) : World service :=
  let made := (service.latest s.temporal workflowId).isNone &&
    (service.latest temporal workflowId).isSome
  { s with temporal, started := if made then s.started ++ [(workflowId, command)] else s.started }

/-- Something has happened to a workflow. -/
def World.move (s : World service) (workflowId : String) (temporal : service.State) :
    World service :=
  let gone := (service.latest s.temporal workflowId).isSome &&
    (service.latest temporal workflowId).isNone
  { s with temporal, removed := if gone then s.removed ++ [workflowId] else s.removed }

/-- The rows of the join in `list_reconciliation_runs`. -/
def joined (db : Dispatch.System) (scope : Option Uuid) : List (Run × GoalContract) :=
  (db.runs.values.filter fun run => scope.all (· = run.tenantId)).flatMap fun run =>
    (db.goals.values.filter fun goal =>
      goal.tenantId = run.tenantId && goal.goalId = run.goalId).map (run, ·)

def reconciliationRun (row : Run × GoalContract) : ReconciliationRun :=
  ⟨commandFromRow row.1.tenantId.str row.1.goalId.str row.1.runId.str row.2, row.1.status.value⟩

/-- What `list_reconciliation_runs` may answer: its query names no order. -/
def Listed (db : Dispatch.System) (scope : Option Uuid) (limit : Nat)
    (items : List ReconciliationRun) : Prop :=
  ∃ rows : List (Run × GoalContract), rows.Perm (joined db scope) ∧
    items = (rows.take limit).map reconciliationRun

inductive Answers (s : World service) : (r : Req) → Except Exc (Resp r) → World service → Prop
  | list {scope : Option Uuid} {limit : Nat} {items : List ReconciliationRun}
      (listed : Listed s.db scope limit items) : Answers s (.list scope limit) (.ok items) s
  | describe {workflowId : String} {described : Described}
      (describes : service.describes s.temporal workflowId described) :
      Answers s (.describe workflowId) (.ok described) s
  | start {workflowId taskQueue : String} {command : GoalRunInput} {answer : Except Exc Unit}
      {temporal : service.State}
      (starts : service.starts s.temporal workflowId command answer temporal) :
      Answers s (.start workflowId command taskQueue) answer (s.start workflowId command temporal)
  | raised (r : Req) (e : Exc) : Answers s r (.error e) s

/-- The database and the pollers on it, whose starts reach the service, and the service on its
own. -/
inductive Outside [Sha256] (s : World service) : Unit → World service → Prop
  | database {label : Option Run} {db : Dispatch.System} (step : Dispatch.Step s.db label db)
      (same : db.workflows = s.db.workflows) : Outside s () { s with db }
  | dispatched (i : Nat) {request : RunDispatchRequest} {rest : List RunDispatchRequest}
      (here : s.db.pollers i = .dispatching (request :: rest)) {workflowId : String}
      (named : workflowIdForRun request.command.tenantId request.command.runId = .ok workflowId)
      {temporal : service.State}
      (starts : service.starts s.temporal workflowId request.command (.ok ()) temporal) :
      Outside s () { s.start workflowId request.command temporal with
        db := { s.db.put i (.started request rest) with
          workflows := s.db.workflows ++ [request.command] } }
  | dispatchLost (i : Nat) {request : RunDispatchRequest} {rest : List RunDispatchRequest}
      (here : s.db.pollers i = .dispatching (request :: rest)) {workflowId : String}
      (named : workflowIdForRun request.command.tenantId request.command.runId = .ok workflowId)
      {temporal : service.State} {e : Exc}
      (starts : service.starts s.temporal workflowId request.command (.error e) temporal) :
      Outside s () { s.start workflowId request.command temporal with
        db := s.db.put i (.dispatching rest) }
  | moved {workflowId : String} {temporal : service.State}
      (moves : service.moves s.temporal workflowId temporal) :
      Outside s () (s.move workflowId temporal)

def system [Sha256] (service : WorkflowService) :
    Base.System (World service) Unit Req Resp Exc (List ReconciliationFinding) where
  starts p := ∃ control scope limit, p = reconcileOnce control scope limit
  answers := Answers
  outside := Outside

/-! ## The rows a command is made of -/

/-- The input that the rows of a Run and its Goal give. -/
def Founded (db : Dispatch.System) (command : GoalRunInput) : Prop :=
  ∃ run goal, db.runs.get? run.runId = some run ∧ db.goals.get? goal.goalId = some goal ∧
    goal.tenantId = run.tenantId ∧ goal.goalId = run.goalId ∧
    command = commandFromRow run.tenantId.str run.goalId.str run.runId.str goal

/-- Every Run has its Goal. -/
def Homed (db : Dispatch.System) : Prop :=
  ∀ id run, db.runs.get? id = some run →
    ∃ goal, db.goals.get? run.goalId = some goal ∧ goal.tenantId = run.tenantId

/-- What commands leave of the rows: those there are keep what a command is made of. -/
structure Stays (db db' : Dispatch.System) : Prop where
  runs : ∀ id run, db.runs.get? id = some run → ∃ run', db'.runs.get? id = some run' ∧
    run'.tenantId = run.tenantId ∧ run'.goalId = run.goalId ∧ run'.runId = run.runId
  goals : ∀ id goal, db.goals.get? id = some goal → ∃ goal', db'.goals.get? id = some goal' ∧
    goal'.tenantId = goal.tenantId ∧ goal'.goalId = goal.goalId ∧
    goal'.deadline = goal.deadline ∧ goal'.riskTier = goal.riskTier

variable {db db' : Dispatch.System}

theorem stays_of_tables (runs : db'.runs = db.runs) (goals : db'.goals = db.goals) :
    Stays db db' := by
  constructor
  · intro id run there
    exact ⟨run, runs ▸ there, rfl, rfl, rfl⟩
  · intro id goal there
    exact ⟨goal, goals ▸ there, rfl, rfl, rfl, rfl⟩

/-- A Goal is written where none stands, or over one with the same fields. -/
theorem stays_setGoal {goal : GoalContract}
    (alike : ∀ old, db.goals.get? goal.goalId = some old → goal.tenantId = old.tenantId ∧
      goal.goalId = old.goalId ∧ goal.deadline = old.deadline ∧ goal.riskTier = old.riskTier) :
    Stays db { db with goals := db.goals.set goal.goalId goal } := by
  constructor
  · intro id run there
    exact ⟨run, there, rfl, rfl, rfl⟩
  · intro id old there
    by_cases same : id = goal.goalId
    · subst same
      exact ⟨goal, Dict.get?_set_self .., alike old there⟩
    · exact ⟨old, (Dict.get?_set_ne _ _ same).trans there, rfl, rfl, rfl, rfl⟩

theorem stays_setRun {run : Run}
    (alike : ∀ old, db.runs.get? run.runId = some old → run.tenantId = old.tenantId ∧
      run.goalId = old.goalId ∧ run.runId = old.runId) :
    Stays db { db with runs := db.runs.set run.runId run } := by
  constructor
  · intro id old there
    by_cases same : id = run.runId
    · subst same
      exact ⟨run, Dict.get?_set_self .., alike old there⟩
    · exact ⟨old, (Dict.get?_set_ne _ _ same).trans there, rfl, rfl, rfl⟩
  · intro id goal there
    exact ⟨goal, there, rfl, rfl, rfl, rfl⟩

/-- Every step of the database keeps what a command is made of. -/
theorem stays_of_step [Sha256] {label : Option Run} (step : Dispatch.Step db label db') :
    Stays db db' := by
  cases step with
  | createGoal goal absent => exact stays_setGoal fun old there => nomatch absent.symm.trans there
  | saveGoal found moved =>
    have fields := (GoalContract.transitionTo_ok moved).2
    refine stays_setGoal fun old there => ?_
    rw [congrArg (·.goalId) fields] at there
    cases found.symm.trans there
    exact ⟨congrArg (·.tenantId) fields, congrArg (·.goalId) fields,
      congrArg (·.deadline) fields, congrArg (·.riskTier) fields⟩
  | requestRun _ _ _ absent =>
    have stored : Stays db { db with runs := _ } :=
      stays_setRun fun old there => nomatch absent.symm.trans there
    exact ⟨stored.runs, stored.goals⟩
  | saveRun found saves =>
    refine stays_setRun fun old there => ?_
    rw [saves.spec.1] at there
    cases found.symm.trans there
    exact ⟨saves.stays.1, saves.stays.2.1, saves.spec.1⟩
  | otherEvent | select | load | skip | commitListing | startWorkflow | startFails
  | markDispatched | polled | crash => exact stays_of_tables rfl rfl

theorem Stays.founded (stays : Stays db db') {command : GoalRunInput}
    (founded : Founded db command) : Founded db' command := by
  obtain ⟨run, goal, there, home, own, mine, rfl⟩ := founded
  obtain ⟨run', there', tenant, owner, key⟩ := stays.runs _ _ there
  obtain ⟨goal', home', tenant', key', deadline, riskTier⟩ := stays.goals _ _ home
  refine ⟨run', goal', key ▸ there', key' ▸ home', ?_, ?_, ?_⟩
  · rw [tenant', tenant, own]
  · rw [key', owner, mine]
  · simp only [commandFromRow, tenant, owner, key, deadline, riskTier]

theorem Stays.home (stays : Stays db db') {run : Run}
    (home : ∃ goal, db.goals.get? run.goalId = some goal ∧ goal.tenantId = run.tenantId) :
    ∃ goal, db'.goals.get? run.goalId = some goal ∧ goal.tenantId = run.tenantId := by
  obtain ⟨goal, there, own⟩ := home
  obtain ⟨goal', there', tenant, _⟩ := stays.goals _ _ there
  exact ⟨goal', there', tenant.trans own⟩

theorem homed_setRun {run : Run}
    (home : ∃ goal, db.goals.get? run.goalId = some goal ∧ goal.tenantId = run.tenantId)
    (homed : Homed db) : Homed { db with runs := db.runs.set run.runId run } := by
  intro id other there
  by_cases same : id = run.runId
  · subst same
    rw [Dict.get?_set_self] at there
    cases there
    exact home
  · rw [Dict.get?_set_ne _ _ same] at there
    exact homed id other there

theorem homed_of_step [Sha256] {label : Option Run} (step : Dispatch.Step db label db')
    (homed : Homed db) : Homed db' := by
  have stays := stays_of_step step
  cases step with
  | requestRun home own made absent =>
    obtain ⟨_, goal, tenant⟩ := App.requestedRun_ok made
    exact homed_setRun ⟨_, goal ▸ home, own.trans tenant.symm⟩ homed
  | saveRun found saves =>
    refine homed_setRun ?_ homed
    rw [saves.stays.1, saves.stays.2.1]
    exact homed _ _ found
  | createGoal | saveGoal | otherEvent | select | load | skip | commitListing | startWorkflow
  | startFails | markDispatched | polled | crash =>
    exact fun id run there => stays.home (homed id run there)

/-- What a lookup makes of a row is made of the Run and the Goal it found. -/
theorem founded_of_load (kept : Kept db) {eventId tenantId runId : String}
    {request : RunDispatchRequest}
    (loaded : db.loadRequest eventId tenantId runId = some request) :
    Founded db request.command := by
  unfold System.loadRequest at loaded
  split at loaded
  · cases loaded
  · rename_i run goal found
    split at loaded
    · cases loaded
    · cases loaded
      simp only [System.selectRun, Option.bind_eq_bind, Option.bind_eq_some_iff, Option.pure_def,
        Option.some.injEq, Prod.mk.injEq] at found
      obtain ⟨_, first, _, second, rfl, rfl⟩ := found
      have mine := List.find?_some first
      have own := List.find?_some second
      simp only [Bool.and_eq_true, decide_eq_true_eq] at mine own
      obtain ⟨id, there⟩ := (Dict.mem_values _ _).mp (List.mem_of_find?_eq_some first)
      obtain ⟨key, home⟩ := (Dict.mem_values _ _).mp (List.mem_of_find?_eq_some second)
      refine ⟨_, _, ?_, ?_, own.1, own.2, by rw [mine.1, mine.2]⟩
      · rwa [kept.runKeys id _ there]
      · rwa [kept.goalKeys key _ home]

/-- The dispatch requests a poller holds. -/
def requestsOf : Poller → List RunDispatchRequest
  | .idle => []
  | .listing _ requests _ => requests
  | .dispatching requests => requests
  | .started request rest => request :: rest

/-- Every request of a poller is for a Run that is there. -/
def Asks (db : Dispatch.System) : Prop :=
  ∀ i, ∀ request ∈ requestsOf (db.pollers i), Founded db request.command

theorem asks_put (stays : Stays db db') (asks : Asks db) (i : Nat) {poller : Poller}
    (pollers : db'.pollers = Function.update db.pollers i poller)
    (mine : ∀ request ∈ requestsOf poller, Founded db' request.command) : Asks db' := by
  intro j request held
  rw [pollers] at held
  by_cases same : j = i
  · subst same
    rw [Function.update_self] at held
    exact mine request held
  · rw [Function.update_of_ne same] at held
    exact stays.founded (asks j request held)

theorem asks_of_step [Sha256] {label : Option Run} (step : Dispatch.Step db label db')
    (kept : Kept db) (asks : Asks db) : Asks db' := by
  have stays := stays_of_step step
  cases step with
  | createGoal | saveGoal | requestRun | saveRun | otherEvent =>
    exact fun j request held => stays.founded (asks j request held)
  | select i | polled i | crash i => exact asks_put stays asks i rfl (by simp [requestsOf])
  | load i here loaded =>
    refine asks_put stays asks i rfl fun request held => stays.founded ?_
    rcases List.mem_append.mp held with before | new
    · exact asks i request (here ▸ before)
    · rw [List.mem_singleton.mp new]
      exact founded_of_load kept loaded
  | skip i here | commitListing i _ here =>
    exact asks_put stays asks i rfl fun request held => stays.founded (asks i request (here ▸ held))
  | startWorkflow i here =>
    exact asks_put stays asks i rfl fun request held => stays.founded (asks i request (here ▸ held))
  | startFails i here =>
    refine asks_put stays asks i rfl fun request held => stays.founded (asks i request ?_)
    rw [here]
    exact List.mem_cons_of_mem _ held
  | markDispatched i _ here =>
    refine asks_put stays asks i rfl fun request held => stays.founded (asks i request ?_)
    rw [here]
    exact List.mem_cons_of_mem _ held

/-- What holds of the database in every interleaving of commands and pollers. -/
structure Sourced (db : Dispatch.System) : Prop extends Kept db where
  homed : Homed db
  asks : Asks db

theorem Sourced.step [Sha256] {label : Option Run} (sourced : Sourced db)
    (step : Dispatch.Step db label db') : Sourced db' :=
  ⟨step.kept sourced.toKept, homed_of_step step sourced.homed,
    asks_of_step step sourced.toKept sourced.asks⟩

theorem sourced_of_reach [Sha256] {ok : Run → Prop} (reach : Dispatch.Reach ok db) :
    Sourced db := by
  induction reach with
  | start =>
    refine ⟨kept_start, ?_, ?_⟩
    · intro _ _ there
      cases there
    · intro i request held
      cases held
  | next _ step _ sourced => exact sourced.step step

/-! ## Workflow ids -/

def namespaces (tenantId : Uuid) : TenantNamespaces :=
  ⟨{ tenantId }, by simp only [NamespaceFields.check]; decide⟩

/-- The workflow id of a Run. -/
def runWorkflowId (tenantId runId : Uuid) : String := (namespaces tenantId).workflowId runId

theorem workflowIdForRun_str (tenantId runId : Uuid) :
    workflowIdForRun tenantId.str runId.str = .ok (runWorkflowId tenantId runId) := by
  have made : TenantNamespaces.make { tenantId } = .ok (namespaces tenantId) :=
    guarded_eq_ok.mpr ⟨(namespaces tenantId).valid, rfl⟩
  refine bind_eq_ok.mpr ⟨_, Uuid.parse_str tenantId, bind_eq_ok.mpr ⟨_, made, ?_⟩⟩
  exact bind_eq_ok.mpr ⟨_, Uuid.parse_str runId, rfl⟩

theorem runWorkflowId_injective {tenantId tenantId' runId runId' : Uuid}
    (same : runWorkflowId tenantId runId = runWorkflowId tenantId' runId') :
    tenantId = tenantId' ∧ runId = runId' := by
  have formed (t r : Uuid) : (runWorkflowId t r).toList =
      (namespaces t).form .workflowId ("-goal-run-".toList ++ r.str.toList) := by
    simp only [runWorkflowId, TenantNamespaces.workflowId, String.toList_append, List.append_assoc,
      TenantNamespaces.form, TenantNamespaces.front, TenantNamespaces.mark,
      TenantNamespaces.spelled, String.toList_empty, List.nil_append]
  have texts := congrArg String.toList same
  rw [formed, formed] at texts
  have tenant : tenantId = tenantId' := TenantNamespaces.form_tenant texts
  subst tenant
  have runs := List.append_cancel_left (List.append_cancel_left
    (List.append_cancel_left (List.append_cancel_left texts)))
  exact ⟨rfl, Uuid.str_injective (String.toList_inj.mp runs)⟩

def Named (workflowId : String) (command : GoalRunInput) : Prop :=
  workflowIdForRun command.tenantId command.runId = .ok workflowId

/-! ## What the service keeps -/

/-- The start is that of a Run that is there. -/
def StartOf (db : Dispatch.System) (entry : String × GoalRunInput) : Prop :=
  Founded db entry.2 ∧ Named entry.1 entry.2

/-- The input of an execution in the chain that was started with `first`. -/
def Continues (first command : GoalRunInput) : Prop := ∃ n, command = GoalRunInput.continued^[n] first

/-- Every workflow started so far is that of a Run, an execution goes back to a start, and of the
workflows started under one id all are removed but the one that is there. -/
structure Sound (s : World service) : Prop where
  sourced : Sourced s.db
  started : ∀ entry ∈ s.started, StartOf s.db entry
  stored : ∀ workflowId execution, service.latest s.temporal workflowId = some execution →
    ∃ first, (workflowId, first) ∈ s.started ∧ Continues first execution.command
  counted : ∀ workflowId, s.started.countP (fun entry => entry.1 = workflowId) =
    s.removed.count workflowId + (service.latest s.temporal workflowId).isSome.toNat

variable {s s' : World service}

theorem Sound.withDb (sound : Sound s) {db : Dispatch.System} (stays : Stays s.db db)
    (sourced : Sourced db) : Sound { s with db } :=
  ⟨sourced, fun entry there => ⟨stays.founded (sound.started entry there).1,
    (sound.started entry there).2⟩, sound.stored, sound.counted⟩

/-- What a start leaves. -/
theorem start_cases (documented : service.Documented) {workflowId : String}
    {command : GoalRunInput} {answer : Except Exc Unit} {temporal : service.State}
    (starts : service.starts s.temporal workflowId command answer temporal) :
    (service.latest s.temporal workflowId = none ∧
      service.latest temporal workflowId = some { command } ∧
      (s.start workflowId command temporal).started = s.started ++ [(workflowId, command)]) ∨
    (service.latest temporal workflowId = service.latest s.temporal workflowId ∧
      (s.start workflowId command temporal).started = s.started) := by
  cases here : service.latest s.temporal workflowId with
  | none =>
    rcases documented.new starts here with made | ⟨still, _⟩
    · exact .inl ⟨rfl, made, by simp [World.start, here, made]⟩
    · exact .inr ⟨still, by simp [World.start, still]⟩
  | some execution =>
    have still := (documented.existing starts execution here).1
    exact .inr ⟨still, by simp [World.start, here]⟩

/-- A start for a Run that is there. -/
theorem Sound.start (documented : service.Documented) (sound : Sound s) {workflowId : String}
    {command : GoalRunInput} {answer : Except Exc Unit} {temporal : service.State}
    (founded : Founded s.db command) (named : Named workflowId command)
    (starts : service.starts s.temporal workflowId command answer temporal) :
    Sound (s.start workflowId command temporal) := by
  have others := documented.startOf starts
  rcases start_cases documented starts with ⟨absent, made, new⟩ | ⟨still, same⟩
  · refine ⟨sound.sourced, fun entry there => ?_, fun id execution there => ?_, fun id => ?_⟩
    · rw [new] at there
      rcases List.mem_append.mp there with old | added
      · exact sound.started entry old
      · rw [List.mem_singleton.mp added]
        exact ⟨founded, named⟩
    · rw [new]
      by_cases here : id = workflowId
      · subst here
        cases made.symm.trans there
        exact ⟨command, by simp, 0, rfl⟩
      · obtain ⟨first, old, chain⟩ := sound.stored id execution ((others id here).symm.trans there)
        exact ⟨first, List.mem_append_left _ old, chain⟩
    · have before := sound.counted id
      rw [new, List.countP_append, List.countP_singleton, before]
      by_cases here : id = workflowId
      · subst here
        simp [World.start, absent, made]
      · simp [World.start, others id here, Ne.symm here]
  · have latest (id : String) : service.latest temporal id = service.latest s.temporal id := by
      by_cases here : id = workflowId
      · rw [here, still]
      · exact others id here
    refine ⟨sound.sourced, ?_, ?_, ?_⟩
    · rw [same]
      exact sound.started
    · intro id execution there
      rw [same]
      exact sound.stored id execution ((latest id).symm.trans there)
    · intro id
      rw [same, sound.counted id, ← latest id]
      rfl

/-- What happens to a workflow keeps its chain until it is removed. -/
theorem Sound.move (documented : service.Documented) (sound : Sound s) {workflowId : String}
    {temporal : service.State} (moves : service.moves s.temporal workflowId temporal) :
    Sound (s.move workflowId temporal) := by
  have others := documented.moveOf moves
  have becomes := documented.becomes moves
  refine ⟨sound.sourced, sound.started, fun id execution there => ?_, fun id => ?_⟩
  · by_cases here : id = workflowId
    case neg => exact sound.stored id execution ((others id here).symm.trans there)
    subst here
    change service.latest temporal id = _ at there
    rw [there] at becomes
    generalize before : service.latest s.temporal id = old at becomes
    cases becomes with
    | @closed execution => exact sound.stored id execution before
    | continued =>
      obtain ⟨first, listed, n, chain⟩ := sound.stored id _ before
      exact ⟨first, listed, n + 1, by rw [Function.iterate_succ_apply', ← chain]⟩
  · have before := sound.counted id
    by_cases here : id = workflowId
    · subst here
      change s.started.countP _ = _
      rw [before]
      generalize now : service.latest temporal id = new at becomes
      generalize was : service.latest s.temporal id = old at becomes
      cases becomes with
      | closed => simp [World.move, now, was]
      | continued => simp [World.move, now, was]
      | removed => simp [World.move, now, was]
    · change s.started.countP _ = _
      rw [before, ← others id here]
      simp only [World.move]
      split
      · rw [List.count_append, List.count_singleton]
        simp [Ne.symm here]
      · rfl

/-! ## What a pass calls and reports -/

abbrev Call := Event Req Resp Exc

/-- A Run the pass has listed. -/
def Due (h : List Call) (item : ReconciliationRun) : Prop :=
  ∃ scope limit, ∃ items : List ReconciliationRun,
    (⟨.list scope limit, .ok items⟩ : Call) ∈ h ∧ item ∈ items

theorem Due.mono {h h' : List Call} (longer : h <+: h') {item : ReconciliationRun}
    (due : Due h item) : Due h' item := by
  obtain ⟨scope, limit, items, listed, there⟩ := due
  exact ⟨scope, limit, items, longer.subset listed, there⟩

/-- A call is made for a listed Run that is active, after its workflow was found missing. -/
def Made (h : List Call) : Req → Prop
  | .list .. => h = []
  | .describe _ => True
  | .start workflowId command _ => Named workflowId command ∧
      (∃ item, Due h item ∧ item.command = command ∧ item.databaseStatus ∈ activeStatuses) ∧
      (⟨.describe workflowId, .ok .notFound⟩ : Call) ∈ h

/-- The workflow is said to be running. -/
def Described.running : Described → Bool
  | .found (some .running) => true
  | _ => false

/-- What is said of a workflow that is there. -/
def Described.status : Described → String
  | .notFound => "not_found"
  | .found none => "unspecified"
  | .found (some status) => status.name

/-- What is reported of a Run: `saw` says what was observed of a workflow, `began` which workflow a
start was accepted for, and `failed` what an attempt to start one has raised. -/
inductive Outcome (saw : String → Described → Prop) (began : String → Prop)
    (failed : GoalRunInput → Exc → Prop) (item : ReconciliationRun) :
    Option ReconciliationFinding → Prop
  | settled (inactive : item.databaseStatus ∉ activeStatuses) {workflowId : String}
      (named : Named workflowId item.command) {described : Described}
      (seen : saw workflowId described) (rest : described.running = false) :
      Outcome saw began failed item none
  | stray (inactive : item.databaseStatus ∉ activeStatuses) {workflowId : String}
      (named : Named workflowId item.command) {described : Described}
      (seen : saw workflowId described) (running : described.running = true) :
      Outcome saw began failed item (some ⟨item.command.runId,
        "running_workflow_with_terminal_or_manual_run", false,
        "Temporal=" ++ described.status ++ "; DB=" ++ item.databaseStatus⟩)
  | underway (active : item.databaseStatus ∈ activeStatuses) {workflowId : String}
      (named : Named workflowId item.command) {described : Described}
      (seen : saw workflowId described) (running : described.running = true) :
      Outcome saw began failed item none
  | closed (active : item.databaseStatus ∈ activeStatuses) {workflowId : String}
      (named : Named workflowId item.command) {status : Option WorkflowExecutionStatus}
      (seen : saw workflowId (.found status))
      (ended : (Described.found status).running = false) :
      Outcome saw began failed item (some ⟨item.command.runId, "closed_workflow_with_active_run",
        false, "Temporal=" ++ (Described.found status).status ++ "; DB=" ++ item.databaseStatus⟩)
  | recovered (active : item.databaseStatus ∈ activeStatuses) {workflowId : String}
      (named : Named workflowId item.command) (seen : saw workflowId .notFound)
      (accepted : began workflowId) :
      Outcome saw began failed item (some ⟨item.command.runId, "missing_workflow", true,
        "fixed workflow ID started"⟩)
  | missing (active : item.databaseStatus ∈ activeStatuses) {workflowId : String}
      (named : Named workflowId item.command) (seen : saw workflowId .notFound) {e : Exc}
      (raised : failed item.command e) :
      Outcome saw began failed item (some ⟨item.command.runId, "missing_workflow", false, e.name⟩)

theorem Outcome.mono {saw saw' : String → Described → Prop} {began began' : String → Prop}
    {failed failed' : GoalRunInput → Exc → Prop}
    (seen : ∀ workflowId described, saw workflowId described → saw' workflowId described)
    (more : ∀ workflowId, began workflowId → began' workflowId)
    (fails : ∀ command e, failed command e → failed' command e) {item : ReconciliationRun}
    {report : Option ReconciliationFinding} (outcome : Outcome saw began failed item report) :
    Outcome saw' began' failed' item report := by
  cases outcome with
  | settled inactive named there rest => exact .settled inactive named (seen _ _ there) rest
  | stray inactive named there running => exact .stray inactive named (seen _ _ there) running
  | underway active named there running => exact .underway active named (seen _ _ there) running
  | closed active named there ended => exact .closed active named (seen _ _ there) ended
  | recovered active named there accepted =>
    exact .recovered active named (seen _ _ there) (more _ accepted)
  | missing active named there raised =>
    exact .missing active named (seen _ _ there) (fails _ _ raised)

/-- What the calls of the pass have shown of a workflow. -/
def Saw (h : List Call) (workflowId : String) (described : Described) : Prop :=
  (⟨.describe workflowId, .ok described⟩ : Call) ∈ h

/-- A start of the pass for this workflow was accepted. -/
def Began (h : List Call) (workflowId : String) : Prop :=
  ∃ command taskQueue, (⟨.start workflowId command taskQueue, .ok ()⟩ : Call) ∈ h

/-- A start of the pass with this input was answered by the exception, or its pool is bound to
other Runs. -/
def Failed (h : List Call) (command : GoalRunInput) (e : Exc) : Prop :=
  (∃ workflowId taskQueue, (⟨.start workflowId command taskQueue, .error e⟩ : Call) ∈ h) ∨
    ∃ message, e = .permissionError message

abbrev OutcomeOf (h : List Call) : ReconciliationRun → Option ReconciliationFinding → Prop :=
  Outcome (Saw h) (Began h) (Failed h)

theorem OutcomeOf.later {h h' : List Call} (longer : h <+: h') {item : ReconciliationRun}
    {report : Option ReconciliationFinding} (outcome : OutcomeOf h item report) :
    OutcomeOf h' item report := by
  refine outcome.mono (fun _ _ there => longer.subset there) ?_ ?_
  · rintro workflowId ⟨command, taskQueue, there⟩
    exact ⟨command, taskQueue, longer.subset there⟩
  · rintro command e (⟨workflowId, taskQueue, there⟩ | foreign)
    · exact .inl ⟨workflowId, taskQueue, longer.subset there⟩
    · exact .inr foreign

/-- What `observe` has found is in the history. -/
theorem observe_ensures (h : List Call) (workflowId : String) :
    Ensures Made (fun h' observed => h <+: h' ∧ ∃ described, Saw h' workflowId described ∧
      (observed.exists_ = false → described = .notFound) ∧
      (observed.exists_ = true → ∃ status, described = .found status) ∧
      observed.running = described.running ∧ observed.status = described.status) h
      (observe workflowId) := by
  have free : Made h (.describe workflowId) := trivial
  refine ensures_request_bind free fun described => ?_
  have last : Saw (h ++ [⟨.describe workflowId, .ok described⟩]) workflowId described :=
    List.mem_concat_self
  match described with
  | .notFound => exact ensures_ret ⟨List.prefix_append _ _, _, last, fun _ => rfl, nofun, rfl, rfl⟩
  | .found none =>
    exact ensures_ret ⟨List.prefix_append _ _, _, last, nofun, fun _ => ⟨_, rfl⟩, rfl, rfl⟩
  | .found (some status) =>
    refine ensures_ret ⟨List.prefix_append _ _, _, last, nofun, fun _ => ⟨_, rfl⟩, ?_, rfl⟩
    cases status <;> rfl

theorem start_conforms (control : RunWorkflowControl) {h : List Call} {item : ReconciliationRun}
    (due : Due h item) (active : item.databaseStatus ∈ activeStatuses) {workflowId : String}
    (named : Named workflowId item.command)
    (missing : (⟨.describe workflowId, .ok .notFound⟩ : Call) ∈ h) :
    Conforms Made (fun h' res => h <+: h' ∧ (∀ id, res = .ok id → Began h' workflowId) ∧
      ∀ e, res = .error e → Failed h' item.command e) h (control.start item.command) := by
  unfold RunWorkflowControl.start
  refine conforms_bind.mpr (conforms_ofExcept.mpr ?_)
  split
  · refine conforms_bind.mpr (conforms_ofExcept.mpr ?_)
    rw [show workflowIdForRun item.command.tenantId item.command.runId = .ok workflowId from named]
    refine conforms_bind.mpr (conforms_request.mpr ⟨?_, fun ans => ?_⟩)
    · exact ⟨named, ⟨item, due, rfl, active⟩, missing⟩
    · cases ans with
      | ok done =>
        exact ⟨List.prefix_append _ _,
          fun id same => ⟨item.command, control.taskQueue, List.mem_concat_self⟩, nofun⟩
      | error e =>
        refine ⟨List.prefix_append _ _, nofun, ?_⟩
        rintro _ ⟨⟩
        exact .inl ⟨workflowId, control.taskQueue, List.mem_concat_self⟩
  · rename_i e refused
    refine ⟨List.prefix_rfl, nofun, ?_⟩
    rintro _ ⟨⟩
    obtain ⟨_, raised⟩ := checks_error refused
    simp only [List.mem_cons, Prod.mk.injEq, List.not_mem_nil, or_false] at raised
    rcases raised with ⟨_, rfl⟩ | ⟨_, rfl⟩
    · exact .inr ⟨_, rfl⟩
    · exact .inr ⟨_, rfl⟩

theorem reconcileRun_ensures (control : RunWorkflowControl) {h : List Call}
    {item : ReconciliationRun} (due : Due h item) :
    Ensures Made (fun h' report => h <+: h' ∧ OutcomeOf h' item report) h
      (reconcileRun control item) := by
  refine ensures_bind (ensures_ofExcept (R := fun h' id => h' = h ∧ Named id item.command)
    fun id named => ⟨rfl, named⟩) ?_
  rintro h workflowId ⟨rfl, named⟩
  refine ensures_bind (observe_ensures h workflowId) ?_
  rintro h' observed ⟨longer, described, seen, absent, present, runs, status⟩
  have text : detail observed item =
      "Temporal=" ++ described.status ++ "; DB=" ++ item.databaseStatus := by
    rw [detail, status]
  refine ensures_ite (fun inactive => ?_) (fun active => ?_)
  · refine ensures_ite (fun running => ?_) (fun still => ?_)
    · rw [text]
      have running := runs ▸ (Bool.and_eq_true_iff.mp running).2
      exact ensures_ret ⟨longer, .stray inactive named seen running⟩
    · refine ensures_ret ⟨longer, .settled inactive named seen ?_⟩
      rw [← runs]
      cases there : observed.exists_ with
      | false =>
        rw [runs, absent there]
        rfl
      | true => simpa [there] using still
  have active := not_not.mp active
  refine ensures_ite (fun missing => ?_) (fun found => ?_)
  · rw [absent ((Bool.not_eq_true' _).mp missing)] at seen
    refine ensures_attempt_bind ((start_conforms control (due.mono longer) active named
      seen).mono (fun _ _ => id) ?_)
    rintro h'' res ⟨longer', done, failed⟩
    have whole := longer.trans longer'
    have seen' : Saw h'' workflowId .notFound := longer'.subset seen
    cases res with
    | ok id => exact ensures_ret ⟨whole, .recovered active named seen' (done id rfl)⟩
    | error e =>
      exact ensures_ite
        (fun _ => ensures_ret ⟨whole, .missing active named seen' (failed e rfl)⟩)
        (fun _ => ensures_raise)
  · rw [Bool.not_eq_true', Bool.not_eq_false] at found
    refine ensures_ite (fun ended => ?_) (fun running => ?_)
    · rw [text]
      obtain ⟨status', rfl⟩ := present found
      exact ensures_ret ⟨longer, .closed active named seen
        (runs ▸ (Bool.not_eq_true' _).mp ended)⟩
    · rw [Bool.not_eq_true', Bool.not_eq_false] at running
      exact ensures_ret ⟨longer, .underway active named seen (runs ▸ running)⟩

theorem reconcileRuns_ensures (control : RunWorkflowControl) {h : List Call}
    (findings : List ReconciliationFinding) {items : List ReconciliationRun}
    (due : ∀ item ∈ items, Due h item) :
    Ensures Made (fun h' result => h <+: h' ∧ ∃ reports,
      List.Forall₂ (OutcomeOf h') items reports ∧
        result = findings ++ reports.reduceOption) h (reconcileRuns control findings items) := by
  induction items generalizing h findings with
  | nil => exact ensures_ret ⟨List.prefix_rfl, [], .nil, by simp⟩
  | cons item rest ih =>
    refine ensures_bind (reconcileRun_ensures control (due item List.mem_cons_self)) ?_
    rintro h' report ⟨longer, outcome⟩
    refine (ih (findings ++ report.toList) fun other there =>
      (due other (List.mem_cons_of_mem _ there)).mono longer).mono ?_
    rintro h'' result ⟨longer', reports, outcomes, rfl⟩
    refine ⟨longer.trans longer', report :: reports,
      .cons (outcome.later longer') outcomes, ?_⟩
    cases report with
    | none => simp
    | some finding => simp

/-- A pass reports an outcome of each Run it has listed first. -/
theorem reconcileOnce_ensures (control : RunWorkflowControl) (scope : Option Uuid) (limit : Nat) :
    Ensures Made (fun h result => ∃ items, (⟨.list scope limit, .ok items⟩ : Call) ∈ h.head? ∧
      ∃ reports, List.Forall₂ (OutcomeOf h) items reports ∧
        result = reports.reduceOption) [] (reconcileOnce control scope limit) := by
  have first : Made [] (.list scope limit) := rfl
  refine ensures_request_bind first fun items => ?_
  have due : ∀ item ∈ items, Due [⟨.list scope limit, .ok items⟩] item := fun item there =>
    ⟨scope, limit, items, by simp, there⟩
  refine (reconcileRuns_ensures control [] due).mono ?_
  rintro h result ⟨⟨more, rfl⟩, reports, outcomes, rfl⟩
  exact ⟨items, rfl, reports, outcomes, rfl⟩

/-! ## Passes beside everything else -/

/-- What an answer tells of the world. -/
def Tells (s : World service) : Call → Prop
  | ⟨.list _ _, .ok items⟩ =>
    ∀ item : ReconciliationRun, item ∈ items → Founded s.db item.command
  | _ => True

theorem Stays.tells {s s' : World service} (stays : Stays s.db s'.db) {e : Call}
    (told : Tells s e) : Tells s' e := by
  match e with
  | ⟨.list _ _, .ok items⟩ => exact fun item there => stays.founded (told item there)
  | ⟨.list _ _, .error _⟩ | ⟨.describe _, _⟩ | ⟨.start _ _ _, _⟩ => trivial

theorem founded_of_listed {db : Dispatch.System} (sourced : Sourced db) {scope : Option Uuid}
    {limit : Nat} {items : List ReconciliationRun} (listed : Listed db scope limit items) :
    ∀ item ∈ items, Founded db item.command := by
  obtain ⟨rows, same, rfl⟩ := listed
  intro item there
  obtain ⟨⟨run, goal⟩, taken, rfl⟩ := List.mem_map.mp there
  have row := same.mem_iff.mp (List.mem_of_mem_take taken)
  simp only [joined, List.mem_flatMap, List.mem_filter, List.mem_map, Prod.mk.injEq,
    Bool.and_eq_true, decide_eq_true_eq] at row
  obtain ⟨_, ⟨stored, _⟩, _, ⟨home, own, mine⟩, rfl, rfl⟩ := row
  obtain ⟨id, there⟩ := (Dict.mem_values _ _).mp stored
  obtain ⟨key, found⟩ := (Dict.mem_values _ _).mp home
  refine ⟨_, _, ?_, ?_, own, mine, rfl⟩
  · rwa [sourced.runKeys id _ there]
  · rwa [sourced.goalKeys key _ found]

theorem held_of_dispatching {db : Dispatch.System} {i : Nat} {request : RunDispatchRequest}
    {rest : List RunDispatchRequest} (here : db.pollers i = .dispatching (request :: rest)) :
    request ∈ requestsOf (db.pollers i) := by
  rw [here]
  exact List.mem_cons_self

theorem Sound.outside [Sha256] (documented : service.Documented) {s s' : World service}
    (sound : Sound s) (moved : Outside s () s') : Sound s' ∧ Stays s.db s'.db := by
  cases moved with
  | database step same =>
    have stays := stays_of_step step
    exact ⟨sound.withDb stays (sound.sourced.step step), stays⟩
  | dispatched i here named starts =>
    have step := Dispatch.Step.startWorkflow i here
    have stays := stays_of_step step
    have founded := sound.sourced.asks i _ (held_of_dispatching here)
    have sound' := sound.start documented founded named starts
    exact ⟨sound'.withDb stays (sound.sourced.step step), stays⟩
  | dispatchLost i here named starts =>
    have step := Dispatch.Step.startFails i here
    have stays := stays_of_step step
    have founded := sound.sourced.asks i _ (held_of_dispatching here)
    have sound' := sound.start documented founded named starts
    exact ⟨sound'.withDb stays (sound.sourced.step step), stays⟩
  | moved moves => exact ⟨sound.move documented moves, stays_of_tables rfl rfl⟩

theorem founded_of_made {s : World service} {h : List Call} (told : ∀ e ∈ h, Tells s e)
    {workflowId taskQueue : String} {command : GoalRunInput}
    (made : Made h (.start workflowId command taskQueue)) : Founded s.db command := by
  obtain ⟨_, ⟨item, ⟨scope, limit, items, listed, there⟩, rfl, _⟩, _⟩ := made
  exact told _ listed item there

theorem relies [Sha256] (documented : service.Documented) :
    Pool.Rely (system service) Made Sound Tells where
  starts := by
    rintro _ ⟨control, scope, limit, rfl⟩
    exact (reconcileOnce_ensures control scope limit).conforms.mono (fun _ _ => id)
      fun _ _ _ => trivial
  answered := by
    intro s s' h r ans sound told made answered
    cases answered with
    | list listed => exact ⟨sound, founded_of_listed sound.sourced listed, fun _ => id⟩
    | describe => exact ⟨sound, trivial, fun _ => id⟩
    | start starts =>
      have sound' := sound.start documented (founded_of_made told made) made.1 starts
      exact ⟨sound', trivial, fun e => (stays_of_tables rfl rfl).tells⟩
    | raised r e => exact ⟨sound, by cases r <;> trivial, fun _ => id⟩
  outside := by
    intro s s' c sound moved
    obtain ⟨sound', stays⟩ := sound.outside documented moved
    exact ⟨sound', fun e => stays.tells⟩

/-- Steps of the passes, the database and the service. -/
abbrev Later [Sha256] (w w' : Pool (World service) Req Resp Exc (List ReconciliationFinding)) :
    Prop :=
  Pool.Steps (system service) (fun _ _ _ => True) w w'

/-- The pools reached from a database and a service without a workflow. -/
abbrev Reached [Sha256] (db : Dispatch.System) (temporal : service.State)
    (w : Pool (World service) Req Resp Exc (List ReconciliationFinding)) : Prop :=
  Later { shared := { db, temporal } } w

variable {temporal : service.State}
  {w w₁ w₂ : Pool (World service) Req Resp Exc (List ReconciliationFinding)}

theorem sound_of_reached [Sha256] (documented : service.Documented) {ok : Run → Prop}
    (past : Dispatch.Reach ok db)
    (empty : ∀ workflowId, service.latest temporal workflowId = none)
    (reach : Reached db temporal w) : Sound w.shared := by
  refine ((relies documented).reach ⟨sourced_of_reach past, ?_, ?_, ?_⟩ reach).1
  · intro entry there
    cases there
  · intro workflowId execution there
    cases (empty workflowId).symm.trans there
  · intro workflowId
    simp [empty workflowId]

/-- A start is that of a Run exactly when its workflow has the id of the Run. -/
theorem of_run_iff {s : World service} (sound : Sound s) {run : Run}
    (there : s.db.runs.get? run.runId = some run) {entry : String × GoalRunInput}
    (listed : entry ∈ s.started) :
    entry.2.runId = run.runId.str ↔ entry.1 = runWorkflowId run.tenantId run.runId := by
  obtain ⟨workflowId, command⟩ := entry
  obtain ⟨⟨other, goal, there', _, _, _, rfl⟩, named⟩ := sound.started _ listed
  have id : runWorkflowId other.tenantId other.runId = workflowId :=
    Except.ok.inj ((workflowIdForRun_str _ _).symm.trans named)
  subst id
  constructor
  · intro same
    have key : other.runId = run.runId := Uuid.str_injective same
    rw [key] at there'
    cases there.symm.trans there'
    rfl
  · intro same
    exact congrArg Uuid.str (runWorkflowId_injective same).2

/-- In every interleaving of passes, pollers and commands, with starts that get lost and workflows
that continue as new, close and are removed, each workflow was started with the input that the rows
of a Run and its Goal give under the id of that Run, and its latest execution has that input or
continues it; and of the workflows started for one Run all are removed but the one under its id. -/
theorem workflows_of_runs [Sha256] (documented : service.Documented) {ok : Run → Prop}
    (past : Dispatch.Reach ok db)
    (empty : ∀ workflowId, service.latest temporal workflowId = none)
    (reach : Reached db temporal w) :
    (∀ workflowId execution, service.latest w.shared.temporal workflowId = some execution →
      ∃ first, (workflowId, first) ∈ w.shared.started ∧ Continues first execution.command) ∧
    (∀ entry ∈ w.shared.started, ∃ run goal,
      w.shared.db.runs.get? run.runId = some run ∧
      w.shared.db.goals.get? run.goalId = some goal ∧ goal.tenantId = run.tenantId ∧
      entry = (runWorkflowId run.tenantId run.runId,
        commandFromRow run.tenantId.str run.goalId.str run.runId.str goal)) ∧
    ∀ run, w.shared.db.runs.get? run.runId = some run →
      w.shared.started.countP (fun entry => entry.2.runId = run.runId.str) =
        w.shared.removed.count (runWorkflowId run.tenantId run.runId) +
          (service.latest w.shared.temporal
            (runWorkflowId run.tenantId run.runId)).isSome.toNat := by
  have sound := sound_of_reached documented past empty reach
  refine ⟨sound.stored, fun entry there => ?_, fun run there => ?_⟩
  · obtain ⟨workflowId, command⟩ := entry
    obtain ⟨⟨run, goal, found, home, own, mine, rfl⟩, named⟩ := sound.started _ there
    have id : workflowId = runWorkflowId run.tenantId run.runId :=
      Except.ok.inj (named.symm.trans (workflowIdForRun_str _ _))
    exact ⟨run, goal, found, mine ▸ home, own, by rw [id]⟩
  · rw [← sound.counted]
    refine List.countP_congr fun entry listed => ?_
    simp only [decide_eq_true_eq]
    exact of_run_iff sound there listed

/-- There is a moment between the two pools at which this is true. -/
def Between [Sha256] (w₁ w₂ : Pool (World service) Req Resp Exc (List ReconciliationFinding))
    (holds : World service → Prop) : Prop :=
  ∃ u, Later w₁ u ∧ Later u w₂ ∧ holds u.shared

/-- At a moment of the pass the workflow was running. -/
def Ran [Sha256] (w₁ w₂ : Pool (World service) Req Resp Exc (List ReconciliationFinding))
    (workflowId : String) : Prop :=
  Between w₁ w₂ fun s => ∃ execution,
    service.latest s.temporal workflowId = some execution ∧ execution.status = .running

namespace Sample
open Dispatch.Sample (one reach_one)
open RunLimit.Sample (requested)

attribute [local instance] AuditSample.sha256

abbrev Executions := Dict String WorkflowExecution

/-- A start that takes effect where it can. -/
def started (t : Executions) (workflowId : String) (command : GoalRunInput) :
    Except Exc Unit × Executions :=
  match t.get? workflowId with
  | none => (.ok (), t.set workflowId { command })
  | some execution =>
    if execution.status = .running then (.ok (), t)
    else (.error ⟨"WorkflowAlreadyStartedError", [.exception],
      "Workflow execution already started"⟩, t)

def put (t : Executions) (workflowId : String) : Option WorkflowExecution → Executions
  | some execution => t.set workflowId execution
  | none => t.filterKeys (· ≠ workflowId)

theorem get?_put (t : Executions) (workflowId : String) (new : Option WorkflowExecution)
    (other : String) :
    (put t workflowId new).get? other = if other = workflowId then new else t.get? other := by
  cases new with
  | some execution => rw [put, Dict.get?_set]
  | none =>
    rw [put, Dict.get?_filterKeys]
    by_cases same : other = workflowId
    · simp [same]
    · simp [same]

/-- A service that behaves as Temporal does. -/
def temporalService : WorkflowService where
  State := Executions
  latest := Dict.get?
  describes t workflowId described := described = .of (t.get? workflowId)
  starts t workflowId command answer t' := (answer, t') = started t workflowId command ∨
    (∃ e, answer = .error e) ∧ (t' = t ∨ t' = (started t workflowId command).2)
  moves t workflowId t' := ∃ new, Becomes (t.get? workflowId) new ∧ t' = put t workflowId new

theorem started_cases (t : Executions) (workflowId : String) (command : GoalRunInput) :
    (t.get? workflowId = none ∧
      started t workflowId command = (.ok (), t.set workflowId { command })) ∨
    ∃ execution, t.get? workflowId = some execution ∧ (started t workflowId command).2 = t ∧
      ((started t workflowId command).1 = .ok () → execution.status = .running) := by
  unfold started
  split
  · rename_i absent
    exact .inl ⟨absent, rfl⟩
  · rename_i execution found
    refine .inr ⟨execution, found, ?_⟩
    split
    · rename_i running
      exact ⟨rfl, fun _ => running⟩
    · exact ⟨rfl, fun accepted => by cases accepted⟩

theorem temporalService_documented : temporalService.Documented where
  described said := said
  new := by
    intro t workflowId command answer t' starts absent
    obtain ⟨_, same⟩ | ⟨execution, found, _⟩ := started_cases t workflowId command
    case inr => cases absent.symm.trans found
    have made : (t.set workflowId { command }).get? workflowId = some { command } :=
      Dict.get?_set_self _ _ _
    rcases starts with taken | ⟨⟨e, rfl⟩, rfl | rfl⟩
    · rw [same] at taken
      cases taken
      exact .inl made
    · exact .inr ⟨absent, nofun⟩
    · rw [same]
      exact .inl made
  existing := by
    intro t workflowId command answer t' starts execution found
    obtain ⟨absent, _⟩ | ⟨other, found', same, runs⟩ := started_cases t workflowId command
    · cases absent.symm.trans found
    cases found.symm.trans found'
    rcases starts with taken | ⟨⟨e, rfl⟩, rfl | rfl⟩
    · have answered := congrArg Prod.fst taken
      have state := congrArg Prod.snd taken
      dsimp only at answered state
      rw [state, same]
      exact ⟨found, fun ok => runs (answered ▸ ok)⟩
    · exact ⟨found, nofun⟩
    · rw [same]
      exact ⟨found, nofun⟩
  startOf := by
    intro t workflowId command answer t' starts other differ
    have same : (started t workflowId command).2.get? other = t.get? other := by
      obtain ⟨_, same⟩ | ⟨_, _, same, _⟩ := started_cases t workflowId command
      · rw [same]
        exact Dict.get?_set_ne _ _ differ
      · rw [same]
    rcases starts with taken | ⟨_, rfl | rfl⟩
    · have state := congrArg Prod.snd taken
      dsimp only at state
      change t'.get? other = _
      rw [state]
      exact same
    · rfl
    · exact same
  becomes := by
    rintro t workflowId _ ⟨new, becomes, rfl⟩
    have now : temporalService.latest (put t workflowId new) workflowId = new :=
      (get?_put t workflowId new workflowId).trans (if_pos rfl)
    rw [now]
    exact becomes
  moveOf := by
    rintro t workflowId _ ⟨new, _, rfl⟩ other differ
    exact (get?_put t workflowId new other).trans (if_neg differ)

/-- Ports that work. -/
def handle (s : World temporalService) : (r : Req) → Except Exc (Resp r) × World temporalService
  | .list scope limit => (.ok (((joined s.db scope).take limit).map reconciliationRun), s)
  | .describe workflowId => (.ok (.of (temporalService.latest s.temporal workflowId)), s)
  | .start workflowId command _ => ((started s.temporal workflowId command).1,
      s.start workflowId command (started s.temporal workflowId command).2)

theorem handled (s : World temporalService) (r : Req) : Answers s r (handle s r).1 (handle s r).2 := by
  cases r with
  | list scope limit => exact .list ⟨_, .refl _, rfl⟩
  | describe workflowId => exact .describe rfl
  | start workflowId command taskQueue => exact .start (.inl rfl)

def empty : temporalService.State := (.empty : Executions)

/-- A pass over a Run whose request was marked published without a workflow. -/
def begun : Pool (World temporalService) Req Resp Exc (List ReconciliationFinding) where
  shared := { db := one 32, temporal := empty }
  threads := [⟨reconcileOnce { taskQueue := "runs" } none 10, [], true⟩]

def listing : Pool (World temporalService) Req Resp Exc (List ReconciliationFinding) :=
  begun.advance handle 0 1

def finished : Pool (World temporalService) Req Resp Exc (List ReconciliationFinding) :=
  listing.advance handle 0 2

def returned (w : Pool (World temporalService) Req Resp Exc (List ReconciliationFinding)) :
    Option (List ReconciliationFinding) := do
  match (← w.threads[0]?).prog with
  | .ret findings => some findings
  | _ => none

theorem returned_spec {w : Pool (World temporalService) Req Resp Exc (List ReconciliationFinding)}
    {findings : List ReconciliationFinding} (done : returned w = some findings) :
    ∃ t, w.threads[0]? = some t ∧ t.prog = .ret findings := by
  obtain ⟨t, found, done⟩ := Option.bind_eq_some_iff.mp done
  refine ⟨t, found, ?_⟩
  split at done
  · rename_i prog
    cases done
    exact prog
  · cases done

theorem begun_reached : Reached (one 32) empty begun :=
  Pool.Steps.init.next (.start ⟨_, _, _, rfl⟩) trivial

theorem listing_moved : Pool.Move (system temporalService) begun (.call 0 ⟨.list none 10,
    .ok (((joined (one 32) none).take 10).map reconciliationRun)⟩) listing :=
  @Pool.Move.call _ _ _ _ _ _ (system temporalService) begun 0 _ (.list none 10) _ _ _ rfl rfl rfl
    (handled begun.shared (.list none 10))

theorem finished_later : Later listing finished :=
  Pool.Steps.init.advance handled 0 (fun _ _ _ => trivial) 2

/-- The workflow of the Run continues as new. -/
def resumed : Pool (World temporalService) Req Resp Exc (List ReconciliationFinding) :=
  match Dict.get? finished.shared.temporal (runWorkflowId 1 32) with
  | some execution => { finished with
      shared := finished.shared.move (runWorkflowId 1 32) (put finished.shared.temporal
        (runWorkflowId 1 32) (some { command := execution.command.continued })) }
  | none => finished

theorem finished_runs : (Dict.get? finished.shared.temporal (runWorkflowId 1 32)).all (fun execution =>
    execution.status = .running &&
      execution.command.continuationCount < execution.command.maxContinuations) = true := by
  decide +kernel

theorem resumed_later : Later finished resumed := by
  unfold resumed
  split
  · rename_i execution found
    have runs := finished_runs
    rw [found] at runs
    simp only [Option.all_some, Bool.and_eq_true, decide_eq_true_eq] at runs
    refine Pool.Steps.init.next (.outside (.moved ⟨some _, ?_, rfl⟩)) trivial
    rw [found]
    exact .continued runs.1 runs.2
  · exact .init

theorem resumed_facts : resumed.shared.started.map (·.2.runId) = [(32 : Uuid).str] ∧
    (temporalService.latest resumed.shared.temporal (runWorkflowId 1 32)).map
      (·.command.continuationCount) = some 1 := by
  decide +kernel

theorem workflows_of_one :
    ∃ w : Pool (World temporalService) Req Resp Exc (List ReconciliationFinding),
      Reached (one 32) empty w ∧ w.shared.started.map (·.2.runId) = [(32 : Uuid).str] ∧
      (temporalService.latest w.shared.temporal (runWorkflowId 1 32)).map
        (·.command.continuationCount) = some 1 ∧
      ∀ workflowId execution,
        temporalService.latest w.shared.temporal workflowId = some execution →
          ∃ first, (workflowId, first) ∈ w.shared.started ∧ Continues first execution.command := by
  have reach : Reached (one 32) empty resumed :=
    ((begun_reached.next listing_moved trivial).trans finished_later).trans resumed_later
  exact ⟨resumed, reach, resumed_facts.1, resumed_facts.2,
    (workflows_of_runs temporalService_documented (@reach_one (fun _ => True) 32 trivial)
      (fun _ => rfl) reach).1⟩

end Sample

end Reconciliation

end Autonoesis
