import Autonoesis.Persistence.AuditLog
import Autonoesis.Persistence.RunLimit
import Autonoesis.Worker.Workflow

/-!
# Dispatch of requested Runs

`request_run` writes a Run and an outbox row in one transaction; pollers read the unpublished
rows of its schema, look the Run up by the object id of the row, start its workflow and mark
the row published. A row whose Run is not found or has ended is marked without a workflow.
Commits, polls and crashes are interleaved in any order. `requests` records which Run the
request behind a row has created.
-/

namespace Autonoesis.Dispatch
open Base

structure RunDispatchRequest where
  eventId : String
  command : GoalRunInput

/-- Where a call of `poll_once` stands: inside the transaction of `list_pending`, with the rows
it still has to load and those it has found nothing for; before the start of a workflow; or
before the row of a started one is marked. -/
inductive Poller where
  | idle
  | listing (rows : List OutboxRow) (requests : List RunDispatchRequest) (skipped : List Uuid)
  | dispatching (requests : List RunDispatchRequest)
  | started (request : RunDispatchRequest) (rest : List RunDispatchRequest)

structure System where
  goals : Dict Uuid GoalContract := .empty
  runs : Dict Uuid Run := .empty
  outbox : List OutboxRow := []
  requests : List (Uuid × Run) := []
  workflows : List GoalRunInput := []
  pollers : Nat → Poller := fun _ => .idle

def runRequested : String := "autonoesis.run.requested.v1"

/-- Whether a Run has ended, as `_load_request` asks. -/
def ended (run : Run) : Bool :=
  decide (run.status.value ∈ ["succeeded", "failed", "cancelled"])

/-- `_command_from_row`. -/
def commandFromRow (tenantId goalId runId : String) (contract : GoalContract) : GoalRunInput where
  tenantId := tenantId
  goalId := goalId
  runId := runId
  deadline := contract.deadline
  requiresApproval := decide (contract.riskTier.value ∈ ["high", "critical"])
  riskTier := contract.riskTier.value

namespace System

/-- The Run with its Goal that `_load_request` selects. -/
def selectRun (s : System) (tenantId runId : String) : Option (Run × GoalContract) := do
  let run ← s.runs.values.find? fun run => run.tenantId.str = tenantId && run.runId.str = runId
  let goal ← s.goals.values.find? fun goal =>
    goal.tenantId = run.tenantId && goal.goalId = run.goalId
  return (run, goal)

/-- `_load_request`. -/
def loadRequest (s : System) (eventId tenantId runId : String) : Option RunDispatchRequest :=
  match s.selectRun tenantId runId with
  | none => none
  | some (run, goal) =>
    if ended run then none
    else some ⟨eventId, commandFromRow tenantId run.goalId.str runId goal⟩

/-- The rows `list_pending` selects. -/
def pending (s : System) (scope : Option Uuid) (limit : Nat) : List OutboxRow :=
  ((s.outbox.filter fun row => row.schema = runRequested && row.publishedAt.isNone &&
    scope.all (· = row.tenantId)).insertionSort fun row row' => row.createdAt ≤ row'.createdAt).take
      limit

/-- The rows that match are marked published. -/
def publish (s : System) (matching : OutboxRow → Bool) (now : Instant) : System :=
  { s with outbox := s.outbox.map fun row =>
    if matching row then { row with publishedAt := some now } else row }

attribute [local instance] Uuid.lawfulBEq in
/-- The updates of `list_pending`, at its commit. -/
def publishSkipped (s : System) (skipped : List Uuid) (now : Instant) : System :=
  s.publish (fun row => row.id ∈ skipped) now

/-- `mark_dispatched`. -/
def markDispatched (s : System) (eventId : String) (now : Instant) : System :=
  s.publish (fun row => row.id.str = eventId && row.publishedAt.isNone) now

def put (s : System) (i : Nat) (poller : Poller) : System :=
  { s with pollers := Function.update s.pollers i poller }

end System

/-- The commits of the commands and the statements of the pollers. The label is the Run that a
`request_run` creates. -/
inductive Step [Sha256] (s : System) : Option Run → System → Prop
  | createGoal (goal : GoalContract) (absent : s.goals.get? goal.goalId = none) :
      Step s none { s with goals := s.goals.set goal.goalId goal }
  | saveGoal {goal updated : GoalContract} {target : GoalStatus} {actorId : Uuid}
      {reason : String} {at_ : Instant} (found : s.goals.get? goal.goalId = some goal)
      (moved : goal.transitionTo target actorId reason at_ = .ok updated) :
      Step s none { s with goals := s.goals.set updated.goalId updated }
  | requestRun {ports : Ports} {env : Env} {ctx : CommandContext} {goal current : GoalContract}
      {counted : List Run} {run : Run} {eventId rowId : Uuid} {sequence : Int} {digest : String}
      {event : AuditEvent} (home : s.goals.get? goal.goalId = some current)
      (own : current.tenantId = ctx.tenantId)
      (made : App.requestedRun ports env ctx goal counted = .ok run)
      (absent : s.runs.get? run.runId = none)
      (logged : (ctx.audit "run.requested" run.auditItem eventId).chained sequence digest
        run.createdAt = .ok event)
      (fresh : ∀ row ∈ s.outbox, row.id ≠ rowId) :
      Step s (some run) { s with
        runs := s.runs.set run.runId run
        outbox := s.outbox ++ [event.outboxRow rowId run.createdAt]
        requests := s.requests ++ [(rowId, run)] }
  | saveRun {run updated : Run} (found : s.runs.get? run.runId = some run)
      (saves : run.Saves updated) :
      Step s none { s with runs := s.runs.set updated.runId updated }
  | otherEvent (row : OutboxRow) (other : row.schema ≠ runRequested)
      (fresh : ∀ old ∈ s.outbox, old.id ≠ row.id) :
      Step s none { s with outbox := s.outbox ++ [row] }
  | select (i : Nat) (scope : Option Uuid) (limit : Nat) (here : s.pollers i = .idle) :
      Step s none (s.put i (.listing (s.pending scope limit) [] []))
  | load (i : Nat) {row : OutboxRow} {rows : List OutboxRow}
      {requests : List RunDispatchRequest} {skipped : List Uuid} {request : RunDispatchRequest}
      (here : s.pollers i = .listing (row :: rows) requests skipped)
      (loaded : s.loadRequest row.id.str row.tenantId.str row.payload.objectId = some request) :
      Step s none (s.put i (.listing rows (requests ++ [request]) skipped))
  | skip (i : Nat) {row : OutboxRow} {rows : List OutboxRow}
      {requests : List RunDispatchRequest} {skipped : List Uuid}
      (here : s.pollers i = .listing (row :: rows) requests skipped)
      (missing : s.loadRequest row.id.str row.tenantId.str row.payload.objectId = none) :
      Step s none (s.put i (.listing rows requests (row.id :: skipped)))
  | commitListing (i : Nat) {requests : List RunDispatchRequest} {skipped : List Uuid}
      (now : Instant) (here : s.pollers i = .listing [] requests skipped) :
      Step s none ((s.publishSkipped skipped now).put i (.dispatching requests))
  | startWorkflow (i : Nat) {request : RunDispatchRequest} {rest : List RunDispatchRequest}
      (here : s.pollers i = .dispatching (request :: rest)) :
      Step s none { s.put i (.started request rest) with
        workflows := s.workflows ++ [request.command] }
  | startFails (i : Nat) {request : RunDispatchRequest} {rest : List RunDispatchRequest}
      (here : s.pollers i = .dispatching (request :: rest)) :
      Step s none (s.put i (.dispatching rest))
  | markDispatched (i : Nat) {request : RunDispatchRequest} {rest : List RunDispatchRequest}
      (now : Instant) (here : s.pollers i = .started request rest) :
      Step s none ((s.markDispatched request.eventId now).put i (.dispatching rest))
  | polled (i : Nat) (here : s.pollers i = .dispatching []) : Step s none (s.put i .idle)
  | crash (i : Nat) : Step s none (s.put i .idle)

/-- The systems reached from the empty one when each new Run meets `ok`. -/
inductive Reach [Sha256] (ok : Run → Prop) : System → Prop
  | start : Reach ok {}
  | next {s s' : System} {label : Option Run} (past : Reach ok s) (step : Step s label s')
      (legal : ∀ run, label = some run → ok run) : Reach ok s'

/-- A command that runs exactly this Run. -/
def For (command : GoalRunInput) (run : Run) : Prop :=
  command.tenantId = run.tenantId.str ∧ command.goalId = run.goalId.str ∧
    command.runId = run.runId.str

/-- The row is decoded to a request for exactly this Run. -/
def DecodesTo (s : System) (row : OutboxRow) (run : Run) : Prop :=
  ∃ request, s.loadRequest row.id.str row.tenantId.str row.payload.objectId = some request ∧
    request.eventId = row.id.str ∧ For request.command run

/-- A workflow of the Run was started, or the Run has ended. -/
def Served (s : System) (run : Run) : Prop :=
  (∃ command ∈ s.workflows, For command run) ∨
    ∃ current, s.runs.get? run.runId = some current ∧ ended current = true

/-- A row is marked published only when the Run of its request was served. -/
def PublishedServed (s : System) : Prop :=
  ∀ rowId run, (rowId, run) ∈ s.requests → ∀ row ∈ s.outbox, row.id = rowId →
    row.publishedAt.isSome = true → Served s run

/-- Every row of a request whose Run has not ended is decoded to that Run. -/
def Decoded (s : System) : Prop :=
  ∀ rowId run, (rowId, run) ∈ s.requests → ∀ row ∈ s.outbox, row.id = rowId →
    ∀ current, s.runs.get? run.runId = some current → ended current = false →
      DecodesTo s row run

/-! ## What the lookup finds -/

variable {s s' : System}

theorem ended_iff {run : Run} : ended run = true ↔ run.isActive = false := by
  unfold ended Run.isActive
  cases run.status <;> decide

/-- The row a request writes names the Goal, not the Run. -/
theorem requested_row [Sha256] {ctx : CommandContext} {run : Run} {eventId rowId : Uuid}
    {sequence : Int} {digest : String} {event : AuditEvent}
    (logged : (ctx.audit "run.requested" run.auditItem eventId).chained sequence digest
      run.createdAt = .ok event) :
    (event.outboxRow rowId run.createdAt).tenantId = ctx.tenantId ∧
      (event.outboxRow rowId run.createdAt).payload.objectId = run.goalId.str := by
  obtain ⟨_, rfl⟩ := AuditEvent.chained_ok.mp logged
  exact ⟨rfl, rfl⟩

/-- The tables hold each value under its own key, and what a request has created: its Run and
the Goal of it, and a row that names the Goal. -/
structure Kept (s : System) : Prop where
  goalKeys : ∀ id goal, s.goals.get? id = some goal → goal.goalId = id
  runKeys : ∀ id run, s.runs.get? id = some run → run.runId = id
  created : ∀ rowId run, (rowId, run) ∈ s.requests →
    (∃ current, s.runs.get? run.runId = some current ∧ current.tenantId = run.tenantId ∧
      current.goalId = run.goalId) ∧
    ∃ goal, s.goals.get? run.goalId = some goal ∧ goal.tenantId = run.tenantId
  rows : ∀ rowId run, (rowId, run) ∈ s.requests → ∀ row ∈ s.outbox, row.id = rowId →
    row.tenantId = run.tenantId ∧ row.payload.objectId = run.goalId.str
  known : ∀ rowId run, (rowId, run) ∈ s.requests → ∃ row ∈ s.outbox, row.id = rowId

/-- What a lookup by tenant and id finds. -/
theorem Kept.selectRun_some (kept : Kept s) {tenantId runId : Uuid} {run : Run}
    {goal : GoalContract} (found : s.selectRun tenantId.str runId.str = some (run, goal)) :
    s.runs.get? runId = some run ∧ run.tenantId = tenantId ∧ run.runId = runId := by
  simp only [System.selectRun, Option.bind_eq_bind, Option.bind_eq_some_iff, Option.pure_def,
    Option.some.injEq, Prod.mk.injEq] at found
  obtain ⟨_, first, _, _, rfl, _⟩ := found
  have matched := List.find?_some first
  simp only [Bool.and_eq_true, decide_eq_true_eq] at matched
  obtain ⟨id, stored⟩ := (Dict.mem_values _ _).mp (List.mem_of_find?_eq_some first)
  have key := Uuid.str_injective matched.2
  rw [← kept.runKeys id _ stored, key] at stored
  exact ⟨stored, Uuid.str_injective matched.1, key⟩

/-- The lookup finds a Run that is there with its Goal. -/
theorem Kept.selectRun_of (kept : Kept s) {run : Run} {goal : GoalContract}
    (there : s.runs.get? run.runId = some run) (home : s.goals.get? run.goalId = some goal)
    (own : goal.tenantId = run.tenantId) :
    ∃ goal, s.selectRun run.tenantId.str run.runId.str = some (run, goal) := by
  have first : s.runs.values.find? (fun r => r.tenantId.str = run.tenantId.str &&
      r.runId.str = run.runId.str) = some run := by
    cases found : s.runs.values.find? (fun r => r.tenantId.str = run.tenantId.str &&
      r.runId.str = run.runId.str) with
    | none =>
      have missing := List.find?_eq_none.mp found run (Dict.mem_values_of_get? there)
      simp at missing
    | some other =>
      have matched := List.find?_some found
      simp only [Bool.and_eq_true, decide_eq_true_eq] at matched
      obtain ⟨id, stored⟩ := (Dict.mem_values _ _).mp (List.mem_of_find?_eq_some found)
      rw [← kept.runKeys id _ stored, Uuid.str_injective matched.2] at stored
      exact (there.symm.trans stored).symm
  have second : (s.goals.values.find? fun g => g.tenantId = run.tenantId &&
      g.goalId = run.goalId).isSome = true := by
    rw [List.find?_isSome]
    exact ⟨goal, Dict.mem_values_of_get? home, by simp [own, kept.goalKeys _ _ home]⟩
  obtain ⟨goal', found⟩ := Option.isSome_iff_exists.mp second
  exact ⟨goal', by simp [System.selectRun, first, found]⟩

/-- A row is decoded to the Run its request has created exactly when the Run was given the id
of its Goal. -/
theorem Kept.decodes_iff (kept : Kept s) {rowId : Uuid} {run current : Run}
    (created : (rowId, run) ∈ s.requests) {row : OutboxRow} (there : row ∈ s.outbox)
    (mine : row.id = rowId) (stored : s.runs.get? run.runId = some current)
    (active : ended current = false) : DecodesTo s row run ↔ run.runId = run.goalId := by
  obtain ⟨tenant, object⟩ := kept.rows rowId run created row there mine
  unfold DecodesTo
  rw [tenant, object]
  constructor
  · rintro ⟨request, loaded, _, _, _, same⟩
    unfold System.loadRequest at loaded
    split at loaded
    · cases loaded
    · split at loaded <;> cases loaded
      exact (Uuid.str_injective same).symm
  · intro same
    obtain ⟨⟨current', stored', tenant', goal'⟩, goal, home, own⟩ := kept.created rowId run created
    cases stored.symm.trans stored'
    have key := kept.runKeys _ _ stored
    rw [← key] at stored
    obtain ⟨goal, selected⟩ := kept.selectRun_of stored (goal'.symm ▸ home) (own.trans tenant'.symm)
    rw [tenant', key, same] at selected
    refine ⟨⟨row.id.str, commandFromRow run.tenantId.str current.goalId.str run.goalId.str goal⟩,
      ?_, rfl, rfl, ?_, ?_⟩
    · simp only [System.loadRequest, selected, active]
      rfl
    · exact congrArg Uuid.str goal'
    · rw [same]
      rfl

/-! ## What every step keeps -/

theorem Kept.setGoal (kept : Kept s) {goal : GoalContract}
    (same : ∀ current, s.goals.get? goal.goalId = some current →
      current.tenantId = goal.tenantId) :
    Kept { s with goals := s.goals.set goal.goalId goal } where
  goalKeys := Dict.keys_set kept.goalKeys goal
  runKeys := kept.runKeys
  rows := kept.rows
  known := kept.known
  created rowId run there := by
    obtain ⟨stored, home, found, own⟩ := kept.created rowId run there
    refine ⟨stored, ?_⟩
    dsimp only
    rw [Dict.get?_set]
    split
    · rename_i here
      exact ⟨goal, rfl, (same home (here ▸ found)).symm.trans own⟩
    · exact ⟨home, found, own⟩

theorem Kept.setRun (kept : Kept s) {run : Run}
    (same : ∀ current, s.runs.get? run.runId = some current →
      current.tenantId = run.tenantId ∧ current.goalId = run.goalId) :
    Kept { s with runs := s.runs.set run.runId run } where
  goalKeys := kept.goalKeys
  runKeys := Dict.keys_set kept.runKeys run
  rows := kept.rows
  known := kept.known
  created rowId run' there := by
    obtain ⟨⟨current, stored, tenant, goal⟩, home⟩ := kept.created rowId run' there
    refine ⟨?_, home⟩
    dsimp only
    rw [Dict.get?_set]
    split
    · rename_i here
      obtain ⟨tenant', goal'⟩ := same current (here ▸ stored)
      exact ⟨run, rfl, tenant'.symm.trans tenant, goal'.symm.trans goal⟩
    · exact ⟨current, stored, tenant, goal⟩

/-- A row is added that no request has written yet. -/
theorem Kept.addRow (kept : Kept s) {row : OutboxRow} (fresh : ∀ old ∈ s.outbox, old.id ≠ row.id) :
    Kept { s with outbox := s.outbox ++ [row] } where
  goalKeys := kept.goalKeys
  runKeys := kept.runKeys
  created := kept.created
  known rowId run there := by
    obtain ⟨row', listed, mine⟩ := kept.known rowId run there
    exact ⟨row', List.mem_append_left _ listed, mine⟩
  rows rowId run there row' listed mine := by
    rcases List.mem_append.mp listed with before | added
    · exact kept.rows rowId run there row' before mine
    · obtain ⟨old, before, same⟩ := kept.known rowId run there
      rw [List.mem_singleton] at added
      exact absurd (same.trans (added ▸ mine).symm) (fresh old before)

/-- The row of a new request is recorded. -/
theorem Kept.record (kept : Kept s) {row : OutboxRow} {run : Run} (there : row ∈ s.outbox)
    (only : ∀ other ∈ s.outbox, other.id = row.id → other = row)
    (tenant : row.tenantId = run.tenantId) (object : row.payload.objectId = run.goalId.str)
    (stored : s.runs.get? run.runId = some run)
    (home : ∃ goal, s.goals.get? run.goalId = some goal ∧ goal.tenantId = run.tenantId) :
    Kept { s with requests := s.requests ++ [(row.id, run)] } where
  goalKeys := kept.goalKeys
  runKeys := kept.runKeys
  created rowId run' listed := by
    rcases List.mem_append.mp listed with before | added
    · exact kept.created rowId run' before
    · cases List.mem_singleton.mp added
      exact ⟨⟨run, stored, rfl, rfl⟩, home⟩
  known rowId run' listed := by
    rcases List.mem_append.mp listed with before | added
    · exact kept.known rowId run' before
    · cases List.mem_singleton.mp added
      exact ⟨row, there, rfl⟩
  rows rowId run' listed row' within mine := by
    rcases List.mem_append.mp listed with before | added
    · exact kept.rows rowId run' before row' within mine
    · cases List.mem_singleton.mp added
      rw [only row' within mine]
      exact ⟨tenant, object⟩

/-- Rows after some were marked: each is a row from before, or that row published now. -/
theorem mem_publish {matching : OutboxRow → Bool} {now : Instant} {row : OutboxRow}
    (there : row ∈ (s.publish matching now).outbox) :
    ∃ old ∈ s.outbox, row.id = old.id ∧ row.tenantId = old.tenantId ∧
      row.payload = old.payload ∧
      (row.publishedAt.isSome = true → old.publishedAt.isSome = true ∨ matching old = true) := by
  obtain ⟨old, before, rfl⟩ := List.mem_map.mp there
  refine ⟨old, before, ?_⟩
  by_cases matched : matching old = true
  · simp [matched]
  · simp [matched]

theorem publish_mem {matching : OutboxRow → Bool} {now : Instant} {old : OutboxRow}
    (there : old ∈ s.outbox) :
    ∃ row ∈ (s.publish matching now).outbox, row.id = old.id ∧ row.tenantId = old.tenantId ∧
      row.payload = old.payload := by
  refine ⟨_, List.mem_map_of_mem there, ?_⟩
  by_cases matched : matching old = true
  · simp [matched]
  · simp [matched]

theorem Kept.publish (kept : Kept s) (matching : OutboxRow → Bool) (now : Instant) :
    Kept (s.publish matching now) where
  goalKeys := kept.goalKeys
  runKeys := kept.runKeys
  created := kept.created
  known rowId run there := by
    obtain ⟨old, before, mine⟩ := kept.known rowId run there
    obtain ⟨row, listed, same, _⟩ := publish_mem before
    exact ⟨row, listed, same.trans mine⟩
  rows rowId run there row listed mine := by
    obtain ⟨old, before, id, tenant, payload, _⟩ := mem_publish listed
    rw [tenant, payload]
    exact kept.rows rowId run there old before (id.symm.trans mine)

theorem Kept.put (kept : Kept s) (i : Nat) (poller : Poller) : Kept (s.put i poller) :=
  ⟨kept.goalKeys, kept.runKeys, kept.created, kept.rows, kept.known⟩

theorem Step.kept [Sha256] {label : Option Run} (step : Step s label s') (kept : Kept s) :
    Kept s' := by
  cases step with
  | createGoal goal absent => exact kept.setGoal fun current there => nomatch absent.symm.trans there
  | saveGoal found moved =>
    have fields := (GoalContract.transitionTo_ok moved).2
    refine kept.setGoal fun current there => ?_
    rw [congrArg (·.goalId) fields] at there
    cases found.symm.trans there
    exact (congrArg (·.tenantId) fields).symm
  | requestRun home own made absent logged fresh =>
    obtain ⟨_, goal, tenant⟩ := App.requestedRun_ok made
    obtain ⟨rowTenant, object⟩ := requested_row logged
    have stored := kept.setRun fun current there => nomatch absent.symm.trans there
    refine (stored.addRow fun old before => fresh old before).record
      (List.mem_append_right _ List.mem_cons_self) (fun other listed same => ?_)
      (rowTenant.trans tenant.symm) object (Dict.get?_set_self ..) ?_
    · rcases List.mem_append.mp listed with before | added
      · exact absurd same (fresh other before)
      · exact List.mem_singleton.mp added
    · exact ⟨_, goal ▸ home, own.trans tenant.symm⟩
  | saveRun found saves =>
    refine kept.setRun fun current there => ?_
    rw [saves.spec.1] at there
    cases found.symm.trans there
    exact ⟨saves.stays.1.symm, saves.stays.2.1.symm⟩
  | otherEvent row other fresh => exact kept.addRow fresh
  | select i => exact kept.put i _
  | load i => exact kept.put i _
  | skip i => exact kept.put i _
  | commitListing i => exact (kept.publish _ _).put i _
  | startWorkflow i =>
    exact ⟨kept.goalKeys, kept.runKeys, kept.created, kept.rows, kept.known⟩
  | startFails i => exact kept.put i _
  | markDispatched i => exact (kept.publish _ _).put i _
  | polled i => exact kept.put i _
  | crash i => exact kept.put i _

/-! ## What the pollers know -/

/-- A row as it was selected, which may have been marked since. -/
def Known (s : System) (row : OutboxRow) : Prop :=
  ∃ row' ∈ s.outbox, row'.id = row.id ∧ row'.tenantId = row.tenantId ∧ row'.payload = row.payload

/-- A dispatch request of a row, for the Run of that row. -/
def Sent (s : System) (request : RunDispatchRequest) : Prop :=
  (∃ row ∈ s.outbox, row.id.str = request.eventId) ∧
    ∀ rowId run, (rowId, run) ∈ s.requests → rowId.str = request.eventId →
      For request.command run

/-- A row whose Run was served. -/
def Done (s : System) (eventId : String) : Prop :=
  (∃ row ∈ s.outbox, row.id.str = eventId) ∧
    ∀ rowId run, (rowId, run) ∈ s.requests → rowId.str = eventId → Served s run

def Poller.Sound (s : System) : Poller → Prop
  | .idle => True
  | .listing rows requests skipped =>
    (∀ row ∈ rows, Known s row) ∧ (∀ request ∈ requests, Sent s request) ∧
      ∀ id ∈ skipped, Done s id.str
  | .dispatching requests => ∀ request ∈ requests, Sent s request
  | .started request rest => Done s request.eventId ∧ ∀ request ∈ rest, Sent s request

/-- What holds when every request gives its Run the id of the Goal. -/
structure Sound (s : System) : Prop extends Kept s where
  exactly : ∀ rowId run, (rowId, run) ∈ s.requests → run.runId = run.goalId
  pollers : ∀ i, (s.pollers i).Sound s
  published : PublishedServed s

/-- Rows are kept but for their marks, a new request has a new row, and what was served stays
so. -/
structure Extends (s s' : System) : Prop where
  rows : ∀ row ∈ s.outbox, Known s' row
  requests : ∀ rowId run, (rowId, run) ∈ s'.requests →
    (rowId, run) ∈ s.requests ∨ ∀ row ∈ s.outbox, row.id ≠ rowId
  served : ∀ run, Served s run → Served s' run

theorem Extends.row_id (grown : Extends s s') {eventId : String}
    (there : ∃ row ∈ s.outbox, row.id.str = eventId) : ∃ row ∈ s'.outbox, row.id.str = eventId := by
  obtain ⟨row, listed, same⟩ := there
  obtain ⟨row', listed', same', _⟩ := grown.rows row listed
  exact ⟨row', listed', same'.symm ▸ same⟩

/-- A request whose row was there is not a new one. -/
theorem Extends.old_request (grown : Extends s s') {eventId : String}
    (there : ∃ row ∈ s.outbox, row.id.str = eventId) {rowId : Uuid} {run : Run}
    (listed : (rowId, run) ∈ s'.requests) (mine : rowId.str = eventId) :
    (rowId, run) ∈ s.requests := by
  obtain ⟨row, within, same⟩ := there
  refine (grown.requests rowId run listed).resolve_right fun fresh => ?_
  exact fresh row within (Uuid.str_injective (same.trans mine.symm))

theorem Extends.sent (grown : Extends s s') {request : RunDispatchRequest} (sent : Sent s request) :
    Sent s' request :=
  ⟨grown.row_id sent.1, fun rowId run listed mine =>
    sent.2 rowId run (grown.old_request sent.1 listed mine) mine⟩

theorem Extends.done (grown : Extends s s') {eventId : String} (done : Done s eventId) :
    Done s' eventId :=
  ⟨grown.row_id done.1, fun rowId run listed mine =>
    grown.served run (done.2 rowId run (grown.old_request done.1 listed mine) mine)⟩

theorem Extends.poller (grown : Extends s s') {poller : Poller} (sound : poller.Sound s) :
    poller.Sound s' := by
  cases poller with
  | idle => trivial
  | listing rows requests skipped =>
    obtain ⟨known, sent, done⟩ := sound
    refine ⟨fun row there => ?_, fun request there => grown.sent (sent request there),
      fun id there => grown.done (done id there)⟩
    obtain ⟨row', listed, id, tenant, payload⟩ := known row there
    obtain ⟨row'', listed', id', tenant', payload'⟩ := grown.rows row' listed
    exact ⟨row'', listed', id'.trans id, tenant'.trans tenant, payload'.trans payload⟩
  | dispatching requests => exact fun request there => grown.sent (sound request there)
  | started request rest =>
    exact ⟨grown.done sound.1, fun request there => grown.sent (sound.2 request there)⟩

theorem known_self {row : OutboxRow} (there : row ∈ s.outbox) : Known s row :=
  ⟨row, there, rfl, rfl, rfl⟩

theorem extends_publish (matching : OutboxRow → Bool) (now : Instant) :
    Extends s (s.publish matching now) :=
  ⟨fun _ there => publish_mem there, fun _ _ => .inl, fun _ => id⟩

/-- A commit that marks no row of a request and changes no poller. -/
theorem Sound.extend (sound : Sound s) (grown : Extends s s') (kept : Kept s')
    (exactly : ∀ rowId run, (rowId, run) ∈ s'.requests → run.runId = run.goalId)
    (pollers : s'.pollers = s.pollers)
    (marks : ∀ rowId run, (rowId, run) ∈ s'.requests → ∀ row ∈ s'.outbox, row.id = rowId →
      row.publishedAt.isSome = true → row ∈ s.outbox) : Sound s' where
  toKept := kept
  exactly := exactly
  pollers i := by
    rw [pollers]
    exact grown.poller (sound.pollers i)
  published rowId run listed row there mine marked := by
    have before := marks rowId run listed row there mine marked
    have old := grown.old_request ⟨row, before, rfl⟩ listed (congrArg Uuid.str mine.symm)
    exact grown.served run (sound.published rowId run old row before mine marked)

/-- A statement of one poller that writes nothing. -/
theorem Sound.put (sound : Sound s) (i : Nat) {poller : Poller} (mine : poller.Sound s) :
    Sound (s.put i poller) where
  toKept := sound.toKept.put i poller
  exactly := sound.exactly
  published := sound.published
  pollers j := by
    have same : ((s.put i poller).pollers j).Sound s := by
      by_cases here : j = i
      · rw [here]
        simpa [System.put] using mine
      · simpa [System.put, here] using sound.pollers j
    exact Extends.poller (s := s) ⟨fun _ => known_self, fun _ _ => .inl, fun _ => id⟩ same

/-- Rows whose Runs were served are marked. -/
theorem Sound.publish (sound : Sound s) {matching : OutboxRow → Bool}
    (done : ∀ row, matching row = true → Done s row.id.str) (now : Instant) :
    Sound (s.publish matching now) where
  toKept := sound.toKept.publish matching now
  exactly := sound.exactly
  pollers i := (extends_publish matching now).poller (sound.pollers i)
  published rowId run listed row there mine marked := by
    obtain ⟨old, before, id, _, _, earlier⟩ := mem_publish there
    rcases earlier marked with earlier | matched
    · exact sound.published rowId run listed old before (id.symm.trans mine) earlier
    · exact (done old matched).2 rowId run listed (congrArg Uuid.str (mine.symm.trans id))

theorem extends_start (command : GoalRunInput) :
    Extends s { s with workflows := s.workflows ++ [command] } := by
  refine ⟨fun _ => known_self, fun _ _ => .inl, fun run served => ?_⟩
  rcases served with ⟨earlier, there, for_⟩ | closed
  · exact .inl ⟨earlier, List.mem_append_left _ there, for_⟩
  · exact .inr closed

theorem Sound.start (sound : Sound s) (command : GoalRunInput) :
    Sound { s with workflows := s.workflows ++ [command] } :=
  sound.extend (extends_start command)
    ⟨sound.goalKeys, sound.runKeys, sound.created, sound.rows, sound.known⟩ sound.exactly rfl
    fun _ _ _ _ there _ _ => there

/-- A request that was loaded is for the Run of its row. -/
theorem Sound.loaded (sound : Sound s) {row : OutboxRow} {request : RunDispatchRequest}
    (known : Known s row)
    (loaded : s.loadRequest row.id.str row.tenantId.str row.payload.objectId = some request) :
    Sent s request := by
  obtain ⟨row', there, id, tenant, payload⟩ := known
  rw [← id, ← tenant, ← payload] at loaded
  have event : request.eventId = row'.id.str := by
    unfold System.loadRequest at loaded
    split at loaded
    · cases loaded
    · split at loaded <;> cases loaded
      rfl
  refine ⟨⟨row', there, event.symm⟩, fun rowId run listed mine => ?_⟩
  have here : row'.id = rowId := Uuid.str_injective (event.symm.trans mine.symm)
  obtain ⟨⟨current, stored, _, _⟩, _⟩ := sound.created rowId run listed
  have active : ended current = false := by
    obtain ⟨rowTenant, object⟩ := sound.rows rowId run listed row' there here
    rw [rowTenant, object, ← sound.exactly rowId run listed] at loaded
    unfold System.loadRequest at loaded
    split at loaded
    · cases loaded
    · rename_i found _ selected
      obtain ⟨stored', _⟩ := sound.toKept.selectRun_some selected
      cases stored.symm.trans stored'
      split at loaded
      · cases loaded
      · rename_i live
        simpa using live
  obtain ⟨request', loaded', _, exact_⟩ :=
    (sound.toKept.decodes_iff listed there here stored active).mpr (sound.exactly rowId run listed)
  cases loaded.symm.trans loaded'
  exact exact_

/-- A row for which nothing was loaded is one of a Run that has ended. -/
theorem Sound.skipped (sound : Sound s) {row : OutboxRow} (known : Known s row)
    (missing : s.loadRequest row.id.str row.tenantId.str row.payload.objectId = none) :
    Done s row.id.str := by
  obtain ⟨row', there, id, tenant, payload⟩ := known
  rw [← id, ← tenant, ← payload] at missing
  refine ⟨⟨row', there, congrArg Uuid.str id⟩, fun rowId run listed mine => .inr ?_⟩
  have here : row'.id = rowId := id.trans (Uuid.str_injective mine).symm
  obtain ⟨⟨current, stored, _, _⟩, _⟩ := sound.created rowId run listed
  refine ⟨current, stored, ?_⟩
  by_contra active
  obtain ⟨request, loaded, _⟩ := (sound.toKept.decodes_iff listed there here stored
    (by simpa using active)).mpr (sound.exactly rowId run listed)
  cases missing.symm.trans loaded

/-! ## Every interleaving -/

/-- Saving a Run never undoes what was served: a Run that has ended is not saved again. -/
theorem served_saveRun {run updated : Run} (found : s.runs.get? run.runId = some run)
    (saves : run.Saves updated) (other : Run) (served : Served s other) :
    Served { s with runs := s.runs.set updated.runId updated } other := by
  rcases served with started | ⟨current, stored, closed⟩
  · exact .inl started
  · refine .inr ⟨current, ?_, closed⟩
    dsimp only
    rw [Dict.get?_set_ne _ _ fun same => ?_]
    · exact stored
    · rw [same, saves.spec.1] at stored
      cases found.symm.trans stored
      rw [ended_iff, saves.stays.2.2] at closed
      cases closed

theorem served_requestRun {run : Run} (absent : s.runs.get? run.runId = none) (other : Run)
    (served : Served s other) (outbox : List OutboxRow) (requests : List (Uuid × Run)) :
    Served { s with
      runs := s.runs.set run.runId run, outbox := outbox, requests := requests } other := by
  rcases served with started | ⟨current, stored, closed⟩
  · exact .inl started
  · refine .inr ⟨current, ?_, closed⟩
    dsimp only
    rw [Dict.get?_set_ne _ _ fun same => ?_]
    · exact stored
    · rw [same, absent] at stored
      cases stored

theorem Step.sound [Sha256] {label : Option Run} (step : Step s label s') (sound : Sound s)
    (legal : ∀ run, label = some run → run.runId = run.goalId) : Sound s' := by
  have kept := step.kept sound.toKept
  cases step with
  | createGoal goal absent =>
    exact sound.extend ⟨fun _ => known_self, fun _ _ => .inl, fun _ => id⟩ kept sound.exactly rfl
      fun _ _ _ _ there _ _ => there
  | saveGoal found moved =>
    exact sound.extend ⟨fun _ => known_self, fun _ _ => .inl, fun _ => id⟩ kept sound.exactly rfl
      fun _ _ _ _ there _ _ => there
  | requestRun home own made absent logged fresh =>
    refine sound.extend ⟨fun row there => ?_, fun rowId run listed => ?_, fun other served =>
      served_requestRun absent other served _ _⟩ kept (fun rowId run listed => ?_) rfl
      fun _ _ _ row there _ marked => ?_
    · exact known_self (List.mem_append_left _ there)
    · rcases List.mem_append.mp listed with before | added
      · exact .inl before
      · cases List.mem_singleton.mp added
        exact .inr fresh
    · rcases List.mem_append.mp listed with before | added
      · exact sound.exactly rowId run before
      · cases List.mem_singleton.mp added
        exact legal _ rfl
    · rcases List.mem_append.mp there with before | added
      · exact before
      · cases List.mem_singleton.mp added
        cases marked
  | saveRun found saves =>
    exact sound.extend ⟨fun _ => known_self, fun _ _ => .inl, served_saveRun found saves⟩ kept
      sound.exactly rfl fun _ _ _ _ there _ _ => there
  | otherEvent row other fresh =>
    refine sound.extend ⟨fun old there => known_self (List.mem_append_left _ there),
      fun _ _ => .inl, fun _ => id⟩ kept sound.exactly rfl
      fun rowId run listed old there mine _ => ?_
    rcases List.mem_append.mp there with before | added
    · exact before
    · obtain ⟨known, within, same⟩ := sound.known rowId run listed
      rw [List.mem_singleton.mp added] at mine
      exact absurd (same.trans mine.symm) (fresh known within)
  | select i scope limit =>
    refine sound.put i ⟨fun row there => ?_, by simp, by simp⟩
    have within := List.mem_of_mem_take there
    rw [List.mem_insertionSort] at within
    exact known_self (List.mem_filter.mp within).1
  | load i here loaded =>
    have mine := sound.pollers i
    rw [here] at mine
    obtain ⟨known, sent, done⟩ := mine
    refine sound.put i ⟨fun row there => known row (List.mem_cons_of_mem _ there), ?_, done⟩
    intro request there
    rcases List.mem_append.mp there with before | added
    · exact sent request before
    · rw [List.mem_singleton.mp added]
      exact sound.loaded (known _ List.mem_cons_self) loaded
  | skip i here missing =>
    have mine := sound.pollers i
    rw [here] at mine
    obtain ⟨known, sent, done⟩ := mine
    refine sound.put i ⟨fun row there => known row (List.mem_cons_of_mem _ there), sent, ?_⟩
    intro id there
    rcases List.mem_cons.mp there with rfl | before
    · exact sound.skipped (known _ List.mem_cons_self) missing
    · exact done id before
  | commitListing i now here =>
    have mine := sound.pollers i
    rw [here] at mine
    obtain ⟨_, sent, done⟩ := mine
    have marked : Sound (s.publishSkipped _ now) :=
      sound.publish (fun row matched => done row.id (of_decide_eq_true matched)) now
    exact marked.put i fun request there => (extends_publish _ now).sent (sent request there)
  | @startWorkflow i request rest here =>
    have mine := sound.pollers i
    rw [here] at mine
    obtain ⟨⟨row, there, same⟩, for_⟩ := mine request List.mem_cons_self
    have started := sound.start request.command
    refine started.put i ⟨⟨⟨row, there, same⟩, fun rowId run listed mine => ?_⟩, fun other later => ?_⟩
    · exact .inl ⟨request.command, List.mem_append_right _ List.mem_cons_self,
        for_ rowId run listed mine⟩
    · exact (extends_start _).sent (mine other (List.mem_cons_of_mem _ later))
  | startFails i here =>
    have mine := sound.pollers i
    rw [here] at mine
    exact sound.put i fun request there => mine request (List.mem_cons_of_mem _ there)
  | @markDispatched i request rest now here =>
    have mine := sound.pollers i
    rw [here] at mine
    obtain ⟨done, sent⟩ := mine
    have marked : Sound (s.markDispatched request.eventId now) := by
      refine sound.publish (fun row matched => ?_) now
      rw [Bool.and_eq_true, decide_eq_true_eq] at matched
      exact matched.1 ▸ done
    exact marked.put i fun other there => (extends_publish _ now).sent (sent other there)
  | polled i => exact sound.put i trivial
  | crash i => exact sound.put i trivial

theorem kept_start : Kept {} := by
  refine ⟨fun _ _ found => ?_, fun _ _ found => ?_, ?_, ?_, ?_⟩
  · cases found
  · cases found
  all_goals
    intro _ _ listed
    cases listed

theorem Reach.kept [Sha256] {ok : Run → Prop} (reach : Reach ok s) : Kept s := by
  induction reach with
  | start => exact kept_start
  | next _ step _ kept => exact step.kept kept

theorem Reach.sound [Sha256] (reach : Reach (fun run => run.runId = run.goalId) s) : Sound s := by
  induction reach with
  | start =>
    refine ⟨kept_start, ?_, fun _ => trivial, ?_⟩
    all_goals
      intro _ _ listed
      cases listed
  | next _ step legal sound => exact step.sound sound legal

/-- In every interleaving a row of a Run that has not ended is decoded to that Run exactly when
the Run drew the id of its Goal; when each one does, a row is marked published only after a
workflow of its Run was started or the Run has ended. -/
theorem requests_dispatched [Sha256] :
    (∀ s, Reach (fun _ => True) s → ∀ rowId run, (rowId, run) ∈ s.requests →
      ∀ row ∈ s.outbox, row.id = rowId → ∀ current, s.runs.get? run.runId = some current →
        ended current = false → (DecodesTo s row run ↔ run.runId = run.goalId)) ∧
      ∀ s, Reach (fun run => run.runId = run.goalId) s → Decoded s ∧ PublishedServed s := by
  refine ⟨fun s reach rowId run listed row there mine current stored active => ?_,
    fun s reach => ⟨fun rowId run listed row there mine current stored active => ?_, ?_⟩⟩
  · exact reach.kept.decodes_iff listed there mine stored active
  · exact (reach.kept.decodes_iff listed there mine stored active).mpr
      (reach.sound.exactly rowId run listed)
  · exact reach.sound.published

namespace Sample
open RunLimit.Sample (draft active requested first requestedRun_first)
open Autonoesis.Sample (env ports)

attribute [local instance] AuditSample.sha256

/-- The event of a request, chained as the first one of its tenant. -/
def logged (run : Run) : AuditEvent :=
  { first.audit "run.requested" run.auditItem 8 with
    sequence := some 1
    previousDigest := some genesisDigest
    eventDigest := some (AuditSample.hexdigest (genesisDigest ++ "\n" ++
      (first.audit "run.requested" run.auditItem 8).canonical 1 run.createdAt))
    createdAt := some run.createdAt }

theorem chained_logged (id : Uuid) :
    (first.audit "run.requested" (requested id).auditItem 8).chained 1 genesisDigest
      (requested id).createdAt = .ok (logged (requested id)) :=
  AuditEvent.chained_ok.mpr ⟨⟨by decide, by decide +kernel⟩, rfl⟩

/-- The system after one request, whose Run drew this id. -/
def one (id : Uuid) : System where
  goals := (Dict.empty.set 16 draft).set 16 active
  runs := Dict.empty.set id (requested id)
  outbox := [(logged (requested id)).outboxRow 9 10]
  requests := [(9, requested id)]

theorem reach_one {ok : Run → Prop} (id : Uuid) (legal : ok (requested id)) : Reach ok (one id) := by
  have created : Reach ok { goals := Dict.empty.set 16 draft } :=
    Reach.start.next (.createGoal draft rfl) nofun
  have opened : Reach ok { goals := (Dict.empty.set 16 draft).set 16 active } :=
    created.next (.saveGoal (Dict.get?_set_self ..)
      (show draft.transitionTo .active 5 "ready" 20 = .ok active by decide)) nofun
  refine opened.next (.requestRun (Dict.get?_set_self ..) rfl
    (requestedRun_first id) rfl (chained_logged id) (by simp)) fun run mine => ?_
  cases mine
  exact legal

/-- The row of the request, with its mark. -/
def row (id : Uuid) (publishedAt : Option Instant) : OutboxRow :=
  { (logged (requested id)).outboxRow 9 10 with publishedAt := publishedAt }

/-- A Run that drew another id than its Goal's is not found: its row is marked published, and
no workflow of it was started. -/
theorem row_marked_unserved : ∃ s, Reach (fun _ => True) s ∧ ¬ Decoded s ∧ ¬ PublishedServed s := by
  have created : Reach (fun _ => True) (one 32) := reach_one 32 trivial
  have selected := created.next (.select 0 none 10 rfl) nofun
  have skipped := selected.next
    (.skip 0 (show _ = Poller.listing [row 32 none] [] [] from rfl) rfl) nofun
  have marked := skipped.next (.commitListing 0 11 rfl) nofun
  refine ⟨_, marked, fun decoded => ?_, fun served => ?_⟩
  · obtain ⟨request, loaded, _⟩ := decoded 9 (requested 32) List.mem_cons_self (row 32 (some 11))
      List.mem_cons_self rfl (requested 32) rfl rfl
    cases loaded
  · rcases served 9 (requested 32) List.mem_cons_self (row 32 (some 11)) List.mem_cons_self rfl
      rfl with ⟨_, none, _⟩ | ⟨current, stored, closed⟩
    · cases none
    · cases stored
      cases closed

/-- A Run that drew the id of its Goal is found and started, and its row marked then. -/
theorem requests_dispatched_goal_id : ∃ s, Reach (fun run => run.runId = run.goalId) s ∧
    s.workflows.map (·.runId) = [(16 : Uuid).str] ∧ Decoded s ∧ PublishedServed s := by
  have created : Reach (fun run => run.runId = run.goalId) (one 16) := reach_one 16 rfl
  have selected := created.next (.select 0 none 10 rfl) nofun
  have loaded := selected.next
    (.load 0 (show _ = Poller.listing [row 16 none] [] [] from rfl) rfl) nofun
  have listed := loaded.next (.commitListing 0 11 rfl) nofun
  have started := listed.next (.startWorkflow 0 rfl) nofun
  have marked := started.next (.markDispatched 0 12 rfl) nofun
  exact ⟨_, marked, rfl, requests_dispatched.2 _ marked⟩

end Sample

end Autonoesis.Dispatch
