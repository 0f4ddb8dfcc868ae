import Mathlib.Algebra.BigOperators.Group.List.Basic
import Mathlib.Algebra.Ring.Int.Defs
import Autonoesis.Base.Dict
import Autonoesis.Runtime.Reservations

/-! `PostgreSQLAtomicExecutionReservations` and the ledger it shares with `CostPhaseLedger`.
The advisory lock and the lock on the Run make each call one step; a statement that breaks a
constraint of its table raises and the transaction leaves nothing behind. -/

namespace Autonoesis
open Base

namespace Exc

/-- A value that does not fit its column. -/
def dataError (column : String) : Exc := ⟨"DataError", [.exception], column⟩

/-- A row that breaks a constraint of its table. -/
def integrityError (constraint : String) : Exc := ⟨"IntegrityError", [.exception], constraint⟩

end Exc

/-- `idempotency_records.status`. -/
inductive RecordStatus where
  | pending | accepted | completed | failed | unknown
  deriving DecidableEq

/-- `idempotency_records.response`. -/
structure RecordResponse where
  output : List (String × String)
  status : String

/-- A row of `idempotency_records`, which also holds the records of commands. -/
structure IdempotencyRow where
  id : String
  tenantId : String
  runId : Option String := none
  actionId : Option String := none
  toolName : Option String := none
  toolVersion : Option String := none
  idempotencyKey : String
  requestDigest : String
  costUnits : Option Int := none
  externalId : Option String := none
  status : RecordStatus
  response : Option RecordResponse := none
  optimisticVersion : Int := 1
  createdAt : Instant

/-- A row of `budget_ledger`. -/
structure BudgetRow where
  id : String
  tenantId : String
  runId : String
  category : String
  amount : Int
  unit : BudgetUnit
  reference : String
  createdAt : Instant

/-- The tables a reservation reads and writes: Runs with their Goal, Goals with the budget of
their contract, both under tenant and id, and the two tables above. -/
structure ReservationTables where
  runs : Dict (String × String) String := .empty
  goals : Dict (String × String) BudgetAmount := .empty
  records : List IdempotencyRow := []
  ledger : List BudgetRow := []

/-- What a call draws: the two identifiers and the clock. -/
structure ReservationDraw where
  reservationId : String
  entryId : String
  now : Instant

/-- Whether the values fit the columns of the two tables a reservation is written to. -/
def ExecutionReservation.storable (r : ExecutionReservation) : Bool :=
  r.actionId.length ≤ 36 && r.toolName.length ≤ 200 && r.toolVersion.length ≤ 64 &&
    r.idempotencyKey.length ≤ 300 && r.requestDigest.length ≤ 64 && 0 < r.costUnits &&
    r.costUnits < 2 ^ 63

def ToolReceipt.storable (r : ToolReceipt) : Bool := r.externalId.length ≤ 300

/-- The status a receipt is stored under. -/
def ToolResultStatus.recordStatus : ToolResultStatus → RecordStatus
  | succeeded => .completed
  | failed => .failed
  | rejected => .failed
  | unknown => .unknown
  | accepted => .accepted

namespace IdempotencyRow

def key (row : IdempotencyRow) : String × String := (row.tenantId, row.idempotencyKey)

/-- `response.get("output", ())`. -/
def output (row : IdempotencyRow) : List (String × String) := (row.response.map (·.output)).getD []

/-- `_existing_decision`. -/
def existingDecision (row : IdempotencyRow) (request : ExecutionReservation) :
    ReservationDecision :=
  if row.requestDigest ≠ request.requestDigest then ⟨.conflict, none, none⟩
  else if row.toolVersion ≠ none ∧ row.toolVersion ≠ some request.toolVersion then
    ⟨.conflict, none, none⟩
  else match row.status with
    | .pending => ⟨.inProgress, some row.id, none⟩
    | .unknown | .accepted => ⟨.unknown, some row.id, none⟩
    | .completed => ⟨.cached, some row.id, some ⟨row.externalId.getD "", .succeeded, row.output⟩⟩
    | .failed => ⟨.cached, some row.id, some ⟨row.externalId.getD "", .failed, row.output⟩⟩

/-- The row `complete` updates. -/
def isOpen (row : IdempotencyRow) (tenantId id : String) : Bool :=
  row.id = id && row.tenantId = tenantId && row.status = .pending

/-- The values `complete` sets. -/
def settled (row : IdempotencyRow) (receipt : ToolReceipt) : IdempotencyRow :=
  { row with
    status := receipt.status.recordStatus
    externalId := if receipt.externalId = "" then none else some receipt.externalId
    response := some ⟨receipt.output, receipt.status.value⟩
    optimisticVersion := row.optimisticVersion + 1 }

def updated (tenantId id : String) (receipt : ToolReceipt) (row : IdempotencyRow) :
    IdempotencyRow :=
  if row.isOpen tenantId id then row.settled receipt else row

end IdempotencyRow

namespace ReservationTables

/-- The row of a tenant and key, which are unique. -/
def record? (t : ReservationTables) (key : String × String) : Option IdempotencyRow :=
  t.records.find? fun row => row.key = key

/-- Whether an entry is charged to the tenant and Run of `u` in cost units. -/
def chargedTo (u : String × String) (row : BudgetRow) : Bool :=
  (row.tenantId, row.runId) = u && row.unit = .costUnits

/-- `coalesce(sum(amount), 0)` over the entries of a Run in cost units. -/
def used (t : ReservationTables) (u : String × String) : Int :=
  ((t.ledger.filter (chargedTo u)).map (·.amount)).sum

/-- The budget of the Goal of the Run. -/
def limitOf (t : ReservationTables) (tenantId runId : String) : Except Exc Int :=
  match t.runs.get? (tenantId, runId) with
  | none => .error (.lookupError "reservation Run does not exist in the tenant")
  | some goalId =>
    match t.goals.get? (tenantId, goalId) with
    | none => .error (.lookupError "reservation Goal does not exist in the tenant")
    | some budget =>
      if budget.unit ≠ .costUnits then
        .error (.valueError "tool execution requires a cost_units Goal budget")
      else .ok budget.amount

/-- `insert(budget_ledger)`, with the constraints of the table. -/
def addEntry (t : ReservationTables) (row : BudgetRow) : Except Exc ReservationTables :=
  if (t.runs.get? (row.tenantId, row.runId)).isNone then .error (.integrityError "run_id")
  else if row.amount ≤ 0 then .error (.integrityError "positive_amount")
  else if t.ledger.any (·.id = row.id) then .error (.integrityError "id")
  else if t.ledger.any fun old => old.tenantId = row.tenantId && old.runId = row.runId &&
      old.reference = row.reference then .error (.integrityError "uq_budget_entry_reference")
  else .ok { t with ledger := t.ledger ++ [row] }

/-- The record of a new reservation. -/
def reserved (request : ExecutionReservation) (draw : ReservationDraw) : IdempotencyRow where
  id := draw.reservationId
  tenantId := request.tenantId
  runId := some request.runId
  actionId := some request.actionId
  toolName := some request.toolName
  toolVersion := some request.toolVersion
  idempotencyKey := request.idempotencyKey
  requestDigest := request.requestDigest
  costUnits := some request.costUnits
  status := .pending
  createdAt := draw.now

/-- The charge of a new reservation. -/
def charge (request : ExecutionReservation) (draw : ReservationDraw) : BudgetRow where
  id := draw.entryId
  tenantId := request.tenantId
  runId := request.runId
  category := "reserve"
  amount := request.costUnits
  unit := .costUnits
  reference := "tool-reservation:" ++ draw.reservationId
  createdAt := draw.now

/-- The two inserts of a reservation. -/
def acquire (t : ReservationTables) (request : ExecutionReservation) (draw : ReservationDraw) :
    Except Exc ReservationTables :=
  if !request.storable then .error (.dataError "idempotency_records")
  else if t.records.any (·.id = draw.reservationId) then .error (.integrityError "id")
  else addEntry { t with records := t.records ++ [reserved request draw] } (charge request draw)

/-- `_reserve`. -/
def reserve (t : ReservationTables) (request : ExecutionReservation) (draw : ReservationDraw) :
    Except Exc ReservationDecision × ReservationTables :=
  match t.record? request.key with
  | some row => (.ok (row.existingDecision request), t)
  | none =>
    match t.limitOf request.tenantId request.runId with
    | .error e => (.error e, t)
    | .ok limit =>
      if limit < t.used request.usageKey + request.costUnits then
        (.ok ⟨.budgetExhausted, none, none⟩, t)
      else match t.acquire request draw with
        | .error e => (.error e, t)
        | .ok t' => (.ok ⟨.acquired, some draw.reservationId, none⟩, t')

/-- `complete`. -/
def complete (t : ReservationTables) (tenantId id : String) (receipt : ToolReceipt) :
    Except Exc Unit × ReservationTables :=
  if !t.records.any (·.isOpen tenantId id) then
    (.error (.runtimeError "execution reservation was already finalized"), t)
  else if !receipt.storable then (.error (.dataError "external_id"), t)
  else (.ok (), { t with records := t.records.map (·.updated tenantId id receipt) })

end ReservationTables

/-- The phases of a cost entry. -/
inductive CostPhase where
  | estimate | reserve | settle | retryWaste
  deriving DecidableEq

def CostPhase.value : CostPhase → String
  | estimate => "estimate"
  | reserve => "reserve"
  | settle => "settle"
  | retryWaste => "retry_waste"

/-- `CostPhaseLedger.record` over `record_budget_entry`, with the entry's identifier and time. -/
def ReservationTables.recordPhase (t : ReservationTables) (tenantId runId : Uuid)
    (phase : CostPhase) (amount : Int) (reference : String) (entryId : Uuid) (now : Instant) :
    Except Exc ReservationTables := do
  raiseIf (amount < 0) (.valueError "cost phases record non-negative amounts")
  raiseIf (isBlank reference) (.valueError "cost entries require an idempotent reference")
  raiseIf (300 < reference.length) (.dataError "reference")
  raiseIf (2 ^ 63 ≤ amount) (.dataError "amount")
  t.addEntry ⟨entryId.str, tenantId.str, runId.str, phase.value, amount, .costUnits, reference,
    now⟩

end Autonoesis
