import Mathlib.Algebra.BigOperators.Group.List.Basic
import Mathlib.Algebra.Ring.Int.Defs
import Autonoesis.Base.Dict
import Autonoesis.Runtime.Tools

/-! `InMemoryAtomicExecutionReservations`. Both indexes of the source hold the same
mutable record objects, so the model keeps the objects in a heap and lets the indexes
hold addresses into it: completing through one index is seen through the other. -/

namespace Autonoesis
open Base

/-- `_MemoryReservation`. -/
structure MemoryReservation where
  request : ExecutionReservation
  reservationId : String
  receipt : Option ToolReceipt := none
  deriving DecidableEq

structure Reservations where
  limit : Int
  used : Dict (String × String) Int := .empty
  heap : List MemoryReservation := []
  records : Dict (String × String) Nat := .empty
  byId : Dict String Nat := .empty

namespace ExecutionReservation

/-- The pair that identifies an execution: tenant and idempotency key. -/
def key (r : ExecutionReservation) : String × String := (r.tenantId, r.idempotencyKey)

/-- The pair the budget is charged to: tenant and Run. -/
def usageKey (r : ExecutionReservation) : String × String := (r.tenantId, r.runId)

end ExecutionReservation

namespace Reservations

/-- The record an index entry points to. -/
def record? (s : Reservations) (key : String × String) : Option MemoryReservation :=
  (s.records.get? key).bind fun a => s.heap[a]?

/-- `self.used.get(usage_key, 0)`. -/
def usedBy (s : Reservations) (usageKey : String × String) : Int := (s.used.get? usageKey).getD 0

/-- What a reserve is answered when its key already has a record. -/
def existingDecision (existing : MemoryReservation) (request : ExecutionReservation) :
    ReservationDecision :=
  if existing.request.requestDigest ≠ request.requestDigest then ⟨.conflict, none, none⟩
  else match existing.receipt with
    | none => ⟨.inProgress, none, none⟩
    | some receipt =>
      if receipt.status = .accepted || receipt.status = .unknown then
        ⟨.unknown, some existing.reservationId, none⟩
      else ⟨.cached, some existing.reservationId, some receipt⟩

/-- The record, both index entries and the charge of a new reservation. -/
def acquire (s : Reservations) (request : ExecutionReservation) (reservationId : String) :
    Reservations :=
  { s with
    heap := s.heap ++ [⟨request, reservationId, none⟩]
    records := s.records.set request.key s.heap.length
    byId := s.byId.set reservationId s.heap.length
    used := s.used.set request.usageKey (s.usedBy request.usageKey + request.costUnits) }

/-- `reserve`; `reservationId` is the identifier `uuid4` draws when one is needed. -/
def reserve (s : Reservations) (request : ExecutionReservation) (reservationId : String) :
    ReservationDecision × Reservations :=
  match s.record? request.key with
  | some existing => (existingDecision existing request, s)
  | none =>
    if s.limit < s.usedBy request.usageKey + request.costUnits then
      (⟨.budgetExhausted, none, none⟩, s)
    else (⟨.acquired, some reservationId, none⟩, s.acquire request reservationId)

/-- Store the receipt in the record at `a`. -/
def settle (s : Reservations) (a : Nat) (receipt : ToolReceipt) : Reservations :=
  { s with heap := s.heap.modify a fun r => { r with receipt := some receipt } }

/-- `complete`, which ignores the tenant it is given. -/
def complete (s : Reservations) (reservationId : String) (receipt : ToolReceipt) :
    Except Exc Unit × Reservations :=
  match s.byId.get? reservationId with
  | none => (.error (.keyError reservationId), s)
  | some a =>
    match s.heap[a]? with
    | none => (.error (.keyError reservationId), s)
    | some record =>
      if record.receipt.any (· ≠ receipt) then
        (.error (.runtimeError "execution reservation is already completed"), s)
      else (.ok (), s.settle a receipt)

end Reservations

end Autonoesis
