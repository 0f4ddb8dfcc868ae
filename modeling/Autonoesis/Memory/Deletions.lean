import Autonoesis.Memory.Gate

/-!
# The ledger and deletions

Writes and deletions change the store and append to the ledger in two calls. What the ledger says
last of a memory is at all times what the store holds of it. `cascade_delete` takes the tenant
from its caller and compares it with nothing.
-/

namespace Autonoesis.Memory
open Base

/-- A call of `DeletionPropagator.cascade_delete`. -/
structure DeleteCall where
  memoryId : Uuid
  actorId : Uuid
  tenantId : Uuid
  entryId : Uuid
  recordedAt : Instant

namespace MemoryTables

/-- `InMemoryMemoryStore.delete`. -/
def delete (memoryId : Uuid) (s : MemoryTables) : MemoryTables :=
  { s with records := s.records.filterKeys (· ≠ memoryId) }

end MemoryTables

/-- `DeletionPropagator.cascade_delete`. -/
def cascadeDelete (c : DeleteCall) (s : MemoryTables) : Int × MemoryTables :=
  match s.records.get? c.memoryId with
  | none => (0, s)
  | some _ => (1, (s.delete c.memoryId).record {
      entryId := c.entryId
      memoryId := c.memoryId
      kind := .delete
      tenantId := c.tenantId
      actorId := c.actorId
      recordedAt := c.recordedAt })

inductive MemoryCall where
  | write (call : WriteCall)
  | cascadeDelete (call : DeleteCall)

/-- The tables after a call, raised or not. -/
def turn (gate : MemoryWriteGate) (s : MemoryTables) : MemoryCall → MemoryTables
  | .write c => step gate s c
  | .cascadeDelete c => (cascadeDelete c s).2

/-- The kind of the last ledger entry of a memory. -/
def lastKind (s : MemoryTables) (memoryId : Uuid) : Option LedgerEntryKind :=
  (s.history memoryId).getLast?.map (·.kind)

/-- The store can be read off the ledger. -/
def Replayable (s : MemoryTables) : Prop :=
  ∀ memoryId, (s.records.get? memoryId).isSome ↔
    lastKind s memoryId = some .write ∨ lastKind s memoryId = some .merge

/-- The record an entry is about: the one it says is deleted, or the one it says is written. -/
def concerned (s s' : MemoryTables) (entry : LedgerEntry) : Option MemoryRecord :=
  if entry.kind = .delete then s.records.get? entry.memoryId else s'.records.get? entry.memoryId

/-- What a call owes to the ledger and to the tenants of the records. -/
structure Keeps (gate : MemoryWriteGate) (s : MemoryTables) (c : MemoryCall) : Prop where
  replayable : Replayable (turn gate s c)
  appended : ∃ entries, (turn gate s c).entries = s.entries ++ entries ∧
    ∀ e ∈ entries, ∃ m, concerned s (turn gate s c) e = some m ∧ m.tenantId = e.tenantId
  foreign : ∀ d, c = .cascadeDelete d → ∀ memoryId m, s.records.get? memoryId = some m →
    m.tenantId ≠ d.tenantId → (turn gate s c).records.get? memoryId = some m

/-- A deletion is asked for by the tenant of the record. -/
def Own (s : MemoryTables) : MemoryCall → Prop
  | .write _ => True
  | .cascadeDelete d => ∀ m, s.records.get? d.memoryId = some m → m.tenantId = d.tenantId

variable {gate : MemoryWriteGate} {s : MemoryTables}

theorem lastKind_append (records : Dict Uuid MemoryRecord) (entry : LedgerEntry)
    (memoryId : Uuid) :
    lastKind { records, entries := s.entries ++ [entry] } memoryId =
      if entry.memoryId = memoryId then some entry.kind else lastKind s memoryId := by
  unfold lastKind MemoryTables.history
  by_cases same : entry.memoryId = memoryId
  · simp [same]
  · simp [same]

theorem replayable_written (replay : Replayable s) {entry : LedgerEntry} {m : MemoryRecord}
    (own : entry.memoryId = m.memoryId) (kind : entry.kind = .write ∨ entry.kind = .merge) :
    Replayable { records := s.records.set m.memoryId m, entries := s.entries ++ [entry] } := by
  intro memoryId
  rw [lastKind_append, own, Dict.get?_set]
  by_cases same : m.memoryId = memoryId
  · simpa [same] using kind
  · have other : ¬memoryId = m.memoryId := fun h => same h.symm
    rw [if_neg same, if_neg other]
    exact replay memoryId

theorem replayable_deleted (replay : Replayable s) {entry : LedgerEntry}
    (kind : entry.kind = .delete) :
    Replayable ((s.delete entry.memoryId).record entry) := by
  intro memoryId
  simp only [MemoryTables.record, MemoryTables.delete]
  rw [lastKind_append, Dict.get?_filterKeys]
  by_cases same : entry.memoryId = memoryId
  · simp [same, kind]
  · have other : ¬memoryId = entry.memoryId := fun h => same h.symm
    simpa [same, other] using replay memoryId

theorem turn_replayable (replay : Replayable s) (c : MemoryCall) : Replayable (turn gate s c) := by
  cases c with
  | write c =>
    obtain same | ⟨_, done⟩ := write_cases gate c s
    · rw [turn, step, same]
      exact replay
    · rw [turn, step, done]
      apply replayable_written (m := { c.candidate with status := .stable }) replay
      · rfl
      · simp only [WriteCall.entry]
        split
        · exact .inr rfl
        · exact .inl rfl
  | cascadeDelete c =>
    simp only [turn, cascadeDelete]
    cases s.records.get? c.memoryId with
    | none => exact replay
    | some m => exact replayable_deleted replay rfl

theorem keeps_write (replay : Replayable s) (c : WriteCall) : Keeps gate s (.write c) := by
  refine ⟨turn_replayable replay _, ?_, nofun⟩
  obtain same | ⟨_, done⟩ := write_cases gate c s
  · exact ⟨[], by rw [turn, step, same, List.append_nil], nofun⟩
  · refine ⟨_, by rw [turn, step, done], fun e there => ?_⟩
    rw [List.mem_singleton.mp there]
    refine ⟨{ c.candidate with status := .stable }, ?_, rfl⟩
    have written : (c.entry (gate.evaluate c.now c.candidate c.existing c.approverRoles)
        { c.candidate with status := .stable }).kind ≠ .delete := by
      simp only [WriteCall.entry]
      split <;> decide
    rw [concerned, if_neg written, turn, step, done]
    exact Dict.get?_set_self _ _ _

theorem keeps_cascadeDelete (replay : Replayable s) (c : DeleteCall) :
    Keeps gate s (.cascadeDelete c) ↔ Own s (.cascadeDelete c) := by
  have now : Replayable (turn gate s (.cascadeDelete c)) := turn_replayable replay _
  cases found : s.records.get? c.memoryId with
  | none =>
    have same : turn gate s (.cascadeDelete c) = s := by
      simp only [turn, cascadeDelete, found]
    refine iff_of_true ⟨now, ⟨[], ?_, fun e there => absurd there List.not_mem_nil⟩, ?_⟩ ?_
    · rw [same, List.append_nil]
    · rintro d ⟨⟩ memoryId m there _
      rw [same]
      exact there
    · intro m there
      rw [found] at there
      cases there
  | some m =>
    have done : turn gate s (.cascadeDelete c) = (s.delete c.memoryId).record {
        entryId := c.entryId
        memoryId := c.memoryId
        kind := .delete
        tenantId := c.tenantId
        actorId := c.actorId
        recordedAt := c.recordedAt } := by
      simp only [turn, cascadeDelete, found]
    have gone : (turn gate s (.cascadeDelete c)).records.get? c.memoryId = none := by
      rw [done]
      simp [MemoryTables.record, MemoryTables.delete, Dict.get?_filterKeys]
    constructor
    · intro keeps m' there
      by_contra foreign
      have still := keeps.foreign c rfl c.memoryId m' there foreign
      rw [gone] at still
      cases still
    · intro own
      refine ⟨now, ⟨_, by rw [done]; rfl, fun e there => ?_⟩, ?_⟩
      · rw [List.mem_singleton.mp there]
        exact ⟨m, found, own m found⟩
      · rintro d ⟨⟩ memoryId m' there foreign
        have other : memoryId ≠ c.memoryId := by
          rintro rfl
          exact foreign (own m' there)
        rw [done]
        simpa [MemoryTables.record, MemoryTables.delete, Dict.get?_filterKeys, other] using there

theorem keeps_iff (replay : Replayable s) (c : MemoryCall) : Keeps gate s c ↔ Own s c := by
  cases c with
  | write c => exact iff_of_true (keeps_write replay c) trivial
  | cascadeDelete c => exact keeps_cascadeDelete replay c

/-- Along every history the ledger tells what is stored and whose it was, and no deletion takes
another tenant's record, exactly when deletions are asked for by the tenants of the records. -/
theorem ledger_along_iff (gate : MemoryWriteGate) (calls : List MemoryCall) :
    Along (turn gate) (Keeps gate) {} calls ↔ Along (turn gate) Own {} calls := by
  have legal : Along (turn gate) (fun _ _ => True) {} calls :=
    along_of_forall (fun _ _ => trivial) _ calls
  apply along_congr (fun s c (replay : Replayable s) _ => keeps_iff replay c)
    (fun s c replay _ _ => turn_replayable replay c) _ legal
  intro memoryId
  simp [lastKind, MemoryTables.history]

namespace Sample

/-- Another tenant deletes the record of the first. -/
def takingOver : List MemoryCall :=
  [.write (saying mail []), .cascadeDelete
    { memoryId := 11, actorId := 5, tenantId := 6, entryId := 7, recordedAt := 30 }]

theorem foreign_deleted : ¬∀ calls, Along (turn {}) (Keeps {}) {} calls := by
  intro all
  obtain ⟨_, deletion, _⟩ := all takingOver
  have there : (turn {} {} (.write (saying mail []))).records.get? 11 = some (stable mail) := by
    decide +kernel
  have still := deletion.foreign _ rfl 11 (stable mail) there (by decide)
  have gone : (turn {} (turn {} {} (.write (saying mail []))) (.cascadeDelete
      { memoryId := 11, actorId := 5, tenantId := 6, entryId := 7,
        recordedAt := 30 })).records.get? 11 = none := by
    decide +kernel
  rw [gone] at still
  cases still

end Sample

end Autonoesis.Memory
