import Mathlib.Data.Rat.Defs
import Autonoesis.Base.Recursive
import Autonoesis.Base.Tx
import Autonoesis.Domain.Values
import Autonoesis.Persistence.Reservations

/-!
# Deleting a memory with everything derived from it

`delete_memory` follows the deletion edges of one tenant from the memory it is asked for, through
memories that are deleted already, and deletes the tenant's records that it finds: their rows are
marked, their vector projections go, and the ledger says so once for each.
-/

namespace Autonoesis.Memory
open Base

/-- A row of `memory_records`. -/
structure MemoryRow where
  id : String
  tenantId : String
  scope : String
  content : String
  provenance : Json
  confidence : ℚ
  expiresAt : Instant
  approvedBy : String
  status : String
  definition : Json
  deletedAt : Option Instant := none
  optimisticVersion : Nat := 1
  createdAt : Instant

/-- A row of `memory_deletion_edges`. -/
structure DeletionEdgeRow where
  tenantId : String
  parentMemoryId : String
  childMemoryId : String

/-- A row of `vector_index_projections`. -/
structure ProjectionRow where
  id : String
  tenantId : String
  memoryId : String
  contentDigest : String
  indexVersion : String

/-- A row of `memory_ledger`. -/
structure LedgerRow where
  id : String
  tenantId : String
  memoryId : String
  kind : String
  actorId : String
  metadata : List (String × String)
  optimisticVersion : Nat := 1
  createdAt : Instant

/-- The tables; the identifiers of the records are a primary key. -/
@[ext] structure MemoryDatabase where
  records : List MemoryRow
  edges : List DeletionEdgeRow
  projections : List ProjectionRow
  ledger : List LedgerRow
  unique : (records.map (·.id)).Nodup

/-- A call of `delete_memory`; `draw i` is what the call of `uuid4` number `i` returns. -/
structure DeleteMemory where
  tenantId : Uuid
  memoryId : Uuid
  actorId : Uuid
  now : Instant
  draw : Nat → Uuid

namespace MemoryDatabase

/-- The recursive part of the query for one parent. -/
def children (tenantId : Uuid) (s : MemoryDatabase) (parent : String) : List String :=
  (s.edges.filter fun edge => edge.tenantId = tenantId.str && edge.parentMemoryId = parent).map
    (·.childMemoryId)

/-- The identifiers in `affected`, after at most so many rounds of the query. -/
def affected (rounds : Nat) (tenantId memoryId : Uuid) (s : MemoryDatabase) :
    Option (List String) :=
  recursive (s.children tenantId) rounds [memoryId.str] [memoryId.str]

/-- The records of the tenant among the rows that are not deleted yet. -/
def existing (tenantId : Uuid) (rows : List String) (s : MemoryDatabase) : List String :=
  (s.records.filter fun row =>
    row.tenantId = tenantId.str && rows.contains row.id && row.deletedAt.isNone).map (·.id)

end MemoryDatabase

/-- The row after the update of the records in `ids`. -/
def MemoryRow.marked (tenantId : Uuid) (ids : List String) (now : Instant) (row : MemoryRow) :
    MemoryRow :=
  if row.tenantId = tenantId.str && ids.contains row.id then
    { row with status := "deleted", deletedAt := some now }
  else row

@[simp] theorem MemoryRow.marked_id (tenantId : Uuid) (ids : List String) (now : Instant)
    (row : MemoryRow) : (row.marked tenantId ids now).id = row.id := by
  unfold marked
  split <;> rfl

namespace MemoryDatabase

def markDeleted (tenantId : Uuid) (ids : List String) (now : Instant) (s : MemoryDatabase) :
    MemoryDatabase :=
  { s with
    records := s.records.map (MemoryRow.marked tenantId ids now)
    unique := by
      rw [List.map_map]
      have same : (fun row => row.id) ∘ MemoryRow.marked tenantId ids now = MemoryRow.id :=
        funext (MemoryRow.marked_id tenantId ids now)
      rw [same]
      exact s.unique }

def deleteProjections (tenantId : Uuid) (ids : List String) (s : MemoryDatabase) :
    MemoryDatabase :=
  { s with projections := s.projections.filter fun row =>
      !(row.tenantId = tenantId.str && ids.contains row.memoryId) }

def insertLedger (row : LedgerRow) : Tx MemoryDatabase Exc Unit := do
  Tx.check ((← Tx.read (·.ledger)).any (·.id = row.id)) (.integrityError "id")
  Tx.write fun s => { s with ledger := s.ledger ++ [row] }

end MemoryDatabase

namespace DeleteMemory

/-- The ledger row for a record, with the identifier drawn for it. -/
def entry (c : DeleteMemory) (drawn : Nat) (deletedId : String) : LedgerRow where
  id := (c.draw drawn).str
  tenantId := c.tenantId.str
  memoryId := deletedId
  kind := "delete"
  actorId := c.actorId.str
  metadata := [("root_memory_id", c.memoryId.str)]
  createdAt := c.now

/-- The loop of `delete_memory` over the existing records. -/
def insertEntries (c : DeleteMemory) : Nat → List String → Tx MemoryDatabase Exc Unit
  | _, [] => pure ()
  | drawn, deletedId :: rest => do
    MemoryDatabase.insertLedger (c.entry drawn deletedId)
    c.insertEntries (drawn + 1) rest

/-- What `delete_memory` does with the rows of the query. -/
def deleteRows (c : DeleteMemory) (rows : List String) : Tx MemoryDatabase Exc Nat := do
  let existing ← Tx.read (·.existing c.tenantId rows)
  if existing.isEmpty then return 0
  else
    Tx.write (·.markDeleted c.tenantId existing c.now)
    Tx.write (·.deleteProjections c.tenantId existing)
    c.insertEntries 0 existing
    return existing.length

/-- `delete_memory`, for a query that ends within so many rounds. -/
def deleteMemory (rounds : Nat) (c : DeleteMemory) (s : MemoryDatabase) :
    Option (Except Exc Nat × MemoryDatabase) :=
  (s.affected rounds c.tenantId c.memoryId).map fun rows => (c.deleteRows rows).commit s

/-- `uuid4` draws a new identifier for every record there may be. -/
structure Fresh (c : DeleteMemory) (s : MemoryDatabase) : Prop where
  distinct : ∀ i < s.records.length, ∀ j < s.records.length, c.draw i = c.draw j → i = j
  unused : ∀ row ∈ s.ledger, ∀ i < s.records.length, row.id ≠ (c.draw i).str

/-- A record that the call is to delete: it is of the tenant, not deleted yet, and reached from
the memory of the call along the tenant's edges. -/
def Doomed (c : DeleteMemory) (s : MemoryDatabase) (row : MemoryRow) : Prop :=
  row.tenantId = c.tenantId.str ∧ row.deletedAt = none ∧
    Leads (s.children c.tenantId) c.memoryId.str row.id

/-- What the call owes: the records of `deleted`, which are those to be deleted, are marked, lose
their projections and get their entries, and nothing else changes. -/
structure Deletes (c : DeleteMemory) (s s' : MemoryDatabase) (deleted : List String) : Prop where
  nodup : deleted.Nodup
  listed : ∀ id ∈ deleted, ∃ row ∈ s.records, row.id = id
  doomed : ∀ row ∈ s.records, row.id ∈ deleted ↔ c.Doomed s row
  records : s'.records = s.records.map fun row =>
    if row.id ∈ deleted then { row with status := "deleted", deletedAt := some c.now } else row
  projections : s'.projections = s.projections.filter fun row =>
    ¬(row.tenantId = c.tenantId.str ∧ row.memoryId ∈ deleted)
  ledger : ∃ entries, s'.ledger = s.ledger ++ entries ∧ entries.map (·.memoryId) = deleted ∧
    ∀ row ∈ entries, row.kind = "delete" ∧ row.tenantId = c.tenantId.str ∧
      row.actorId = c.actorId.str ∧ row.metadata = [("root_memory_id", c.memoryId.str)]
  edges : s'.edges = s.edges

/-! ## The inserts -/

variable {c : DeleteMemory} {s s' : MemoryDatabase} {rows deleted : List String}

/-- The ledger rows for the records. -/
def entries (c : DeleteMemory) : Nat → List String → List LedgerRow
  | _, [] => []
  | drawn, deletedId :: rest => c.entry drawn deletedId :: c.entries (drawn + 1) rest

theorem entries_memoryId (drawn : Nat) (ids : List String) :
    (c.entries drawn ids).map (·.memoryId) = ids := by
  induction ids generalizing drawn with
  | nil => rfl
  | cons id rest ih => simp [entries, entry, ih]

theorem mem_entries {row : LedgerRow} {ids : List String} {drawn : Nat}
    (there : row ∈ c.entries drawn ids) : ∃ i id, row = c.entry i id := by
  induction ids generalizing drawn with
  | nil => simp [entries] at there
  | cons id rest ih =>
    obtain rfl | later := List.mem_cons.mp there
    · exact ⟨drawn, id, rfl⟩
    · exact ih later

/-- With identifiers that no row has the loop inserts a row for each record. -/
theorem insertEntries_run {bound : Nat}
    (distinct : ∀ i < bound, ∀ j < bound, c.draw i = c.draw j → i = j) (ids : List String) :
    ∀ (drawn : Nat) (s : MemoryDatabase), drawn + ids.length ≤ bound →
      (∀ row ∈ s.ledger, ∀ i, drawn ≤ i → i < bound → row.id ≠ (c.draw i).str) →
      c.insertEntries drawn ids s =
        .ok ((), { s with ledger := s.ledger ++ c.entries drawn ids }) := by
  induction ids with
  | nil =>
    intro drawn s _ _
    change (.ok ((), s) : Except Exc (Unit × MemoryDatabase)) = _
    simp [entries]
  | cons id rest ih =>
    intro drawn s room unused
    rw [List.length_cons] at room
    have inserted : MemoryDatabase.insertLedger (c.entry drawn id) s =
        .ok ((), { s with ledger := s.ledger ++ [c.entry drawn id] }) := by
      apply Tx.bind_ok.mpr
      refine ⟨_, _, rfl, Tx.bind_ok.mpr ⟨(), s, Tx.check_ok.mpr ⟨?_, rfl⟩, rfl⟩⟩
      simp only [List.any_eq_false, decide_eq_true_eq]
      intro row there
      exact unused row there drawn le_rfl (by omega)
    rw [insertEntries, Tx.bind_run inserted, ih (drawn + 1) _ (by omega)]
    · simp [entries]
    · intro row there i from_ below
      rw [List.mem_append, List.mem_singleton] at there
      obtain old | rfl := there
      · exact unused row old i (by omega) below
      · intro same
        have equal := distinct drawn (by omega) i below (Uuid.str_injective same)
        omega

/-! ## One call -/

/-- The tables after a call that found these records. -/
def left (c : DeleteMemory) (ids : List String) (s : MemoryDatabase) : MemoryDatabase :=
  { (s.markDeleted c.tenantId ids c.now).deleteProjections c.tenantId ids with
    ledger := s.ledger ++ c.entries 0 ids }

theorem left_nil : c.left [] s = s := by
  apply MemoryDatabase.ext <;>
    simp [left, MemoryDatabase.deleteProjections, MemoryDatabase.markDeleted, entries]
  exact List.map_id'' (fun row => by simp [MemoryRow.marked]) s.records

theorem existing_length_le (c : DeleteMemory) (s : MemoryDatabase) (rows : List String) :
    (s.existing c.tenantId rows).length ≤ s.records.length := by
  rw [MemoryDatabase.existing, List.length_map]
  exact List.length_filter_le _ _

theorem deleteRows_nothing (nothing : s.existing c.tenantId rows = []) :
    c.deleteRows rows s = .ok (0, s) := by
  have read : (Tx.read (·.existing c.tenantId rows) : Tx MemoryDatabase Exc _) s = .ok ([], s) :=
    congrArg (fun ids => Except.ok (ids, s)) nothing
  rw [deleteRows, Tx.bind_run read]
  rfl

theorem deleteRows_run (fresh : c.Fresh s) :
    c.deleteRows rows s = .ok ((s.existing c.tenantId rows).length,
      c.left (s.existing c.tenantId rows) s) := by
  by_cases nothing : s.existing c.tenantId rows = []
  · rw [deleteRows_nothing nothing, nothing, left_nil]
    rfl
  · apply Tx.bind_ok.mpr
    refine ⟨s.existing c.tenantId rows, s, rfl, ?_⟩
    rw [if_neg (by simpa using nothing)]
    apply Tx.bind_ok.mpr
    refine ⟨(), _, rfl, Tx.bind_ok.mpr ⟨(), _, rfl, Tx.bind_ok.mpr ⟨(), _, ?_, rfl⟩⟩⟩
    have room := existing_length_le c s rows
    exact insertEntries_run fresh.distinct _ 0 _ (by omega)
      fun row there i _ below => fresh.unused row there i below

section
variable (found : ∀ id, id ∈ rows ↔ Leads (s.children c.tenantId) c.memoryId.str id)
include found

theorem existing_doomed {row : MemoryRow} (there : row ∈ s.records) :
    row.id ∈ s.existing c.tenantId rows ↔ c.Doomed s row := by
  simp only [MemoryDatabase.existing, List.mem_map, List.mem_filter, Bool.and_eq_true,
    decide_eq_true_eq, List.contains_iff_mem, Option.isNone_iff_eq_none, found]
  constructor
  · rintro ⟨other, ⟨mem, ⟨tenant, leads⟩, live⟩, same⟩
    cases List.inj_on_of_nodup_map s.unique mem there same
    exact ⟨tenant, live, leads⟩
  · rintro ⟨tenant, live, leads⟩
    exact ⟨row, ⟨there, ⟨tenant, leads⟩, live⟩, rfl⟩

theorem left_deletes :
    c.Deletes s (c.left (s.existing c.tenantId rows) s) (s.existing c.tenantId rows) where
  nodup := (List.filter_sublist.map _).nodup s.unique
  listed id there := by
    obtain ⟨row, mem, rfl⟩ := List.mem_map.mp there
    exact ⟨row, List.mem_of_mem_filter mem, rfl⟩
  doomed row there := existing_doomed found there
  records := by
    apply List.map_congr_left
    intro row there
    have own : row.id ∈ s.existing c.tenantId rows → row.tenantId = c.tenantId.str :=
      fun mem => ((existing_doomed found there).mp mem).1
    by_cases mem : row.id ∈ s.existing c.tenantId rows
    · simp [MemoryRow.marked, mem, own mem]
    · simp [MemoryRow.marked, mem]
  projections := by
    apply List.filter_congr
    intro row _
    simp
  ledger := by
    refine ⟨_, rfl, entries_memoryId 0 _, ?_⟩
    intro row there
    obtain ⟨i, id, rfl⟩ := mem_entries there
    exact ⟨rfl, rfl, rfl, rfl⟩
  edges := rfl

end

/-- The rounds of the query end, with everything that the memory leads to. -/
theorem affected_leads (c : DeleteMemory) (s : MemoryDatabase) {rounds : Nat}
    (enough : s.edges.length < rounds) :
    ∃ rows, s.affected rounds c.tenantId c.memoryId = some rows ∧
      ∀ id, id ∈ rows ↔ Leads (s.children c.tenantId) c.memoryId.str id := by
  have stays : ∀ parent, ∀ child ∈ s.children c.tenantId parent,
      child ∈ c.memoryId.str :: s.edges.map (·.childMemoryId) := by
    intro parent child leads
    obtain ⟨edge, there, rfl⟩ := List.mem_map.mp leads
    exact List.mem_cons_of_mem _ (List.mem_map_of_mem (List.mem_of_mem_filter there))
  have room : (c.memoryId.str :: s.edges.map (·.childMemoryId)).length ≤ rounds := by
    rw [List.length_cons, List.length_map]
    exact enough
  obtain ⟨rows, ran, _, found⟩ := recursive_leads List.mem_cons_self stays room
  exact ⟨rows, ran, found⟩

theorem deleteMemory_nothing (c : DeleteMemory) (s : MemoryDatabase)
    (nothing : ∀ row ∈ s.records, ¬c.Doomed s row) {rounds : Nat}
    (enough : s.edges.length < rounds) : c.deleteMemory rounds s = some (.ok 0, s) := by
  obtain ⟨rows, ran, found⟩ := affected_leads c s enough
  have empty : s.existing c.tenantId rows = [] := by
    apply List.eq_nil_iff_forall_not_mem.mpr
    intro id there
    obtain ⟨row, mem, rfl⟩ := (left_deletes found).listed id there
    exact nothing row mem ((existing_doomed found mem).mp there)
  rw [deleteMemory, ran, Option.map_some, Tx.commit, deleteRows_nothing empty]

/-- Nothing is left to delete. -/
theorem Deletes.not_doomed (done : c.Deletes s s' deleted) :
    ∀ row ∈ s'.records, ¬c.Doomed s' row := by
  intro row there ⟨tenant, live, leads⟩
  rw [done.records] at there
  obtain ⟨old, mem, rfl⟩ := List.mem_map.mp there
  by_cases gone : old.id ∈ deleted
  · simp [gone] at live
  · rw [if_neg gone] at tenant live leads
    apply gone
    rw [done.doomed old mem]
    refine ⟨tenant, live, ?_⟩
    have same : s'.children c.tenantId = s.children c.tenantId := by
      funext parent
      simp only [MemoryDatabase.children, done.edges]
    rwa [same] at leads

/-- The same deletion asked for again, by whomever and whenever. -/
theorem Deletes.again (done : c.Deletes s s' deleted) (actorId : Uuid) (now : Instant)
    (draw : Nat → Uuid) {rounds : Nat} (enough : s.edges.length < rounds) :
    ({ c with actorId, now, draw } : DeleteMemory).deleteMemory rounds s' = some (.ok 0, s') := by
  apply deleteMemory_nothing
  · exact done.not_doomed
  · rw [done.edges]
    exact enough

/-- The rows of other tenants stay. -/
theorem Deletes.foreign (done : c.Deletes s s' deleted) :
    s'.records.filter (·.tenantId ≠ c.tenantId.str) =
      s.records.filter (·.tenantId ≠ c.tenantId.str) := by
  have own : ∀ row ∈ s.records, row.tenantId ≠ c.tenantId.str → row.id ∉ deleted :=
    fun row there other mem => other ((done.doomed row there).mp mem).1
  rw [done.records, List.filter_map]
  have kept : s.records.filter ((fun row => decide (row.tenantId ≠ c.tenantId.str)) ∘ fun row =>
      if row.id ∈ deleted then { row with status := "deleted", deletedAt := some c.now } else row) =
      s.records.filter (·.tenantId ≠ c.tenantId.str) := by
    apply List.filter_congr
    intro row _
    by_cases mem : row.id ∈ deleted <;> simp [mem]
  rw [kept]
  conv_rhs => rw [← List.map_id (s.records.filter (·.tenantId ≠ c.tenantId.str))]
  apply List.map_congr_left
  intro row there
  obtain ⟨mem, other⟩ := List.mem_filter.mp there
  exact if_neg (own row mem (by simpa using other))

/-- Whatever the tables hold and however the edges run, the call ends and deletes the tenant's
records that the memory leads to along the tenant's edges, and only these. The same call made
again at once deletes nothing. -/
theorem deleteMemory_cascade (c : DeleteMemory) (s : MemoryDatabase) (fresh : c.Fresh s)
    {rounds : Nat} (enough : s.edges.length < rounds) :
    ∃ deleted s', c.deleteMemory rounds s = some (.ok deleted.length, s') ∧
      c.Deletes s s' deleted ∧
      (s'.records.filter (·.tenantId ≠ c.tenantId.str) =
        s.records.filter (·.tenantId ≠ c.tenantId.str)) ∧
      ∀ (actorId : Uuid) (now : Instant) (draw : Nat → Uuid) (again : Nat),
        s.edges.length < again →
        ({ c with actorId, now, draw } : DeleteMemory).deleteMemory again s' =
          some (.ok 0, s') := by
  obtain ⟨rows, ran, found⟩ := affected_leads c s enough
  have done := left_deletes found
  refine ⟨s.existing c.tenantId rows, _, ?_, done, done.foreign, ?_⟩
  · rw [deleteMemory, ran, Option.map_some, Tx.commit, deleteRows_run fresh]
  · intro actorId now draw again room
    exact done.again actorId now draw room

namespace Sample

def row (id tenantId : Uuid) (deletedAt : Option Instant) : MemoryRow where
  id := id.str
  tenantId := tenantId.str
  scope := "goal"
  content := "the order was shipped"
  provenance := .arr []
  confidence := 1
  expiresAt := 10
  approvedBy := (9 : Uuid).str
  status := if deletedAt.isSome then "deleted" else "stable"
  definition := .obj []
  deletedAt
  createdAt := 0

def edge (parent child : Uuid) : DeletionEdgeRow := ⟨(1 : Uuid).str, parent.str, child.str⟩

/-- A cycle through a memory that is deleted already, and another tenant's memory below it. -/
def tables : MemoryDatabase where
  records := [row 11 1 none, row 12 1 (some 3), row 13 1 none, row 14 2 none]
  edges := [edge 11 12, edge 12 11, edge 12 13, edge 13 14]
  projections := []
  ledger := []
  unique := by decide +kernel

def call : DeleteMemory := ⟨1, 11, 9, 5, fun i => BitVec.ofNat 128 i⟩

theorem call_fresh : call.Fresh tables where
  distinct := by decide
  unused := by simp [tables]

/-- The two live memories of the tenant are deleted. -/
example : (call.deleteMemory 5 tables).map (·.1) = some (.ok 2) := by decide +kernel

end Sample

theorem tables_cascade : ∃ deleted s', Sample.call.deleteMemory 5 Sample.tables =
      some (.ok deleted.length, s') ∧ Sample.call.Deletes Sample.tables s' deleted ∧
      (s'.records.filter (·.tenantId ≠ Sample.call.tenantId.str) =
        Sample.tables.records.filter (·.tenantId ≠ Sample.call.tenantId.str)) ∧
      ∀ (actorId : Uuid) (now : Instant) (draw : Nat → Uuid) (again : Nat), 4 < again →
        ({ Sample.call with actorId, now, draw } : DeleteMemory).deleteMemory again s' =
          some (.ok 0, s') :=
  deleteMemory_cascade Sample.call Sample.tables Sample.call_fresh (by decide)

end DeleteMemory

end Autonoesis.Memory
