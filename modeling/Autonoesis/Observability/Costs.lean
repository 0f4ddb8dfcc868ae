import Autonoesis.Base.History
import Autonoesis.Persistence.Agreement

/-!
# The cost phases of a Run in the two stores

The in-memory store keeps every entry it is given. The table of the SQL repository takes positive
amounts only, and a reference once for each Run, whatever the phase. The two stores are followed
side by side through the calls of `CostPhaseLedger.record` on one Run.
-/

namespace Autonoesis.Observability
open Base

/-- An entry of `InMemoryPlatformStore.budget_entries`. -/
structure BudgetEntry where
  entryId : Uuid
  tenantId : Uuid
  runId : Uuid
  category : String
  amount : Int
  unit : BudgetUnit
  reference : String
  createdAt : Instant

/-- What `list_budget_entries` returns of an entry. -/
structure ListedEntry where
  category : String
  amount : Int
  unit : BudgetUnit
  reference : String
  createdAt : Instant

/-- A call of `CostPhaseLedger.record` on the Run, with what each store draws for it. -/
structure CostCall where
  phase : CostPhase
  amount : Int
  reference : String
  memoryId : Uuid
  memoryNow : Instant
  rowId : Uuid
  rowNow : Instant

structure CostStores where
  memory : List BudgetEntry
  tables : ReservationTables

/-- `_RESERVE_ALIASES`. -/
def reserveAliases : List String := ["reserve", "tool_execution"]

/-- The body of the loop of `summarize_run`. -/
def addToPhase (phases : Dict String Int) (entry : ListedEntry) : Dict String Int :=
  let plus (phase : String) : Dict String Int :=
    phases.set phase ((phases.get? phase).getD 0 + entry.amount)
  if entry.category ∈ reserveAliases then plus "reserve"
  else if (phases.get? entry.category).isSome then plus entry.category
  else phases

def summarize (entries : List ListedEntry) : Dict String Int :=
  entries.foldl addToPhase
    ((((Dict.empty.set "estimate" 0).set "reserve" 0).set "settle" 0).set "retry_waste" 0)

namespace CostStores
variable (tenantId runId : Uuid)

/-- `record` over `InMemoryPlatformStore`. -/
def recordMemory (entries : List BudgetEntry) (c : CostCall) : Except Exc (List BudgetEntry) := do
  raiseIf (c.amount < 0) (.valueError "cost phases record non-negative amounts")
  raiseIf (isBlank c.reference) (.valueError "cost entries require an idempotent reference")
  return entries ++ [⟨c.memoryId, tenantId, runId, c.phase.value, c.amount, .costUnits, c.reference,
    c.memoryNow⟩]

/-- `record` over the SQL repository. -/
def recordTables (t : ReservationTables) (c : CostCall) : Except Exc ReservationTables :=
  t.recordPhase tenantId runId c.phase c.amount c.reference c.rowId c.rowNow

def step (s : CostStores) (c : CostCall) : CostStores where
  memory := ((recordMemory tenantId runId s.memory c).toOption).getD s.memory
  tables := ((recordTables tenantId runId s.tables c).toOption).getD s.tables

/-- `InMemoryPlatformStore.list_budget_entries`. -/
def listMemory (entries : List BudgetEntry) : List ListedEntry :=
  (entries.filter fun e => e.tenantId = tenantId && e.runId = runId).map fun e =>
    ⟨e.category, e.amount, e.unit, e.reference, e.createdAt⟩

/-- `list_budget_entries` of the SQL repository. -/
def listTables (t : ReservationTables) : List ListedEntry :=
  (t.ledger.filter fun row => row.tenantId = tenantId.str && row.runId = runId.str).map fun row =>
    ⟨row.category, row.amount, row.unit, row.reference, row.createdAt⟩

def memorySummary (s : CostStores) : Dict String Int := summarize (listMemory tenantId runId s.memory)

def tablesSummary (s : CostStores) : Dict String Int := summarize (listTables tenantId runId s.tables)

/-- An entry of the same phase and reference is in the ledger. -/
def Repeats (s : CostStores) (c : CostCall) : Prop :=
  ∃ e ∈ listMemory tenantId runId s.memory, e.category = c.phase.value ∧ e.reference = c.reference

/-- The stores accept the call or both refuse it, sum up alike after it, and sum up as before when
it repeats an entry. -/
structure Consistent (s : CostStores) (c : CostCall) : Prop where
  accepted : (recordMemory tenantId runId s.memory c).isOk =
    (recordTables tenantId runId s.tables c).isOk
  summary : memorySummary tenantId runId (step tenantId runId s c) =
    tablesSummary tenantId runId (step tenantId runId s c)
  repeated : Repeats tenantId runId s c →
    memorySummary tenantId runId (step tenantId runId s c) = memorySummary tenantId runId s ∧
      tablesSummary tenantId runId (step tenantId runId s c) = tablesSummary tenantId runId s

/-- The ledger refuses the call by its own checks, or the table has room for it. -/
def Clear (s : CostStores) (c : CostCall) : Prop :=
  c.amount < 0 ∨ isBlank c.reference = true ∨
    0 < c.amount ∧ c.amount < 2 ^ 63 ∧ c.reference.length ≤ 300 ∧
      ∀ e ∈ listTables tenantId runId s.tables, e.reference ≠ c.reference

/-- The Run is stored, and the table draws an identifier no row has. -/
def Legal (s : CostStores) (c : CostCall) : Prop :=
  (s.tables.runs.get? (tenantId.str, runId.str)).isSome ∧
    ∀ row ∈ s.tables.ledger, row.id ≠ c.rowId.str

/-- What a summary and the uniqueness of a reference depend on. -/
def content (e : ListedEntry) : String × Int × String := (e.category, e.amount, e.reference)

/-- The stores list the same of the Run. -/
def Related (s : CostStores) : Prop :=
  (listMemory tenantId runId s.memory).map content = (listTables tenantId runId s.tables).map content

/-! ## One call -/

variable {tenantId runId : Uuid} {s : CostStores} {c : CostCall}

theorem summarize_congr {entries entries' : List ListedEntry}
    (same : entries.map content = entries'.map content) : summarize entries = summarize entries' := by
  let add (phases : Dict String Int) (k : String × Int × String) : Dict String Int :=
    addToPhase phases ⟨k.1, k.2.1, .costUnits, k.2.2, 0⟩
  have through (l : List ListedEntry) (phases : Dict String Int) :
      l.foldl addToPhase phases = (l.map content).foldl add phases := by
    rw [List.foldl_map]
    rfl
  rw [summarize, summarize, through, through, same]

theorem recordMemory_ok {entries entries' : List BudgetEntry} :
    recordMemory tenantId runId entries c = .ok entries' ↔
      0 ≤ c.amount ∧ isBlank c.reference = false ∧ entries' = entries ++ [⟨c.memoryId, tenantId,
        runId, c.phase.value, c.amount, .costUnits, c.reference, c.memoryNow⟩] := by
  simp only [recordMemory, bind_eq_ok, raiseIf_eq_ok, decide_eq_false_iff_not, not_lt,
    exists_and_left, exists_const]
  refine and_congr_right fun _ => and_congr_right fun _ => ?_
  constructor
  · rintro ⟨⟩
    rfl
  · rintro rfl
    rfl

/-- The references of the Run in the table. -/
theorem mem_listTables {t : ReservationTables} {e : ListedEntry} :
    e ∈ listTables tenantId runId t ↔ ∃ row ∈ t.ledger, (row.tenantId = tenantId.str ∧
      row.runId = runId.str) ∧
      ⟨row.category, row.amount, row.unit, row.reference, row.createdAt⟩ = e := by
  simp only [listTables, List.mem_map, List.mem_filter, Bool.and_eq_true, decide_eq_true_eq,
    and_assoc]

theorem recordTables_ok (legal : Legal tenantId runId s c) {t : ReservationTables} :
    recordTables tenantId runId s.tables c = .ok t ↔ isBlank c.reference = false ∧
      (0 < c.amount ∧ c.amount < 2 ^ 63 ∧ c.reference.length ≤ 300 ∧
        ∀ e ∈ listTables tenantId runId s.tables, e.reference ≠ c.reference) ∧
      t = { s.tables with ledger := s.tables.ledger ++ [⟨c.rowId.str, tenantId.str, runId.str,
        c.phase.value, c.amount, .costUnits, c.reference, c.rowNow⟩] } := by
  obtain ⟨stored, fresh⟩ := legal
  have unused : (∀ e ∈ listTables tenantId runId s.tables, e.reference ≠ c.reference) ↔
      ∀ old ∈ s.tables.ledger, old.tenantId = tenantId.str → old.runId = runId.str →
        old.reference ≠ c.reference := by
    constructor
    · intro none old there tenant run
      exact none _ (mem_listTables.mpr ⟨old, there, ⟨tenant, run⟩, rfl⟩)
    · intro none e there
      obtain ⟨old, inside, ⟨tenant, run⟩, rfl⟩ := mem_listTables.mp there
      exact none old inside tenant run
  rw [unused]
  simp only [recordTables, ReservationTables.recordPhase, bind_eq_ok, raiseIf_eq_ok,
    decide_eq_false_iff_not, not_lt, not_le, exists_and_left, exists_const,
    ReservationTables.addEntry_eq_ok]
  constructor
  · rintro ⟨_, inked, short, small, _, positive, _, none, rfl⟩
    exact ⟨inked, ⟨positive, small, short, none⟩, rfl⟩
  · rintro ⟨inked, ⟨positive, small, short, none⟩, rfl⟩
    exact ⟨positive.le, inked, short, small, stored, positive, fresh, none, rfl⟩

theorem error_of_not_ok {ε α : Type} {x : Except ε α} (raised : ∀ a, x ≠ .ok a) :
    ∃ e, x = .error e := by
  cases x with
  | ok a => exact absurd rfl (raised a)
  | error e => exact ⟨e, rfl⟩

/-- A call that both stores refuse leaves both as they are. -/
theorem step_refused {e e' : Exc} (memory : recordMemory tenantId runId s.memory c = .error e)
    (tables : recordTables tenantId runId s.tables c = .error e') :
    step tenantId runId s c = s := by
  simp only [step, memory, tables]
  rfl

/-- A call that both stores accept adds the same content to both. -/
theorem related_step (related : Related tenantId runId s) {m : List BudgetEntry}
    {t : ReservationTables} (legal : Legal tenantId runId s c)
    (memory : recordMemory tenantId runId s.memory c = .ok m)
    (tables : recordTables tenantId runId s.tables c = .ok t) :
    Related tenantId runId (step tenantId runId s c) := by
  have stepped : step tenantId runId s c = ⟨m, t⟩ := by
    simp only [step, memory, tables]
    rfl
  obtain ⟨_, _, rfl⟩ := recordMemory_ok.mp memory
  obtain ⟨_, _, rfl⟩ := (recordTables_ok legal).mp tables
  have held : (listMemory tenantId runId s.memory).map content =
    (listTables tenantId runId s.tables).map content := related
  rw [stepped, Related]
  simp only [listMemory, listTables, List.filter_append, List.map_append] at held ⊢
  rw [held]
  simp [content]

/-- The reference of a repeated call is in the table already. -/
theorem used_of_repeats (related : Related tenantId runId s) (repeats : Repeats tenantId runId s c) :
    ∃ e ∈ listTables tenantId runId s.tables, e.reference = c.reference := by
  obtain ⟨e, there, _, reference⟩ := repeats
  have kept : content e ∈ (listTables tenantId runId s.tables).map content := by
    rw [← related]
    exact List.mem_map_of_mem there
  obtain ⟨e', there', same⟩ := List.mem_map.mp kept
  exact ⟨e', there', (congrArg (·.2.2) same).trans reference⟩

/-- What a clear call does: both stores refuse it, or both accept it and it repeats nothing. -/
theorem Clear.cases (clear : Clear tenantId runId s c) (related : Related tenantId runId s)
    (legal : Legal tenantId runId s c) :
    (∃ e e', recordMemory tenantId runId s.memory c = .error e ∧
      recordTables tenantId runId s.tables c = .error e') ∨
    ∃ m t, recordMemory tenantId runId s.memory c = .ok m ∧
      recordTables tenantId runId s.tables c = .ok t ∧ ¬Repeats tenantId runId s c := by
  by_cases room : 0 ≤ c.amount ∧ isBlank c.reference = false
  · obtain negative | blank | ⟨positive, small, short, unused⟩ := clear
    · omega
    · rw [room.2] at blank
      cases blank
    · refine .inr ⟨_, _, recordMemory_ok.mpr ⟨room.1, room.2, rfl⟩,
        (recordTables_ok legal).mpr ⟨room.2, ⟨positive, small, short, unused⟩, rfl⟩, ?_⟩
      intro repeats
      obtain ⟨e, there, reference⟩ := used_of_repeats related repeats
      exact unused e there reference
  · refine .inl ?_
    obtain ⟨e, memory⟩ := error_of_not_ok (x := recordMemory tenantId runId s.memory c)
      fun m ran => room ⟨(recordMemory_ok.mp ran).1, (recordMemory_ok.mp ran).2.1⟩
    obtain ⟨e', tables⟩ := error_of_not_ok (x := recordTables tenantId runId s.tables c)
      fun t ran => by
        obtain ⟨inked, ⟨positive, _⟩, _⟩ := (recordTables_ok legal).mp ran
        exact room ⟨positive.le, inked⟩
    exact ⟨e, e', memory, tables⟩

theorem Clear.related (clear : Clear tenantId runId s c) (related : Related tenantId runId s)
    (legal : Legal tenantId runId s c) : Related tenantId runId (step tenantId runId s c) := by
  obtain ⟨_, _, memory, tables⟩ | ⟨_, _, memory, tables, _⟩ := clear.cases related legal
  · rw [step_refused memory tables]
    exact related
  · exact related_step related legal memory tables

theorem consistent_iff (related : Related tenantId runId s) (legal : Legal tenantId runId s c) :
    Consistent tenantId runId s c ↔ Clear tenantId runId s c := by
  constructor
  · intro consistent
    have accepted := consistent.accepted
    by_cases room : 0 ≤ c.amount ∧ isBlank c.reference = false
    · rw [recordMemory_ok.mpr ⟨room.1, room.2, rfl⟩] at accepted
      cases tables : recordTables tenantId runId s.tables c with
      | error e =>
        rw [tables] at accepted
        cases accepted
      | ok t =>
        obtain ⟨_, free, _⟩ := (recordTables_ok legal).mp tables
        exact .inr (.inr free)
    · by_cases negative : c.amount < 0
      · exact .inl negative
      · refine .inr (.inl ?_)
        by_contra inked
        exact room ⟨by omega, by simpa using inked⟩
  · intro clear
    have summary : memorySummary tenantId runId (step tenantId runId s c) =
        tablesSummary tenantId runId (step tenantId runId s c) :=
      summarize_congr (clear.related related legal)
    obtain ⟨e, e', memory, tables⟩ | ⟨m, t, memory, tables, new⟩ := clear.cases related legal
    · refine ⟨by rw [memory, tables]; rfl, summary, fun _ => ?_⟩
      rw [step_refused memory tables]
      exact ⟨rfl, rfl⟩
    · exact ⟨by rw [memory, tables]; rfl, summary, fun repeats => absurd repeats new⟩

/-- Over any calls on a Run, the two stores agree and repeats count once exactly when each call is
refused by the ledger itself or has a positive amount and a reference that the Run has not used. -/
theorem costs_consistent_iff (tenantId runId : Uuid) (s : CostStores) (calls : List CostCall)
    (related : Related tenantId runId s)
    (legal : Along (step tenantId runId) (Legal tenantId runId) s calls) :
    Along (step tenantId runId) (Consistent tenantId runId) s calls ↔
      Along (step tenantId runId) (Clear tenantId runId) s calls :=
  along_congr
    (fun (s : CostStores) (c : CostCall) (related : Related tenantId runId s)
      (legal : Legal tenantId runId s c) => consistent_iff related legal)
    (fun (s : CostStores) (c : CostCall) (related : Related tenantId runId s)
      (legal : Legal tenantId runId s c) clear => clear.related related legal) related legal

end CostStores

namespace CostSample

/-- A Run without entries. -/
def stores : CostStores where
  memory := []
  tables := { runs := Dict.empty.set (Uuid.str 1, Uuid.str 2) "goal" }

def call (phase : CostPhase) (reference : String) (id : Uuid) : CostCall :=
  ⟨phase, 5, reference, id, 0, id, 0⟩

/-- The settlement of an estimate, under one reference. -/
theorem settlement_refused : ¬∀ (tenantId runId : Uuid) (s : CostStores) (calls : List CostCall),
    CostStores.Related tenantId runId s →
      Along (CostStores.step tenantId runId) (CostStores.Legal tenantId runId) s calls →
      Along (CostStores.step tenantId runId) (CostStores.Consistent tenantId runId) s calls := by
  intro consistent
  have both := consistent 1 2 stores [call .estimate "task-1" 7,
    call .settle "task-1" 8] rfl
    ⟨⟨by decide +kernel, by decide +kernel⟩, ⟨by decide +kernel, by decide +kernel⟩, trivial⟩
  have accepted := both.2.1.accepted
  revert accepted
  decide +kernel

/-- Three phases under references of their own, and a blank reference that the ledger refuses. -/
def phases : List CostCall := [call .estimate "task-1" 7, call .reserve "task-2" 8,
  call .settle " " 9, call .settle "task-3" 9]

/-- An estimate that is recorded again. -/
def repeated : List CostCall := [call .estimate "task-1" 7, call .estimate "task-1" 8]

theorem phases_recorded : Along (CostStores.step 1 2) (CostStores.Consistent 1 2) stores phases ∧
    ¬Along (CostStores.step 1 2) (CostStores.Consistent 1 2) stores repeated := by
  constructor
  · refine (CostStores.costs_consistent_iff 1 2 stores phases rfl
      ⟨⟨by decide +kernel, by decide +kernel⟩, ⟨by decide +kernel, by decide +kernel⟩,
        ⟨by decide +kernel, by decide +kernel⟩, ⟨by decide +kernel, by decide +kernel⟩,
          trivial⟩).mpr
      ⟨.inr (.inr ⟨by decide, by decide, by decide, by decide +kernel⟩),
        .inr (.inr ⟨by decide, by decide, by decide, by decide +kernel⟩), .inr (.inl (by decide)),
        .inr (.inr ⟨by decide, by decide, by decide, by decide +kernel⟩), trivial⟩
  · intro consistent
    have clear := (CostStores.costs_consistent_iff 1 2 stores repeated rfl
      ⟨⟨by decide +kernel, by decide +kernel⟩, ⟨by decide +kernel, by decide +kernel⟩,
        trivial⟩).mp consistent
    rcases clear.2.1 with negative | blank | ⟨_, _, _, fresh⟩
    · exact absurd negative (by decide)
    · exact absurd blank (by decide)
    · exact absurd fresh (by decide +kernel)

end CostSample

end Autonoesis.Observability
