import Mathlib.Data.List.Forall2
import Autonoesis.Base.History
import Autonoesis.Persistence.Reservations
import Autonoesis.Runtime.Budget

/-! The reservation store in memory beside the one in PostgreSQL, with the same calls: when
both answer alike, over whole histories. -/

namespace Autonoesis
open Base

/-- The two stores. -/
structure Twin where
  memory : Reservations
  tables : ReservationTables

/-- A call made to both: each draws its own identifiers, and a completion names the
reservation by its place in the order of acquisition. -/
inductive TwinCall where
  | reserve (request : ExecutionReservation) (memoryId : String) (draw : ReservationDraw)
  | complete (i : Nat) (receipt : ToolReceipt)

/-- The identifiers that are drawn are in use in neither table. -/
structure ReservationDraw.Fresh (draw : ReservationDraw) (t : ReservationTables) : Prop where
  record : ∀ row ∈ t.records, row.id ≠ draw.reservationId
  entry : ∀ row ∈ t.ledger, row.id ≠ draw.entryId
  reference : ∀ row ∈ t.ledger, row.reference ≠ "tool-reservation:" ++ draw.reservationId

namespace Twin

def step (t : Twin) : TwinCall → Twin
  | .reserve request memoryId draw =>
    ⟨(t.memory.reserve request memoryId).2, (t.tables.reserve request draw).2⟩
  | .complete i receipt =>
    match t.memory.heap[i]?, t.tables.records[i]? with
    | some r, some row => ⟨(t.memory.complete r.reservationId receipt).2,
        (t.tables.complete row.tenantId row.id receipt).2⟩
    | _, _ => t

/-- The two stores without a call, over the Runs and Goals of the tables. -/
def start (limit : Int) (runs : Dict (String × String) String)
    (goals : Dict (String × String) BudgetAmount) : Twin :=
  ⟨.initial limit, { runs, goals }⟩

/-- The setting: fresh identifiers, the same limit on both sides, and at most one completion
of a reservation. -/
def Legal (limit : Int) (t : Twin) : TwinCall → Prop
  | .reserve request memoryId draw => t.memory.byId.get? memoryId = none ∧ draw.Fresh t.tables ∧
    t.tables.limitOf request.tenantId request.runId = .ok limit
  | .complete i _ => ∀ r, t.memory.heap[i]? = some r → r.receipt = none

/-- Both answer with the same status, and with the same receipt when it is cached. -/
def Agrees (t : Twin) : TwinCall → Prop
  | .reserve request memoryId draw => ∃ d, (t.tables.reserve request draw).1 = .ok d ∧
    d.status = (t.memory.reserve request memoryId).1.status ∧
    (d.status = .cached → d.receipt = (t.memory.reserve request memoryId).1.receipt)
  | .complete .. => True

/-- When both answer alike: a repeated request has the tool version of the first, and the
receipt stored for it was not a rejection and fits its column; a first request within the
budget fits its columns. -/
def Alike (t : Twin) : TwinCall → Prop
  | .reserve request _ _ =>
    match t.memory.record? request.key with
    | some r => r.request.requestDigest = request.requestDigest →
      r.request.toolVersion = request.toolVersion ∧
        ∀ receipt, r.receipt = some receipt → receipt.status ≠ .rejected ∧ receipt.storable = true
    | none => t.memory.usedBy request.usageKey + request.costUnits ≤ t.memory.limit →
      request.storable = true
  | .complete .. => True

/-- How a row stands for what memory holds of a receipt. -/
def Encodes (row : IdempotencyRow) : Option ToolReceipt → Prop
  | none => row.status = .pending
  | some receipt =>
    if receipt.storable then
      row.status = receipt.status.recordStatus ∧ row.externalId.getD "" = receipt.externalId ∧
        row.output = receipt.output
    else row.status = .pending

structure Matches (r : MemoryReservation) (row : IdempotencyRow) : Prop where
  tenantId : row.tenantId = r.request.tenantId
  idempotencyKey : row.idempotencyKey = r.request.idempotencyKey
  requestDigest : row.requestDigest = r.request.requestDigest
  toolVersion : row.toolVersion = some r.request.toolVersion
  receipt : Encodes row r.receipt

/-- The two stores hold the same reservations, in the same order, and the same charges. -/
structure Related (limit : Int) (t : Twin) : Prop where
  consistent : t.memory.Consistent
  limit_eq : t.memory.limit = limit
  rows : List.Forall₂ Matches t.memory.heap t.tables.records
  ids : (t.tables.records.map (·.id)).Nodup
  used : ∀ u, t.tables.used u = t.memory.usedBy u

end Twin

/-- Over a consistent heap, the index finds the first record of a key. -/
theorem Reservations.record?_eq_find? {s : Reservations} (c : s.Consistent)
    (key : String × String) : s.record? key = s.heap.find? (fun r => r.request.key = key) := by
  cases found : s.heap.find? (fun r => r.request.key = key) with
  | some r =>
    obtain ⟨a, at_⟩ := List.mem_iff_getElem?.mp (List.mem_of_find?_eq_some found)
    have same : r.request.key = key := by simpa using List.find?_some found
    unfold record?
    rw [← same, (c.indexed a r at_).1]
    exact at_
  | none =>
    cases held : s.record? key with
    | none => rfl
    | some r =>
      obtain ⟨a, _, at_, same⟩ := record?_some s c held
      have other := List.find?_eq_none.mp found r (List.mem_of_getElem? at_)
      simp [same] at other

theorem forall₂_find? {α β : Type} {R : α → β → Prop} {p : α → Bool} {q : β → Bool}
    {l : List α} {l' : List β} (related : List.Forall₂ R l l')
    (same : ∀ a b, R a b → p a = q b) :
    (l.find? p = none ∧ l'.find? q = none) ∨
      ∃ a b, l.find? p = some a ∧ l'.find? q = some b ∧ R a b := by
  induction related with
  | nil => exact Or.inl ⟨rfl, rfl⟩
  | @cons a b l l' head _ ih =>
    rw [List.find?_cons, List.find?_cons, ← same a b head]
    cases p a with
    | true => exact Or.inr ⟨a, b, rfl, rfl, head⟩
    | false => exact ih

theorem forall₂_modify {α β : Type} {R : α → β → Prop} {f : α → α} {g : β → β} {l : List α}
    {l' : List β} (related : List.Forall₂ R l l') (i : Nat)
    (here : ∀ a b, l[i]? = some a → l'[i]? = some b → R a b → R (f a) (g b)) :
    List.Forall₂ R (l.modify i f) (l'.modify i g) := by
  induction related generalizing i with
  | nil => simp
  | @cons a b l l' head tail ih =>
    cases i with
    | zero => exact .cons (here a b rfl rfl head) tail
    | succ i => exact .cons head (ih i here)

namespace ReservationTables
variable {t : ReservationTables} {request : ExecutionReservation} {draw : ReservationDraw}

/-- What an entry must meet to be written. -/
theorem addEntry_eq_ok {row : BudgetRow} {t' : ReservationTables} :
    t.addEntry row = .ok t' ↔ (t.runs.get? (row.tenantId, row.runId)).isSome ∧ 0 < row.amount ∧
      (∀ old ∈ t.ledger, old.id ≠ row.id) ∧
      (∀ old ∈ t.ledger, old.tenantId = row.tenantId → old.runId = row.runId →
        old.reference ≠ row.reference) ∧ t' = { t with ledger := t.ledger ++ [row] } := by
  unfold addEntry
  split
  · rename_i missing
    rw [Option.isNone_iff_eq_none] at missing
    simp [missing]
  · rename_i run
    rw [Bool.not_eq_true, Option.isNone_eq_false_iff] at run
    split
    · simp only [reduceCtorEq, false_iff]
      omega
    · rename_i positive
      split
      · rename_i taken
        simp only [List.any_eq_true, decide_eq_true_eq] at taken
        obtain ⟨old, there, same⟩ := taken
        simp only [reduceCtorEq, false_iff]
        rintro ⟨_, _, unused, _⟩
        exact unused old there same
      · rename_i unused
        split
        · rename_i taken
          simp only [List.any_eq_true, Bool.and_eq_true, decide_eq_true_eq] at taken
          obtain ⟨old, there, ⟨tenant, member⟩, same⟩ := taken
          simp only [reduceCtorEq, false_iff]
          rintro ⟨_, _, _, free, _⟩
          exact free old there tenant member same
        · rename_i free
          simp only [List.any_eq_true, Bool.and_eq_true, decide_eq_true_eq, not_exists, not_and]
            at unused free
          simp only [Except.ok.injEq, run, true_and]
          constructor
          · rintro rfl
            exact ⟨by omega, unused, fun old there tenant member => free old there ⟨tenant, member⟩,
              rfl⟩
          · rintro ⟨_, _, _, rfl⟩
            rfl

/-- The tables with the record and the charge of a reservation. -/
def granted (t : ReservationTables) (request : ExecutionReservation) (draw : ReservationDraw) :
    ReservationTables :=
  { t with
    records := t.records ++ [reserved request draw]
    ledger := t.ledger ++ [charge request draw] }

/-- A reservation that fits its columns is written. -/
theorem acquire_ok (storable : request.storable = true) (fresh : draw.Fresh t)
    (run : (t.runs.get? (request.tenantId, request.runId)).isSome) :
    t.acquire request draw = .ok (t.granted request draw) := by
  have positive : 0 < request.costUnits := by
    simp only [ExecutionReservation.storable, Bool.and_eq_true, decide_eq_true_eq] at storable
    omega
  unfold acquire
  rw [if_neg (by simp [storable]), if_neg (by simpa using fresh.record)]
  exact addEntry_eq_ok.mpr ⟨run, positive, fresh.entry,
    fun old there _ _ => fresh.reference old there, rfl⟩

/-- One that does not fit raises. -/
theorem acquire_unstorable (unfit : request.storable = false) :
    ∃ e, t.acquire request draw = .error e := by
  simp [acquire, unfit]

theorem run_of_limitOf {tenantId runId : String} {limit : Int}
    (h : t.limitOf tenantId runId = .ok limit) : (t.runs.get? (tenantId, runId)).isSome := by
  unfold limitOf at h
  split at h
  · cases h
  · rename_i found
    rw [found]
    rfl

/-- What a reserve on a key without a record comes to. -/
theorem reserve_first (fresh : draw.Fresh t) (absent : t.record? request.key = none) {limit : Int}
    (bound : t.limitOf request.tenantId request.runId = .ok limit) :
    (limit < t.used request.usageKey + request.costUnits ∧
      t.reserve request draw = (.ok ⟨.budgetExhausted, none, none⟩, t)) ∨
    (t.used request.usageKey + request.costUnits ≤ limit ∧
      ((request.storable = false ∧ ∃ e, t.reserve request draw = (.error e, t)) ∨
      (request.storable = true ∧ t.reserve request draw =
        (.ok ⟨.acquired, some draw.reservationId, none⟩, t.granted request draw)))) := by
  simp only [reserve, absent, bound]
  by_cases above : limit < t.used request.usageKey + request.costUnits
  · exact Or.inl ⟨above, if_pos above⟩
  · refine Or.inr ⟨Int.not_lt.mp above, ?_⟩
    rw [if_neg above]
    cases fits : request.storable with
    | false =>
      obtain ⟨e, refused⟩ : ∃ e, t.acquire request draw = .error e := acquire_unstorable fits
      exact Or.inl ⟨rfl, e, by rw [refused]⟩
    | true =>
      refine Or.inr ⟨rfl, ?_⟩
      rw [acquire_ok fits fresh (run_of_limitOf bound)]

theorem granted_ids (ids : (t.records.map (·.id)).Nodup) (fresh : draw.Fresh t) :
    ((t.granted request draw).records.map (·.id)).Nodup := by
  rw [granted, List.map_append, List.nodup_append]
  refine ⟨ids, List.nodup_singleton _, ?_⟩
  intro a there b new same
  obtain ⟨row, listed, rfl⟩ := List.mem_map.mp there
  cases List.mem_singleton.mp new
  exact fresh.record row listed same

theorem used_granted (u : String × String) :
    (t.granted request draw).used u =
      t.used u + if request.usageKey = u then request.costUnits else 0 := by
  simp only [used, granted, List.filter_append, List.map_append, List.sum_append]
  by_cases same : request.usageKey = u <;>
    simp_all [chargedTo, charge, ExecutionReservation.usageKey]

end ReservationTables

namespace Twin
variable {limit : Int} {t : Twin}

theorem start_related (runs : Dict (String × String) String)
    (goals : Dict (String × String) BudgetAmount) : Related limit (start limit runs goals) where
  consistent := Reservations.initial_consistent limit
  limit_eq := rfl
  rows := .nil
  ids := List.nodup_nil
  used _ := rfl

theorem Matches.key {r : MemoryReservation} {row : IdempotencyRow} (m : Matches r row) :
    row.key = r.request.key := by
  rw [IdempotencyRow.key, m.tenantId, m.idempotencyKey]
  rfl

/-- A key has a record in both stores or in none. -/
theorem Related.lookup (rel : Related limit t) (key : String × String) :
    (t.memory.record? key = none ∧ t.tables.record? key = none) ∨
    ∃ r row, t.memory.record? key = some r ∧ t.tables.record? key = some row ∧ Matches r row := by
  rw [Reservations.record?_eq_find? rel.consistent]
  refine forall₂_find? rel.rows fun r row same => ?_
  rw [same.key]

/-- On a repeated request, the two decisions are alike exactly when the tool version is the
same and the stored receipt survives its columns. -/
theorem existingDecision_alike {r : MemoryReservation} {row : IdempotencyRow} (m : Matches r row)
    (request : ExecutionReservation) :
    ((row.existingDecision request).status = (Reservations.existingDecision r request).status ∧
      ((row.existingDecision request).status = .cached →
        (row.existingDecision request).receipt =
          (Reservations.existingDecision r request).receipt)) ↔
    (r.request.requestDigest = request.requestDigest →
      r.request.toolVersion = request.toolVersion ∧
        ∀ receipt, r.receipt = some receipt →
          receipt.status ≠ .rejected ∧ receipt.storable = true) := by
  have encoded := m.receipt
  unfold IdempotencyRow.existingDecision Reservations.existingDecision
  rw [m.requestDigest, m.toolVersion]
  by_cases digest : r.request.requestDigest = request.requestDigest
  · rw [if_neg (not_not_intro digest), if_neg (not_not_intro digest)]
    simp only [digest, forall_const]
    by_cases version : r.request.toolVersion = request.toolVersion
    · rw [if_neg (by simp [version])]
      cases held : r.receipt with
      | none =>
        rw [held] at encoded
        simp only [Encodes] at encoded
        simp [encoded, version]
      | some receipt =>
        rw [held] at encoded
        simp only [Encodes] at encoded
        cases fits : receipt.storable with
        | false =>
          rw [fits, if_neg Bool.false_ne_true] at encoded
          simp only [encoded, version, Option.some.injEq, true_and]
          constructor
          · rintro ⟨same, _⟩
            split at same <;> cases same
          · intro h
            have := (h receipt rfl).2
            rw [fits] at this
            cases this
        | true =>
          rw [fits, if_pos rfl] at encoded
          obtain ⟨status, external, output⟩ := encoded
          obtain ⟨externalId, result, out⟩ := receipt
          simp only at status external output
          cases result <;> simp [status, ToolResultStatus.recordStatus, external, output, version,
            fits]
    · rw [if_pos ⟨by simp, fun same => version (Option.some.inj same)⟩]
      simp only [version, false_and, iff_false]
      rintro ⟨same, _⟩
      split at same
      · cases same
      · split at same <;> cases same
  · rw [if_pos digest, if_pos digest]
    simp [digest]

/-- What the two stores decide on a first request. -/
theorem Related.firstRequest (rel : Related limit t) {request : ExecutionReservation}
    {memoryId : String} {draw : ReservationDraw} (absent : t.memory.record? request.key = none)
    (legal : Legal limit t (.reserve request memoryId draw)) :
    (limit < t.memory.usedBy request.usageKey + request.costUnits ∧
      t.memory.reserve request memoryId = (⟨.budgetExhausted, none, none⟩, t.memory) ∧
      t.tables.reserve request draw = (.ok ⟨.budgetExhausted, none, none⟩, t.tables)) ∨
    (t.memory.usedBy request.usageKey + request.costUnits ≤ limit ∧
      t.memory.reserve request memoryId =
        (⟨.acquired, some memoryId, none⟩, t.memory.acquire request memoryId) ∧
      ((request.storable = false ∧ ∃ e, (t.tables.reserve request draw).1 = .error e) ∨
        request.storable = true ∧ t.tables.reserve request draw =
          (.ok ⟨.acquired, some draw.reservationId, none⟩, t.tables.granted request draw))) := by
  obtain ⟨_, fresh, bound⟩ := legal
  have absent' : t.tables.record? request.key = none := by
    rcases rel.lookup request.key with ⟨_, none⟩ | ⟨r, _, found, _⟩
    · exact none
    · rw [absent] at found
      cases found
  have answered := ReservationTables.reserve_first fresh absent' bound
  rw [rel.used] at answered
  simp only [Reservations.reserve, absent, rel.limit_eq]
  obtain ⟨above, tables⟩ | ⟨within, tables⟩ := answered
  · exact Or.inl ⟨above, if_pos above, tables⟩
  · refine Or.inr ⟨within, if_neg (Int.not_lt.mpr within), ?_⟩
    obtain ⟨unfit, e, refused⟩ | granted := tables
    · exact Or.inl ⟨unfit, e, by rw [refused]⟩
    · exact Or.inr granted

/-- A call is answered alike exactly when it meets the condition. -/
theorem Related.agrees_iff (rel : Related limit t) {c : TwinCall} (legal : Legal limit t c) :
    Agrees t c ↔ Alike t c := by
  cases c with
  | complete => exact Iff.rfl
  | reserve request memoryId draw =>
    simp only [Agrees, Alike]
    rcases rel.lookup request.key with ⟨absent, _⟩ | ⟨r, row, found, found', same⟩
    · simp only [absent, rel.limit_eq]
      obtain ⟨above, memory, tables⟩ | ⟨within, memory, ⟨unfit, e, tables⟩ | ⟨fits, tables⟩⟩ :=
        rel.firstRequest absent legal
      · simp only [memory, tables, Except.ok.injEq, exists_eq_left', reduceCtorEq, false_implies,
          and_self, true_iff]
        intro within
        omega
      · simp [tables, unfit, within]
      · simp [memory, tables, fits]
    · have memory : t.memory.reserve request memoryId =
          (Reservations.existingDecision r request, t.memory) := by
        simp only [Reservations.reserve, found]
      have tables : t.tables.reserve request draw = (.ok (row.existingDecision request), t.tables) := by
        simp only [ReservationTables.reserve, found']
      rw [memory, tables, found]
      simp only [Except.ok.injEq, exists_eq_left']
      exact existingDecision_alike same request

/-- A row settled beside the record it stands for still stands for it. -/
theorem Matches.settled {r : MemoryReservation} {row : IdempotencyRow} (m : Matches r row)
    (receipt : ToolReceipt) (fits : receipt.storable = true) :
    Matches { r with receipt := some receipt } (row.settled receipt) where
  tenantId := m.tenantId
  idempotencyKey := m.idempotencyKey
  requestDigest := m.requestDigest
  toolVersion := m.toolVersion
  receipt := by
    simp only [Encodes, fits, ↓reduceIte, IdempotencyRow.settled, IdempotencyRow.output,
      Option.map_some, Option.getD_some, true_and, and_true]
    split
    · rename_i blank
      rw [blank]
      rfl
    · rfl

theorem Matches.unsettled {r : MemoryReservation} {row : IdempotencyRow} (m : Matches r row)
    (open_ : r.receipt = none) (receipt : ToolReceipt) (unfit : receipt.storable = false) :
    Matches { r with receipt := some receipt } row where
  tenantId := m.tenantId
  idempotencyKey := m.idempotencyKey
  requestDigest := m.requestDigest
  toolVersion := m.toolVersion
  receipt := by
    have pending := m.receipt
    rw [open_] at pending
    simp only [Encodes, unfit, Bool.false_eq_true, ↓reduceIte]
    exact pending

end Twin

/-- An update by id, where ids are distinct, touches one row. -/
theorem ReservationTables.map_updated {rows : List IdempotencyRow}
    (ids : (rows.map (·.id)).Nodup) {i : Nat} {row : IdempotencyRow} (here : rows[i]? = some row)
    (pending : row.status = .pending) (receipt : ToolReceipt) :
    rows.map (·.updated row.tenantId row.id receipt) = rows.modify i (·.settled receipt) := by
  refine List.ext_getElem? fun j => ?_
  rw [List.getElem?_map, List.getElem?_modify]
  cases there : rows[j]? with
  | none => rfl
  | some other =>
    simp only [Option.map_some, IdempotencyRow.updated]
    by_cases same : i = j
    · subst same
      rw [here] at there
      cases there
      simp [IdempotencyRow.isOpen, pending]
    · have apart : other.id ≠ row.id := by
        intro sameId
        have bound : i < (rows.map (·.id)).length := by
          rw [List.length_map]
          exact (List.getElem?_eq_some_iff.mp here).1
        refine same ((List.getElem?_inj bound ids).mp ?_)
        rw [List.getElem?_map, List.getElem?_map, here, there, Option.map_some, Option.map_some,
          sameId]
      simp [IdempotencyRow.isOpen, apart, same]

theorem ReservationTables.complete_records (t : ReservationTables) (tenantId id : String)
    (receipt : ToolReceipt) :
    (t.complete tenantId id receipt).2.ledger = t.ledger ∧
      (t.complete tenantId id receipt).2.records.map (·.id) = t.records.map (·.id) := by
  unfold complete
  split
  · exact ⟨rfl, rfl⟩
  · split
    · exact ⟨rfl, rfl⟩
    · refine ⟨rfl, ?_⟩
      rw [List.map_map]
      refine List.map_congr_left fun row _ => ?_
      simp only [Function.comp_apply, IdempotencyRow.updated]
      split <;> rfl

/-- What a completion of a pending row does to the records. -/
theorem ReservationTables.complete_at {t : ReservationTables} (ids : (t.records.map (·.id)).Nodup)
    {i : Nat} {row : IdempotencyRow} (here : t.records[i]? = some row)
    (pending : row.status = .pending) (receipt : ToolReceipt) :
    (t.complete row.tenantId row.id receipt).2.records =
      if receipt.storable then t.records.modify i (·.settled receipt) else t.records := by
  have found : (t.records.any fun x => x.isOpen row.tenantId row.id) = true :=
    List.any_eq_true.mpr ⟨row, List.mem_of_getElem? here, by simp [IdempotencyRow.isOpen, pending]⟩
  unfold complete
  rw [if_neg (by simp [found])]
  cases fits : receipt.storable with
  | false => rfl
  | true => exact map_updated ids here pending receipt

/-- A completion of a reservation that has no receipt stores it. -/
theorem Reservations.complete_at {s : Reservations} (c : s.Consistent) {i : Nat}
    {r : MemoryReservation} (here : s.heap[i]? = some r) (open_ : r.receipt = none)
    (receipt : ToolReceipt) : (s.complete r.reservationId receipt).2 = s.settle i receipt := by
  simp [complete, (c.indexed i r here).2, here, open_]

namespace Twin
variable {limit : Int} {t : Twin}

theorem Related.reserve (rel : Related limit t) {request : ExecutionReservation}
    {memoryId : String} {draw : ReservationDraw}
    (legal : Legal limit t (.reserve request memoryId draw))
    (alike : Alike t (.reserve request memoryId draw)) :
    Related limit (t.step (.reserve request memoryId draw)) := by
  simp only [step]
  rcases rel.lookup request.key with ⟨absent, _⟩ | ⟨r, row, found, found', _⟩
  · obtain ⟨_, memory, tables⟩ | ⟨within, memory, ⟨unfit, _⟩ | ⟨_, tables⟩⟩ :=
      rel.firstRequest absent legal
    · rw [memory, tables]
      exact rel
    · simp only [Alike, absent, rel.limit_eq] at alike
      rw [alike within] at unfit
      cases unfit
    · rw [memory, tables]
      have absentKey := (Reservations.record?_none _ rel.consistent).mp absent
      have consistent := Reservations.acquire_consistent rel.consistent absentKey legal.1
        (by rw [rel.limit_eq]; exact within)
      refine ⟨consistent, rel.limit_eq, ?_, ?_, fun u => ?_⟩
      · exact List.rel_append rel.rows (.cons ⟨rfl, rfl, rfl, rfl, rfl⟩ .nil)
      · exact ReservationTables.granted_ids rel.ids legal.2.1
      · have before : t.tables.used u = t.memory.charges u :=
          (rel.used u).trans (rel.consistent.charged u)
        calc (t.tables.granted request draw).used u
            = t.memory.charges u + (if request.usageKey = u then request.costUnits else 0) := by
              rw [ReservationTables.used_granted, before]
          _ = (t.memory.acquire request memoryId).usedBy u := by
              rw [consistent.charged, Reservations.acquire_charges]
  · have memory : (t.memory.reserve request memoryId).2 = t.memory := by
      simp only [Reservations.reserve, found]
    have tables : (t.tables.reserve request draw).2 = t.tables := by
      simp only [ReservationTables.reserve, found']
    rw [memory, tables]
    exact rel

theorem Related.complete (rel : Related limit t) {i : Nat} {receipt : ToolReceipt}
    (legal : Legal limit t (.complete i receipt)) :
    Related limit (t.step (.complete i receipt)) := by
  simp only [step]
  split
  · rename_i r row here here'
    have open_ := legal r here
    have matched : Matches r row := by
      obtain ⟨bound, rfl⟩ := List.getElem?_eq_some_iff.mp here
      obtain ⟨bound', rfl⟩ := List.getElem?_eq_some_iff.mp here'
      exact rel.rows.get bound bound'
    have pending : row.status = .pending := by
      have encoded := matched.receipt
      rw [open_] at encoded
      exact encoded
    rw [Reservations.complete_at rel.consistent here open_]
    obtain ⟨ledger, ids⟩ := t.tables.complete_records row.tenantId row.id receipt
    refine ⟨Reservations.settle_consistent rel.consistent i receipt, rel.limit_eq, ?_, ?_, fun u => ?_⟩
    · rw [ReservationTables.complete_at rel.ids here' pending]
      cases fits : receipt.storable with
      | true => exact forall₂_modify rel.rows i fun a b _ _ m => m.settled receipt fits
      | false =>
        rw [if_neg Bool.false_ne_true, ← List.modify_id i t.tables.records]
        refine forall₂_modify rel.rows i fun a b at_ _ m => m.unsettled ?_ receipt fits
        rw [here] at at_
        cases at_
        exact open_
    · rw [ids]
      exact rel.ids
    · have same := rel.used u
      simp only [ReservationTables.used] at same ⊢
      rw [ledger]
      exact same
  · exact rel

theorem Related.step (rel : Related limit t) {c : TwinCall} (legal : Legal limit t c)
    (alike : Alike t c) : Related limit (t.step c) := by
  cases c with
  | reserve => exact rel.reserve legal alike
  | complete => exact rel.complete legal

/-- Over every history, the two stores answer every reserve alike exactly when every repeated
request keeps its tool version and finds a receipt that is no rejection and fits its column,
and every granted request fits its columns. -/
theorem answers_alike_iff (runs : Dict (String × String) String)
    (goals : Dict (String × String) BudgetAmount) {calls : List TwinCall}
    (legal : Along step (Legal limit) (start limit runs goals) calls) :
    Along step Agrees (start limit runs goals) calls ↔
      Along step Alike (start limit runs goals) calls :=
  along_congr (fun _ _ rel legal => rel.agrees_iff legal) (fun _ _ rel legal => rel.step legal)
    (start_related runs goals) legal

namespace Sample

def request : ExecutionReservation := ⟨"t", "r", "a", "mail", "1", "k", "d", 3⟩
def runs : Dict (String × String) String := Dict.empty.set ("t", "r") "g"
def goals : Dict (String × String) BudgetAmount := Dict.empty.set ("t", "g") ⟨10, .costUnits⟩

/-- A request, its receipt, and the request again. -/
def calls (receipt : ToolReceipt) : List TwinCall := [
  .reserve request "m1" ⟨"s1", "e1", 0⟩,
  .complete 0 receipt,
  .reserve request "m2" ⟨"s2", "e2", 0⟩]

/-- A rejection comes back as a failure from the tables. -/
theorem rejection_replayed :
    Along step (Legal 10) (start 10 runs goals) (calls ⟨"", .rejected, []⟩) ∧
    ¬ Along step Agrees (start 10 runs goals) (calls ⟨"", .rejected, []⟩) := by
  refine ⟨⟨⟨rfl, ⟨by decide, by decide, by decide⟩, rfl⟩, ?_,
    ⟨by decide, ⟨by decide, by decide, by decide⟩, rfl⟩, trivial⟩, ?_⟩
  · rintro r ⟨⟩
    rfl
  · rintro ⟨_, _, ⟨d, answered, _, receipt⟩, _⟩
    cases answered
    cases receipt rfl

/-- A success comes back as it was stored. -/
theorem answers_alike_success :
    Along step (Legal 10) (start 10 runs goals) (calls ⟨"msg-7", .succeeded, [("id", "7")]⟩) ∧
    Along step Agrees (start 10 runs goals) (calls ⟨"msg-7", .succeeded, [("id", "7")]⟩) := by
  have legal : Along step (Legal 10) (start 10 runs goals)
      (calls ⟨"msg-7", .succeeded, [("id", "7")]⟩) := by
    refine ⟨⟨rfl, ⟨by decide, by decide, by decide⟩, rfl⟩, ?_,
      ⟨by decide, ⟨by decide, by decide, by decide⟩, rfl⟩, trivial⟩
    rintro r ⟨⟩
    rfl
  refine ⟨legal, (answers_alike_iff runs goals legal).mpr ⟨fun _ => by decide, trivial, ?_, trivial⟩⟩
  refine fun _ => ⟨rfl, ?_⟩
  rintro receipt ⟨⟩
  decide

end Sample

end Twin

end Autonoesis
