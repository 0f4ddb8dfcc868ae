import Autonoesis.Persistence.Agreement

/-! Funds over whole histories of the tables: reservations of the gateway, cost entries of the
other phases, and new Runs of a Goal. The gateway sums every entry of the one Run in cost
units, whatever its phase, and compares it with the budget of the Goal. -/

namespace Autonoesis
open Base

/-- A call on the tables. -/
inductive FundsCall where
  | requestRun (tenantId runId goalId : String)
  | reserve (request : ExecutionReservation) (draw : ReservationDraw)
  | complete (tenantId id : String) (receipt : ToolReceipt)
  | entry (tenantId runId : Uuid) (phase : CostPhase) (amount : Int) (reference : String)
      (entryId : Uuid) (now : Instant)

/-- The entries that hold no funds. -/
def CostPhase.isNoise (phase : CostPhase) : Bool :=
  phase = .estimate || phase = .settle || phase = .retryWaste

def BudgetRow.isNoise (row : BudgetRow) : Bool :=
  row.category = "estimate" || row.category = "settle" || row.category = "retry_waste"

def FundsCall.isNoise : FundsCall → Bool
  | .entry _ _ phase _ _ _ _ => phase.isNoise
  | _ => false

namespace ReservationTables

/-- The row `add_run` inserts, as far as reservations read it. -/
def addRun (t : ReservationTables) (tenantId runId goalId : String) : ReservationTables :=
  if (t.runs.get? (tenantId, runId)).isSome then t
  else { t with runs := t.runs.set (tenantId, runId) goalId }

def call (t : ReservationTables) : FundsCall → ReservationTables
  | .requestRun tenantId runId goalId => t.addRun tenantId runId goalId
  | .reserve request draw => (t.reserve request draw).2
  | .complete tenantId id receipt => (t.complete tenantId id receipt).2
  | .entry tenantId runId phase amount reference entryId now =>
    match t.recordPhase tenantId runId phase amount reference entryId now with
    | .ok t' => t'
    | .error _ => t

/-- The tables of a history: identifiers are drawn afresh, and an entry is one that was
accepted. -/
def Legal (t : ReservationTables) : FundsCall → Prop
  | .reserve _ draw => draw.Fresh t
  | .entry tenantId runId phase amount reference entryId now =>
    ∃ t', t.recordPhase tenantId runId phase amount reference entryId now = .ok t'
  | _ => True

/-- The status a reserve returns, or nothing when it raises. -/
def status (t : ReservationTables) (request : ExecutionReservation) (draw : ReservationDraw) :
    Option ReservationStatus :=
  match (t.reserve request draw).1 with
  | .ok d => some d.status
  | .error _ => none

/-- What a call returns of a status: a reserve its own, other calls none. -/
def answer (t : ReservationTables) : FundsCall → Option (Option ReservationStatus)
  | .reserve request draw => some (t.status request draw)
  | _ => none

/-- What the reserves of a history return. -/
def statuses : ReservationTables → List FundsCall → List (Option ReservationStatus)
  | _, [] => []
  | t, c :: rest => (t.answer c).toList ++ statuses (t.call c) rest

/-- The tables without the entries that hold no funds. -/
def held (t : ReservationTables) : ReservationTables :=
  { t with ledger := t.ledger.filter fun row => !row.isNoise }

/-- The request is not in the gap between held funds and all entries: it is not the case that
it fits beside the one and not beside the other. -/
def OutsideGap (t : ReservationTables) : FundsCall → Prop
  | .reserve request _ => t.record? request.key = none →
    ∀ limit, t.limitOf request.tenantId request.runId = .ok limit →
      ¬ (t.held.used request.usageKey + request.costUnits ≤ limit ∧
        limit < t.used request.usageKey + request.costUnits)
  | _ => True

end ReservationTables

namespace ReservationTables
variable {t : ReservationTables}

/-- The entry a phase records, and that it was accepted. -/
theorem recordPhase_ok {tenantId runId : Uuid} {phase : CostPhase} {amount : Int}
    {reference : String} {entryId : Uuid} {now : Instant} {t' : ReservationTables}
    (h : t.recordPhase tenantId runId phase amount reference entryId now = .ok t') :
    t.addEntry ⟨entryId.str, tenantId.str, runId.str, phase.value, amount, .costUnits, reference,
      now⟩ = .ok t' := by
  simp only [recordPhase, bind_eq_ok] at h
  obtain ⟨_, _, _, _, _, _, _, _, accepted⟩ := h
  exact accepted

/-- Every amount of the ledger is positive. -/
def Positive (t : ReservationTables) : Prop := ∀ row ∈ t.ledger, 0 < row.amount

theorem phase_isNoise (phase : CostPhase) (row : BudgetRow) (same : row.category = phase.value) :
    row.isNoise = phase.isNoise := by
  cases phase <;> simp [BudgetRow.isNoise, CostPhase.isNoise, same, CostPhase.value]

theorem charge_isNoise (request : ExecutionReservation) (draw : ReservationDraw) :
    (charge request draw).isNoise = false := by
  simp [BudgetRow.isNoise, charge]

theorem held_granted (request : ExecutionReservation) (draw : ReservationDraw) :
    (t.granted request draw).held = t.held.granted request draw := by
  simp [held, granted, charge_isNoise]

theorem held_fresh {draw : ReservationDraw} (fresh : draw.Fresh t) : draw.Fresh t.held where
  record := fresh.record
  entry row there := fresh.entry row (List.mem_of_mem_filter there)
  reference row there := fresh.reference row (List.mem_of_mem_filter there)

/-- Held funds are part of all entries. -/
theorem held_used_le (positive : t.Positive) (u : String × String) : t.held.used u ≤ t.used u := by
  unfold used held
  have rows : ∀ rows : List BudgetRow, (∀ row ∈ rows, 0 < row.amount) →
      (((rows.filter fun row => !row.isNoise).filter (chargedTo u)).map (·.amount)).sum ≤
        ((rows.filter (chargedTo u)).map (·.amount)).sum := by
    intro rows
    induction rows with
    | nil => intro _; exact Int.le_refl 0
    | cons row rest ih =>
      intro positive
      have tail := ih fun r there => positive r (List.mem_cons_of_mem _ there)
      have head := positive row List.mem_cons_self
      cases noise : row.isNoise <;> cases mine : chargedTo u row <;>
        simp only [List.filter_cons, noise, mine, Bool.not_true, Bool.not_false, ↓reduceIte,
          Bool.false_eq_true, List.map_cons, List.sum_cons] <;> omega
  exact rows t.ledger positive

/-- A first request outside the gap is answered from held funds alone, one inside is not. -/
theorem reserve_first_held {request : ExecutionReservation} {draw : ReservationDraw}
    (fresh : draw.Fresh t) (positive : t.Positive) (absent : t.record? request.key = none)
    {limit : Int} (bound : t.limitOf request.tenantId request.runId = .ok limit) :
    (¬ (t.held.used request.usageKey + request.costUnits ≤ limit ∧
        limit < t.used request.usageKey + request.costUnits) ∧
      t.held.status request draw = t.status request draw ∧
      (t.held.reserve request draw).2 = (t.reserve request draw).2.held) ∨
    ((t.held.used request.usageKey + request.costUnits ≤ limit ∧
        limit < t.used request.usageKey + request.costUnits) ∧
      t.held.status request draw ≠ t.status request draw) := by
  have le := held_used_le positive request.usageKey
  have absent' : t.held.record? request.key = none := absent
  have bound' : t.held.limitOf request.tenantId request.runId = .ok limit := bound
  unfold status
  obtain ⟨above, full⟩ | ⟨within, full⟩ := reserve_first fresh absent bound
  · obtain ⟨above', part⟩ | ⟨within', part⟩ := reserve_first (held_fresh fresh) absent' bound'
    · refine Or.inl ⟨by omega, ?_⟩
      rw [full, part]
      exact ⟨rfl, rfl⟩
    · refine Or.inr ⟨⟨within', above⟩, ?_⟩
      rw [full]
      obtain ⟨_, e, refused⟩ | ⟨_, granted⟩ := part
      · rw [refused]
        nofun
      · rw [granted]
        nofun
  · refine Or.inl ⟨by omega, ?_⟩
    obtain ⟨above', _⟩ | ⟨_, part⟩ := reserve_first (held_fresh fresh) absent' bound'
    · omega
    · obtain ⟨unfit, e, refused⟩ | ⟨fits, granted⟩ := full
      · obtain ⟨_, e', refused'⟩ | ⟨fits, _⟩ := part
        · rw [refused, refused']
          exact ⟨rfl, rfl⟩
        · rw [unfit] at fits
          cases fits
      · obtain ⟨unfit, _⟩ | ⟨_, granted'⟩ := part
        · rw [fits] at unfit
          cases unfit
        · rw [granted, granted']
          exact ⟨rfl, (held_granted request draw).symm⟩

/-- A reserve outside the gap is answered from held funds alone, one inside is not. -/
theorem reserve_held (request : ExecutionReservation) {draw : ReservationDraw}
    (fresh : draw.Fresh t) (positive : t.Positive) :
    (t.OutsideGap (.reserve request draw) ∧ t.held.status request draw = t.status request draw ∧
      t.held.call (.reserve request draw) = (t.call (.reserve request draw)).held) ∨
    (¬ t.OutsideGap (.reserve request draw) ∧
      t.held.status request draw ≠ t.status request draw) := by
  simp only [OutsideGap, call]
  cases found : t.record? request.key with
  | some row =>
    have full : t.reserve request draw = (.ok (row.existingDecision request), t) := by
      simp only [reserve, found]
    have part : t.held.reserve request draw = (.ok (row.existingDecision request), t.held) := by
      simp only [reserve, show t.held.record? request.key = some row from found]
    refine Or.inl ⟨by rintro ⟨⟩, ?_⟩
    rw [status, status, full, part]
    exact ⟨rfl, rfl⟩
  | none =>
    cases bound : t.limitOf request.tenantId request.runId with
    | error e =>
      have full : t.reserve request draw = (.error e, t) := by
        simp only [reserve, found, bound]
      have part : t.held.reserve request draw = (.error e, t.held) := by
        simp only [reserve, show t.held.record? request.key = none from found,
          show t.held.limitOf request.tenantId request.runId = .error e from bound]
      refine Or.inl ⟨fun _ => by rintro _ ⟨⟩, ?_⟩
      rw [status, status, full, part]
      exact ⟨rfl, rfl⟩
    | ok limit =>
      obtain ⟨outside, same⟩ | ⟨inside, differ⟩ := reserve_first_held fresh positive found bound
      · refine Or.inl ⟨?_, same⟩
        rintro _ _ ⟨⟩
        exact outside
      · exact Or.inr ⟨fun outside => outside rfl limit rfl inside, differ⟩

theorem addEntry_held {row : BudgetRow} {t' : ReservationTables} (h : t.addEntry row = .ok t')
    (kept : row.isNoise = false) : t.held.addEntry row = .ok t'.held := by
  obtain ⟨run, positive, unused, free, rfl⟩ := addEntry_eq_ok.mp h
  refine addEntry_eq_ok.mpr ⟨run, positive, fun old there => ?_, fun old there => ?_, ?_⟩
  · exact unused old (List.mem_of_mem_filter there)
  · exact free old (List.mem_of_mem_filter there)
  · simp [held, kept]

theorem complete_held (tenantId id : String) (receipt : ToolReceipt) :
    (t.complete tenantId id receipt).2.held = (t.held.complete tenantId id receipt).2 := by
  simp only [complete, show t.held.records = t.records from rfl]
  split
  · rfl
  · split <;> rfl

theorem addRun_held (tenantId runId goalId : String) :
    (t.addRun tenantId runId goalId).held = t.held.addRun tenantId runId goalId := by
  simp only [addRun, show t.held.runs = t.runs from rfl]
  split <;> rfl

/-- An accepted entry that holds no funds leaves held funds alone; one that does is accepted
beside them as well. -/
theorem entry_held {tenantId runId : Uuid} {phase : CostPhase} {amount : Int}
    {reference : String} {entryId : Uuid} {now : Instant}
    (legal : t.Legal (.entry tenantId runId phase amount reference entryId now)) :
    (t.call (.entry tenantId runId phase amount reference entryId now)).held =
      if phase.isNoise then t.held
      else t.held.call (.entry tenantId runId phase amount reference entryId now) := by
  obtain ⟨t', accepted⟩ := legal
  have added := recordPhase_ok accepted
  have noise := phase_isNoise phase ⟨entryId.str, tenantId.str, runId.str, phase.value, amount,
    .costUnits, reference, now⟩ rfl
  simp only [call, accepted]
  cases kind : phase.isNoise with
  | true =>
    obtain ⟨_, _, _, _, rfl⟩ := addEntry_eq_ok.mp added
    rw [kind] at noise
    simp [held, noise]
  | false =>
    rw [kind] at noise
    have part := addEntry_held added noise
    have accepted' : t.held.recordPhase tenantId runId phase amount reference entryId now =
        .ok t'.held := by
      simp only [recordPhase, bind_eq_ok] at accepted ⊢
      obtain ⟨_, h₁, _, h₂, _, h₃, _, h₄, _⟩ := accepted
      exact ⟨(), h₁, (), h₂, (), h₃, (), h₄, part⟩
    simp [accepted']

theorem storable_positive {request : ExecutionReservation} (fits : request.storable = true) :
    0 < request.costUnits := by
  simp only [ExecutionReservation.storable, Bool.and_eq_true, decide_eq_true_eq] at fits
  omega

/-- The requests that are granted. -/
structure Grants (t : ReservationTables) (request : ExecutionReservation) (limit : Int) : Prop where
  absent : t.record? request.key = none
  bound : t.limitOf request.tenantId request.runId = .ok limit
  within : t.used request.usageKey + request.costUnits ≤ limit
  fits : request.storable = true

/-- A reserve grants its request or leaves the tables as they are. -/
theorem reserve_cases (request : ExecutionReservation) {draw : ReservationDraw}
    (fresh : draw.Fresh t) :
    ((∀ limit, ¬ t.Grants request limit) ∧ (t.reserve request draw).2 = t) ∨
    ∃ limit, t.Grants request limit ∧ t.reserve request draw =
      (.ok ⟨.acquired, some draw.reservationId, none⟩, t.granted request draw) := by
  cases found : t.record? request.key with
  | some row =>
    refine Or.inl ⟨?_, by simp only [reserve, found]⟩
    rintro limit ⟨absent, _⟩
    rw [found] at absent
    cases absent
  | none =>
    cases bound : t.limitOf request.tenantId request.runId with
    | error e =>
      refine Or.inl ⟨?_, by simp only [reserve, found, bound]⟩
      rintro limit ⟨_, ok, _⟩
      rw [bound] at ok
      cases ok
    | ok limit =>
      obtain ⟨above, same⟩ | ⟨within, ⟨unfit, e, same⟩ | ⟨fits, granted⟩⟩ :=
        reserve_first fresh found bound
      · refine Or.inl ⟨?_, by rw [same]⟩
        rintro _ ⟨_, ok, within, _⟩
        cases bound.symm.trans ok
        omega
      · refine Or.inl ⟨?_, by rw [same]⟩
        rintro _ ⟨_, _, _, fits⟩
        rw [unfit] at fits
        cases fits
      · exact Or.inr ⟨limit, ⟨found, bound, within, fits⟩, granted⟩

/-- Calls keep the amounts positive. -/
theorem call_positive (positive : t.Positive) (c : FundsCall) (legal : t.Legal c) :
    (t.call c).Positive := by
  cases c with
  | requestRun tenantId runId goalId =>
    simp only [call, addRun]
    split <;> exact positive
  | reserve request draw =>
    obtain ⟨_, same⟩ | ⟨limit, grants, granted⟩ := reserve_cases request legal
    · rw [call, same]
      exact positive
    · rw [call, granted]
      intro row there
      rcases List.mem_append.mp there with old | new
      · exact positive row old
      · rw [List.mem_singleton.mp new]
        exact storable_positive grants.fits
  | complete tenantId id receipt =>
    rw [Positive, call, (t.complete_records tenantId id receipt).1]
    exact positive
  | entry tenantId runId phase amount reference entryId now =>
    obtain ⟨t', accepted⟩ := legal
    obtain ⟨_, more, _, _, rfl⟩ := addEntry_eq_ok.mp (recordPhase_ok accepted)
    simp only [call, accepted]
    intro row there
    rcases List.mem_append.mp there with old | new
    · exact positive row old
    · rw [List.mem_singleton.mp new]
      exact more

/-- What a call does beside held funds: nothing, when it is an entry of another phase; the
same, when it is outside the gap; and something else inside. -/
theorem call_held (positive : t.Positive) {c : FundsCall} (legal : t.Legal c) :
    (t.OutsideGap c ∧ c.isNoise = true ∧ t.answer c = none ∧ (t.call c).held = t.held) ∨
    (t.OutsideGap c ∧ c.isNoise = false ∧ t.held.answer c = t.answer c ∧
      (t.call c).held = t.held.call c) ∨
    (¬ t.OutsideGap c ∧ c.isNoise = false ∧
      ∃ a b, t.held.answer c = some a ∧ t.answer c = some b ∧ a ≠ b) := by
  cases c with
  | requestRun tenantId runId goalId =>
    exact Or.inr (Or.inl ⟨trivial, rfl, rfl, addRun_held tenantId runId goalId⟩)
  | complete tenantId id receipt =>
    exact Or.inr (Or.inl ⟨trivial, rfl, rfl, complete_held tenantId id receipt⟩)
  | entry tenantId runId phase amount reference entryId now =>
    have part := entry_held legal
    cases noise : phase.isNoise with
    | true =>
      rw [noise, if_pos rfl] at part
      exact Or.inl ⟨trivial, noise, rfl, part⟩
    | false =>
      rw [noise, if_neg Bool.false_ne_true] at part
      exact Or.inr (Or.inl ⟨trivial, noise, rfl, part⟩)
  | reserve request draw =>
    obtain ⟨outside, same, next⟩ | ⟨inside, differ⟩ := reserve_held request legal positive
    · exact Or.inr (Or.inl ⟨outside, rfl, congrArg some same, next.symm⟩)
    · exact Or.inr (Or.inr ⟨inside, rfl, _, _, rfl, rfl, differ⟩)

/-- The reserves of a history return the same statuses as without the entries of other phases
exactly when none of them falls between held funds and all entries. -/
theorem statuses_held_iff (positive : t.Positive) {calls : List FundsCall}
    (legal : Along call Legal t calls) :
    t.held.statuses (calls.filter fun c => !c.isNoise) = t.statuses calls ↔
      Along call OutsideGap t calls := by
  induction calls generalizing t with
  | nil => exact iff_of_true rfl trivial
  | cons c rest ih =>
    have tail := ih (call_positive positive c legal.1) legal.2
    obtain ⟨outside, noise, silent, next⟩ | ⟨outside, kept, same, next⟩ |
      ⟨inside, kept, a, b, part, full, differ⟩ := call_held positive legal.1
    · rw [List.filter_cons_of_neg (by simp [noise]), statuses, silent, ← next]
      exact tail.trans ⟨fun later => ⟨outside, later⟩, fun h => h.2⟩
    · rw [List.filter_cons_of_pos (by simp [kept]), statuses, statuses, same, ← next,
        List.append_cancel_left_eq]
      exact tail.trans ⟨fun later => ⟨outside, later⟩, fun h => h.2⟩
    · rw [List.filter_cons_of_pos (by simp [kept]), statuses, statuses, part, full]
      refine ⟨fun h => absurd (List.cons.inj h).1 differ, fun h => absurd h.1 inside⟩

/-- Two histories that differ in entries of other phases only: where the one is outside the gap,
their reserves return the same statuses exactly when the other is too. -/
theorem reserve_ignores_other_phases_iff (positive : t.Positive) {calls calls' : List FundsCall}
    (legal : Along call Legal t calls) (legal' : Along call Legal t calls')
    (same : (calls.filter fun c => !c.isNoise) = calls'.filter fun c => !c.isNoise)
    (outside : Along call OutsideGap t calls') :
    t.statuses calls = t.statuses calls' ↔ Along call OutsideGap t calls := by
  rw [← (statuses_held_iff positive legal').mpr outside, ← same, eq_comm]
  exact statuses_held_iff positive legal

namespace Sample

def tables : ReservationTables where
  runs := Dict.empty.set ((1 : Uuid).str, (2 : Uuid).str) "g"
  goals := Dict.empty.set ((1 : Uuid).str, "g") ⟨10, .costUnits⟩

def request (runId : Uuid) (key : String) (cost : Int) : ExecutionReservation :=
  ⟨(1 : Uuid).str, runId.str, "a", "mail", "1", key, "d", cost⟩

def reservation : FundsCall := .reserve (request 2 "k" 3) ⟨"s1", "e1", 0⟩

/-- A reservation after an estimate for the same Run. -/
def estimated (amount : Int) : List FundsCall :=
  [.entry 1 2 .estimate amount "plan" 9 0, reservation]

/-- An estimate that leaves too little beside it exhausts the budget it does not hold. -/
theorem estimate_exhausts :
    Along call Legal tables (estimated 8) ∧ Along call Legal tables [reservation] ∧
    ((estimated 8).filter fun c => !c.isNoise) = [reservation].filter (fun c => !c.isNoise) ∧
    tables.statuses (estimated 8) ≠ tables.statuses [reservation] := by
  refine ⟨⟨⟨_, rfl⟩, ⟨by decide +kernel, by decide +kernel, by decide +kernel⟩, trivial⟩,
    ⟨⟨by decide, by decide, by decide⟩, trivial⟩, rfl, by decide +kernel⟩

/-- An estimate that leaves enough changes nothing. -/
theorem estimate_ignored :
    Along call Legal tables (estimated 2) ∧
    tables.statuses (estimated 2) = tables.statuses [reservation] := by
  have legal : Along call Legal tables (estimated 2) :=
    ⟨⟨_, rfl⟩, ⟨by decide +kernel, by decide +kernel, by decide +kernel⟩, trivial⟩
  have plain : Along call Legal tables [reservation] := ⟨⟨by decide, by decide, by decide⟩, trivial⟩
  have outside : Along call OutsideGap tables [reservation] := by
    refine ⟨?_, trivial⟩
    rintro _ limit _ ⟨within, above⟩
    exact absurd within (Int.not_le.mpr above)
  have positive : tables.Positive := List.forall_mem_nil _
  refine ⟨legal, (reserve_ignores_other_phases_iff positive legal plain rfl outside).mpr ?_⟩
  refine ⟨trivial, ?_, trivial⟩
  rintro _ limit ⟨⟩
  decide +kernel

end Sample

/-! ## The budget of a Goal -/

/-- The Goal a record was made for. -/
def goalOf (t : ReservationTables) (row : IdempotencyRow) : Option String :=
  row.runId.bind fun runId => t.runs.get? (row.tenantId, runId)

/-- What a record counts against a Goal. -/
def spent (t : ReservationTables) (tenantId goalId : String) (row : IdempotencyRow) : Int :=
  if row.tenantId = tenantId ∧ t.goalOf row = some goalId then row.costUnits.getD 0 else 0

/-- The cost of all reservations acquired for the Runs of a Goal. -/
def acquired (t : ReservationTables) (tenantId goalId : String) : Int :=
  (t.records.map (t.spent tenantId goalId)).sum

/-- No Goal with a budget in cost units has more acquired than its limit. -/
def WithinBudgets (t : ReservationTables) : Prop :=
  ∀ tenantId goalId (budget : BudgetAmount), t.goals.get? (tenantId, goalId) = some budget →
    budget.unit = .costUnits → t.acquired tenantId goalId ≤ budget.amount

/-- A request that would be granted fits beside what all Runs of its Goal have acquired. -/
def FitsGoal (t : ReservationTables) : FundsCall → Prop
  | .reserve request _ => ∀ limit goalId, t.Grants request limit →
    t.runs.get? (request.tenantId, request.runId) = some goalId →
    t.acquired request.tenantId goalId + request.costUnits ≤ limit
  | _ => True

/-- Reservations are made for Runs that exist. -/
def Owned (t : ReservationTables) : Prop :=
  ∀ row ∈ t.records, ∃ runId, row.runId = some runId ∧
    (t.runs.get? (row.tenantId, runId)).isSome

theorem acquired_granted (request : ExecutionReservation) (draw : ReservationDraw)
    (tenantId goalId : String) :
    (t.granted request draw).acquired tenantId goalId = t.acquired tenantId goalId +
      if request.tenantId = tenantId ∧
        t.runs.get? (request.tenantId, request.runId) = some goalId
      then request.costUnits else 0 := by
  have same : (t.granted request draw).spent = t.spent := rfl
  rw [acquired, acquired, same, granted, List.map_append, List.sum_append, List.map_singleton,
    List.sum_singleton]
  rfl

/-- A new Run has no reservations. -/
theorem acquired_addRun (owned : t.Owned) (tenantId runId goalId : String) :
    ∀ tenant goal, (t.addRun tenantId runId goalId).acquired tenant goal =
      t.acquired tenant goal := by
  intro tenant goal
  unfold addRun
  split
  · rfl
  · rename_i unused
    rw [Option.not_isSome_iff_eq_none] at unused
    refine congrArg List.sum (List.map_congr_left fun row there => ?_)
    obtain ⟨run, made, known⟩ := owned row there
    have other : (row.tenantId, run) ≠ (tenantId, runId) := by
      intro same
      rw [same, unused] at known
      cases known
    simp only [spent, goalOf, made, Option.bind_some, Dict.get?_set_ne _ _ other]

theorem updated_owner (tenantId id : String) (receipt : ToolReceipt) (row : IdempotencyRow) :
    (row.updated tenantId id receipt).tenantId = row.tenantId ∧
      (row.updated tenantId id receipt).runId = row.runId ∧
      (row.updated tenantId id receipt).costUnits = row.costUnits := by
  unfold IdempotencyRow.updated
  split <;> exact ⟨rfl, rfl, rfl⟩

/-- What a completion leaves of the records: the same Runs and costs. -/
theorem complete_cases (tenantId id : String) (receipt : ToolReceipt) :
    (t.complete tenantId id receipt).2 = t ∨ (t.complete tenantId id receipt).2 =
      { t with records := t.records.map (·.updated tenantId id receipt) } := by
  unfold complete
  split
  · exact Or.inl rfl
  · split
    · exact Or.inl rfl
    · exact Or.inr rfl

theorem acquired_complete (tenantId id : String) (receipt : ToolReceipt) (tenant goal : String) :
    (t.complete tenantId id receipt).2.acquired tenant goal = t.acquired tenant goal := by
  rcases complete_cases (t := t) tenantId id receipt with same | updated
  · rw [same]
  · rw [updated, acquired, acquired, List.map_map]
    refine congrArg List.sum (List.map_congr_left fun row _ => ?_)
    obtain ⟨owner, run, cost⟩ := updated_owner tenantId id receipt row
    simp only [Function.comp_apply, spent, goalOf, owner, run, cost]
    rfl

theorem call_owned (owned : t.Owned) {c : FundsCall} (legal : t.Legal c) : (t.call c).Owned := by
  cases c with
  | requestRun tenantId runId goalId =>
    simp only [call, addRun]
    split
    · exact owned
    · intro row there
      obtain ⟨run, made, known⟩ := owned row there
      refine ⟨run, made, ?_⟩
      rw [Dict.get?_set]
      split
      · rfl
      · exact known
  | reserve request draw =>
    obtain ⟨_, same⟩ | ⟨limit, grants, granted⟩ := reserve_cases request legal
    · rw [call, same]
      exact owned
    · rw [call, granted]
      intro row there
      rcases List.mem_append.mp there with old | new
      · exact owned row old
      · rw [List.mem_singleton.mp new]
        exact ⟨request.runId, rfl, run_of_limitOf grants.bound⟩
  | complete tenantId id receipt =>
    rw [call]
    rcases complete_cases (t := t) tenantId id receipt with same | updated
    · rw [same]
      exact owned
    · rw [updated]
      intro row there
      obtain ⟨old, kept, rfl⟩ := List.mem_map.mp there
      obtain ⟨owner, run, _⟩ := updated_owner tenantId id receipt old
      rw [owner, run]
      exact owned old kept
  | entry tenantId runId phase amount reference entryId now =>
    obtain ⟨t', accepted⟩ := legal
    obtain ⟨_, _, _, _, rfl⟩ := addEntry_eq_ok.mp (recordPhase_ok accepted)
    simp only [call, accepted]
    exact owned

/-- The limit a granted request was compared with is that of its Goal. -/
theorem limitOf_ok {tenantId runId : String} {limit : Int}
    (h : t.limitOf tenantId runId = .ok limit) : ∃ goalId, ∃ budget : BudgetAmount,
      t.runs.get? (tenantId, runId) = some goalId ∧ t.goals.get? (tenantId, goalId) = some budget ∧
      budget.unit = .costUnits ∧ budget.amount = limit := by
  unfold limitOf at h
  split at h
  · cases h
  · rename_i goalId run
    split at h
    · cases h
    · rename_i budget goal
      split at h
      · cases h
      · rename_i unit
        cases h
        exact ⟨goalId, budget, run, goal, not_not.mp unit, rfl⟩

/-- A granted request keeps the budgets exactly when it fits beside its Goal's other Runs. -/
theorem granted_withinBudgets (within : t.WithinBudgets) {request : ExecutionReservation}
    {limit : Int} (grants : t.Grants request limit) (draw : ReservationDraw) :
    (t.granted request draw).WithinBudgets ↔ t.FitsGoal (.reserve request draw) := by
  obtain ⟨goalId, budget, run, goal, unit, amount⟩ := limitOf_ok grants.bound
  constructor
  · intro kept limit' goalId' grants' run'
    cases run.symm.trans run'
    cases grants.bound.symm.trans grants'.bound
    have after := kept request.tenantId goalId budget goal unit
    rw [acquired_granted, if_pos ⟨rfl, run⟩, amount] at after
    exact after
  · intro fits tenant goal' budget' found unit'
    rw [acquired_granted]
    split
    · rename_i here
      obtain ⟨rfl, run'⟩ := here
      cases run.symm.trans run'
      cases goal.symm.trans found
      rw [amount]
      exact fits limit goalId grants run
    · rw [Int.add_zero]
      exact within tenant goal' budget' found unit'

/-- The budgets are kept and reservations belong to Runs. -/
def Kept (t : ReservationTables) : Prop := t.WithinBudgets ∧ t.Owned

theorem call_withinBudgets_iff (kept : t.Kept) {c : FundsCall} (legal : t.Legal c) :
    (t.call c).WithinBudgets ↔ t.FitsGoal c := by
  obtain ⟨within, owned⟩ := kept
  cases c with
  | requestRun tenantId runId goalId =>
    refine iff_of_true (fun tenant goal budget found unit => ?_) trivial
    rw [call, acquired_addRun owned]
    refine within tenant goal budget ?_ unit
    simp only [call, addRun] at found
    split at found <;> exact found
  | reserve request draw =>
    obtain ⟨refused, same⟩ | ⟨limit, grants, granted⟩ := reserve_cases request legal
    · rw [call, same]
      exact iff_of_true within fun limit _ grants => absurd grants (refused limit)
    · rw [call, granted]
      exact granted_withinBudgets within grants draw
  | complete tenantId id receipt =>
    refine iff_of_true (fun tenant goal budget found unit => ?_) trivial
    rw [call, acquired_complete]
    refine within tenant goal budget ?_ unit
    rcases complete_cases (t := t) tenantId id receipt with same | updated
    · rwa [call, same] at found
    · rwa [call, updated] at found
  | entry tenantId runId phase amount reference entryId now =>
    obtain ⟨t', accepted⟩ := legal
    obtain ⟨_, _, _, _, rfl⟩ := addEntry_eq_ok.mp (recordPhase_ok accepted)
    simp only [call, accepted]
    exact iff_of_true within trivial

/-- Along every history, the reservations acquired for a Goal's Runs stay within its budget
exactly when each request that is granted fits beside those of all Runs of its Goal. -/
theorem goal_budget_iff (runs : Dict (String × String) String)
    (goals : Dict (String × String) BudgetAmount) {calls : List FundsCall}
    (legal : Along call Legal { runs, goals } calls) :
    Along call (fun t c => (t.call c).WithinBudgets) { runs, goals } calls ↔
      Along call FitsGoal { runs, goals } calls := by
  have initial : ({ runs, goals } : ReservationTables).Kept :=
    ⟨fun _ _ budget _ _ => Int.natCast_nonneg budget.amount, List.forall_mem_nil _⟩
  refine along_congr (fun t c kept legal => call_withinBudgets_iff kept legal) ?_ initial legal
  intro t c kept legal fits
  exact ⟨(call_withinBudgets_iff kept legal).mpr fits, call_owned kept.2 legal⟩

namespace Sample

/-- One Goal with a budget of ten, and no Run. -/
def goals : Dict (String × String) BudgetAmount :=
  Dict.empty.set ((1 : Uuid).str, "g") ⟨10, .costUnits⟩

/-- Two Runs of the Goal, with a reservation each. -/
def twoRuns (first second : Int) : List FundsCall := [
  .requestRun (1 : Uuid).str (2 : Uuid).str "g",
  .requestRun (1 : Uuid).str (3 : Uuid).str "g",
  .reserve (request 2 "k1" first) ⟨"s1", "e1", 0⟩,
  .reserve (request 3 "k2" second) ⟨"s2", "e2", 0⟩]

/-- Each Run stays within the budget of the Goal, and together they do not. -/
theorem runs_exceed_goal :
    Along call Legal { goals := goals } (twoRuns 8 8) ∧
    ¬ Along call (fun t c => (t.call c).WithinBudgets) { goals := goals } (twoRuns 8 8) := by
  refine ⟨⟨trivial, trivial, ⟨by decide, by decide, by decide⟩,
    ⟨by decide +kernel, by decide +kernel, by decide +kernel⟩, trivial⟩, ?_⟩
  rintro ⟨_, _, _, exceeded, _⟩
  have above := exceeded (1 : Uuid).str "g" ⟨10, .costUnits⟩ (by decide +kernel) rfl
  exact absurd above (by decide +kernel)

/-- Two Runs whose reservations fit together. -/
theorem goal_budget_two_runs :
    Along call Legal { goals := goals } (twoRuns 8 2) ∧
    Along call (fun t c => (t.call c).WithinBudgets) { goals := goals } (twoRuns 8 2) := by
  have legal : Along call Legal { goals := goals } (twoRuns 8 2) :=
    ⟨trivial, trivial, ⟨by decide, by decide, by decide⟩,
      ⟨by decide +kernel, by decide +kernel, by decide +kernel⟩, trivial⟩
  refine ⟨legal, (goal_budget_iff .empty goals legal).mpr ⟨trivial, trivial, ?_, ?_, trivial⟩⟩
  · rintro _ _ ⟨_, ⟨⟩, _, _⟩ ⟨⟩
    decide +kernel
  · rintro _ _ ⟨_, ⟨⟩, _, _⟩ ⟨⟩
    decide +kernel

end Sample

end ReservationTables

end Autonoesis
