import Autonoesis.Runtime.Reservations

/-! Accounting of the reservation store over whole histories: what is charged, how
often a key is charged, and how long a stored receipt is answered. -/

namespace Autonoesis.Reservations
open Base

/-- The costs of the records held for a usage key. -/
def charges (s : Reservations) (u : String × String) : Int :=
  ((s.heap.filter (fun r => r.request.usageKey = u)).map (·.request.costUnits)).sum

/-- The two indexes agree with the heap and the used amounts with its costs. -/
structure Consistent (s : Reservations) : Prop where
  records_at : ∀ key a, s.records.get? key = some a →
    ∃ r, s.heap[a]? = some r ∧ r.request.key = key
  byId_at : ∀ id a, s.byId.get? id = some a → ∃ r, s.heap[a]? = some r ∧ r.reservationId = id
  indexed : ∀ a r, s.heap[a]? = some r →
    s.records.get? r.request.key = some a ∧ s.byId.get? r.reservationId = some a
  charged : ∀ u, s.usedBy u = s.charges u
  within : ∀ u n, s.used.get? u = some n → n ≤ s.limit

/-- The store with the given limit before any call. -/
def initial (limit : Int) : Reservations := { limit }

theorem initial_consistent (limit : Int) : (initial limit).Consistent where
  records_at := by simp [initial]
  byId_at := by simp [initial]
  indexed := by simp [initial]
  charged := by simp [initial, usedBy, charges]
  within := by simp [initial]

theorem record?_none (s : Reservations) (c : s.Consistent) {key : String × String} :
    s.record? key = none ↔ s.records.get? key = none := by
  unfold record?
  cases found : s.records.get? key with
  | none => simp
  | some a =>
    obtain ⟨r, hr, _⟩ := c.records_at key a found
    simp [hr]

theorem record?_some (s : Reservations) (c : s.Consistent) {key : String × String}
    {r : MemoryReservation} (h : s.record? key = some r) :
    ∃ a, s.records.get? key = some a ∧ s.heap[a]? = some r ∧ r.request.key = key := by
  obtain ⟨a, found, at_⟩ := Option.bind_eq_some_iff.mp h
  obtain ⟨r', hr, hk⟩ := c.records_at key a found
  rw [at_] at hr
  cases hr
  exact ⟨a, found, at_, hk⟩

theorem acquire_consistent {s : Reservations} (c : s.Consistent) {request : ExecutionReservation}
    {id : String} (absent : s.records.get? request.key = none) (fresh : s.byId.get? id = none)
    (fits : s.usedBy request.usageKey + request.costUnits ≤ s.limit) :
    (s.acquire request id).Consistent where
  records_at := by
    intro key a found
    simp only [acquire, Dict.get?_set] at found ⊢
    split at found
    · rename_i same
      cases found
      exact ⟨⟨request, id, none⟩, by simp, same.symm⟩
    · obtain ⟨r, hr, hk⟩ := c.records_at key a found
      have bound := (List.getElem?_eq_some_iff.mp hr).1
      exact ⟨r, by simp [List.getElem?_append_left bound, hr], hk⟩
  byId_at := by
    intro id' a found
    simp only [acquire, Dict.get?_set] at found ⊢
    split at found
    · rename_i same
      cases found
      exact ⟨⟨request, id, none⟩, by simp, same.symm⟩
    · obtain ⟨r, hr, hk⟩ := c.byId_at id' a found
      have bound := (List.getElem?_eq_some_iff.mp hr).1
      exact ⟨r, by simp [List.getElem?_append_left bound, hr], hk⟩
  indexed := by
    intro a r hr
    simp only [acquire] at hr ⊢
    rcases Nat.lt_trichotomy a s.heap.length with lt | eq | gt
    · rw [List.getElem?_append_left lt] at hr
      obtain ⟨hk, hi⟩ := c.indexed a r hr
      have keyNe : r.request.key ≠ request.key := by rintro e; rw [e, absent] at hk; cases hk
      have idNe : r.reservationId ≠ id := by rintro e; rw [e, fresh] at hi; cases hi
      exact ⟨by rw [Dict.get?_set_ne _ _ keyNe, hk], by rw [Dict.get?_set_ne _ _ idNe, hi]⟩
    · subst eq
      simp only [List.getElem?_concat_length, Option.some.injEq] at hr
      subst hr
      exact ⟨Dict.get?_set_self .., Dict.get?_set_self ..⟩
    · rw [List.getElem?_eq_none (by simp; omega)] at hr
      cases hr
  charged := by
    intro u
    have h := c.charged u
    simp only [usedBy, charges, acquire, Dict.get?_set, List.filter_append, List.map_append,
      List.sum_append] at h ⊢
    by_cases hu : u = request.usageKey
    · subst hu
      simp [h]
    · have hne : ¬ request.usageKey = u := fun e => hu e.symm
      simp [hu, hne, h]
  within := by
    intro u n found
    simp only [acquire, Dict.get?_set] at found ⊢
    split at found
    · cases found; exact fits
    · exact c.within u n found

@[simp] theorem settle_getElem? (s : Reservations) (a i : Nat) (receipt : ToolReceipt) :
    (s.settle a receipt).heap[i]? =
      if a = i then s.heap[i]?.map fun r => { r with receipt := some receipt } else s.heap[i]? := by
  simp only [settle, List.getElem?_modify]
  split <;> simp

theorem settle_heap_map {β : Type} (s : Reservations) (a : Nat) (receipt : ToolReceipt)
    (f : ExecutionReservation → β) :
    (s.settle a receipt).heap.map (fun r => f r.request) = s.heap.map (fun r => f r.request) := by
  apply List.ext_getElem?
  intro i
  simp only [List.getElem?_map, settle_getElem?]
  split <;> cases s.heap[i]? <;> rfl

theorem settle_charges (s : Reservations) (a : Nat) (receipt : ToolReceipt)
    (u : String × String) : (s.settle a receipt).charges u = s.charges u := by
  have split (l : List MemoryReservation) :
      ((l.filter (fun r => r.request.usageKey = u)).map (·.request.costUnits)).sum =
        (l.map fun r => if r.request.usageKey = u then r.request.costUnits else 0).sum := by
    induction l with
    | nil => rfl
    | cons r rest ih => by_cases h : r.request.usageKey = u <;> simp [h, ih]
  have kept := settle_heap_map s a receipt fun q => if q.usageKey = u then q.costUnits else 0
  rw [charges, charges, split, split, kept]

theorem settle_consistent {s : Reservations} (c : s.Consistent) (a : Nat) (receipt : ToolReceipt) :
    (s.settle a receipt).Consistent where
  records_at := by
    intro key i found
    obtain ⟨r, hr, hk⟩ := c.records_at key i found
    rw [settle_getElem?, hr]
    split
    · exact ⟨_, rfl, hk⟩
    · exact ⟨_, rfl, hk⟩
  byId_at := by
    intro id i found
    obtain ⟨r, hr, hk⟩ := c.byId_at id i found
    rw [settle_getElem?, hr]
    split
    · exact ⟨_, rfl, hk⟩
    · exact ⟨_, rfl, hk⟩
  indexed := by
    intro i r hr
    rw [settle_getElem?] at hr
    split at hr
    · obtain ⟨r', hr', rfl⟩ := Option.map_eq_some_iff.mp hr
      exact c.indexed i r' hr'
    · exact c.indexed i r hr
  charged := by
    intro u
    rw [settle_charges]
    exact c.charged u
  within := c.within

/-! ## Histories -/

inductive Op where
  | reserve (request : ExecutionReservation) (reservationId : String)
  | complete (tenantId reservationId : String) (receipt : ToolReceipt)

inductive Answer where
  | decided (decision : ReservationDecision)
  | completed (result : Except Exc Unit)

/-- Costs are positive, `uuid4` draws an identifier not yet issued, and only issued
identifiers are completed. -/
def Op.Legal (s : Reservations) : Op → Prop
  | .reserve request id => 0 < request.costUnits ∧ s.byId.get? id = none
  | .complete _ id _ => (s.byId.get? id).isSome

def apply (s : Reservations) : Op → Answer × Reservations
  | .reserve request id => (.decided (s.reserve request id).1, (s.reserve request id).2)
  | .complete _ id receipt => (.completed (s.complete id receipt).1, (s.complete id receipt).2)

/-- The histories from `s₀`: the calls with their answers, and the state reached. -/
inductive Steps (s₀ : Reservations) : List (Op × Answer) → Reservations → Prop
  | start : Steps s₀ [] s₀
  | step {log : List (Op × Answer)} {s : Reservations} (past : Steps s₀ log s) (op : Op)
      (legal : op.Legal s) : Steps s₀ (log ++ [(op, (s.apply op).1)]) (s.apply op).2

/-- What a call of the history charges to `u`: its cost when it was granted. -/
def chargeTo (u : String × String) : Op × Answer → Int
  | (.reserve request _, .decided d) =>
    if d.status = .acquired ∧ request.usageKey = u then request.costUnits else 0
  | _ => 0

/-- Whether a call of the history was granted for `key`. -/
def grants (key : String × String) : Op × Answer → Bool
  | (.reserve request _, .decided d) => d.status = .acquired && request.key = key
  | _ => false

/-- What one call can do. -/
theorem apply_cases (s : Reservations) (op : Op) :
    ((s.apply op).2 = s ∧ ∀ d, (s.apply op).1 = .decided d → d.status ≠ .acquired) ∨
    (∃ request id, op = .reserve request id ∧ s.record? request.key = none ∧
      s.usedBy request.usageKey + request.costUnits ≤ s.limit ∧
      s.apply op = (.decided ⟨.acquired, some id, none⟩, s.acquire request id)) ∨
    (∃ tenant id receipt a r, op = .complete tenant id receipt ∧ s.byId.get? id = some a ∧
      s.heap[a]? = some r ∧ (∀ old, r.receipt = some old → old = receipt) ∧
      s.apply op = (.completed (.ok ()), s.settle a receipt)) := by
  cases op with
  | reserve request id =>
    simp only [apply, reserve]
    split
    · refine Or.inl ⟨rfl, ?_⟩
      rintro d ⟨⟩
      simp only [existingDecision]
      split
      · simp
      · split
        · simp
        · split <;> simp
    · rename_i absent
      split
      · exact Or.inl ⟨rfl, by rintro d ⟨⟩; simp⟩
      · exact Or.inr (Or.inl ⟨request, id, rfl, absent, by omega, rfl⟩)
  | complete tenant id receipt =>
    simp only [apply, complete]
    split
    · exact Or.inl ⟨rfl, by rintro d ⟨⟩⟩
    · rename_i a found
      split
      · exact Or.inl ⟨rfl, by rintro d ⟨⟩⟩
      · rename_i r at_
        split
        · exact Or.inl ⟨rfl, by rintro d ⟨⟩⟩
        · rename_i same
          refine Or.inr (Or.inr ⟨tenant, id, receipt, a, r, rfl, found, at_, ?_, rfl⟩)
          intro old ho
          simpa [ho] using same

/-- The identifier a reserve may draw is not yet issued. -/
def Op.Fresh (s : Reservations) : Op → Prop
  | .reserve _ id => s.byId.get? id = none
  | .complete .. => True

theorem Op.Legal.fresh {s : Reservations} {op : Op} (legal : op.Legal s) : op.Fresh s := by
  cases op with
  | reserve => exact legal.2
  | complete => trivial

theorem apply_consistent {s : Reservations} (c : s.Consistent) {op : Op} (fresh : op.Fresh s) :
    (s.apply op).2.Consistent := by
  obtain ⟨same, _⟩ | ⟨request, id, rfl, absent, fits, e⟩ | ⟨_, _, receipt, a, _, rfl, _, _, _, e⟩ :=
    apply_cases s op
  · rw [same]; exact c
  · rw [e]
    exact acquire_consistent c ((record?_none s c).mp absent) fresh fits
  · rw [e]
    exact settle_consistent c a receipt

theorem Steps.consistent {s₀ s : Reservations} {log : List (Op × Answer)} (h : Steps s₀ log s)
    (c : s₀.Consistent) : s.Consistent := by
  induction h with
  | start => exact c
  | step _ _ legal ih => exact apply_consistent ih legal.fresh

theorem apply_limit (s : Reservations) (op : Op) : (s.apply op).2.limit = s.limit := by
  obtain ⟨same, _⟩ | ⟨_, _, _, _, _, e⟩ | ⟨_, _, _, _, _, _, _, _, _, e⟩ := apply_cases s op
  · rw [same]
  · rw [e]; rfl
  · rw [e]; rfl

theorem Steps.limit_eq {s₀ s : Reservations} {log : List (Op × Answer)} (h : Steps s₀ log s) :
    s.limit = s₀.limit := by
  induction h with
  | start => rfl
  | step _ op _ ih => rw [apply_limit, ih]

theorem acquire_charges (s : Reservations) (request : ExecutionReservation) (id : String)
    (u : String × String) :
    (s.acquire request id).charges u =
      s.charges u + if request.usageKey = u then request.costUnits else 0 := by
  simp only [charges, acquire, List.filter_append, List.map_append, List.sum_append]
  by_cases same : request.usageKey = u <;> simp [same]

/-- A call adds to the records exactly what it is charged. -/
theorem apply_charges (s : Reservations) (op : Op) (u : String × String) :
    (s.apply op).2.charges u = s.charges u + chargeTo u (op, (s.apply op).1) := by
  obtain ⟨same, plain⟩ | ⟨request, id, rfl, _, _, e⟩ | ⟨_, _, receipt, a, _, rfl, _, _, _, e⟩ :=
    apply_cases s op
  · have free : chargeTo u (op, (s.apply op).1) = 0 := by
      cases op with
      | reserve request id =>
        have other := plain (s.reserve request id).1 rfl
        simp only [chargeTo, apply, other, false_and, ↓reduceIte]
      | complete => rfl
    rw [same, free, Int.add_zero]
  · rw [e]
    simp only [chargeTo, true_and, acquire_charges]
  · rw [e]
    simp only [chargeTo, settle_charges, Int.add_zero]

theorem Steps.charges_eq {s₀ s : Reservations} {log : List (Op × Answer)} (h : Steps s₀ log s)
    (u : String × String) : s.charges u = s₀.charges u + (log.map (chargeTo u)).sum := by
  induction h with
  | start => simp
  | @step log s _ op _ ih =>
    rw [apply_charges, ih, List.map_append, List.sum_append, List.map_singleton,
      List.sum_singleton, Int.add_assoc]

theorem settle_record? (s : Reservations) (a : Nat) (receipt : ToolReceipt)
    (key : String × String) :
    (s.settle a receipt).record? key =
      if s.records.get? key = some a
      then (s.record? key).map fun r => { r with receipt := some receipt } else s.record? key := by
  have same : (s.settle a receipt).records = s.records := rfl
  unfold record?
  rw [same]
  cases found : s.records.get? key with
  | none => simp
  | some i =>
    simp only [Option.bind_some, settle_getElem?, Option.some.injEq, eq_comm]

theorem acquire_record? {s : Reservations} (c : s.Consistent) (request : ExecutionReservation)
    (id : String) (key : String × String) :
    (s.acquire request id).record? key =
      if key = request.key then some ⟨request, id, none⟩ else s.record? key := by
  unfold record?
  simp only [acquire, Dict.get?_set]
  by_cases same : key = request.key
  · simp [same]
  · simp only [same, ↓reduceIte]
    cases found : s.records.get? key with
    | none => rfl
    | some a =>
      obtain ⟨r, hr, _⟩ := c.records_at key a found
      have bound := (List.getElem?_eq_some_iff.mp hr).1
      simp [List.getElem?_append_left bound]

/-- A key that has no record gets one only from a reserve of its own. -/
theorem apply_absent {s : Reservations} (c : s.Consistent) (op : Op) {key : String × String}
    (other : ∀ request id, op = .reserve request id → request.key ≠ key)
    (absent : s.record? key = none) : (s.apply op).2.record? key = none := by
  obtain ⟨same, _⟩ | ⟨request, id, rfl, _, _, granted⟩ | ⟨_, _, receipt, a, _, _, _, _, _, settled⟩ :=
    apply_cases s op
  · rw [same]
    exact absent
  · rw [granted, acquire_record? c, if_neg (fun same => other request id rfl same.symm)]
    exact absent
  · rw [settled, settle_record?, absent]
    simp


/-- A key is granted by the call that creates its record and by no other. -/
theorem apply_grants {s : Reservations} (c : s.Consistent) (op : Op) (key : String × String) :
    ((s.apply op).2.record? key).isSome.toNat =
      (s.record? key).isSome.toNat + (grants key (op, (s.apply op).1)).toNat := by
  obtain ⟨same, plain⟩ | ⟨request, id, rfl, absent, _, e⟩ |
    ⟨_, _, receipt, a, _, rfl, _, _, _, e⟩ := apply_cases s op
  · have refused : grants key (op, (s.apply op).1) = false := by
      cases op with
      | reserve request id =>
        have other := plain (s.reserve request id).1 rfl
        simp only [grants, apply, other, decide_false, Bool.false_and]
      | complete => rfl
    rw [same, refused, Bool.toNat_false, Nat.add_zero]
  · rw [e]
    simp only [grants, decide_true, Bool.true_and, acquire_record? c]
    by_cases same : key = request.key
    · simp [same, absent]
    · have other : ¬ request.key = key := fun eq => same eq.symm
      simp [same, other]
  · rw [e]
    simp only [grants, settle_record?, Bool.toNat_false, Nat.add_zero]
    split
    · rw [Option.isSome_map]
    · rfl

theorem Steps.grants_eq {s₀ s : Reservations} {log : List (Op × Answer)} (h : Steps s₀ log s)
    (c : s₀.Consistent) (key : String × String) :
    (s.record? key).isSome.toNat =
      (s₀.record? key).isSome.toNat + log.countP (grants key) := by
  induction h with
  | start => simp
  | @step log s past op legal ih =>
    rw [apply_grants (past.consistent c), ih, List.countP_append, List.countP_singleton,
      Nat.add_assoc]
    cases grants key (op, (s.apply op).1) <;> rfl

/-- A record keeps its request and its identifier. -/
theorem apply_record {s : Reservations} (c : s.Consistent) {key : String × String}
    {record : MemoryReservation} (found : s.record? key = some record) (op : Op) :
    ∃ record', (s.apply op).2.record? key = some record' ∧ record'.request = record.request ∧
      record'.reservationId = record.reservationId := by
  obtain ⟨same, _⟩ | ⟨request, id, rfl, absent, _, e⟩ |
    ⟨_, _, receipt, a, r, rfl, _, _, _, e⟩ := apply_cases s op
  · exact ⟨record, by rw [same, found], rfl, rfl⟩
  · have other : key ≠ request.key := by rintro rfl; rw [absent] at found; cases found
    exact ⟨record, by rw [e, acquire_record? c, if_neg other, found], rfl, rfl⟩
  · rw [e]
    simp only [settle_record?, found, Option.map_some]
    split
    · exact ⟨_, rfl, rfl, rfl⟩
    · exact ⟨_, rfl, rfl, rfl⟩

/-- A receipt that was not stored before was stored by completing its record. -/
theorem apply_receipt {s : Reservations} (c : s.Consistent) {op : Op} {key : String × String}
    {record : MemoryReservation} {receipt : ToolReceipt}
    (found : (s.apply op).2.record? key = some record) (stored : record.receipt = some receipt) :
    s.record? key = some record ∨ ∃ tenant, op = .complete tenant record.reservationId receipt := by
  obtain ⟨same, _⟩ | ⟨request, id, rfl, _, _, e⟩ |
    ⟨tenant, id, new, a, r, rfl, index, at_, _, e⟩ := apply_cases s op
  · rw [same] at found
    exact Or.inl found
  · rw [e, acquire_record? c] at found
    split at found
    · cases found; cases stored
    · exact Or.inl found
  · rw [e, settle_record?] at found
    split at found
    · rename_i here
      obtain ⟨old, had, rfl⟩ := Option.map_eq_some_iff.mp found
      cases stored
      -- both indexes lead to the record at `a`
      have same : s.record? key = some r := by simp [record?, here, at_]
      rw [had] at same
      cases same
      obtain ⟨r', hr, hid⟩ := c.byId_at id a index
      rw [at_] at hr
      cases hr
      exact Or.inr ⟨tenant, by rw [hid]⟩
    · exact Or.inl found

/-- The record of `key` is `record`, and its receipt is stored. -/
def Holds (s : Reservations) (key : String × String) (record : MemoryReservation) : Prop :=
  s.record? key = some record ∧ record.receipt.isSome

theorem apply_holds {s : Reservations} (c : s.Consistent) {key : String × String}
    {record : MemoryReservation} (h : s.Holds key record) (op : Op) :
    (s.apply op).2.Holds key record := by
  obtain ⟨found, stored⟩ := h
  obtain ⟨same, _⟩ | ⟨request, id, rfl, absent, _, e⟩ |
    ⟨_, _, receipt, a, r, rfl, _, at_, agrees, e⟩ := apply_cases s op
  · rw [same]; exact ⟨found, stored⟩
  · have other : key ≠ request.key := by rintro rfl; rw [absent] at found; cases found
    rw [e]
    exact ⟨by rw [acquire_record? c, if_neg other, found], stored⟩
  · rw [e]
    refine ⟨?_, stored⟩
    rw [settle_record?, found]
    split
    · rename_i index
      -- the record completed here is the one held: its receipt can only be the same
      have this : s.record? key = some r := by simp [record?, index, at_]
      rw [found] at this
      cases this
      obtain ⟨old, ho⟩ := Option.isSome_iff_exists.mp stored
      cases record
      simp_all
    · rfl

theorem Steps.holds {s s' : Reservations} {log : List (Op × Answer)} (h : Steps s log s')
    (c : s.Consistent) {key : String × String} {record : MemoryReservation}
    (held : s.Holds key record) : s'.Holds key record := by
  induction h with
  | start => exact held
  | step past op _ ih => exact apply_holds (past.consistent c) ih op

theorem reserve_existing {s : Reservations} {request : ExecutionReservation} {id : String}
    {existing : MemoryReservation} (found : s.record? request.key = some existing) :
    s.reserve request id = (existingDecision existing request, s) := by
  simp [reserve, found]

theorem existingDecision_conflict (existing : MemoryReservation)
    (request : ExecutionReservation) :
    (existingDecision existing request).status = .conflict ↔
      existing.request.requestDigest ≠ request.requestDigest := by
  unfold existingDecision
  split
  · simpa
  · rename_i same
    refine iff_of_false ?_ same
    split
    · simp
    · split <;> simp

/-- In every state a history reaches: used amounts are the costs of the records and
the charges of the history, within the limit; a key is granted once if it has a record
and never otherwise; a key with a record is answered without a change, `CONFLICT` exactly
on another digest; and a stored receipt is answered from then on. -/
theorem history_accounting (limit : Int) {log : List (Op × Answer)} {s : Reservations}
    (h : Steps (initial limit) log s) :
    (∀ u, s.usedBy u = s.charges u ∧ s.charges u = (log.map (chargeTo u)).sum ∧
      (∀ n, s.used.get? u = some n → n ≤ limit) ∧ (0 ≤ limit → s.usedBy u ≤ limit)) ∧
    (∀ key, log.countP (grants key) = (s.record? key).isSome.toNat) ∧
    (∀ request id existing, s.record? request.key = some existing →
      (s.reserve request id).2 = s ∧
      ((s.reserve request id).1.status = .conflict ↔
        existing.request.requestDigest ≠ request.requestDigest)) ∧
    (∀ key record receipt, s.record? key = some record → record.receipt = some receipt →
      ∀ log' s', Steps s log' s' →
        s'.record? key = some record ∧
        ∀ request id, request.key = key →
          request.requestDigest = record.request.requestDigest →
          (s'.reserve request id).1 =
            if receipt.status = .accepted ∨ receipt.status = .unknown
            then ⟨.unknown, some record.reservationId, none⟩
            else ⟨.cached, some record.reservationId, some receipt⟩) := by
  have c : s.Consistent := h.consistent (initial_consistent limit)
  have bound : ∀ u n, s.used.get? u = some n → n ≤ limit := by
    intro u n found
    have := c.within u n found
    rwa [h.limit_eq] at this
  refine ⟨fun u => ⟨c.charged u, ?_, bound u, ?_⟩, fun key => ?_, ?_, ?_⟩
  · rw [h.charges_eq u]
    simp [initial, charges]
  · intro nonneg
    unfold usedBy
    cases found : s.used.get? u with
    | none => exact nonneg
    | some n => exact bound u n found
  · rw [h.grants_eq (initial_consistent limit) key]
    simp [initial, record?]
  · intro request id existing found
    rw [reserve_existing found]
    exact ⟨rfl, existingDecision_conflict existing request⟩
  · intro key record receipt found stored log' s' later
    have held : s'.Holds key record := later.holds c ⟨found, by simp [stored]⟩
    refine ⟨held.1, ?_⟩
    rintro request id rfl same
    rw [reserve_existing held.1]
    simp [existingDecision, stored, same]

/-- Two calls with one key: the first is charged, the second answered from its receipt. -/
theorem history_accounting_retry :
    let request : ExecutionReservation := ⟨"t", "r", "a", "mail", "1", "k", "d", 3⟩
    let receipt : ToolReceipt := ⟨"x", .succeeded, []⟩
    ∃ log s, Steps (initial 10) log s ∧ s.usedBy ("t", "r") = 3 ∧
      log.countP (grants ("t", "k")) = 1 ∧
      (s.reserve request "id2").1 = ⟨.cached, some "id1", some receipt⟩ := by
  intro request receipt
  have h₁ := Steps.step (Steps.start : Steps (initial 10) [] (initial 10)) (.reserve request "id1")
    ⟨by decide, by decide⟩
  have h₂ := Steps.step h₁ (.complete "t" "id1" receipt) rfl
  obtain ⟨used, granted, _, replay⟩ := history_accounting 10 h₂
  refine ⟨_, _, h₂, ?_, ?_, ?_⟩
  · rw [(used _).1]
    decide
  · rw [granted]
    decide
  · exact (replay ("t", "k") ⟨request, "id1", some receipt⟩ receipt (by decide) rfl _ _
      Steps.start).2 request "id2" rfl rfl

end Autonoesis.Reservations
