import Autonoesis.Application.Writes
import Autonoesis.Persistence.AuditLog

/-!
# Facts in the audit log

What `record_audit` and `_record_fact` leave in the log of a store, and what a listing of the
tenant's events makes of it.
-/

namespace Autonoesis.AuditLog
open Base

/-- The event of `_record_fact`, without an actor and with the version for details. -/
def fact (tenantId : Uuid) (eventType objectType : String) (objectId : Uuid) (version : Int)
    (correlationId eventId : Uuid) : AuditEvent where
  tenantId := tenantId
  actorId := 0
  principalId := 0
  eventType := eventType
  objectType := objectType
  objectId := objectId.str
  correlationId := correlationId
  details := [("version", .int version)]
  eventId := eventId

/-- `row` is the event as it was appended at `now`. -/
structure Logs (e : AuditEvent) (now : Instant) (row : AuditEvent) : Prop where
  tenantId : row.tenantId = e.tenantId
  eventType : row.eventType = e.eventType
  objectId : row.objectId = e.objectId
  createdAt : row.createdAt = some now

/-- The events of the tenant are numbered from one. -/
def Numbered (t : Uuid) (rows : List AuditEvent) : Prop :=
  (ofTenant t rows).map (·.sequence) =
    (List.range' 1 (ofTenant t rows).length).map fun n : Nat => some (n : Int)

section
variable {t : Uuid} {rows : List AuditEvent}

theorem ofTenant_concat_of_eq {row : AuditEvent} (own : row.tenantId = t) :
    ofTenant t (rows ++ [row]) = ofTenant t rows ++ [row] := by
  simp [ofTenant, own]

theorem ofTenant_concat_of_ne {row : AuditEvent} (other : row.tenantId ≠ t) :
    ofTenant t (rows ++ [row]) = ofTenant t rows := by
  simp [ofTenant, other]

/-- Numbered events are listed in the order they were appended. -/
theorem Numbered.listed (numbered : Numbered t rows) : listAuditEvents rows t = ofTenant t rows := by
  apply List.Pairwise.insertionSort_eq
  have ordered : ((ofTenant t rows).map (·.sequence)).Pairwise fun s s' =>
      ∃ k k' : Nat, k < k' ∧ s = some (k : Int) ∧ s' = some (k' : Int) := by
    rw [numbered, List.pairwise_map]
    exact (List.pairwise_lt_range' ..).imp fun below => ⟨_, _, below, rfl, rfl⟩
  refine (List.pairwise_map.mp ordered).imp ?_
  rintro row row' ⟨k, k', below, sequence, sequence'⟩
  simp only [nullsFirst, sequence, sequence']
  omega

/-- The number `record_audit` gives the next event of a tenant. -/
theorem Numbered.last (numbered : Numbered t rows) :
    (match rows.reverse.find? (·.tenantId = t) with
      | some p => p.sequence.getD 0 + 1
      | none => 1) = ((ofTenant t rows).length + 1 : Int) := by
  rw [← List.head?_filter, List.filter_reverse, List.head?_reverse]
  change (match (ofTenant t rows).getLast? with
    | some p => p.sequence.getD 0 + 1
    | none => 1) = _
  obtain none | ⟨front, last, split⟩ := (ofTenant t rows).eq_nil_or_concat
  · rw [none]
    rfl
  · have placed := numbered
    rw [Numbered, split] at placed
    rw [split]
    simp only [List.concat_eq_append, List.map_append, List.map_cons, List.map_nil,
      List.length_append, List.length_cons, List.length_nil, List.getLast?_append,
      List.getLast?_singleton, Option.some_or] at placed ⊢
    rw [Nat.zero_add, List.range'_concat, List.map_append] at placed
    have same := (List.append_inj' placed rfl).2
    simp only [List.map_cons, List.map_nil, List.cons.injEq, and_true] at same
    rw [same]
    simp
    omega

theorem Numbered.concat {row : AuditEvent} (numbered : Numbered t rows)
    (next : row.tenantId = t → row.sequence = some ((ofTenant t rows).length + 1 : Int)) :
    Numbered t (rows ++ [row]) := by
  by_cases own : row.tenantId = t
  · rw [Numbered, ofTenant_concat_of_eq own, List.length_append, List.map_append, numbered,
      List.length_singleton, List.range'_concat, List.map_append]
    refine congrArg _ ?_
    simp only [List.map_cons, List.map_nil, next own, Nat.one_mul, List.cons.injEq,
      Option.some.injEq, and_true]
    omega
  · rwa [Numbered, ofTenant_concat_of_ne own]

theorem counted_filter (keep : AuditEvent → Bool) :
    (listAuditEvents rows t).countP keep =
      rows.countP fun e => keep e && decide (e.tenantId = t) := by
  rw [listAuditEvents, (List.perm_insertionSort ..).countP_eq, ofTenant, List.countP_filter]

variable [Sha256]

/-- What `record_audit` appends. -/
theorem recordAudit_appends {e : AuditEvent} {now : Instant} {s : Store} {r : Unit × Store}
    (ran : Store.recordAudit e now s = .ok r) : ∃ row, Logs e now row ∧
      (∀ t, Numbered t s.audits → Numbered t (s.audits ++ [row])) ∧
      r.2 = { s with audits := s.audits ++ [row] } := by
  simp only [Store.recordAudit, Tx.bind_ok, Tx.read_ok, Tx.ofExcept_ok, Tx.write_ok] at ran
  obtain ⟨previous, _, ⟨rfl, rfl⟩, row, _, ⟨made, rfl⟩, wrote⟩ := ran
  obtain ⟨_, rfl⟩ := AuditEvent.chained_ok.mp made
  refine ⟨_, ?_, fun t numbered => numbered.concat fun own => ?_, wrote⟩
  · exact ⟨rfl, rfl, rfl, rfl⟩
  · subst own
    exact congrArg some numbered.last

end

end Autonoesis.AuditLog
