import Mathlib.Tactic.NormNum
import Autonoesis.Application.Platform
import Autonoesis.Observability.Budgets

/-!
# Measurements from audit events

`AuditEventSloProjector` counts the names of the events in the window and pairs the requests of
approvals with their decisions, by the object the events name.
-/

namespace Autonoesis.Observability
open Base SLORegistry

/-- The requests that wait for a decision, by object, and the latencies found so far, in
microseconds. -/
structure Pairing where
  requested : Dict String Instant := .empty
  latencies : List Int := []

/-- The body of the loop of `_record_approval_latency`. -/
def Pairing.next (s : Pairing) (event : AuditEvent) : Pairing :=
  match event.createdAt with
  | none => s
  | some occurred =>
    if event.eventType = "approval.requested" then
      { s with requested := s.requested.set event.objectId occurred }
    else if event.eventType = "approval.approved" ∨ event.eventType = "approval.rejected" then
      match s.requested.get? event.objectId with
      | none => s
      | some started =>
        { requested := s.requested.filterKeys (· ≠ event.objectId)
          latencies := s.latencies ++ [max (occurred - started) 0] }
    else s

/-- `latencies_seconds`, in microseconds. -/
def approvalLatencies (events : List AuditEvent) : List Int :=
  (events.foldl Pairing.next {}).latencies

/-- The events of the window. -/
def inWindow (windowStart now : Instant) (events : List AuditEvent) : List AuditEvent :=
  events.filter fun event => windowStart ≤ event.createdAt.getD now

def counted (eventType : String) (events : List AuditEvent) : Nat :=
  events.countP (·.eventType = eventType)

/-- The targets `project` installs. -/
def projectorTargets (window : Int) : List SLOTarget :=
  [{ sli := .outcomeSuccessRate, target := 95 / 100, window },
    { sli := .actionUnknownRate, target := 1 / 100, window, operator := "lte" },
    { sli := .approvalLatencyP95, target := 5000, window, operator := "lte" }]

/-- The rate of one count in another, when there is anything to count. -/
def recordRate (sli : SLI) (part whole : Nat) (windowStart now : Instant) (r : SLORegistry) :
    SLORegistry :=
  if 0 < whole then r.record ⟨sli, part / whole, windowStart, now, whole, now⟩ else r

/-- `_record_approval_latency`. -/
def recordApprovalLatency (events : List AuditEvent) (windowStart now : Instant)
    (r : SLORegistry) : SLORegistry :=
  let latencies := (approvalLatencies events).insertionSort (· ≤ ·)
  if latencies.isEmpty then r
  else
    let p95 := latencies.getD (min (latencies.length * 95 / 100) (latencies.length - 1)) 0
    r.record ⟨.approvalLatencyP95, p95 / 1000, windowStart, now, latencies.length, now⟩

/-- `project`, on the events the source lists for the tenant. -/
def project (listed : List AuditEvent) (window : Int) (now : Instant) : SLORegistry :=
  let windowStart := now - window
  let events := inWindow windowStart now listed
  let recorded := counted "outcome.recorded" events
  let verified := counted "outcome.verified" events
  let governed := counted "action.governed_execution_recorded" events
  let reconciled := counted "action.reconciled" events
  recordApprovalLatency events windowStart now
    (recordRate .actionUnknownRate reconciled governed windowStart now
      (recordRate .outcomeSuccessRate verified recorded windowStart now
        (make (projectorTargets window))))

/-! ## What a projected registry holds -/

theorem measurements_record_of_ne {r : SLORegistry} {m : SLOMeasurement} {sli : SLI}
    (other : sli ≠ m.sli) : (r.record m).measurements sli = r.measurements sli :=
  Function.update_of_ne other _ _

theorem targets_recordRate (sli : SLI) (part whole : Nat) (windowStart now : Instant)
    (r : SLORegistry) : (recordRate sli part whole windowStart now r).targets = r.targets := by
  unfold recordRate
  split <;> rfl

theorem measurements_recordRate_of_ne {sli sli' : SLI} (other : sli' ≠ sli) (part whole : Nat)
    (windowStart now : Instant) (r : SLORegistry) :
    (recordRate sli part whole windowStart now r).measurements sli' = r.measurements sli' := by
  unfold recordRate
  split
  · exact measurements_record_of_ne other
  · rfl

theorem measurements_recordRate (sli : SLI) (part whole : Nat) (windowStart now : Instant)
    (r : SLORegistry) : (recordRate sli part whole windowStart now r).measurements sli =
      r.measurements sli ++
        if 0 < whole then [⟨sli, part / whole, windowStart, now, whole, now⟩] else [] := by
  unfold recordRate
  split
  · exact Function.update_self ..
  · exact (List.append_nil _).symm

theorem targets_recordApprovalLatency (events : List AuditEvent) (windowStart now : Instant)
    (r : SLORegistry) : (recordApprovalLatency events windowStart now r).targets = r.targets := by
  simp only [recordApprovalLatency]
  split <;> rfl

theorem measurements_recordApprovalLatency_of_ne {sli : SLI} (other : sli ≠ .approvalLatencyP95)
    (events : List AuditEvent) (windowStart now : Instant) (r : SLORegistry) :
    (recordApprovalLatency events windowStart now r).measurements sli = r.measurements sli := by
  simp only [recordApprovalLatency]
  split
  · rfl
  · exact measurements_record_of_ne other

theorem targets_project (listed : List AuditEvent) (window : Int) (now : Instant) :
    (project listed window now).targets = (make (projectorTargets window)).targets := by
  simp only [project, targets_recordApprovalLatency, targets_recordRate]

/-- The success rate that is measured: the verified events by the recorded ones, if there are
recorded ones. -/
theorem measured_success_rate (listed : List AuditEvent) (window : Int) (now : Instant) :
    ((project listed window now).measurements .outcomeSuccessRate).map (·.value) =
      if 0 < counted "outcome.recorded" (inWindow (now - window) now listed) then
        [(counted "outcome.verified" (inWindow (now - window) now listed) : Rat) /
          counted "outcome.recorded" (inWindow (now - window) now listed)]
      else [] := by
  have other : SLI.outcomeSuccessRate ≠ .approvalLatencyP95 := by decide
  have other' : SLI.outcomeSuccessRate ≠ .actionUnknownRate := by decide
  simp only [project, measurements_recordApprovalLatency_of_ne other,
    measurements_recordRate_of_ne other', measurements_recordRate]
  split <;> rfl

/-- The two rates have a budget that is sound whatever is measured, and the latency has none: its
target is a number of milliseconds. -/
theorem project_sound_iff (listed : List AuditEvent) (window : Int) (now later : Instant)
    (t : SLOTarget) (installed : t ∈ projectorTargets window) :
    ((project listed window now).computeBudget t.sli later).Sound
      (t.Met ((project listed window now).recent t t.sli later)) ↔
        t.sli ≠ .approvalLatencyP95 := by
  have targeted : (project listed window now).targets.get? t.sli = some t := by
    rw [targets_project]
    simp only [projectorTargets, List.mem_cons, List.not_mem_nil, or_false] at installed
    obtain rfl | rfl | rfl := installed <;> rfl
  rw [computeBudget_sound_iff _ _ t targeted]
  simp only [projectorTargets, List.mem_cons, List.not_mem_nil, or_false] at installed
  obtain rfl | rfl | rfl := installed
  · exact iff_of_true (.inl (by norm_num)) (fun latency => by cases latency)
  · exact iff_of_true (.inl (by norm_num)) (fun latency => by cases latency)
  · refine iff_of_false ?_ (fun other => other rfl)
    rintro (below | ⟨one, _⟩)
    · norm_num at below
    · norm_num at one

/-- A budget is sound exactly for a target below one, and for a target of one as long as no samples
meet it; of the targets of the projector, the latency's is sound for no events. -/
theorem error_budgets (r : SLORegistry) (sli : SLI) (t : SLOTarget)
    (targeted : r.targets.get? sli = some t) (now : Instant) :
    ((r.computeBudget sli now).Sound (t.Met (r.recent t sli now)) ↔
      t.target < 1 ∨ t.target = 1 ∧ ¬t.Met (r.recent t sli now)) ∧
    ∀ (listed : List AuditEvent) (window : Int) (now later : Instant),
      ∀ t ∈ projectorTargets window,
        (((project listed window now).computeBudget t.sli later).Sound
          (t.Met ((project listed window now).recent t t.sli later)) ↔
            t.sli ≠ .approvalLatencyP95) := by
  constructor
  · exact computeBudget_sound_iff r sli t targeted now
  · intro listed window now later t installed
    exact project_sound_iff listed window now later t installed

namespace Sample

/-- An event at a time. -/
def event (eventType objectId : String) (at_ : Instant) : AuditEvent where
  tenantId := 1
  actorId := 2
  principalId := 3
  eventType := eventType
  objectType := "approvalrequest"
  objectId := objectId
  correlationId := 4
  details := []
  eventId := 5
  createdAt := some at_

/-- An approval that is decided a second after it was requested. -/
def decided : SLORegistry :=
  project [event "approval.requested" "run" 0, event "approval.approved" "run" 1000000]
    (days 30) 2000000

/-- The latency is a fifth of the target, and its budget is exhausted. -/
theorem healthy_latency_exhausted : ¬∀ (r : SLORegistry) (sli : SLI) (t : SLOTarget),
    r.targets.get? sli = some t → ∀ now,
      (r.computeBudget sli now).Sound (t.Met (r.recent t sli now)) := by
  intro sound
  have latency := sound decided .approvalLatencyP95
    { sli := .approvalLatencyP95, target := 5000, window := days 30, operator := "lte" } rfl 2000000
  have within := latency.within
  revert within
  decide +kernel

theorem decided_outcomes : (decided.computeBudget .outcomeSuccessRate 2000000).Sound
    (SLOTarget.Met { sli := .outcomeSuccessRate, target := 95 / 100, window := days 30 }
      (decided.recent { sli := .outcomeSuccessRate, target := 95 / 100, window := days 30 }
        .outcomeSuccessRate 2000000)) :=
  (error_budgets decided .outcomeSuccessRate
    { sli := .outcomeSuccessRate, target := 95 / 100, window := days 30 } rfl 2000000).1.mpr
      (.inl (by norm_num))

example : (decided.computeBudget .approvalLatencyP95 2000000) =
    { sli := .approvalLatencyP95, totalBudget := -4999, exhausted := true } := by decide +kernel

end Sample

end Autonoesis.Observability
