import Autonoesis.Application.Writes
import Autonoesis.Persistence.Artifacts

/-!
# The capture saga

A capture announces its saga, stores the artifact, reads it back and commits the evidence. It
is followed here over the store of the application and the objects of the artifact bucket, with
a crash after any of its steps, and through any number of further attempts.
-/

namespace Autonoesis.Saga
open Base

/-! ## A key that was used for another request -/

/-- The same context but for the digest of the request. -/
structure SameCall (earlier other : CommandContext) : Prop where
  identity : other.identity = earlier.identity
  correlationId : other.correlationId = earlier.correlationId
  causationId : other.causationId = earlier.causationId
  idempotencyKey : other.idempotencyKey = earlier.idempotencyKey

/-- The call raised and left the store as it was. -/
def Refuses (s : Store) (x : Except Exc Evidence × Store) : Prop :=
  (∃ e, x.1 = .error e) ∧ x.2 = s

section
variable [Sha256] {ports : Ports} {env : Env} {s : Store}

/-- A recorded key refuses every request but the one it was recorded for. -/
theorem recorded_refuses {ctx : CommandContext} {digest : String}
    (recorded : s.idempotencyDigests.get?
      (ctx.tenantId, ctx.key "capture_authoritative_evidence") = some digest)
    (differs : digest ≠ ctx.requestDigest) (cmd : CaptureAuthoritativeEvidence) :
    Refuses s (App.captureAuthoritativeEvidence ports env ctx cmd s) := by
  have raises : ∀ r, App.planCapture ports env ctx cmd s ≠ .ok r := by
    intro r ran
    simp only [App.planCapture, Tx.bind_ok, App.requireAny, Tx.ofExcept_ok, Tx.check_ok] at ran
    obtain ⟨_, _, ⟨_, rfl⟩, _, _, ⟨_, rfl⟩, _, _, loaded, _⟩ := ran
    exact differs ((App.loadIdempotency_returns.mp loaded).1 digest recorded)
  unfold App.captureAuthoritativeEvidence Tx.andThen
  obtain ⟨e, failed⟩ | ⟨plan, s', ran, _⟩ :=
    Tx.commit_cases (App.planCapture ports env ctx cmd) s
  · rw [failed]
    exact ⟨⟨e, rfl⟩, rfl⟩
  · exact absurd ran (raises _)

omit [Sha256] in
theorem loadIdempotency_unrecorded {ctx : CommandContext} {key : String}
    (unrecorded : s.idempotencyDigests.get? (ctx.tenantId, key) = none) :
    App.loadIdempotency ctx key s = .ok (s.idempotency.get? (ctx.tenantId, key), s) := by
  refine App.loadIdempotency_returns.mpr ⟨fun d used => ?_, rfl⟩
  rw [unrecorded] at used
  cases used

/-- Until the key is recorded the digest of the request plays no part in the plan. -/
theorem planCapture_unrecorded {earlier other : CommandContext} (same : SameCall earlier other)
    (unrecorded : s.idempotencyDigests.get?
      (earlier.tenantId, earlier.key "capture_authoritative_evidence") = none)
    (cmd : CaptureAuthoritativeEvidence) :
    App.planCapture ports env other cmd s = App.planCapture ports env earlier cmd s := by
  obtain ⟨⟨_, _, _, _, digest⟩, valid⟩ := other
  obtain ⟨rfl, rfl, rfl, rfl⟩ := same
  refine Tx.bind_at rfl fun _ s₁ role => ?_
  cases (Tx.ofExcept_ok.mp role).2
  refine Tx.bind_at rfl fun _ s₂ configured => ?_
  cases (Tx.check_ok.mp configured).2
  refine Tx.bind_at ?_ fun _ _ _ => rfl
  exact Eq.trans (loadIdempotency_unrecorded unrecorded)
    (loadIdempotency_unrecorded unrecorded).symm

/-- Neither does it in the commit, but for the digest that is recorded. -/
theorem commitEvidenceCapture_unrecorded {earlier other : CommandContext}
    (same : SameCall earlier other)
    (unrecorded : s.idempotencyDigests.get?
      (earlier.tenantId, earlier.key "capture_authoritative_evidence") = none)
    {saga : EvidenceCaptureSaga} {stored : EvidenceArtifactDescriptor} {evidence : Evidence}
    {s' : Store} (ran : App.commitEvidenceCapture env earlier saga stored s = .ok (evidence, s')) :
    ∃ s'', App.commitEvidenceCapture env other saga stored s = .ok (evidence, s'') := by
  obtain ⟨⟨_, _, _, _, digest⟩, valid⟩ := other
  obtain ⟨rfl, rfl, rfl, rfl⟩ := same
  simp only [App.commitEvidenceCapture, Tx.bind_ok, Tx.ofExcept_ok, Tx.pure_ok] at ran ⊢
  obtain ⟨_, _, ⟨decoded, rfl⟩, made, s, ⟨built, rfl⟩, _, s₃, added, _, s₄, completed, _, s₅,
    audited, _, s₆, remembered, done⟩ := ran
  cases done
  have kept (p : Part) (other : p ≠ .keys) : Store.Kept (fun _ => False) (fun s' =>
      s'.idempotency = s.idempotency ∧ s'.idempotencyDigests = s.idempotencyDigests) p :=
    Store.unkeyed_kept other
  have keys : s₅.idempotency = s.idempotency ∧ s₅.idempotencyDigests = s.idempotencyDigests :=
    ((Store.recordAudit_holds (kept .audits nofun) _ _).run
      ((Store.completeEvidenceCapture_holds (kept .sagas nofun) _ _).run
        ((Store.addEvidence_holds (kept (.rows .evidence) nofun) _).run ⟨rfl, rfl⟩ added).1
        completed).1 audited).1
  obtain ⟨free, _⟩ := Store.putIdempotency_ok.mp remembered
  have unbound : ∀ old, s₅.idempotency.get?
      (earlier.tenantId, earlier.key "capture_authoritative_evidence") ≠ some old := by
    intro old bound
    have digested := (free old bound).2
    rw [keys.2, unrecorded] at digested
    cases digested
  refine ⟨_, (), _, ⟨decoded, rfl⟩, evidence, s, ⟨built, rfl⟩, _, s₃, added, _, s₄, completed, _,
    s₅, audited, (), _, Store.putIdempotency_ok.mpr ⟨fun old bound => ?_, rfl⟩, rfl⟩
  exact absurd bound (unbound old)

/-- A call under a key that is not recorded goes through as the earlier request would. -/
theorem unrecorded_accepts {earlier other : CommandContext} (same : SameCall earlier other)
    (unrecorded : s.idempotencyDigests.get?
      (earlier.tenantId, earlier.key "capture_authoritative_evidence") = none)
    {cmd : CaptureAuthoritativeEvidence} {evidence : Evidence}
    (returned : (App.captureAuthoritativeEvidence ports env earlier cmd s).1 = .ok evidence) :
    (App.captureAuthoritativeEvidence ports env other cmd s).1 = .ok evidence := by
  have plans : App.planCapture ports env other cmd s = App.planCapture ports env earlier cmd s :=
    planCapture_unrecorded same unrecorded cmd
  unfold App.captureAuthoritativeEvidence Tx.andThen at returned ⊢
  rw [Tx.commit, plans, ← Tx.commit]
  obtain ⟨e, failed⟩ | ⟨plan, s', ran, done⟩ :=
    Tx.commit_cases (App.planCapture ports env earlier cmd) s
  · rw [failed] at returned
    cases returned
  · rw [done] at returned ⊢
    have kept : Store.Kept (fun _ => False) (fun s' => s'.idempotency = s.idempotency ∧
        s'.idempotencyDigests = s.idempotencyDigests) .sagas := Store.unkeyed_kept (by rintro ⟨⟩)
    have keys := ((App.planCapture_holds kept cmd).run ⟨rfl, rfl⟩ ran).1.2
    dsimp only at returned ⊢
    cases artifact : App.storeArtifact ports plan with
    | error e =>
      rw [artifact] at returned
      cases returned
    | ok made =>
      rw [artifact] at returned
      cases made with
      | inl found => exact returned
      | inr part =>
        obtain ⟨saga, stored⟩ := part
        dsimp only at returned ⊢
        obtain ⟨e, failed⟩ | ⟨made, s₂, committed, done⟩ :=
          Tx.commit_cases (App.commitEvidenceCapture env earlier saga stored) s'
        · rw [failed] at returned
          cases returned
        · rw [done] at returned
          cases returned
          obtain ⟨s₃, again⟩ := commitEvidenceCapture_unrecorded same (keys ▸ unrecorded) committed
          rw [Tx.commit, again]

/-- A key that was used with another digest is refused, and nothing changed, once it is recorded;
a call that would have gone through with the earlier digest is refused only then. -/
theorem reused_key_refused {earlier other : CommandContext} (same : SameCall earlier other)
    (differs : other.requestDigest ≠ earlier.requestDigest)
    (cmd : CaptureAuthoritativeEvidence) :
    ((s.idempotencyDigests.get? (earlier.tenantId,
        earlier.key "capture_authoritative_evidence")).any (· ≠ other.requestDigest) →
      Refuses s (App.captureAuthoritativeEvidence ports env other cmd s)) ∧
    ∀ evidence, (App.captureAuthoritativeEvidence ports env earlier cmd s).1 = .ok evidence →
      (Refuses s (App.captureAuthoritativeEvidence ports env other cmd s) ↔
        (s.idempotencyDigests.get? (earlier.tenantId,
          earlier.key "capture_authoritative_evidence")).isSome) := by
  have named : (other.tenantId, other.key "capture_authoritative_evidence") =
      (earlier.tenantId, earlier.key "capture_authoritative_evidence") := by
    rw [CommandContext.tenantId, CommandContext.key, same.identity, same.idempotencyKey]
    rfl
  have refuses {digest : String} (recorded : s.idempotencyDigests.get? (earlier.tenantId,
      earlier.key "capture_authoritative_evidence") = some digest)
      (foreign : digest ≠ other.requestDigest) :
      Refuses s (App.captureAuthoritativeEvidence ports env other cmd s) :=
    recorded_refuses (named ▸ recorded) foreign cmd
  refine ⟨fun recorded => ?_, fun evidence returned => ⟨fun refused => ?_, fun recorded => ?_⟩⟩
  · cases found : s.idempotencyDigests.get? (earlier.tenantId,
      earlier.key "capture_authoritative_evidence") with
    | none =>
      rw [found] at recorded
      cases recorded
    | some digest => exact refuses found (by simpa [found] using recorded)
  · by_contra absent
    have unrecorded := Option.not_isSome_iff_eq_none.mp absent
    obtain ⟨⟨e, raised⟩, _⟩ := refused
    rw [unrecorded_accepts same unrecorded returned] at raised
    cases raised
  · obtain ⟨digest, found⟩ := Option.isSome_iff_exists.mp recorded
    by_cases foreign : digest = other.requestDigest
    · have refused : Refuses s (App.captureAuthoritativeEvidence ports env earlier cmd s) :=
        recorded_refuses found (by rw [foreign]; exact differs) cmd
      obtain ⟨⟨e, raised⟩, _⟩ := refused
      rw [returned] at raised
      cases raised
    · exact refuses found foreign

end

namespace Sample
open Autonoesis.Sample

attribute [local instance] Autonoesis.Sample.sha256

/-- The sample ports, while the artifact store loses its connection before the read back. -/
def lossyPorts : Ports := { legacyPorts with evidence := { legacyPorts.evidence with
  retrieveVerified := fun _ => .error (.runtimeError "connection lost") } }

def earlier : CommandContext := context "capture-1" capture_named

/-- A request for what was never there, under the key of the earlier one. -/
def other : CommandContext where
  toCommandContextFields := { contextFields "capture-1" with
    requestDigest := "373e0712c83cffe15ff427b60e788b549f82496fe5fd5391f7921832b04c6b20" }
  valid := by decide +kernel

def elsewhere : CaptureAuthoritativeEvidence :=
  { runId := 33, actionId := 65, criterionId := "read", source := "crm" }

theorem sameCall : SameCall earlier other := ⟨rfl, rfl, rfl, rfl⟩

theorem other_differs : other.requestDigest ≠ earlier.requestDigest := by decide +kernel

/-- The store after the earlier request failed to read its artifact back. -/
def interrupted : Store :=
  (Command.captureEvidence earlier capture).run lossyPorts (env 100) (Store.after {} (session acted))

/-- The store after the earlier request was committed. -/
def recorded : Store :=
  (Command.captureEvidence earlier capture).run legacyPorts (env 100)
    (Store.after {} (session acted))

theorem earlier_facts : drawsUnused acted {} = true ∧
    ((Store.after {} (session acted)).Unused 100 ∧ (Store.after {} (session acted)).Unused 101) ∧
    (App.captureAuthoritativeEvidence legacyPorts (env 102) other elsewhere
      interrupted).1.toOption.map (fun e => (e.runId, e.actionId)) = some (32, 64) ∧
    (recorded.idempotencyDigests.get? (earlier.tenantId,
      earlier.key "capture_authoritative_evidence")).any (· ≠ other.requestDigest) = true := by
  rw [interrupted, recorded, after_session]
  decide +kernel

/-- A request under the key of an interrupted one commits evidence of the earlier request's Run
and Action. -/
theorem earlier_request_committed : ∃ s₀ s, Store.Later {} s₀ ∧ Store.Next s₀ s ∧
    s = (Command.captureEvidence earlier capture).run lossyPorts (env 100) s₀ ∧
    SameCall earlier other ∧ other.requestDigest ≠ earlier.requestDigest ∧
    (App.captureAuthoritativeEvidence legacyPorts (env 102) other elsewhere s).1.toOption.map
      (fun e => (e.runId, e.actionId)) = some (32, 64) := by
  obtain ⟨draws, unused, answer, _⟩ := earlier_facts
  refine ⟨_, interrupted, later_session draws, ?_, rfl, sameCall, other_differs, answer⟩
  exact .command lossyPorts (.captureEvidence earlier capture) (env_unused unused)

/-- The key of a committed request is refused with another digest. -/
theorem recorded_key_refused : Store.Later {} recorded ∧ Refuses recorded
    (App.captureAuthoritativeEvidence legacyPorts (env 102) other elsewhere recorded) := by
  obtain ⟨draws, unused, _, bound⟩ := earlier_facts
  refine ⟨(later_session draws).tail ?_, (reused_key_refused sameCall other_differs elsewhere).1
    bound⟩
  exact .command legacyPorts (.captureEvidence earlier capture) (env_unused unused)

end Sample

end Autonoesis.Saga
