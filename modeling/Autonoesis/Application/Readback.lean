import Autonoesis.Application.Recovery

/-!
# The subjects of captured evidence

A capture carries the subjects of the Goal through the definition of its saga. An empty version
is read back as none, and evidence refuses subjects that are equal; `verify_outcome` compares
the subjects of the evidence with those of the Goal.
-/

namespace Autonoesis.Recovery
open Base Artifacts

/-- Subjects that are read back as they were written. -/
theorem map_readBack_eq_self {subjects : List SubjectRef} :
    subjects.map App.readBack = subjects ↔ ∀ subject ∈ subjects, subject.version ≠ some "" := by
  have each (subject : SubjectRef) :
      App.readBack subject = subject ↔ subject.version ≠ some "" := by
    obtain ⟨system, subjectType, subjectId, version⟩ := subject
    simp only [App.readBack, SubjectRef.mk.injEq, true_and]
    constructor
    · intro same empty
      rw [if_pos empty, empty] at same
      cases same
    · intro named
      exact if_neg named
  have self : subjects.map App.readBack = subjects ↔
      subjects.map App.readBack = subjects.map fun subject => subject := by rw [List.map_id']
  rw [self, List.map_inj_left]
  exact forall₂_congr fun subject _ => each subject

section
variable [Sha256] {call : Call} {r : Reading} {w : Site}

/-- The capture answers evidence with the subjects of the Goal, and leaves it stored. -/
def Faithful (call : Call) (r : Reading) (x : Option (Except Exc Evidence) × Site) : Prop :=
  ∃ evidence, x.1 = some (.ok evidence) ∧
    x.2.store.evidence.get? call.evidenceId = some evidence ∧
    evidence.subjectRefs = r.goal.subjectRefs

/-- A first call of `verify_outcome`, while the authority answers what it answered before, that
the criterion is met, and the observation is valid. -/
structure Verifiable (call : Call) (r : Reading) (s : Store) (env : Env) (ctx : CommandContext) :
    Prop where
  role : App.roleCheck ctx App.operators = .ok ()
  tenant : ctx.tenantId = call.ctx.tenantId
  unbound : s.idempotency.get? (ctx.tenantId, ctx.key "verify_outcome") = none
  undigested : s.idempotencyDigests.get? (ctx.tenantId, ctx.key "verify_outcome") = none
  observed : call.ports.evidence.observe r.observation.source call.ctx.tenantId
    r.goal.subjectRefs r.criterion = .ok r.observation
  met : r.observation.criterionMet = some true
  since : r.observation.capturedAt ≤ env.now 0
  until_ : env.now 0 ≤ r.observation.validUntil

/-- `verify_outcome` on the captured evidence records that the criterion is met. -/
def Verifies (call : Call) (r : Reading) (w : Site) : Prop :=
  ∀ env ctx, Verifiable call r w.store env ctx →
    ∃ outcome s', App.verifyOutcome (call.portsAt w.objects) env ctx call.cmd.runId
      call.cmd.criterionId [call.evidenceId] w.store = .ok (outcome, s') ∧
      outcome.status = .verified

/-- Re-reading the captured evidence decides that the criterion is met. -/
theorem reread_captured (hex : ∀ text, isSha256Hex (Sha256.hexdigest text) = true)
    (admitted : Admitted call) {evidence : Evidence} {o : S3Object}
    (made : evidence.toEvidenceFields = r.evidence call (given o.versionId))
    (faithful : evidence.subjectRefs = r.goal.subjectRefs)
    (there : objectAt call.bucket w.objects (r.descriptor call) = some o)
    (intact : Intact (r.descriptor call) o)
    (observed : call.ports.evidence.observe r.observation.source call.ctx.tenantId
      r.goal.subjectRefs r.criterion = .ok r.observation)
    (met : r.observation.criterionMet = some true) :
    TrustedOutcomeVerifier.reread (call.portsAt w.objects).evidence call.ctx.tenantId
      r.goal.subjectRefs r.criterion evidence = .ok (some .verified) := by
  have descriptor : Described call.bucket evidence.descriptor := by
    refine ⟨?_, ?_⟩ <;> simp only [Evidence.descriptor, made]
    · rfl
    · exact hex _
  have located : objectAt call.bucket w.objects evidence.descriptor = some o := by
    rw [← there]
    simp only [objectAt, Evidence.descriptor, made]
    rfl
  have read : retrieveVerified call.bucket w.objects evidence.descriptor = .ok o.body := by
    refine retrieve_found admitted.bucket descriptor located ?_ (.inr ?_)
    · simp only [Evidence.descriptor, made]
      exact intact.content
    · simp only [Evidence.descriptor, made]
      rfl
  have content : Sha256.hexdigest o.body = evidence.contentDigest := by
    rw [intact.content, made]
    rfl
  have source : call.ports.evidence.observe evidence.source call.ctx.tenantId r.goal.subjectRefs
      r.criterion = .ok r.observation := by
    rw [made]
    exact observed
  have attempted : (do
      let content ← (call.portsAt w.objects).evidence.retrieveVerified evidence.descriptor
      let observation ← (call.portsAt w.objects).evidence.observe evidence.source
        call.ctx.tenantId r.goal.subjectRefs r.criterion
      return (content, observation)) = .ok (o.body, r.observation) := by
    simp only [Call.portsAt, read, source]
    rfl
  have unchanged : (Sha256.hexdigest o.body ≠ evidence.contentDigest ||
      r.observation.contentDigest ≠ evidence.contentDigest ||
      r.observation.sourceIdentity ≠ evidence.sourceIdentity ||
      r.observation.reference ≠ evidence.sourceReference ||
      r.observation.observedState ≠ evidence.observedState ||
      (!evidence.subjectRefs.isEmpty && evidence.subjectRefs ≠ r.goal.subjectRefs)) = false := by
    rw [faithful, content, made]
    simp [Reading.evidence]
  unfold TrustedOutcomeVerifier.reread
  rw [attempted]
  simp only [unchanged, met]
  rfl

/-- The Outcome a decision on the captured evidence makes. -/
def verdict (call : Call) (r : Reading) (evidence : Evidence) (outcomeId : Uuid) (at_ : Instant) :
    OutcomeFields where
  tenantId := call.ctx.tenantId
  goalId := r.goal.goalId
  runId := r.run.runId
  criterionId := call.cmd.criterionId
  verifierVersion := TrustedOutcomeVerifier.version
  status := .verified
  evidence := [evidence]
  outcomeId := outcomeId
  verifiedAt := some at_

theorem verdict_check {evidence : Evidence} {version : Option String}
    (made : evidence.toEvidenceFields = r.evidence call version) (outcomeId : Uuid)
    (named : isBlank call.cmd.criterionId = false) {at_ : Instant}
    (since : r.observation.capturedAt ≤ at_) (until_ : at_ ≤ r.observation.validUntil) :
    (verdict call r evidence outcomeId at_).check = .ok () := by
  have version : isBlank TrustedOutcomeVerifier.version = false := by decide +kernel
  have item : (verdict call r evidence outcomeId at_).checkEvidence at_ evidence = .ok () := by
    simp [OutcomeFields.checkEvidence, verdict, made, Reading.evidence, since, until_]
  simp only [OutcomeFields.check, verdict, bind_eq_ok, checks_cons, checks_nil, if_true]
  refine ⟨(), ⟨by simp [named, version], by simp, by simp, by simp, trivial⟩, ?_⟩
  refine forM_eq_ok.mpr fun e there => ?_
  rw [List.mem_singleton.mp there]
  exact item

/-- `verify_outcome` in a store with the Run, the Goal and the captured evidence. -/
theorem verifies_captured (hex : ∀ text, isSha256Hex (Sha256.hexdigest text) = true)
    (admitted : Admitted call) (named : isBlank call.cmd.criterionId = false)
    {evidence : Evidence} {o : S3Object}
    (made : evidence.toEvidenceFields = r.evidence call (given o.versionId))
    (faithful : evidence.subjectRefs = r.goal.subjectRefs)
    (stored : w.store.evidence.get? call.evidenceId = some evidence)
    (there : objectAt call.bucket w.objects (r.descriptor call) = some o)
    (intact : Intact (r.descriptor call) o) (audited : w.store.Audited)
    (run : w.store.runs.get? call.cmd.runId = some r.run)
    (runTenant : r.run.tenantId = call.ctx.tenantId)
    (goal : w.store.goals.get? r.run.goalId = some r.goal)
    (goalTenant : r.goal.tenantId = call.ctx.tenantId)
    (criterion : r.goal.successCriteria.find? (·.criterionId = call.cmd.criterionId) =
      some r.criterion) : Verifies call r w := by
  intro env ctx verifiable
  have candidate : TrustedOutcomeVerifier.isCandidate (env.now 0) evidence = true := by
    simp [TrustedOutcomeVerifier.isCandidate, made, Reading.evidence, verifiable.since,
      verifiable.until_]
  have decided : TrustedOutcomeVerifier.verify (call.portsAt w.objects).evidence ctx.tenantId
      r.goal.subjectRefs r.criterion [evidence] (env.now 0) =
        .ok ⟨.verified, TrustedOutcomeVerifier.version, env.now 0⟩ := by
    have reread := reread_captured hex admitted made faithful there intact verifiable.observed
      verifiable.met
    rw [TrustedOutcomeVerifier.verify, List.filter_cons_of_pos candidate, verifiable.tenant,
      TrustedOutcomeVerifier.firstDecision, reread]
    rfl
  have own : evidence.tenantId = ctx.tenantId := by
    rw [verifiable.tenant, made]
    rfl
  have items : [call.evidenceId].mapM (Store.getEvidence ctx.tenantId) w.store =
      .ok ([evidence], w.store) :=
    Tx.mapM_returns (f := fun _ => evidence) fun id listed => by
      rw [List.mem_singleton.mp listed]
      exact Store.find_ok.mpr ⟨stored, own, rfl⟩
  let outcome : Outcome := ⟨verdict call r evidence (env.uuid 0) (env.now 0),
    verdict_check made (env.uuid 0) named verifiable.since verifiable.until_⟩
  let added : Store := { w.store with outcomes := w.store.outcomes.set outcome.outcomeId outcome }
  have adds : Store.addOutcome outcome w.store = .ok ((), added) := by
    refine Tx.bind_ok.mpr ⟨⟨⟩, w.store, Tx.forM_returns fun e listed => ?_, rfl⟩
    rw [List.mem_singleton.mp listed]
    refine Tx.bind_ok.mpr ⟨evidence, w.store, Store.find_ok.mpr ⟨?_, ?_, rfl⟩, ?_⟩
    · rw [made]
      exact stored
    · rw [made]
      rfl
    · exact Tx.check_ok.mpr ⟨by simp, rfl⟩
  obtain ⟨events, audits⟩ := Store.recordAudit_returns (s := added) audited
    (ctx.audit "outcome.verified" outcome.auditItem (env.uuid 1)) (env.now 1)
  have builds : Outcome.make { outcome.toOutcomeFields with tenantId := ctx.tenantId } =
      .ok outcome := by
    rw [verifiable.tenant]
    exact guarded_eq_ok.mpr ⟨outcome.valid, rfl⟩
  have loads : App.loadIdempotency ctx (ctx.key "verify_outcome") w.store = .ok (none, w.store) := by
    refine App.loadIdempotency_returns.mpr ⟨fun d used => ?_, ?_⟩
    · cases verifiable.undigested.symm.trans used
    · exact congrArg (·, w.store) verifiable.unbound.symm
  let final : Store := { added with
    audits := events
    idempotency := w.store.idempotency.set (ctx.tenantId, ctx.key "verify_outcome") (env.uuid 0)
    idempotencyDigests := w.store.idempotencyDigests.set
      (ctx.tenantId, ctx.key "verify_outcome") ctx.requestDigest }
  refine ⟨outcome, final, ?_, rfl⟩
  refine Tx.bind_ok.mpr ⟨(), w.store, Tx.ofExcept_ok.mpr ⟨verifiable.role, rfl⟩, ?_⟩
  refine Tx.bind_ok.mpr ⟨(), w.store, Tx.check_ok.mpr ⟨?_, rfl⟩, ?_⟩
  · simp [Call.portsAt, admitted.artifacts, admitted.readback]
  refine Tx.bind_ok.mpr ⟨none, w.store, loads, ?_⟩
  refine Tx.bind_ok.mpr ⟨r.run, w.store, Store.find_ok.mpr ⟨run, ?_, rfl⟩, ?_⟩
  · exact runTenant.trans verifiable.tenant.symm
  refine Tx.bind_ok.mpr ⟨r.goal, w.store, Store.find_ok.mpr ⟨goal, ?_, rfl⟩, ?_⟩
  · exact goalTenant.trans verifiable.tenant.symm
  rw [criterion]
  refine Tx.bind_ok.mpr ⟨[evidence], w.store, items, ?_⟩
  refine Tx.bind_ok.mpr ⟨(), w.store, Tx.check_ok.mpr ⟨?_, rfl⟩, ?_⟩
  · simp [made, Reading.evidence]
  refine Tx.bind_ok.mpr ⟨_, w.store, Tx.ofExcept_ok.mpr ⟨decided, rfl⟩, ?_⟩
  refine Tx.bind_ok.mpr ⟨outcome, w.store, Tx.ofExcept_ok.mpr ⟨builds, rfl⟩, ?_⟩
  refine Tx.bind_ok.mpr ⟨(), added, adds, Tx.bind_ok.mpr ⟨(), _, audits, ?_⟩⟩
  refine Tx.bind_ok.mpr ⟨(), final, Store.putIdempotency_ok.mpr ⟨fun old bound => ?_, rfl⟩, rfl⟩
  cases verifiable.unbound.symm.trans bound

/-- A capture changes no Run and no Goal. -/
theorem attempt_keeps (hex : ∀ text, isSha256Hex (Sha256.hexdigest text) = true)
    (audited : w.store.Audited) (a : Attempt) : (attempt call a w).2.store.Audited ∧
      (attempt call a w).2.store.runs = w.store.runs ∧
      (attempt call a w).2.store.goals = w.store.goals := by
  have audits (p : Part) : Store.Kept (fun _ => False) Store.Audited p :=
    Store.audited_kept (digest_length hex) p
  have rows (p : Part) (listed : p ∈ (Command.captureEvidence call.ctx call.cmd).parts) :
      Store.Kept (fun _ => False)
        (fun s => s.runs = w.store.runs ∧ s.goals = w.store.goals) p := by
    constructor
    intro s s' wrote same
    simp only [Command.parts, List.mem_cons, List.not_mem_nil, or_false] at listed
    rcases listed with rfl | rfl | rfl | rfl <;> cases wrote <;> exact same
  exact ⟨attempt_holds (fun p _ => audits p) audited a, attempt_holds rows ⟨rfl, rfl⟩ a⟩

/-- A first capture of a valid observation commits evidence with the subjects of the Goal, and
`verify_outcome` then finds the criterion met, exactly when the retention ends on a date, the
subjects are distinct and none has an empty version. -/
theorem captured_subjects_iff (hex : ∀ text, isSha256Hex (Sha256.hexdigest text) = true)
    (admitted : Admitted call) (valid : r.Valid) (later : Store.Later {} w.store)
    (capturable : Capturable call r w.store)
    (healthy : ∀ o, objectAt call.bucket w.objects (r.descriptor call) = some o →
      Intact (r.descriptor call) o) (named : isBlank call.cmd.criterionId = false)
    {a : Attempt} (uncrashed : a.crash = none) :
    Faithful call r (attempt call a w) ∧ Verifies call r (attempt call a w).2 ↔
      r.Retainable ∧ r.goal.subjectRefs.Nodup ∧
        ∀ subject ∈ r.goal.subjectRefs, subject.version ≠ some "" := by
  by_cases retainable : r.Retainable
  case neg =>
    obtain ⟨e, raised⟩ := attempt_unretainable admitted capturable retainable a
    constructor
    · rintro ⟨⟨evidence, answered, _⟩, _⟩
      rw [raised] at answered
      cases answered
    · rintro ⟨held, _⟩
      exact absurd held retainable
  have keyed : w.store.Keyed := later.keyed fun i id row found => by cases i <;> cases found
  have audited : w.store.Audited := later.audited (digest_length hex) fun e there => by cases there
  have pending : Pending call r (announced call r w).store := pending_first capturable keyed audited
  by_cases distinct : (r.goal.subjectRefs.map App.readBack).Nodup
  · obtain ⟨evidence, o, answered, committed, made, there, intact⟩ :=
      first_returns hex admitted capturable retainable pending healthy valid distinct uncrashed
    have subjects : evidence.subjectRefs = r.goal.subjectRefs.map App.readBack := by rw [made]; rfl
    constructor
    · rintro ⟨⟨evidence', answered', _, faithful⟩, _⟩
      cases answered.symm.trans answered'
      have same := subjects.symm.trans faithful
      exact ⟨retainable, same ▸ distinct, map_readBack_eq_self.mp same⟩
    · rintro ⟨_, _, versions⟩
      have faithful := subjects.trans (map_readBack_eq_self.mpr versions)
      have kept : (attempt call a w).2.store.Audited ∧
          (attempt call a w).2.store.runs = w.store.runs ∧
          (attempt call a w).2.store.goals = w.store.goals :=
        attempt_keeps hex audited a
      obtain ⟨audited', runs, goals⟩ := kept
      refine ⟨⟨evidence, answered, committed.stored, faithful⟩,
        verifies_captured hex admitted named made faithful committed.stored there intact audited'
          (runs ▸ capturable.run) capturable.runTenant (goals ▸ capturable.goal)
          capturable.goalTenant capturable.criterion⟩
  · have stuck := (first_colliding hex admitted capturable retainable pending healthy valid
      distinct a).2
    constructor
    · rintro ⟨⟨evidence, answered, _⟩, _⟩
      exact absurd answered (stuck evidence)
    · rintro ⟨_, apart, versions⟩
      rw [map_readBack_eq_self.mpr versions] at distinct
      exact absurd apart distinct

end

namespace Sample
open Autonoesis.Sample

attribute [local instance] Autonoesis.Sample.sha256

/-- A subject whose version is empty. -/
def unversioned : List SubjectRef := [⟨"mail", "mailbox", "ops", some ""⟩]

def unversionedSteps : List (Uuid × Command) :=
  (16, .createGoal (context "goal-1" goal_named) { goal with subjectRefs := unversioned }) ::
    acted.drop 1

def unversionedSite : Site := ⟨Store.after {} (session unversionedSteps), .empty⟩

theorem unversioned_facts : drawsUnused unversionedSteps {} = true ∧
    Facts unversionedSite.store unversioned := by
  rw [unversionedSite, after_session]
  decide +kernel

/-- The evidence captured for such a Goal has other subjects than the Goal. -/
theorem unversioned_unfaithful : ∃ r, Store.Later {} unversionedSite.store ∧
    Capturable call r unversionedSite.store ∧ r.Valid ∧
    ¬ Faithful call r (attempt call (execution none) unversionedSite) := by
  obtain ⟨r, capturable, valid, retainable, subjects⟩ := reads unversioned_facts.2 (by decide +kernel)
  have later : Store.Later {} unversionedSite.store := by
    dsimp only [unversionedSite]
    exact later_session unversioned_facts.1
  have keyed : unversionedSite.store.Keyed :=
    later.keyed fun i id row found => by cases i <;> cases found
  have audited : unversionedSite.store.Audited :=
    later.audited hexdigest_length fun e there => by cases there
  have pending : Pending call r (announced call r unversionedSite).store :=
    pending_first capturable keyed audited
  have empty : objectAt call.bucket unversionedSite.objects (r.descriptor call) = none :=
    objectAt_empty _ _
  have distinct : (r.goal.subjectRefs.map App.readBack).Nodup := by
    rw [subjects]
    decide +kernel
  obtain ⟨evidence, o, answered, _, made, _⟩ := first_returns hexdigest_hex admitted capturable
    retainable pending (fun o there => by rw [empty] at there; cases there) valid distinct
    (show (execution none).crash = none from rfl)
  refine ⟨r, later, capturable, valid, ?_⟩
  rintro ⟨evidence', answered', _, faithful⟩
  cases answered.symm.trans answered'
  have read : evidence.subjectRefs = r.goal.subjectRefs.map App.readBack := by
    rw [made]
    rfl
  have same := read.symm.trans faithful
  rw [subjects] at same
  exact absurd same (by decide +kernel)

/-- The session's own Goal is verified on its evidence. -/
theorem sample_verified : ∃ r, Faithful call r (attempt call (execution none) site) ∧
    Verifies call r (attempt call (execution none) site).2 := by
  obtain ⟨r, capturable, valid, retainable, subjects⟩ := reads site_facts.2 subjects_checked
  have empty : objectAt call.bucket site.objects (r.descriptor call) = none := objectAt_empty _ _
  refine ⟨r, (captured_subjects_iff hexdigest_hex admitted valid site_later capturable
    (fun o there => by rw [empty] at there; cases there) (by decide +kernel) rfl).mpr ⟨retainable, ?_⟩⟩
  rw [subjects]
  decide +kernel

end Sample

end Autonoesis.Recovery
