import Autonoesis.Application.Saga

/-!
# Recovery of a capture

`capture_authoritative_evidence` over the store and the artifact bucket, stopped by a crash
after any of its steps and executed again. A first attempt announces the saga before it stores
the artifact; a later one reads the artifact back before it stores it again.
-/

namespace Autonoesis.Recovery
open Base Artifacts

/-- What the calls of one capture share. -/
structure Call where
  ports : Ports
  bucket : String
  /-- `uuid5` in the URL namespace. -/
  uuid5 : String → Uuid
  ctx : CommandContext
  cmd : CaptureAuthoritativeEvidence

/-- The steps a crash can come after. -/
inductive Stage where
  | start | store | retrieve | commit
  deriving DecidableEq

/-- One execution of the command: what it draws and reads from the clock, the version the
provider gives a new object, and where it crashes. -/
structure Attempt where
  uuid : Nat → Uuid
  now : Nat → Instant
  version : Option String
  crash : Option Stage

/-- The store of the application and the objects of the artifact bucket. -/
structure Site where
  store : Store
  objects : Objects

namespace Call

/-- The identifier derived from the key of the command. -/
def evidenceId (call : Call) : Uuid :=
  call.uuid5 ("autonoesis:evidence:" ++ call.ctx.tenantId.str ++ ":" ++ call.ctx.idempotencyKey)

def key (call : Call) : Uuid × String :=
  (call.ctx.tenantId, call.ctx.key "capture_authoritative_evidence")

def env (call : Call) (a : Attempt) : Env := ⟨a.uuid, a.now, call.uuid5⟩

end Call

section
variable [Sha256]

/-- The collaborators of a call, with the artifacts of the bucket. -/
def Call.portsAt (call : Call) (objects : Objects) : Ports :=
  { call.ports with evidence := { call.ports.evidence with
      describe := describe call.bucket
      store := fun d content _ => (store call.bucket objects none d content).map (·.1)
      retrieveVerified := retrieveVerified call.bucket objects } }

/-- The commit transaction. -/
def finish (call : Call) (a : Attempt) (saga : EvidenceCaptureSaga)
    (stored : EvidenceArtifactDescriptor) (w : Site) : Option (Except Exc Evidence) × Site :=
  match (App.commitEvidenceCapture (call.env a) call.ctx saga stored).commit w.store with
  | (.error e, s) => (some (.error e), { w with store := s })
  | (.ok evidence, s) =>
    (if a.crash = some .commit then none else some (.ok evidence), { w with store := s })

/-- A first execution, once the saga is announced. -/
def first (call : Call) (a : Attempt) (saga : EvidenceCaptureSaga)
    (descriptor : EvidenceArtifactDescriptor) (content : String) (w : Site) :
    Option (Except Exc Evidence) × Site :=
  if a.crash = some .start then (none, w)
  else match store call.bucket w.objects a.version descriptor content with
    | .error e => (some (.error e), w)
    | .ok (stored, objects) =>
      if a.crash = some .store then (none, { w with objects := objects })
      else match retrieveVerified call.bucket objects stored with
        | .error e => (some (.error e), { w with objects := objects })
        | .ok _ =>
          if a.crash = some .retrieve then (none, { w with objects := objects })
          else finish call a saga stored { w with objects := objects }

/-- An execution that finds the saga pending. -/
def resume (call : Call) (a : Attempt) (saga : EvidenceCaptureSaga) (w : Site) :
    Option (Except Exc Evidence) × Site :=
  match retrieveVerified call.bucket w.objects (App.sagaDescriptor saga) with
  | .error e => (some (.error e), w)
  | .ok content =>
    if a.crash = some .retrieve then (none, w)
    else match store call.bucket w.objects a.version (App.sagaDescriptor saga) content with
      | .error e => (some (.error e), w)
      | .ok (stored, objects) =>
        if a.crash = some .store then (none, { w with objects := objects })
        else finish call a saga stored { w with objects := objects }

/-- An execution of the command: its answer, unless it crashed, and what it leaves. -/
def attempt (call : Call) (a : Attempt) (w : Site) : Option (Except Exc Evidence) × Site :=
  match (App.planCapture (call.portsAt w.objects) (call.env a) call.ctx call.cmd).commit w.store with
  | (.error e, s) => (some (.error e), { w with store := s })
  | (.ok (.done evidence), s) => (some (.ok evidence), { w with store := s })
  | (.ok (.resume saga), s) => resume call a saga { w with store := s }
  | (.ok (.fresh saga descriptor content), s) =>
    first call a saga descriptor content { w with store := s }

/-- What executions one after the other leave. -/
def after (call : Call) (attempts : List Attempt) (w : Site) : Site :=
  attempts.foldl (fun w a => (attempt call a w).2) w

end

/-! ## A capture that can be made -/

/-- What a capture reads before it announces its saga. -/
structure Reading where
  run : Run
  goal : GoalContract
  action : Action
  criterion : SuccessCriterion
  observation : AuthoritativeObservation
  classification : DataClassification

section
variable [Sha256]

namespace Reading

def retainedUntil (r : Reading) : Instant :=
  r.observation.capturedAt + days r.goal.dataPolicy.retentionDays

/-- The retention of what was observed ends on a date. -/
def Retainable (r : Reading) : Prop :=
  Instant.HasDayAfter r.observation.capturedAt r.goal.dataPolicy.retentionDays

def descriptor (call : Call) (r : Reading) : EvidenceArtifactDescriptor :=
  describe call.bucket call.ctx.tenantId call.evidenceId r.observation.contentDigest
    r.classification r.observation.content.utf8ByteSize r.retainedUntil

/-- The saga of the capture. -/
def saga (call : Call) (r : Reading) : EvidenceCaptureSaga where
  tenantId := call.ctx.tenantId
  evidenceId := call.evidenceId
  runId := r.run.runId
  actionId := r.action.actionId
  criterionId := r.criterion.criterionId
  source := call.cmd.source
  artifactUri := (r.descriptor call).artifactUri
  expectedDigest := (r.descriptor call).contentDigest
  definition := {
    source := r.observation.source
    sourceIdentity := r.observation.sourceIdentity
    sourceReference := r.observation.reference
    observedState := r.observation.observedState
    capturedAt := r.observation.capturedAt
    validUntil := r.observation.validUntil
    retainedUntil := r.retainedUntil
    classification := r.classification
    sizeBytes := r.observation.content.utf8ByteSize
    contentType := call.cmd.contentType
    subjectRefs := r.goal.subjectRefs }

/-- The evidence the saga commits, for the version of its artifact. -/
def evidence (call : Call) (r : Reading) (version : Option String) : EvidenceFields where
  tenantId := call.ctx.tenantId
  runId := r.run.runId
  actionId := r.action.actionId
  source := r.observation.source
  sourceIdentity := r.observation.sourceIdentity
  captureMethod := .authoritativeReadback
  reference := (r.descriptor call).artifactUri
  observedState := r.observation.observedState
  contentDigest := r.observation.contentDigest
  classification := r.classification
  validFrom := r.observation.capturedAt
  validUntil := r.observation.validUntil
  integrity := .verified
  sourceReference := r.observation.reference
  subjectRefs := r.goal.subjectRefs.map App.readBack
  retainedUntil := some r.retainedUntil
  artifactVersionId := version
  evidenceId := call.evidenceId
  capturedAt := r.observation.capturedAt

end Reading

/-- The call is allowed and configured, and the bucket has a plain name. -/
structure Admitted (call : Call) : Prop where
  role : App.roleCheck call.ctx App.operators = .ok ()
  artifacts : call.ports.evidenceArtifactsConfigured = true
  readback : call.ports.authoritativeReadbackConfigured = true
  bucket : Plain call.bucket

/-- The checks of the constructors of what was read. -/
structure Reading.Valid (r : Reading) : Prop where
  subjects : ∀ subject ∈ r.goal.subjectRefs, subject.check = .ok ()
  policy : r.goal.dataPolicy.check = .ok ()
  observation : r.observation.check = .ok ()

/-- A first capture in this store: nothing was announced or recorded under its key, and it reads
a succeeded Action of the Run, a criterion of the Goal, and what the authority observes. -/
structure Capturable (call : Call) (r : Reading) (s : Store) : Prop where
  unbound : s.idempotency.get? call.key = none
  undigested : s.idempotencyDigests.get? call.key = none
  unannounced : s.evidenceCaptureSagas.get? call.evidenceId = none
  run : s.runs.get? call.cmd.runId = some r.run
  runTenant : r.run.tenantId = call.ctx.tenantId
  goal : s.goals.get? r.run.goalId = some r.goal
  goalTenant : r.goal.tenantId = call.ctx.tenantId
  action : s.actions.get? call.cmd.actionId = some r.action
  actionTenant : r.action.tenantId = call.ctx.tenantId
  actionRun : r.action.runId = r.run.runId
  succeeded : r.action.status = .succeeded
  criterion : r.goal.successCriteria.find? (·.criterionId = call.cmd.criterionId) =
    some r.criterion
  observed : call.ports.evidence.observe call.cmd.source call.ctx.tenantId r.goal.subjectRefs
    r.criterion = .ok r.observation
  admitted : call.ports.evidence.admitContent r.observation.content call.cmd.declaredClassification
    r.goal.dataPolicy.maximumClassification r.goal.dataPolicy.retentionDays = .ok r.classification

/-- The saga is announced and its evidence not committed. -/
structure Pending (call : Call) (r : Reading) (s : Store) : Prop where
  unbound : s.idempotency.get? call.key = none
  undigested : s.idempotencyDigests.get? call.key = none
  announced : s.evidenceCaptureSagas.get? call.evidenceId = some (r.saga call)
  action : s.actions.get? r.action.actionId = some r.action
  actionTenant : r.action.tenantId = call.ctx.tenantId
  actionRun : r.action.runId = r.run.runId
  audited : s.Audited

/-- The evidence is committed under the derived identifier, and the saga with it. -/
structure Committed (call : Call) (s : Store) (evidence : Evidence) : Prop where
  bound : s.idempotency.get? call.key = some call.evidenceId
  digested : s.idempotencyDigests.get? call.key = some call.ctx.requestDigest
  stored : s.evidence.get? call.evidenceId = some evidence
  tenant : evidence.tenantId = call.ctx.tenantId
  saga : ∃ saga, s.evidenceCaptureSagas.get? call.evidenceId = some saga ∧
    saga.status = .committed

variable {call : Call} {r : Reading} {s : Store}

/-- The reading part of a first capture. -/
theorem observe_first (capturable : Capturable call r s) (retainable : r.Retainable)
    (a : Attempt) (objects : Objects) :
    App.observeCapture (call.portsAt objects) (call.env a) call.ctx call.cmd s =
      .ok (.fresh (r.saga call) (r.descriptor call) r.observation.content,
        { s with evidenceCaptureSagas :=
          s.evidenceCaptureSagas.set call.evidenceId (r.saga call) }) := by
  have announces : Store.startEvidenceCapture (r.saga call) s = .ok ((), { s with
      evidenceCaptureSagas := s.evidenceCaptureSagas.set call.evidenceId (r.saga call) }) := by
    refine Tx.bind_ok.mpr ⟨none, s, Tx.read_ok.mpr ?_, rfl⟩
    exact congrArg (·, s) capturable.unannounced.symm
  refine Tx.bind_ok.mpr ⟨r.run, s, ?_, Tx.bind_ok.mpr ⟨r.goal, s, ?_, Tx.bind_ok.mpr ⟨r.action, s,
    ?_, Tx.bind_ok.mpr ⟨(), s, Tx.check_ok.mpr ⟨?_, rfl⟩, ?_⟩⟩⟩⟩
  · exact Store.find_ok.mpr ⟨capturable.run, capturable.runTenant, rfl⟩
  · exact Store.find_ok.mpr ⟨capturable.goal, capturable.goalTenant, rfl⟩
  · exact Store.find_ok.mpr ⟨capturable.action, capturable.actionTenant, rfl⟩
  · simp [capturable.actionRun, capturable.succeeded]
  · rw [capturable.criterion]
    refine Tx.bind_ok.mpr ⟨r.observation, s, Tx.ofExcept_ok.mpr ⟨capturable.observed, rfl⟩, ?_⟩
    refine Tx.bind_ok.mpr ⟨r.classification, s, Tx.ofExcept_ok.mpr ⟨capturable.admitted, rfl⟩, ?_⟩
    refine Tx.bind_ok.mpr ⟨r.retainedUntil, s, Tx.ofExcept_ok.mpr ⟨?_, rfl⟩, ?_⟩
    · exact Instant.plusDays_eq_ok.mpr ⟨retainable, rfl⟩
    · exact Tx.bind_ok.mpr ⟨(), _, announces, rfl⟩

/-- No capture gets past a retention that ends on no date. -/
theorem observe_unretainable (capturable : Capturable call r s) (endless : ¬ r.Retainable)
    (a : Attempt) (objects : Objects) :
    ∃ e, App.observeCapture (call.portsAt objects) (call.env a) call.ctx call.cmd s = .error e := by
  obtain ⟨e, raises⟩ := Instant.plusDays_raises endless
  have run : Store.getRun call.ctx.tenantId call.cmd.runId s = .ok (r.run, s) :=
    Store.find_ok.mpr ⟨capturable.run, capturable.runTenant, rfl⟩
  have goal : Store.getGoal call.ctx.tenantId r.run.goalId s = .ok (r.goal, s) :=
    Store.find_ok.mpr ⟨capturable.goal, capturable.goalTenant, rfl⟩
  have action : Store.getAction call.ctx.tenantId call.cmd.actionId s = .ok (r.action, s) :=
    Store.find_ok.mpr ⟨capturable.action, capturable.actionTenant, rfl⟩
  refine ⟨e, ?_⟩
  rw [App.observeCapture, Tx.bind_run run, Tx.bind_run goal, Tx.bind_run action]
  refine (Tx.bind_check ?_).trans ?_
  · simp [capturable.actionRun, capturable.succeeded]
  · rw [capturable.criterion]
    refine (Tx.bind_ofExcept capturable.observed).trans ?_
    refine (Tx.bind_ofExcept capturable.admitted).trans ?_
    rw [raises]
    rfl

omit [Sha256] in
theorem loads_unrecorded (unbound : s.idempotency.get? call.key = none)
    (undigested : s.idempotencyDigests.get? call.key = none) :
    App.loadIdempotency call.ctx (call.ctx.key "capture_authoritative_evidence") s =
      .ok (none, s) := by
  refine App.loadIdempotency_returns.mpr ⟨fun d used => ?_, congrArg (·, s) unbound.symm⟩
  cases undigested.symm.trans used

/-- A first capture that is allowed gets to what it observes. -/
theorem plan_observes (admitted : Admitted call) (capturable : Capturable call r s) (a : Attempt)
    (objects : Objects) :
    App.planCapture (call.portsAt objects) (call.env a) call.ctx call.cmd s =
      App.observeCapture (call.portsAt objects) (call.env a) call.ctx call.cmd s := by
  have role : App.requireAny call.ctx App.operators s = .ok ((), s) :=
    Tx.ofExcept_ok.mpr ⟨admitted.role, rfl⟩
  have unannounced : (Tx.read (·.evidenceCaptureSagas.get? call.evidenceId) : StoreTx _) s =
      .ok (none, s) := by
    rw [Tx.read_ok, capturable.unannounced]
  rw [App.planCapture, Tx.bind_run role]
  refine (Tx.bind_check ?_).trans ?_
  · simp [Call.portsAt, admitted.artifacts, admitted.readback]
  · rw [Tx.bind_run (loads_unrecorded capturable.unbound capturable.undigested)]
    exact Tx.bind_run unannounced

theorem plan_first (admitted : Admitted call) (capturable : Capturable call r s)
    (retainable : r.Retainable) (a : Attempt) (objects : Objects) :
    App.planCapture (call.portsAt objects) (call.env a) call.ctx call.cmd s =
      .ok (.fresh (r.saga call) (r.descriptor call) r.observation.content,
        { s with evidenceCaptureSagas :=
          s.evidenceCaptureSagas.set call.evidenceId (r.saga call) }) :=
  (plan_observes admitted capturable a objects).trans
    (observe_first capturable retainable a objects)

/-- A later execution finds the saga it has to resume. -/
theorem plan_pending (admitted : Admitted call) (pending : Pending call r s) (a : Attempt)
    (objects : Objects) :
    App.planCapture (call.portsAt objects) (call.env a) call.ctx call.cmd s =
      .ok (.resume (r.saga call), s) := by
  refine Tx.bind_ok.mpr ⟨(), s, Tx.ofExcept_ok.mpr ⟨admitted.role, rfl⟩, ?_⟩
  refine Tx.bind_ok.mpr ⟨(), s, Tx.check_ok.mpr ⟨?_, rfl⟩, ?_⟩
  · simp [Call.portsAt, admitted.artifacts, admitted.readback]
  · refine Tx.bind_ok.mpr ⟨none, s, ?_, ?_⟩
    · exact loads_unrecorded pending.unbound pending.undigested
    · refine Tx.bind_ok.mpr ⟨some (r.saga call), s, Tx.read_ok.mpr ?_, ?_⟩
      · exact congrArg (·, s) pending.announced.symm
      · exact Tx.bind_ok.mpr ⟨(), s, Tx.check_ok.mpr ⟨by simp [Reading.saga], rfl⟩, rfl⟩

/-- Once it is committed, the evidence is answered from the recorded key. -/
theorem plan_committed (admitted : Admitted call) {evidence : Evidence}
    (committed : Committed call s evidence) (a : Attempt) (objects : Objects) :
    App.planCapture (call.portsAt objects) (call.env a) call.ctx call.cmd s =
      .ok (.done evidence, s) := by
  refine Tx.bind_ok.mpr ⟨(), s, Tx.ofExcept_ok.mpr ⟨admitted.role, rfl⟩, ?_⟩
  refine Tx.bind_ok.mpr ⟨(), s, Tx.check_ok.mpr ⟨?_, rfl⟩, ?_⟩
  · simp [Call.portsAt, admitted.artifacts, admitted.readback]
  · refine Tx.bind_ok.mpr ⟨some call.evidenceId, s, ?_, ?_⟩
    · refine App.loadIdempotency_returns.mpr ⟨fun d used => ?_, ?_⟩
      · cases committed.digested.symm.trans used
        rfl
      · exact congrArg (·, s) committed.bound.symm
    · exact Tx.bind_ok.mpr ⟨evidence, s,
        Store.find_ok.mpr ⟨committed.stored, committed.tenant, rfl⟩, rfl⟩

theorem digest_length (hex : ∀ text, isSha256Hex (Sha256.hexdigest text) = true)
    (text : String) : (Sha256.hexdigest text).length = 64 := by
  have digits := hex text
  simp only [isSha256Hex, Bool.and_eq_true, decide_eq_true_eq] at digits
  rw [← String.length_toList]
  exact digits.1

/-- The evidence can be built unless two of its subjects are read back as one. -/
theorem evidence_check (hex : ∀ text, isSha256Hex (Sha256.hexdigest text) = true)
    (valid : r.Valid) (version : Option String) :
    (r.evidence call version).check = .ok () ↔
      (r.goal.subjectRefs.map App.readBack).Nodup := by
  have observed := valid.observation
  have policy := valid.policy
  simp only [AuthoritativeObservation.check, DataPolicy.check, checks_cons, checks_nil,
    List.any_cons, List.any_nil, Bool.or_eq_false_iff, decide_eq_false_iff_not, not_lt,
    not_le] at observed policy
  obtain ⟨⟨source, identity, reference, state, _⟩, until_, _⟩ := observed
  have uri : isBlank (r.descriptor call).artifactUri = false := by
    simp only [Reading.descriptor, describe, isBlank, String.toList_append, List.append_assoc]
    rfl
  have retained : ¬ r.observation.capturedAt + days r.goal.dataPolicy.retentionDays <
      r.observation.capturedAt := by
    have positive : 0 < days r.goal.dataPolicy.retentionDays := by
      have := policy.1
      unfold days
      omega
    exact not_lt.mpr (Int.le_add_of_nonneg_right positive.le)
  have late : ¬ r.observation.validUntil < r.observation.capturedAt := not_lt.mpr until_
  simp [EvidenceFields.check, Reading.evidence, source, identity, reference, state, uri, retained,
    late, AuthoritativeObservation.contentDigest, hex, Reading.retainedUntil]
  exact decide_eq_true_iff

omit [Sha256] in
theorem subjects_decoded (valid : r.Valid) :
    (r.goal.subjectRefs.map App.readBack).forM SubjectRef.check = .ok () := by
  refine forM_eq_ok.mpr fun subject there => ?_
  obtain ⟨original, listed, rfl⟩ := List.mem_map.mp there
  exact valid.subjects original listed

/-- A pending saga commits its evidence. -/
theorem commit_pending (hex : ∀ text, isSha256Hex (Sha256.hexdigest text) = true)
    (valid : r.Valid) (pending : Pending call r s)
    (distinct : (r.goal.subjectRefs.map App.readBack).Nodup) (a : Attempt)
    (version : Option String) :
    ∃ evidence s', App.commitEvidenceCapture (call.env a) call.ctx (r.saga call)
        { r.descriptor call with versionId := version } s = .ok (evidence, s') ∧
      Committed call s' evidence ∧ evidence.toEvidenceFields = r.evidence call version := by
  let evidence : Evidence := ⟨r.evidence call version, (evidence_check hex valid version).mpr distinct⟩
  let added : Store := { s with evidence := s.evidence.set call.evidenceId evidence }
  let sagas := s.evidenceCaptureSagas.set call.evidenceId
    { r.saga call with status := .committed }
  let completed : Store := { added with evidenceCaptureSagas := sagas }
  have adds : Store.addEvidence evidence s = .ok ((), added) := by
    refine Tx.bind_ok.mpr ⟨r.action, s, ?_, Tx.bind_ok.mpr ⟨(), s, ?_, rfl⟩⟩
    · exact Store.find_ok.mpr ⟨pending.action, pending.actionTenant, rfl⟩
    · refine Tx.check_ok.mpr ⟨?_, rfl⟩
      exact decide_eq_false (not_not.mpr pending.actionRun)
  have completes : Store.completeEvidenceCapture call.ctx.tenantId call.evidenceId added =
      .ok ((), completed) := by
    refine Tx.bind_ok.mpr ⟨r.saga call, added, ?_, Tx.bind_ok.mpr ⟨(), added, ?_, rfl⟩⟩
    · exact Store.find_ok.mpr ⟨pending.announced, rfl, rfl⟩
    · exact Tx.check_ok.mpr ⟨rfl, rfl⟩
  have audited : completed.Audited := pending.audited
  obtain ⟨events, audits⟩ := Store.recordAudit_returns audited
    (call.ctx.audit "evidence.authoritative_captured" evidence.auditItem ((call.env a).uuid 0))
    ((call.env a).now 0)
  have built : Evidence.make (r.evidence call version) = .ok evidence :=
    guarded_eq_ok.mpr ⟨evidence.valid, rfl⟩
  let bound := (call.ctx.tenantId, call.ctx.key "capture_authoritative_evidence")
  let final : Store := { completed with
    audits := events
    idempotency := s.idempotency.set bound call.evidenceId
    idempotencyDigests := s.idempotencyDigests.set bound call.ctx.requestDigest }
  refine ⟨evidence, final, ?_, ?_, rfl⟩
  · refine Tx.bind_ok.mpr ⟨(), s, Tx.ofExcept_ok.mpr ⟨subjects_decoded valid, rfl⟩, ?_⟩
    refine Tx.bind_ok.mpr ⟨evidence, s, Tx.ofExcept_ok.mpr ⟨built, rfl⟩, ?_⟩
    refine Tx.bind_ok.mpr ⟨(), added, adds, Tx.bind_ok.mpr ⟨(), completed, completes, ?_⟩⟩
    refine Tx.bind_ok.mpr ⟨(), _, audits, ?_⟩
    refine Tx.bind_ok.mpr ⟨(), final, Store.putIdempotency_ok.mpr ⟨fun old used => ?_, rfl⟩, rfl⟩
    cases pending.unbound.symm.trans used
  · exact ⟨Dict.get?_set_self .., Dict.get?_set_self .., Dict.get?_set_self .., rfl,
      { r.saga call with status := .committed }, Dict.get?_set_self .., rfl⟩

/-- Subjects that are read back as one keep every commit from building its evidence. -/
theorem commit_colliding (hex : ∀ text, isSha256Hex (Sha256.hexdigest text) = true)
    (valid : r.Valid) (colliding : ¬ (r.goal.subjectRefs.map App.readBack).Nodup) (a : Attempt)
    (version : Option String) (result : Evidence × Store) :
    App.commitEvidenceCapture (call.env a) call.ctx (r.saga call)
      { r.descriptor call with versionId := version } s ≠ .ok result := by
  intro ran
  obtain ⟨_, _, _, rest⟩ := Tx.bind_ok.mp ran
  obtain ⟨evidence, _, built, _⟩ := Tx.bind_ok.mp rest
  obtain ⟨checked, _⟩ := guarded_eq_ok.mp (Tx.ofExcept_ok.mp built).1
  exact colliding ((evidence_check hex valid version).mp checked)

/-- Announcing the saga leaves it pending. -/
theorem pending_first (capturable : Capturable call r s) (keyed : s.Keyed) (audited : s.Audited) :
    Pending call r { s with
      evidenceCaptureSagas := s.evidenceCaptureSagas.set call.evidenceId (r.saga call) } where
  unbound := capturable.unbound
  undigested := capturable.undigested
  announced := Dict.get?_set_self ..
  action := by
    have named : r.action.actionId = call.cmd.actionId := keyed .action _ _ capturable.action
    rw [named]
    exact capturable.action
  actionTenant := capturable.actionTenant
  actionRun := capturable.actionRun
  audited := audited

/-! ## One execution -/

/-- The artifact of the capture is in the bucket. -/
def Held (call : Call) (r : Reading) (objects : Objects) : Prop :=
  ∃ o, objectAt call.bucket objects (r.descriptor call) = some o ∧ Intact (r.descriptor call) o

/-- A resumed saga describes the artifact as it was described first. -/
theorem sagaDescriptor_saga : App.sagaDescriptor (r.saga call) = r.descriptor call := rfl

theorem described (hex : ∀ text, isSha256Hex (Sha256.hexdigest text) = true) :
    Described call.bucket (r.descriptor call) := ⟨rfl, hex _⟩

/-- Storing the observed content leaves the artifact in the bucket, where it is read back. -/
theorem stores_held (hex : ∀ text, isSha256Hex (Sha256.hexdigest text) = true)
    (admitted : Admitted call) {objects : Objects}
    (healthy : ∀ o, objectAt call.bucket objects (r.descriptor call) = some o →
      Intact (r.descriptor call) o) (version : Option String) :
    ∃ o objects', store call.bucket objects version (r.descriptor call) r.observation.content =
        .ok ({ r.descriptor call with versionId := given o.versionId }, objects') ∧
      objectAt call.bucket objects' (r.descriptor call) = some o ∧ Intact (r.descriptor call) o ∧
      retrieveVerified call.bucket objects'
        { r.descriptor call with versionId := given o.versionId } = .ok o.body := by
  have known : Described call.bucket (r.descriptor call) := described hex
  cases there : objectAt call.bucket objects (r.descriptor call) with
  | some o =>
    have intact := healthy o there
    exact ⟨o, objects, store_intact admitted.bucket known there intact rfl rfl version, there,
      intact, retrieve_stored admitted.bucket known there intact⟩
  | none =>
    let o : S3Object :=
      ⟨r.observation.content, r.observation.contentDigest, "AES256", "COMPLIANCE", version⟩
    have intact : Intact (r.descriptor call) o := ⟨rfl, rfl, rfl, rfl, rfl⟩
    have put : objectAt call.bucket (objects.set (call.bucket, keyOf (r.descriptor call).tenantId
        (r.descriptor call).evidenceId (r.descriptor call).contentDigest) o)
        (r.descriptor call) = some o := Dict.get?_set_self ..
    exact ⟨o, _, store_absent admitted.bucket known there rfl rfl version, put, intact,
      retrieve_stored admitted.bucket known put intact⟩

/-- The capture can still be made, or is made. -/
def Sound (call : Call) (r : Reading) (w : Site) : Prop :=
  (Pending call r w.store ∧ Held call r w.objects) ∨ ∃ evidence, Committed call w.store evidence

/-- The site once the saga is announced. -/
def announced (call : Call) (r : Reading) (w : Site) : Site :=
  { w with store := { w.store with
      evidenceCaptureSagas := w.store.evidenceCaptureSagas.set call.evidenceId (r.saga call) } }

/-- The execution answered the evidence it leaves committed. -/
def Returns (call : Call) (x : Option (Except Exc Evidence) × Site) : Prop :=
  ∃ evidence, x.1 = some (.ok evidence) ∧ Committed call x.2.store evidence

variable (hex : ∀ text, isSha256Hex (Sha256.hexdigest text) = true) (admitted : Admitted call)
  {w : Site}
include hex

theorem finish_distinct (valid : r.Valid) (pending : Pending call r w.store)
    (distinct : (r.goal.subjectRefs.map App.readBack).Nodup) (a : Attempt)
    (version : Option String) :
    ∃ evidence s', finish call a (r.saga call) { r.descriptor call with versionId := version } w =
        (if a.crash = some .commit then none else some (.ok evidence), { w with store := s' }) ∧
      Committed call s' evidence ∧ evidence.toEvidenceFields = r.evidence call version := by
  obtain ⟨evidence, s', ran, committed, made⟩ :=
    commit_pending hex valid pending distinct a version
  refine ⟨evidence, s', ?_, committed, made⟩
  simp only [finish, Tx.commit, ran]

theorem finish_colliding (valid : r.Valid)
    (colliding : ¬ (r.goal.subjectRefs.map App.readBack).Nodup) (a : Attempt)
    (version : Option String) :
    ∃ e, finish call a (r.saga call) { r.descriptor call with versionId := version } w =
      (some (.error e), w) := by
  obtain ⟨e, failed⟩ | ⟨evidence, s', ran, _⟩ := Tx.commit_cases (App.commitEvidenceCapture
    (call.env a) call.ctx (r.saga call) { r.descriptor call with versionId := version }) w.store
  · refine ⟨e, ?_⟩
    simp only [finish, failed]
  · exact absurd ran (commit_colliding hex valid colliding a version _)

/-- The commit of a pending saga whose artifact is held. -/
theorem finish_sound (valid : r.Valid) (pending : Pending call r w.store)
    (distinct : (r.goal.subjectRefs.map App.readBack).Nodup) (a : Attempt)
    (version : Option String) :
    let done := finish call a (r.saga call) { r.descriptor call with versionId := version } w
    Sound call r done.2 ∧ (a.crash = none → Returns call done) := by
  obtain ⟨evidence, s', done, committed, _⟩ :=
    finish_distinct hex valid pending distinct a version
  dsimp only
  rw [done]
  refine ⟨.inr ⟨evidence, committed⟩, fun uncrashed => ⟨evidence, ?_, committed⟩⟩
  rw [uncrashed]
  rfl

include admitted

omit hex in
theorem attempt_pending (pending : Pending call r w.store) (a : Attempt) :
    attempt call a w = resume call a (r.saga call) w := by
  simp only [attempt, Tx.commit, plan_pending admitted pending]

omit hex in
theorem attempt_committed {evidence : Evidence} (committed : Committed call w.store evidence)
    (a : Attempt) : attempt call a w = (some (.ok evidence), w) := by
  simp only [attempt, Tx.commit, plan_committed admitted committed]

/-- A sound capture stays so through every execution, and one that does not crash makes it. -/
theorem attempt_sound (valid : r.Valid) (distinct : (r.goal.subjectRefs.map App.readBack).Nodup)
    (sound : Sound call r w) (a : Attempt) :
    Sound call r (attempt call a w).2 ∧ (a.crash = none → Returns call (attempt call a w)) := by
  obtain ⟨pending, o, there, intact⟩ | ⟨evidence, committed⟩ := sound
  · have known : Described call.bucket (r.descriptor call) := described hex
    have read := retrieve_found admitted.bucket known there intact.content (.inl rfl)
    have stored := store_intact admitted.bucket known there intact intact.content intact.size
      a.version
    have held : Sound call r w := .inl ⟨pending, o, there, intact⟩
    rw [attempt_pending admitted pending]
    simp only [resume, sagaDescriptor_saga, read, stored]
    split
    · rename_i crashed
      exact ⟨held, fun uncrashed => by rw [uncrashed] at crashed; cases crashed⟩
    · split
      · rename_i crashed
        exact ⟨held, fun uncrashed => by rw [uncrashed] at crashed; cases crashed⟩
      · exact finish_sound hex valid pending distinct a (given o.versionId)
  · rw [attempt_committed admitted committed]
    exact ⟨.inr ⟨evidence, committed⟩, fun _ => ⟨evidence, rfl, committed⟩⟩

/-- Without its artifact a pending saga is never committed. -/
theorem attempt_lost (pending : Pending call r w.store)
    (absent : objectAt call.bucket w.objects (r.descriptor call) = none) (a : Attempt) :
    attempt call a w = (some (.error (.lookupError "Evidence artifact is missing")), w) := by
  have known : Described call.bucket (r.descriptor call) := described hex
  rw [attempt_pending admitted pending]
  simp only [resume, sagaDescriptor_saga, retrieve_absent admitted.bucket known absent]

/-- Nor is one whose evidence cannot be built. -/
theorem attempt_colliding (valid : r.Valid)
    (colliding : ¬ (r.goal.subjectRefs.map App.readBack).Nodup)
    (pending : Pending call r w.store) (a : Attempt) :
    Pending call r (attempt call a w).2.store ∧
      ∀ evidence, (attempt call a w).1 ≠ some (.ok evidence) := by
  rw [attempt_pending admitted pending, resume, sagaDescriptor_saga]
  split
  · exact ⟨pending, fun _ same => by cases same⟩
  · split
    · exact ⟨pending, fun _ same => by cases same⟩
    · split
      · exact ⟨pending, fun _ same => by cases same⟩
      · rename_i stored objects ran
        split
        · exact ⟨pending, fun _ same => by cases same⟩
        · obtain ⟨version, rfl⟩ : ∃ v, stored = { r.descriptor call with versionId := v } :=
            store_descriptor ran
          obtain ⟨e, raised⟩ := finish_colliding hex valid colliding a version
          rw [raised]
          exact ⟨pending, fun _ same => by cases same⟩

omit hex in
theorem attempt_capturable (capturable : Capturable call r w.store) (retainable : r.Retainable)
    (a : Attempt) : attempt call a w =
      first call a (r.saga call) (r.descriptor call) r.observation.content (announced call r w) := by
  simp only [attempt, Tx.commit, plan_first admitted capturable retainable, announced]

omit hex in
/-- A capture whose retention ends on no date raises before it announces anything. -/
theorem attempt_unretainable (capturable : Capturable call r w.store) (endless : ¬ r.Retainable)
    (a : Attempt) : ∃ e, attempt call a w = (some (.error e), w) := by
  have plans := plan_observes admitted capturable a w.objects
  obtain ⟨e, failed⟩ | ⟨plan, s', ran, _⟩ := Tx.commit_cases (App.planCapture
    (call.portsAt w.objects) (call.env a) call.ctx call.cmd) w.store
  · exact ⟨e, by simp only [attempt, failed]⟩
  · obtain ⟨e, raised⟩ := observe_unretainable capturable endless a w.objects
    cases ran.symm.trans (plans.trans raised)

omit hex in
/-- A crash right after the start. -/
theorem attempt_started (capturable : Capturable call r w.store) (retainable : r.Retainable)
    {a : Attempt} (crashed : a.crash = some .start) :
    attempt call a w = (none, announced call r w) := by
  rw [attempt_capturable admitted capturable retainable, first, if_pos crashed]

section
variable (capturable : Capturable call r w.store) (retainable : r.Retainable)
  (pending : Pending call r (announced call r w).store)
  (healthy : ∀ o, objectAt call.bucket w.objects (r.descriptor call) = some o →
    Intact (r.descriptor call) o) (valid : r.Valid)
include capturable retainable pending healthy valid

/-- A first execution that gets past the start leaves a sound capture. -/
theorem first_sound (distinct : (r.goal.subjectRefs.map App.readBack).Nodup) {a : Attempt}
    (started : a.crash ≠ some .start) :
    Sound call r (attempt call a w).2 ∧ (a.crash = none → Returns call (attempt call a w)) := by
  obtain ⟨o, objects, stored, held, intact, read⟩ := stores_held hex admitted healthy a.version
  have sound : Sound call r { announced call r w with objects := objects } :=
    .inl ⟨pending, o, held, intact⟩
  rw [attempt_capturable admitted capturable retainable]
  simp only [first, if_neg started, announced, stored, read]
  split
  · rename_i crashed
    exact ⟨sound, fun uncrashed => by rw [uncrashed] at crashed; cases crashed⟩
  · split
    · rename_i crashed
      exact ⟨sound, fun uncrashed => by rw [uncrashed] at crashed; cases crashed⟩
    · exact finish_sound (w := { announced call r w with objects := objects }) hex valid pending
        distinct a (given o.versionId)

/-- Without distinct subjects the saga stays pending, and no evidence is answered. -/
theorem first_colliding (colliding : ¬ (r.goal.subjectRefs.map App.readBack).Nodup)
    (a : Attempt) : Pending call r (attempt call a w).2.store ∧
      ∀ evidence, (attempt call a w).1 ≠ some (.ok evidence) := by
  obtain ⟨o, objects, stored, _, _, read⟩ := stores_held hex admitted healthy a.version
  rw [attempt_capturable admitted capturable retainable]
  simp only [first, announced, stored, read]
  split
  · exact ⟨pending, fun _ same => by cases same⟩
  · split
    · exact ⟨pending, fun _ same => by cases same⟩
    · split
      · exact ⟨pending, fun _ same => by cases same⟩
      · obtain ⟨e, raised⟩ := finish_colliding hex valid colliding a (given o.versionId)
        rw [raised]
        exact ⟨pending, fun _ same => by cases same⟩

/-- A first execution that does not crash answers the evidence of what it read. -/
theorem first_returns (distinct : (r.goal.subjectRefs.map App.readBack).Nodup) {a : Attempt}
    (uncrashed : a.crash = none) :
    ∃ evidence o, (attempt call a w).1 = some (.ok evidence) ∧
      Committed call (attempt call a w).2.store evidence ∧
      evidence.toEvidenceFields = r.evidence call (given o.versionId) ∧
      objectAt call.bucket (attempt call a w).2.objects (r.descriptor call) = some o ∧
      Intact (r.descriptor call) o := by
  obtain ⟨o, objects, stored, held, intact, read⟩ := stores_held hex admitted healthy a.version
  obtain ⟨evidence, s', done, committed, made⟩ :=
    finish_distinct (w := { announced call r w with objects := objects }) hex valid pending
      distinct a (given o.versionId)
  have ran : attempt call a w = (some (.ok evidence), ⟨s', objects⟩) := by
    rw [attempt_capturable admitted capturable retainable]
    simp only [first, uncrashed, announced, stored, read, reduceCtorEq, if_false]
    rw [uncrashed] at done
    exact done
  rw [ran]
  exact ⟨evidence, o, rfl, committed, made, held, intact⟩

end

omit hex admitted in
/-- An execution keeps what every statement of the store keeps. -/
theorem attempt_holds {I : Store → Prop} {drawn : Uuid → Prop}
    (kept : ∀ p ∈ (Command.captureEvidence call.ctx call.cmd).parts, Store.Kept drawn I p)
    (inv : I w.store) (a : Attempt) : I (attempt call a w).2.store := by
  have sagas := kept .sagas (by simp [Command.parts])
  have rows := kept (.rows .evidence) (by simp [Command.parts])
  have audits := kept .audits (by simp [Command.parts])
  have keys := kept .keys (by simp [Command.parts])
  have finished (saga : EvidenceCaptureSaga) (stored : EvidenceArtifactDescriptor) (w : Site)
      (inv : I w.store) : I (finish call a saga stored w).2.store := by
    have commits : Store.Holds I (App.commitEvidenceCapture (call.env a) call.ctx saga stored) :=
      App.commitEvidenceCapture_holds sagas rows audits keys saga stored
    have committed := commits.commit inv
    rw [finish]
    split
    all_goals
      rename_i done
      rw [done] at committed
      exact committed
  have plans : Store.Holds I
      (App.planCapture (call.portsAt w.objects) (call.env a) call.ctx call.cmd) :=
    App.planCapture_holds sagas call.cmd
  have planned := plans.commit inv
  rw [attempt]
  split
  all_goals
    rename_i done
    rw [done] at planned
  · exact planned
  · exact planned
  · rw [resume]
    repeat' split
    all_goals first | exact planned | exact finished _ _ _ planned
  · rw [first]
    repeat' split
    all_goals first | exact planned | exact finished _ _ _ planned

/-! ## Any number of executions -/

/-- The capture is made: the last execution answers the one evidence record of the derived
identifier, and the saga is committed. -/
def Recovered (call : Call) (x : Option (Except Exc Evidence) × Site) : Prop :=
  Returns call x ∧ ∀ id e, x.2.store.evidence.get? id = some e → e.evidenceId = call.evidenceId →
    id = call.evidenceId

theorem after_sound (valid : r.Valid) (distinct : (r.goal.subjectRefs.map App.readBack).Nodup)
    (attempts : List Attempt) (sound : Sound call r w) : Sound call r (after call attempts w) := by
  induction attempts generalizing w with
  | nil => exact sound
  | cons a rest ih => exact ih (attempt_sound hex admitted valid distinct sound a).1

theorem after_lost (attempts : List Attempt) (pending : Pending call r w.store)
    (absent : objectAt call.bucket w.objects (r.descriptor call) = none) :
    after call attempts w = w := by
  induction attempts with
  | nil => rfl
  | cons a rest ih =>
    rw [after, List.foldl_cons, attempt_lost hex admitted pending absent a]
    exact ih

theorem after_colliding (valid : r.Valid)
    (colliding : ¬ (r.goal.subjectRefs.map App.readBack).Nodup) (attempts : List Attempt)
    (pending : Pending call r w.store) : Pending call r (after call attempts w).store := by
  induction attempts generalizing w with
  | nil => exact pending
  | cons a rest ih => exact ih (attempt_colliding hex admitted valid colliding pending a).1

omit hex admitted in
theorem after_keyed (attempts : List Attempt) (keyed : w.store.Keyed) :
    (after call attempts w).store.Keyed := by
  have kept (p : Part) : Store.Kept (fun _ => False) Store.Keyed p := Store.keyed_kept p
  induction attempts generalizing w with
  | nil => exact keyed
  | cons a rest ih => exact ih (attempt_holds (fun p _ => kept p) keyed a)

/-- A capture that crashed after any of its steps is made by the next execution that does not
crash, whatever came between, exactly when its subjects are read back as distinct and the crash
did not come between the start and the artifact: then the artifact must have been there. -/
theorem recovered_iff (valid : r.Valid) (later : Store.Later {} w.store)
    (capturable : Capturable call r w.store) (retainable : r.Retainable)
    (healthy : ∀ o, objectAt call.bucket w.objects (r.descriptor call) = some o →
      Intact (r.descriptor call) o)
    {a : Attempt} {stage : Stage} (crashed : a.crash = some stage) (attempts : List Attempt)
    {last : Attempt} (uncrashed : last.crash = none) :
    Recovered call (attempt call last (after call (a :: attempts) w)) ↔
      (r.goal.subjectRefs.map App.readBack).Nodup ∧
        (stage = .start →
          (objectAt call.bucket w.objects (r.descriptor call)).isSome) := by
  have keyed : w.store.Keyed := later.keyed fun i id row found => by cases i <;> cases found
  have audited : w.store.Audited :=
    later.audited (digest_length hex) fun e there => by cases there
  have pending : Pending call r (announced call r w).store := pending_first capturable keyed audited
  have begins (start : stage = .start) : (attempt call a w).2 = announced call r w := by
    rw [attempt_started admitted capturable retainable (crashed.trans (congrArg some start))]
  have rest : after call (a :: attempts) w = after call attempts (attempt call a w).2 := rfl
  constructor
  · rintro ⟨⟨evidence, answered, _⟩, _⟩
    rw [rest] at answered
    by_cases distinct : (r.goal.subjectRefs.map App.readBack).Nodup
    · refine ⟨distinct, fun start => ?_⟩
      by_contra absent
      have missing := Option.not_isSome_iff_eq_none.mp absent
      rw [begins start, after_lost hex admitted attempts pending missing,
        attempt_lost hex admitted pending missing] at answered
      cases answered
    · have stuck := (first_colliding hex admitted capturable retainable pending healthy valid
        distinct a).1
      have pends := after_colliding hex admitted valid distinct attempts stuck
      exact absurd answered ((attempt_colliding hex admitted valid distinct pends last).2 evidence)
  · rintro ⟨distinct, there⟩
    have sound : Sound call r (attempt call a w).2 := by
      by_cases start : stage = .start
      · rw [begins start]
        obtain ⟨o, found⟩ := Option.isSome_iff_exists.mp (there start)
        exact .inl ⟨pending, o, found, healthy o found⟩
      · refine (first_sound hex admitted capturable retainable pending healthy valid distinct ?_).1
        rw [crashed]
        exact fun same => start (Option.some.inj same)
    refine ⟨(attempt_sound hex admitted valid distinct
      (after_sound hex admitted valid distinct attempts sound) last).2 uncrashed, ?_⟩
    intro id e found named
    have kept (p : Part) : Store.Kept (fun _ => False) Store.Keyed p := Store.keyed_kept p
    have still : (attempt call last (after call (a :: attempts) w)).2.store.Keyed :=
      attempt_holds (fun p _ => kept p) (after_keyed (a :: attempts) keyed) last
    exact (still .evidence id e found).symm.trans named

end

namespace Sample
open Autonoesis.Sample

attribute [local instance] Autonoesis.Sample.sha256

/-- The capture of the sample session, into a bucket. -/
def call : Call where
  ports := legacyPorts
  bucket := "evidence"
  uuid5 := (env 0).uuid5
  ctx := context "capture-1" capture_named
  cmd := capture

def execution (crash : Option Stage) : Attempt := ⟨(env 100).uuid, (env 100).now, none, crash⟩

/-- The succeeded Action and an empty bucket. -/
def site : Site := ⟨Store.after {} (session acted), .empty⟩

theorem hexdigest_hex (text : String) : isSha256Hex (sha256.hexdigest text) = true := by
  change isSha256Hex "373e0712c83cffe15ff427b60e788b549f82496fe5fd5391f7921832b04c6b20" = true
  decide +kernel

theorem admitted : Admitted call where
  role := by decide +kernel
  artifacts := rfl
  readback := rfl
  bucket := by
    refine ⟨by decide, chars_of_all ?_⟩
    decide +kernel

/-- What a capture of the session reads in the store, for a Goal with these subjects. -/
def Facts (s : Store) (subjects : List SubjectRef) : Prop :=
  s.idempotency.get? call.key = none ∧ s.idempotencyDigests.get? call.key = none ∧
    s.evidenceCaptureSagas.get? call.evidenceId = none ∧
    (s.runs.get? 32).map (fun r => (r.tenantId, r.goalId, r.runId)) = some (1, 16, 32) ∧
    (s.goals.get? 16).map (fun g => (g.tenantId, g.subjectRefs, g.successCriteria,
      g.dataPolicy)) = some (1, subjects, goal.successCriteria, {}) ∧
    (s.actions.get? 64).map (fun a => (a.tenantId, a.runId, a.status)) = some (1, 32, .succeeded)

instance (s : Store) (subjects : List SubjectRef) : Decidable (Facts s subjects) :=
  inferInstanceAs (Decidable (_ ∧ _))

theorem site_facts : drawsUnused acted {} = true ∧ Facts site.store goal.subjectRefs := by
  rw [site, after_session]
  decide +kernel

theorem site_later : Store.Later {} site.store := by
  dsimp only [site]
  exact later_session site_facts.1

theorem reads {s : Store} {subjects : List SubjectRef} (facts : Facts s subjects)
    (checked : ∀ subject ∈ subjects, subject.check = .ok ()) :
    ∃ r, Capturable call r s ∧ r.Valid ∧ r.Retainable ∧ r.goal.subjectRefs = subjects := by
  have observed : observation.check = .ok () := by decide +kernel
  obtain ⟨unbound, undigested, unannounced, runs, goals, actions⟩ := facts
  obtain ⟨run, hadRun, runFields⟩ := Option.map_eq_some_iff.mp runs
  obtain ⟨found, hadGoal, goalFields⟩ := Option.map_eq_some_iff.mp goals
  obtain ⟨action, hadAction, actionFields⟩ := Option.map_eq_some_iff.mp actions
  obtain ⟨runTenant, runGoal, runId⟩ : run.tenantId = 1 ∧ run.goalId = 16 ∧ run.runId = 32 := by
    simpa using runFields
  obtain ⟨goalTenant, same, criteria, policy⟩ : found.tenantId = 1 ∧
      found.subjectRefs = subjects ∧ found.successCriteria = goal.successCriteria ∧
      found.dataPolicy = {} := by
    simpa using goalFields
  obtain ⟨actionTenant, actionRun, succeeded⟩ : action.tenantId = 1 ∧ action.runId = 32 ∧
      action.status = .succeeded := by
    simpa using actionFields
  refine ⟨⟨run, found, action, ⟨"delivered", "the mail is delivered", "readback"⟩, observation,
    .internal⟩, ?_, ?_, ?_, same⟩
  · exact ⟨unbound, undigested, unannounced, hadRun, runTenant, by rw [runGoal]; exact hadGoal,
      goalTenant, hadAction, actionTenant, actionRun.trans runId.symm, succeeded,
      by rw [criteria]; rfl, rfl, rfl⟩
  · refine ⟨?_, by rw [policy]; rfl, observed⟩
    rw [same]
    exact checked
  · rw [Reading.Retainable, policy]
    change Instant.HasDayAfter observation.capturedAt ({} : DataPolicy).retentionDays
    decide +kernel

theorem subjects_checked : ∀ subject ∈ goal.subjectRefs, subject.check = .ok () := by
  decide +kernel

/-- After a crash between the start and the artifact the command only raises, and the saga stays
pending. -/
theorem started_capture_lost : ∃ r, Store.Later {} site.store ∧ Capturable call r site.store ∧
    (attempt call (execution (some .start)) site).1 = none ∧
    (attempt call (execution none) (attempt call (execution (some .start)) site).2).1 =
      some (.error (.lookupError "Evidence artifact is missing")) ∧
    ((attempt call (execution none)
      (attempt call (execution (some .start)) site).2).2.store.evidenceCaptureSagas.get?
        call.evidenceId).map (·.status) = some .pending := by
  obtain ⟨r, capturable, valid, retainable, _⟩ := reads site_facts.2 subjects_checked
  have later := site_later
  have keyed : site.store.Keyed := later.keyed fun i id row found => by cases i <;> cases found
  have audited : site.store.Audited :=
    later.audited hexdigest_length fun e there => by cases there
  have pending : Pending call r (announced call r site).store :=
    pending_first capturable keyed audited
  have crashed : attempt call (execution (some .start)) site = (none, announced call r site) :=
    attempt_started admitted capturable retainable rfl
  have raised : attempt call (execution none) (announced call r site) = _ :=
    attempt_lost hexdigest_hex admitted pending (objectAt_empty _ _) _
  refine ⟨r, later, capturable, by rw [crashed], by rw [crashed, raised], ?_⟩
  rw [crashed, raised, pending.announced]
  rfl

/-- A crash after the artifact was stored is recovered from. -/
theorem stored_capture_recovered :
    Recovered call (attempt call (execution none) (after call [execution (some .store)] site)) := by
  obtain ⟨r, capturable, valid, retainable, subjects⟩ := reads site_facts.2 subjects_checked
  have empty : objectAt call.bucket site.objects (r.descriptor call) = none := objectAt_empty _ _
  refine (recovered_iff hexdigest_hex admitted valid site_later capturable retainable
    (fun o there => by rw [empty] at there; cases there) rfl [] rfl).mpr
      ⟨?_, fun start => by cases start⟩
  rw [subjects]
  decide +kernel

end Sample

end Autonoesis.Recovery
