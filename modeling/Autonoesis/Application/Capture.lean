import Autonoesis.Application.Commands

/-! Evidence capture and deletion. Both reach the artifact store between two transactions,
so a failure there leaves what was committed before it. -/

namespace Autonoesis

structure CaptureAuthoritativeEvidence where
  runId : Uuid
  actionId : Uuid
  criterionId : String
  source : String
  declaredClassification : DataClassification := .internal
  contentType : String := "application/json"

structure RequestEvidenceDeletion where
  evidenceId : Uuid
  reason : String

namespace App
open Base

/-- What the first part of a capture leaves to do. -/
inductive CapturePlan where
  | done (evidence : Evidence)
  | resume (saga : EvidenceCaptureSaga)
  | fresh (saga : EvidenceCaptureSaga) (descriptor : EvidenceArtifactDescriptor) (content : String)

/-- The descriptor of the artifact a pending saga had described. -/
def sagaDescriptor (saga : EvidenceCaptureSaga) : EvidenceArtifactDescriptor where
  tenantId := saga.tenantId
  evidenceId := saga.evidenceId
  artifactUri := saga.artifactUri
  contentDigest := saga.expectedDigest
  classification := saga.definition.classification
  sizeBytes := saga.definition.sizeBytes
  retainedUntil := saga.definition.retainedUntil

def captureEvidenceId (env : Env) (ctx : CommandContext) : Uuid :=
  env.uuid5 ("autonoesis:evidence:" ++ ctx.tenantId.str ++ ":" ++ ctx.idempotencyKey)

/-- A saga's subject as it is read back: an empty version is no version. -/
def readBack (s : SubjectRef) : SubjectRef :=
  { s with version := if s.version = some "" then none else s.version }

section
variable [Sha256]

/-- The observation a capture starts from, described and announced as a saga. -/
def observeCapture (ports : Ports) (env : Env) (ctx : CommandContext)
    (cmd : CaptureAuthoritativeEvidence) : StoreTx CapturePlan := do
  let run ← Store.getRun ctx.tenantId cmd.runId
  let goal ← Store.getGoal ctx.tenantId run.goalId
  let action ← Store.getAction ctx.tenantId cmd.actionId
  Tx.check (action.runId ≠ run.runId || action.status ≠ .succeeded)
    (.valueError "authoritative Evidence requires a succeeded Action in the Run")
  match goal.successCriteria.find? (·.criterionId = cmd.criterionId) with
  | none => Tx.raise (.valueError "Evidence criterion is not part of the Goal contract")
  | some criterion =>
    let observation ← Tx.ofExcept
      (ports.evidence.observe cmd.source ctx.tenantId goal.subjectRefs criterion)
    let classification ← Tx.ofExcept (ports.evidence.admitContent observation.content
      cmd.declaredClassification goal.dataPolicy.maximumClassification
      goal.dataPolicy.retentionDays)
    let retainedUntil ← Tx.ofExcept
      (observation.capturedAt.plusDays goal.dataPolicy.retentionDays)
    let descriptor := ports.evidence.describe ctx.tenantId (captureEvidenceId env ctx)
      observation.contentDigest classification observation.content.utf8ByteSize retainedUntil
    let saga : EvidenceCaptureSaga := {
      tenantId := ctx.tenantId
      evidenceId := captureEvidenceId env ctx
      runId := run.runId
      actionId := action.actionId
      criterionId := criterion.criterionId
      source := cmd.source
      artifactUri := descriptor.artifactUri
      expectedDigest := descriptor.contentDigest
      definition := {
        source := observation.source
        sourceIdentity := observation.sourceIdentity
        sourceReference := observation.reference
        observedState := observation.observedState
        capturedAt := observation.capturedAt
        validUntil := observation.validUntil
        retainedUntil := retainedUntil
        classification := classification
        sizeBytes := observation.content.utf8ByteSize
        contentType := cmd.contentType
        subjectRefs := goal.subjectRefs } }
    Store.startEvidenceCapture saga
    return .fresh saga descriptor observation.content

/-- A capture up to its first call of the artifact store. -/
def planCapture (ports : Ports) (env : Env) (ctx : CommandContext)
    (cmd : CaptureAuthoritativeEvidence) : StoreTx CapturePlan := do
  requireAny ctx operators
  Tx.check (!(ports.evidenceArtifactsConfigured && ports.authoritativeReadbackConfigured))
    (.runtimeError "authoritative Evidence capture is not configured")
  match ← loadIdempotency ctx (ctx.key "capture_authoritative_evidence") with
  | some cached =>
    let evidence ← Store.getEvidence ctx.tenantId cached
    return .done evidence
  | none =>
    let evidenceId := captureEvidenceId env ctx
    match ← Tx.read (·.evidenceCaptureSagas.get? evidenceId) with
    | none => observeCapture ports env ctx cmd
    | some pending =>
      Tx.check (ctx.tenantId ≠ pending.tenantId)
        (.tenantBoundaryViolation "record belongs to a different tenant")
      if pending.status = .committed then
        let evidence ← Store.getEvidence ctx.tenantId evidenceId
        return .done evidence
      else return .resume pending

/-- What the artifact store holds of a planned capture, once it has been read back. -/
def storeArtifact (ports : Ports) :
    CapturePlan → Except Exc (Evidence ⊕ (EvidenceCaptureSaga × EvidenceArtifactDescriptor))
  | .done evidence => .ok (.inl evidence)
  | .resume saga => do
    let content ← ports.evidence.retrieveVerified (sagaDescriptor saga)
    let stored ← ports.evidence.store (sagaDescriptor saga) content saga.definition.contentType
    return .inr (saga, stored)
  | .fresh saga descriptor content => do
    let stored ← ports.evidence.store descriptor content saga.definition.contentType
    let _ ← ports.evidence.retrieveVerified stored
    return .inr (saga, stored)

/-- `_commit_evidence_capture`. -/
def commitEvidenceCapture (env : Env) (ctx : CommandContext) (saga : EvidenceCaptureSaga)
    (stored : EvidenceArtifactDescriptor) : StoreTx Evidence := do
  let subjects := saga.definition.subjectRefs.map readBack
  Tx.ofExcept (subjects.forM SubjectRef.check)
  let evidence ← Tx.ofExcept (Evidence.make {
    tenantId := saga.tenantId
    runId := saga.runId
    actionId := saga.actionId
    source := saga.definition.source
    sourceIdentity := saga.definition.sourceIdentity
    captureMethod := .authoritativeReadback
    reference := stored.artifactUri
    observedState := saga.definition.observedState
    contentDigest := stored.contentDigest
    classification := saga.definition.classification
    validFrom := saga.definition.capturedAt
    validUntil := saga.definition.validUntil
    integrity := .verified
    sourceReference := saga.definition.sourceReference
    subjectRefs := subjects
    retainedUntil := some saga.definition.retainedUntil
    artifactVersionId := stored.versionId
    evidenceId := saga.evidenceId
    capturedAt := saga.definition.capturedAt })
  Store.addEvidence evidence
  Store.completeEvidenceCapture ctx.tenantId evidence.evidenceId
  audit ctx "evidence.authoritative_captured" evidence.auditItem (env.uuid 0) (env.now 0)
  remember ctx (ctx.key "capture_authoritative_evidence") evidence.evidenceId
  return evidence

def captureAuthoritativeEvidence (ports : Ports) (env : Env) (ctx : CommandContext)
    (cmd : CaptureAuthoritativeEvidence) (s : Store) : Except Exc Evidence × Store :=
  Tx.andThen (planCapture ports env ctx cmd) (fun plan s =>
    match storeArtifact ports plan with
    | .error e => (.error e, s)
    | .ok (.inl evidence) => (.ok evidence, s)
    | .ok (.inr (saga, stored)) => (commitEvidenceCapture env ctx saga stored).commit s) s

/-- What the artifact store's answer makes of a requested deletion. -/
def settleDeletion (record : EvidenceDeletionRecord) :
    Except Exc ArtifactDeletionReceipt → Except Exc EvidenceDeletionRecord
  | .ok receipt => .ok { record with
      status := .deleted
      deletedAt := some receipt.deletedAt
      providerVersionId := receipt.providerVersionId
      proofDigest := some receipt.proofDigest }
  | .error e =>
    if e.isA .permissionError then
      .ok { record with status := .retentionBlocked, failureReason := some e.message }
    else if e.isA .exception then
      .ok { record with status := .failed, failureReason := some e.name }
    else .error e

/-- The tombstone, before any byte is deleted. -/
def requestDeletion (ports : Ports) (env : Env) (ctx : CommandContext)
    (cmd : RequestEvidenceDeletion) : StoreTx (Evidence × EvidenceDeletionRecord) := do
  requireAny ctx ["platform_admin", "tenant_admin"]
  Tx.check (!ports.evidenceArtifactsConfigured)
    (.runtimeError "Evidence artifact deletion is not configured")
  Tx.check (isBlank cmd.reason) (.valueError "Evidence deletion reason must not be empty")
  let evidence ← Store.getEvidence ctx.tenantId cmd.evidenceId
  let record : EvidenceDeletionRecord := {
    tenantId := ctx.tenantId
    evidenceId := evidence.evidenceId
    artifactUri := evidence.reference
    requestedBy := ctx.identity.actorId
    reason := cmd.reason
    requestedAt := env.now 0 }
  Store.recordEvidenceDeletion record
  audit ctx "evidence.deletion_requested" evidence.auditItem (env.uuid 0) (env.now 1)
  return (evidence, record)

def finishDeletion (env : Env) (ctx : CommandContext) (evidence : Evidence)
    (final : EvidenceDeletionRecord) : StoreTx EvidenceDeletionRecord := do
  Store.recordEvidenceDeletion final
  audit ctx ("evidence.deletion_" ++ final.status.value) evidence.auditItem (env.uuid 1)
    (env.now 2)
  return final

def requestEvidenceDeletion (ports : Ports) (env : Env) (ctx : CommandContext)
    (cmd : RequestEvidenceDeletion) (s : Store) : Except Exc EvidenceDeletionRecord × Store :=
  Tx.andThen (requestDeletion ports env ctx cmd) (fun (evidence, record) s =>
    match settleDeletion record (ports.evidence.delete evidence.descriptor) with
    | .error e => (.error e, s)
    | .ok final => (finishDeletion env ctx evidence final).commit s) s

end

end App

end Autonoesis
