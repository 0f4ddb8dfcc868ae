import Autonoesis.Domain.Execution

/-! Evidence artifacts, capture sagas, deletion records and the verifier that re-reads
authority before an Outcome is decided. Artifact bytes are carried as text. -/

namespace Autonoesis
open Base

inductive EvidenceCaptureStatus where
  | pending | committed | failed
  deriving DecidableEq

inductive EvidenceDeletionStatus where
  | requested | retentionBlocked | deleted | failed
  deriving DecidableEq

def EvidenceDeletionStatus.value : EvidenceDeletionStatus → String
  | requested => "requested"
  | retentionBlocked => "retention_blocked"
  | deleted => "deleted"
  | failed => "failed"

structure EvidenceArtifactDescriptor where
  tenantId : Uuid
  evidenceId : Uuid
  artifactUri : String
  contentDigest : String
  classification : DataClassification
  sizeBytes : Int
  retainedUntil : Instant
  versionId : Option String := none

structure AuthoritativeObservation where
  source : String
  sourceIdentity : String
  reference : String
  observedState : String
  content : String
  criterionMet : Option Bool
  capturedAt : Instant
  validUntil : Instant

def AuthoritativeObservation.check (o : AuthoritativeObservation) : Except Exc Unit :=
  checks [
    ([o.source, o.sourceIdentity, o.reference, o.observedState].any isBlank,
      .valueError "authoritative observation identity and state must not be empty"),
    (o.validUntil < o.capturedAt,
      .valueError "authoritative observation validity cannot precede capture")]

def AuthoritativeObservation.contentDigest [Sha256] (o : AuthoritativeObservation) : String :=
  Sha256.hexdigest o.content

structure OutcomeVerificationDecision where
  status : OutcomeStatus
  verifierVersion : String
  verifiedAt : Instant
  deriving DecidableEq

/-- The definition a saga keeps of the evidence it will commit. -/
structure CaptureDefinition where
  source : String
  sourceIdentity : String
  sourceReference : String
  observedState : String
  capturedAt : Instant
  validUntil : Instant
  retainedUntil : Instant
  classification : DataClassification
  sizeBytes : Int
  contentType : String
  subjectRefs : List SubjectRef
  deriving DecidableEq

structure EvidenceCaptureSaga where
  tenantId : Uuid
  evidenceId : Uuid
  runId : Uuid
  actionId : Uuid
  criterionId : String
  source : String
  artifactUri : String
  expectedDigest : String
  definition : CaptureDefinition
  status : EvidenceCaptureStatus := .pending
  failureReason : Option String := none
  deriving DecidableEq

structure EvidenceDeletionRecord where
  tenantId : Uuid
  evidenceId : Uuid
  artifactUri : String
  requestedBy : Uuid
  reason : String
  requestedAt : Instant
  status : EvidenceDeletionStatus := .requested
  deletedAt : Option Instant := none
  providerVersionId : Option String := none
  proofDigest : Option String := none
  failureReason : Option String := none

structure ArtifactDeletionReceipt where
  deletedAt : Instant
  providerVersionId : Option String
  proofDigest : String

/-- `EvidenceArtifactStore` and `AuthoritativeReadback`, as one call sees them. -/
structure EvidencePorts where
  describe : Uuid → Uuid → String → DataClassification → Int → Instant →
    EvidenceArtifactDescriptor
  store : EvidenceArtifactDescriptor → String → String → Except Exc EvidenceArtifactDescriptor
  retrieveVerified : EvidenceArtifactDescriptor → Except Exc String
  delete : EvidenceArtifactDescriptor → Except Exc ArtifactDeletionReceipt
  observe : String → Uuid → List SubjectRef → SuccessCriterion →
    Except Exc AuthoritativeObservation
  admitContent : String → DataClassification → DataClassification → Int → Except Exc DataClassification

/-- The descriptor under which committed evidence is read back or deleted. -/
def Evidence.descriptor (e : Evidence) : EvidenceArtifactDescriptor where
  tenantId := e.tenantId
  evidenceId := e.evidenceId
  artifactUri := e.reference
  contentDigest := e.contentDigest
  classification := e.classification
  sizeBytes := 0
  retainedUntil := e.retainedUntil.getD e.validUntil
  versionId := e.artifactVersionId

namespace TrustedOutcomeVerifier

def version : String := "trusted-readback@1"

def isCandidate (now : Instant) (e : Evidence) : Bool :=
  e.captureMethod = .authoritativeReadback && e.validFrom ≤ now && now ≤ e.validUntil &&
    e.integrity = .verified

variable [Sha256] (ports : EvidencePorts)

/-- What re-reading one candidate decides; `none` passes on to the next. -/
def reread (tenantId : Uuid) (subjects : List SubjectRef) (criterion : SuccessCriterion)
    (e : Evidence) : Except Exc (Option OutcomeStatus) :=
  let attempted := do
    let content ← ports.retrieveVerified e.descriptor
    let observation ← ports.observe e.source tenantId subjects criterion
    return (content, observation)
  match attempted with
  | .error x => if x.isA .lookupError || x.isA .valueError then .ok none else .error x
  | .ok (content, observation) =>
    if Sha256.hexdigest content ≠ e.contentDigest ||
        observation.contentDigest ≠ e.contentDigest ||
        observation.sourceIdentity ≠ e.sourceIdentity ||
        observation.reference ≠ e.sourceReference ||
        observation.observedState ≠ e.observedState ||
        (!e.subjectRefs.isEmpty && e.subjectRefs ≠ subjects) then .ok none
    else .ok (some (match observation.criterionMet with
      | some true => .verified
      | some false => .notMet
      | none => .unknown))

/-- The loop over the candidates. -/
def firstDecision (tenantId : Uuid) (subjects : List SubjectRef) (criterion : SuccessCriterion) :
    List Evidence → Except Exc OutcomeStatus
  | [] => .ok .unknown
  | e :: rest => do
    match ← reread ports tenantId subjects criterion e with
    | some status => return status
    | none => firstDecision tenantId subjects criterion rest

def verify (tenantId : Uuid) (subjects : List SubjectRef) (criterion : SuccessCriterion)
    (evidence : List Evidence) (now : Instant) : Except Exc OutcomeVerificationDecision := do
  let status ← firstDecision ports tenantId subjects criterion (evidence.filter (isCandidate now))
  return ⟨status, version, now⟩

end TrustedOutcomeVerifier

end Autonoesis
