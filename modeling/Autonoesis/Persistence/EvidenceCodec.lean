import Autonoesis.Persistence.GoalCodec

/-!
# Evidence and outcomes as rows

An Outcome is stored with the identifiers of its evidence, which `add_outcome` has found in the
table as it is. `get_outcome` reads each of the items by its identifier.
-/

namespace Autonoesis
open Base Json

instance : StrEnum EvidenceCaptureMethod where
  name := "EvidenceCaptureMethod"
  members := [.authoritativeReadback, .signedEvent, .systemQuery, .humanAttestation]
  value
    | .authoritativeReadback => "authoritative_readback"
    | .signedEvent => "signed_event"
    | .systemQuery => "system_query"
    | .humanAttestation => "human_attestation"
  complete a := by cases a <;> decide
  distinct a b := by cases a <;> cases b <;> decide

instance : StrEnum EvidenceIntegrity where
  name := "EvidenceIntegrity"
  members := [.verified, .unverified, .invalid]
  value
    | .verified => "verified"
    | .unverified => "unverified"
    | .invalid => "invalid"
  complete a := by cases a <;> decide
  distinct a b := by cases a <;> cases b <;> decide

instance : StrEnum OutcomeStatus where
  name := "OutcomeStatus"
  members := [.verified, .notMet, .unknown]
  value := OutcomeStatus.value
  complete a := by cases a <;> decide
  distinct a b := by cases a <;> cases b <;> decide

/-! ## Evidence -/

/-- A row of `evidence`. -/
structure EvidenceRow where
  id : String
  tenantId : String
  runId : String
  actionId : String
  source : String
  sourceIdentity : String
  captureMethod : String
  artifactUri : String
  contentDigest : String
  classification : String
  validFrom : Instant
  validUntil : Instant
  integrity : String
  definition : Json
  createdAt : Instant

/-- `evidence_payload`. -/
def Evidence.payload (item : Evidence) : Json :=
  .obj [
    ("observed_state", .str item.observedState),
    ("captured_at", item.capturedAt.json),
    ("source_reference", .str item.sourceReference),
    ("subject_refs", .arr (item.subjectRefs.map (·.payload))),
    ("retained_until", optional Instant.json item.retainedUntil),
    ("artifact_version_id", optional .str item.artifactVersionId)]

/-- The row `add_evidence` inserts. -/
def Evidence.row (item : Evidence) : EvidenceRow where
  id := item.evidenceId.str
  tenantId := item.tenantId.str
  runId := item.runId.str
  actionId := item.actionId.str
  source := item.source
  sourceIdentity := item.sourceIdentity
  captureMethod := StrEnum.value item.captureMethod
  artifactUri := item.reference
  contentDigest := item.contentDigest
  classification := StrEnum.value item.classification
  validFrom := item.validFrom
  validUntil := item.validUntil
  integrity := StrEnum.value item.integrity
  definition := item.payload
  createdAt := item.capturedAt

/-- `evidence_from_row`. -/
def evidenceFromRow (row : EvidenceRow) : Except Exc Evidence := do
  let definition := row.definition
  Evidence.make {
    tenantId := ← Uuid.parse row.tenantId
    runId := ← Uuid.parse row.runId
    actionId := ← Uuid.parse row.actionId
    source := row.source
    sourceIdentity := row.sourceIdentity
    captureMethod := ← ofValue row.captureMethod
    reference := row.artifactUri
    observedState := ← definition.at_ "observed_state" asStr
    contentDigest := row.contentDigest
    classification := ← ofValue row.classification
    validFrom := row.validFrom
    validUntil := row.validUntil
    integrity := ← ofValue row.integrity
    sourceReference := ← definition.getD "source_reference" "" asStr
    subjectRefs := ← definition.getD "subject_refs" [] (asList subjectRefFrom)
    retainedUntil := ← definition.ifGiven "retained_until" asInstant
    artifactVersionId := ← definition.get? "artifact_version_id" asStr
    evidenceId := ← Uuid.parse row.id
    capturedAt := ← definition.at_ "captured_at" asInstant }

/-- Every part of the item was accepted by its own constructor. -/
def Evidence.Accepted (item : Evidence) : Prop := ∀ ref ∈ item.subjectRefs, ref.check = .ok ()

theorem evidenceFromRow_row {item : Evidence} (accepted : item.Accepted) :
    evidenceFromRow item.row = .ok item := by
  have same : Evidence.make item.toEvidenceFields = .ok item := guarded_eq_ok.mpr ⟨item.valid, rfl⟩
  have refs : asList subjectRefFrom (.arr (item.subjectRefs.map (·.payload))) =
      .ok item.subjectRefs :=
    asList_map fun ref there => subjectRefFrom_payload (accepted ref there)
  simp [evidenceFromRow, Evidence.row, Evidence.payload, at_, get?, getD, ifGiven, refs]
  exact same

/-! ## Outcomes -/

/-- A row of `outcomes`. -/
structure StoredOutcome where
  id : String
  tenantId : String
  goalId : String
  runId : String
  criterionId : String
  verifierVersion : String
  status : String
  result : Json

/-- `outcome_payload`. -/
def Outcome.payload (item : Outcome) : Json :=
  .obj [
    ("evidence_ids", .arr (item.evidence.map (·.evidenceId.json))),
    ("verified_at", optional Instant.json item.verifiedAt)]

def Outcome.row (item : Outcome) : StoredOutcome where
  id := item.outcomeId.str
  tenantId := item.tenantId.str
  goalId := item.goalId.str
  runId := item.runId.str
  criterionId := item.criterionId
  verifierVersion := item.verifierVersion
  status := StrEnum.value item.status
  result := item.payload

/-- `outcome_from_row`. -/
def outcomeFromRow (row : StoredOutcome) (evidenceItems : List Evidence) :
    Except Exc Outcome := do
  let payload := row.result
  Outcome.make {
    tenantId := ← Uuid.parse row.tenantId
    goalId := ← Uuid.parse row.goalId
    runId := ← Uuid.parse row.runId
    criterionId := row.criterionId
    verifierVersion := row.verifierVersion
    status := ← ofValue row.status
    evidence := evidenceItems
    outcomeId := ← Uuid.parse row.id
    verifiedAt := ← payload.ifGiven "verified_at" asInstant }

theorem outcomeFromRow_row (item : Outcome) : outcomeFromRow item.row item.evidence = .ok item := by
  have same : Outcome.make item.toOutcomeFields = .ok item := guarded_eq_ok.mpr ⟨item.valid, rfl⟩
  simp [outcomeFromRow, Outcome.row, Outcome.payload, getD, ifGiven]
  exact same

/-- `get_evidence`, and `_get_row_in_session` of `evidence` with its reader. -/
def getEvidence (evidence : List EvidenceRow) (tenantId evidenceId : Uuid) : Except Exc Evidence :=
  match evidence.find? fun row => row.id = evidenceId.str && row.tenantId = tenantId.str with
  | some row => evidenceFromRow row
  | none => .error (.recordNotFound ("evidence " ++ evidenceId.str ++ " was not found"))

/-- The checks of `add_outcome` and the row that it inserts: the evidence is there, and it is what
the table has. -/
def addOutcome (evidence : List EvidenceRow) (item : Outcome) : Except Exc StoredOutcome := do
  let evidenceIds := item.evidence.map (·.evidenceId.str)
  let persistedIds := (evidence.filter fun row => row.tenantId = item.tenantId.str &&
    row.runId = item.runId.str && row.id ∈ evidenceIds).map (·.id)
  raiseIf (!evidenceIds.all (· ∈ persistedIds))
    (.valueError "outcome evidence must be complete, integrity-verified, and persisted")
  item.evidence.forM fun evidenceItem => do
    let persisted ← getEvidence evidence item.tenantId evidenceItem.evidenceId
    raiseIf (persisted ≠ evidenceItem)
      (.valueError "outcome evidence must exactly match the authoritative persisted record")
  return item.row

/-- `get_outcome`, from the row that it has found. -/
def getOutcome (evidence : List EvidenceRow) (tenantId : Uuid) (row : StoredOutcome) :
    Except Exc Outcome := do
  let evidenceIds ← row.result.getD "evidence_ids" [] (asList asUuid)
  let items ← evidenceIds.mapM (getEvidence evidence tenantId)
  outcomeFromRow row items

theorem addOutcome_ok {evidence : List EvidenceRow} {item : Outcome} {row : StoredOutcome}
    (added : addOutcome evidence item = .ok row) :
    row = item.row ∧ ∀ e ∈ item.evidence, getEvidence evidence item.tenantId e.evidenceId = .ok e := by
  simp only [addOutcome, bind_eq_ok, forM_eq_ok, raiseIf_eq_ok] at added
  obtain ⟨_, _, _, exact_, same⟩ := added
  refine ⟨(Except.ok.inj same).symm, fun e there => ?_⟩
  obtain ⟨persisted, found, alike⟩ := exact_ e there
  have alike : persisted = e := by simpa using alike
  rw [found, alike]

/-- More evidence does not hide what is there. -/
theorem getEvidence_append {evidence : List EvidenceRow} {tenantId id : Uuid} {item : Evidence}
    (found : getEvidence evidence tenantId id = .ok item) (more : List EvidenceRow) :
    getEvidence (evidence ++ more) tenantId id = .ok item := by
  unfold getEvidence at found ⊢
  cases row : evidence.find? fun row => row.id = id.str && row.tenantId = tenantId.str with
  | none =>
    rw [row] at found
    cases found
  | some r =>
    rw [row] at found
    rw [List.find?_append, row]
    exact found

/-- What was added is read back, from any table in which its evidence is still found. -/
theorem getOutcome_row {evidence : List EvidenceRow} {item : Outcome}
    (kept : ∀ e ∈ item.evidence, getEvidence evidence item.tenantId e.evidenceId = .ok e) :
    getOutcome evidence item.tenantId item.row = .ok item := by
  have ids : asList asUuid (.arr (item.evidence.map (·.evidenceId.json))) =
      .ok (item.evidence.map (·.evidenceId)) := by
    have read := asList_uuids (item.evidence.map (·.evidenceId))
    rwa [List.map_map] at read
  have items : (item.evidence.map (·.evidenceId)).mapM (getEvidence evidence item.tenantId) =
      .ok item.evidence := by
    have read := mapM_map (f := id) kept
    rwa [List.map_id] at read
  have payload : item.row.result.getD "evidence_ids" [] (asList asUuid) =
      .ok (item.evidence.map (·.evidenceId)) := by
    simp [Outcome.row, Outcome.payload, getD, ids]
  rw [getOutcome, payload, ok_bind, items, ok_bind]
  exact outcomeFromRow_row item

end Autonoesis
