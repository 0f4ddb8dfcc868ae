import Autonoesis.Domain.Improvement
import Autonoesis.Persistence.ExecutionCodec

/-!
# Proposals, candidates, deployments and releases as rows
-/

namespace Autonoesis
open Base Json

instance : StrEnum ImprovementTarget where
  name := "ImprovementTarget"
  members := [.agentInstruction, .skill, .promptAsset, .modelRoute]
  value := ImprovementTarget.value
  complete a := by cases a <;> decide
  distinct a b := by cases a <;> cases b <;> decide

instance : StrEnum CandidateStatus where
  name := "CandidateStatus"
  members := [.draft, .evaluating, .awaitingApproval, .approved, .rejected]
  value := CandidateStatus.value
  complete a := by cases a <;> decide
  distinct a b := by cases a <;> cases b <;> decide

instance : StrEnum DeploymentStatus where
  name := "DeploymentStatus"
  members := [.shadow, .canary, .stable, .failed, .rolledBack]
  value := DeploymentStatus.value
  complete a := by cases a <;> decide
  distinct a b := by cases a <;> cases b <;> decide

/-! ## Proposals -/

/-- A row of `improvement_proposals`. -/
structure ProposalRow where
  id : String
  tenantId : String
  targetType : String
  targetVersionId : String
  proposal : Json

/-- `proposal_payload`. -/
def ImprovementProposal.payload (item : ImprovementProposal) : Json :=
  .obj [
    ("evidence_refs", .arr (item.evidenceRefs.map .str)),
    ("diagnosis", .str item.diagnosis),
    ("proposed_change", .str item.proposedChange),
    ("validation_suite_id", .str item.validationSuiteId),
    ("rollback_plan", .str item.rollbackPlan),
    ("proposer_id", .str item.proposerId)]

/-- The row `add_proposal` inserts. -/
def ImprovementProposal.row (proposal : ImprovementProposal) : ProposalRow where
  id := proposal.proposalId.str
  tenantId := proposal.tenantId.str
  targetType := StrEnum.value proposal.target
  targetVersionId := proposal.targetVersionId.str
  proposal := proposal.payload

/-- `proposal_from_row`. -/
def proposalFromRow (row : ProposalRow) : Except Exc ImprovementProposal := do
  let payload := row.proposal
  ImprovementProposal.make {
    tenantId := ← Uuid.parse row.tenantId
    target := ← ofValue row.targetType
    targetVersionId := ← Uuid.parse row.targetVersionId
    evidenceRefs := ← payload.at_ "evidence_refs" (asList asStr)
    diagnosis := ← payload.at_ "diagnosis" asStr
    proposedChange := ← payload.at_ "proposed_change" asStr
    validationSuiteId := ← payload.at_ "validation_suite_id" asStr
    rollbackPlan := ← payload.at_ "rollback_plan" asStr
    proposerId := ← payload.at_ "proposer_id" asStr
    proposalId := ← Uuid.parse row.id }

theorem proposalFromRow_row (proposal : ImprovementProposal) :
    proposalFromRow proposal.row = .ok proposal := by
  have same : ImprovementProposal.make proposal.toProposalFields = .ok proposal :=
    guarded_eq_ok.mpr ⟨proposal.valid, rfl⟩
  simp [proposalFromRow, ImprovementProposal.row, ImprovementProposal.payload, at_]
  exact same

/-! ## Candidates -/

/-- A row of `candidates`. -/
structure CandidateRow where
  id : String
  tenantId : String
  proposalId : String
  baselineVersionId : String
  status : String
  artifactUri : String
  artifactDigest : String
  suiteId : String
  suiteVersion : String
  generatorId : String
  definition : Json
  optimisticVersion : Int

/-- `candidate_payload`. -/
def CandidateVersion.payload (item : CandidateVersion) : Json :=
  .obj [
    ("transitions", transitionsJson item.transitions),
    ("grader_principal_id", optional .str item.graderPrincipalId),
    ("approver_principal_id", optional .str item.approverPrincipalId),
    ("approval_reason", optional .str item.approvalReason)]

/-- The row `add_candidate` inserts. -/
def CandidateVersion.row (candidate : CandidateVersion) : CandidateRow where
  id := candidate.candidateId.str
  tenantId := candidate.tenantId.str
  proposalId := candidate.proposalId.str
  baselineVersionId := candidate.baselineVersionId.str
  status := StrEnum.value candidate.status
  artifactUri := candidate.artifactRef
  artifactDigest := candidate.artifactDigest
  suiteId := candidate.suiteId
  suiteVersion := candidate.suiteVersion
  generatorId := candidate.generatorId
  definition := candidate.payload
  optimisticVersion := candidate.optimisticVersion

/-- The row after `save_candidate`. -/
def CandidateVersion.save (row : CandidateRow) (candidate : CandidateVersion) : CandidateRow :=
  { row with
    status := StrEnum.value candidate.status
    definition := candidate.payload
    optimisticVersion := candidate.optimisticVersion }

/-- `candidate_from_row`. -/
def candidateFromRow (row : CandidateRow) : Except Exc CandidateVersion := do
  let definition := row.definition
  CandidateVersion.make {
    tenantId := ← Uuid.parse row.tenantId
    proposalId := ← Uuid.parse row.proposalId
    baselineVersionId := ← Uuid.parse row.baselineVersionId
    artifactRef := row.artifactUri
    artifactDigest := row.artifactDigest
    suiteId := row.suiteId
    suiteVersion := row.suiteVersion
    generatorId := row.generatorId
    candidateId := ← Uuid.parse row.id
    status := ← ofValue row.status
    optimisticVersion := row.optimisticVersion
    transitions := ← definition.getD "transitions" [] transitionsFrom
    graderPrincipalId := ← definition.get? "grader_principal_id" asStr
    approverPrincipalId := ← definition.get? "approver_principal_id" asStr
    approvalReason := ← definition.get? "approval_reason" asStr }

/-- Every part of the candidate was accepted by its own constructor. -/
def CandidateVersion.Accepted (candidate : CandidateVersion) : Prop :=
  ∀ item ∈ candidate.transitions, item.check = .ok ()

theorem candidateFromRow_row {candidate : CandidateVersion} (accepted : candidate.Accepted) :
    candidateFromRow candidate.row = .ok candidate := by
  have same : CandidateVersion.make candidate.toCandidateFields = .ok candidate :=
    guarded_eq_ok.mpr ⟨candidate.valid, rfl⟩
  have transitions := transitionsFrom_json accepted
  simp [candidateFromRow, CandidateVersion.row, CandidateVersion.payload, get?, getD, transitions]
  exact same

/-! ## Deployments -/

/-- A row of `deployments`. -/
structure DeploymentRow where
  id : String
  tenantId : String
  candidateId : String
  status : String
  definition : Json
  optimisticVersion : Int

/-- `traffic_allocation_payload`. -/
def TrafficAllocation.payload (item : TrafficAllocation) : Json :=
  .obj [("salt", .str item.salt), ("candidate_percent", .int item.candidatePercent)]

/-- The call in `_traffic_allocation_from`. -/
def trafficAllocationFrom (allocation : Json) : Except Exc TrafficAllocation := do
  checked TrafficAllocation.check {
    salt := ← allocation.at_ "salt" asStr
    candidatePercent := ← allocation.at_ "candidate_percent" asInt }

/-- `deployment_payload`, which has no key for an allocation that is not there. -/
def Deployment.payload (item : Deployment) : Json :=
  match item.trafficAllocation with
  | none => .obj [("transitions", transitionsJson item.transitions)]
  | some allocation => .obj [
      ("transitions", transitionsJson item.transitions),
      ("traffic_allocation", allocation.payload)]

/-- The row `add_deployment` inserts. -/
def Deployment.row (deployment : Deployment) : DeploymentRow where
  id := deployment.deploymentId.str
  tenantId := deployment.tenantId.str
  candidateId := deployment.candidateId.str
  status := StrEnum.value deployment.status
  definition := deployment.payload
  optimisticVersion := deployment.optimisticVersion

/-- The row after `save_deployment`. -/
def Deployment.save (row : DeploymentRow) (deployment : Deployment) : DeploymentRow :=
  { row with
    status := StrEnum.value deployment.status
    definition := deployment.payload
    optimisticVersion := deployment.optimisticVersion }

/-- `deployment_from_row`. -/
def deploymentFromRow (row : DeploymentRow) : Except Exc Deployment := do
  Deployment.make {
    tenantId := ← Uuid.parse row.tenantId
    candidateId := ← Uuid.parse row.candidateId
    status := ← ofValue row.status
    deploymentId := ← Uuid.parse row.id
    optimisticVersion := row.optimisticVersion
    transitions := ← row.definition.getD "transitions" [] transitionsFrom
    trafficAllocation := ← row.definition.get? "traffic_allocation" trafficAllocationFrom }

/-- Every part of the deployment was accepted by its own constructor. -/
structure Deployment.Accepted (deployment : Deployment) : Prop where
  transitions : ∀ item ∈ deployment.transitions, item.check = .ok ()
  trafficAllocation : ∀ allocation ∈ deployment.trafficAllocation, allocation.check = .ok ()

theorem trafficAllocationFrom_payload {allocation : TrafficAllocation}
    (accepted : allocation.check = .ok ()) :
    trafficAllocationFrom allocation.payload = .ok allocation := by
  simp [trafficAllocationFrom, TrafficAllocation.payload, at_, checked_ok accepted]

theorem Deployment.transitions_payload {deployment : Deployment} (accepted : deployment.Accepted) :
    deployment.payload.getD "transitions" [] transitionsFrom = .ok deployment.transitions := by
  have transitions := transitionsFrom_json accepted.transitions
  unfold payload
  split <;> simp [getD, transitions]

/-- Without an allocation the key is missing, and it is read as `None`. -/
theorem Deployment.trafficAllocation_payload {deployment : Deployment}
    (accepted : deployment.Accepted) :
    deployment.payload.get? "traffic_allocation" trafficAllocationFrom =
      .ok deployment.trafficAllocation := by
  unfold payload
  cases allocated : deployment.trafficAllocation with
  | none => simp [get?, getD]
  | some allocation =>
    have back := trafficAllocationFrom_payload (accepted.trafficAllocation allocation allocated)
    have some_ : asOption trafficAllocationFrom
        (optional TrafficAllocation.payload (some allocation)) = .ok (some allocation) :=
      asOption_optional (fun v there => by cases there; exact back) (fun v _ => by rintro ⟨⟩)
    change asOption trafficAllocationFrom allocation.payload = _ at some_
    simp [get?, getD, some_]

theorem deploymentFromRow_row {deployment : Deployment} (accepted : deployment.Accepted) :
    deploymentFromRow deployment.row = .ok deployment := by
  have same : Deployment.make deployment.toDeploymentFields = .ok deployment :=
    guarded_eq_ok.mpr ⟨deployment.valid, rfl⟩
  have transitions := Deployment.transitions_payload accepted
  have allocation := Deployment.trafficAllocation_payload accepted
  simp [deploymentFromRow, Deployment.row, transitions, allocation]
  exact same

/-! ## Releases -/

/-- A row of `releases` as it is stored. -/
structure StoredRelease where
  id : String
  tenantId : String
  candidateId : String
  deploymentId : String
  stableSlot : String
  stableVersionId : String
  previousStableVersionId : String
  approvedBy : String
  active : Bool
  definition : Json

/-- `release_payload`. -/
def Release.payload (item : Release) : Json := .obj [("approved_by", item.approvedBy.json)]

/-- The row `add_release` inserts, with the slot that it has taken from the candidate. -/
def Release.row (stableSlot : String) (release : Release) : StoredRelease where
  id := release.releaseId.str
  tenantId := release.tenantId.str
  candidateId := release.candidateId.str
  deploymentId := release.deploymentId.str
  stableSlot := stableSlot
  stableVersionId := release.stableVersionId.str
  previousStableVersionId := release.previousStableVersionId.str
  approvedBy := release.approvedBy.str
  active := true
  definition := release.payload

/-- `release_from_row`. -/
def releaseFromRow (row : StoredRelease) : Except Exc Release := do
  return {
    tenantId := ← Uuid.parse row.tenantId
    candidateId := ← Uuid.parse row.candidateId
    deploymentId := ← Uuid.parse row.deploymentId
    stableVersionId := ← Uuid.parse row.stableVersionId
    previousStableVersionId := ← Uuid.parse row.previousStableVersionId
    approvedBy := ← Uuid.parse row.approvedBy
    releaseId := ← Uuid.parse row.id }

/-- A release is read back also when a later one has taken its slot. -/
theorem releaseFromRow_row (release : Release) (stableSlot : String) (active : Bool) :
    releaseFromRow { release.row stableSlot with active := active } = .ok release := by
  simp [releaseFromRow, Release.row]

/-! ## Shadow pairs -/

/-- A row of `shadow_comparisons`. -/
structure ShadowComparisonRow where
  id : String
  tenantId : String
  deploymentId : String
  requestRef : String
  stableVersionId : String
  candidateVersionId : String
  stableMeasurements : Json
  candidateMeasurements : Json
  observedAt : Instant

/-- `shadow_measurements_payload`. -/
def ShadowMeasurements.payload (item : ShadowMeasurements) : Json :=
  .obj [
    ("outcome_score", item.outcomeScore.json),
    ("cost_microunits", .int item.costMicrounits),
    ("latency_ms", item.latencyMs.json),
    ("security_violations", .int item.securityViolations),
    ("human_corrections", .int item.humanCorrections),
    ("external_write_attempts", .int item.externalWriteAttempts)]

/-- `ShadowMeasurements(**value)`. -/
def asShadowMeasurements (value : Json) : Except Exc ShadowMeasurements := do
  value.keywords ["outcome_score", "cost_microunits", "latency_ms"]
    ["security_violations", "human_corrections", "external_write_attempts"]
  ShadowMeasurements.make {
    outcomeScore := ← value.at_ "outcome_score" asNumber
    costMicrounits := ← value.at_ "cost_microunits" asInt
    latencyMs := ← value.at_ "latency_ms" asNumber
    securityViolations := ← value.getD "security_violations" 0 asInt
    humanCorrections := ← value.getD "human_corrections" 0 asInt
    externalWriteAttempts := ← value.getD "external_write_attempts" 0 asInt }

/-- The row `add_shadow_comparison` inserts. -/
def ShadowComparison.row (comparison : ShadowComparison) : ShadowComparisonRow where
  id := comparison.comparisonId.str
  tenantId := comparison.tenantId.str
  deploymentId := comparison.deploymentId.str
  requestRef := comparison.requestRef
  stableVersionId := comparison.stableVersionId.str
  candidateVersionId := comparison.candidateVersionId.str
  stableMeasurements := comparison.stable.payload
  candidateMeasurements := comparison.candidate.payload
  observedAt := comparison.observedAt

/-- `shadow_comparison_from_row`. -/
def shadowComparisonFromRow (row : ShadowComparisonRow) : Except Exc ShadowComparison := do
  ShadowComparison.make {
    tenantId := ← Uuid.parse row.tenantId
    deploymentId := ← Uuid.parse row.deploymentId
    requestRef := row.requestRef
    stableVersionId := ← Uuid.parse row.stableVersionId
    candidateVersionId := ← Uuid.parse row.candidateVersionId
    stable := ← asShadowMeasurements row.stableMeasurements
    candidate := ← asShadowMeasurements row.candidateMeasurements
    observedAt := row.observedAt
    comparisonId := ← Uuid.parse row.id }

@[simp] theorem asShadowMeasurements_payload (item : ShadowMeasurements) :
    asShadowMeasurements item.payload = .ok item := by
  have same : ShadowMeasurements.make item.toShadowMeasurementFields = .ok item :=
    guarded_eq_ok.mpr ⟨item.valid, rfl⟩
  have known : (item.payload.keywords ["outcome_score", "cost_microunits", "latency_ms"]
      ["security_violations", "human_corrections", "external_write_attempts"] :
        Except Exc Unit) = .ok () := keywords_obj rfl
  rw [asShadowMeasurements, known]
  simp [ShadowMeasurements.payload, at_, getD]
  exact same

theorem shadowComparisonFromRow_row (comparison : ShadowComparison) :
    shadowComparisonFromRow comparison.row = .ok comparison := by
  have same : ShadowComparison.make comparison.toShadowComparisonFields = .ok comparison :=
    guarded_eq_ok.mpr ⟨comparison.valid, rfl⟩
  simp [shadowComparisonFromRow, ShadowComparison.row]
  exact same

end Autonoesis
