import Autonoesis.Base.Numbers
import Autonoesis.Domain.Transitions

/-!
# Candidate versions, their deployments and releases

Every step of a candidate or a deployment takes one legal transition, so that the version grows
by one and the log by one record.
-/

namespace Autonoesis
open Base

inductive CandidateStatus where
  | draft | evaluating | awaitingApproval | approved | rejected
  deriving DecidableEq

def CandidateStatus.value : CandidateStatus → String
  | draft => "draft"
  | evaluating => "evaluating"
  | awaitingApproval => "awaiting_approval"
  | approved => "approved"
  | rejected => "rejected"

inductive DeploymentStatus where
  | shadow | canary | stable | failed | rolledBack
  deriving DecidableEq

def DeploymentStatus.value : DeploymentStatus → String
  | shadow => "shadow"
  | canary => "canary"
  | stable => "stable"
  | failed => "failed"
  | rolledBack => "rolled_back"

/-- `_CANDIDATE_TRANSITIONS`. -/
def candidateTransitions : CandidateStatus → List CandidateStatus
  | .draft => [.evaluating, .rejected]
  | .evaluating => [.awaitingApproval, .rejected]
  | .awaitingApproval => [.approved, .rejected]
  | _ => []

/-- `_DEPLOYMENT_TRANSITIONS`. -/
def deploymentTransitions : DeploymentStatus → List DeploymentStatus
  | .shadow => [.canary, .failed, .rolledBack]
  | .canary => [.stable, .failed, .rolledBack]
  | .stable => [.rolledBack]
  | _ => []

inductive ImprovementTarget where
  | agentInstruction | skill | promptAsset | modelRoute
  deriving DecidableEq

def ImprovementTarget.value : ImprovementTarget → String
  | agentInstruction => "agent_instruction"
  | skill => "skill"
  | promptAsset => "prompt_asset"
  | modelRoute => "model_route"

/-- `ImprovementTarget(raw_target)`. -/
def ImprovementTarget.ofText (raw : String) : Except Exc ImprovementTarget :=
  match [agentInstruction, skill, promptAsset, modelRoute].find? (·.value = raw) with
  | some target => .ok target
  | none => .error (.valueError ("'" ++ raw ++ "' is not a valid ImprovementTarget"))

/-- `FORBIDDEN_IMPROVEMENT_TARGETS`. -/
def forbiddenImprovementTargets : List String :=
  ["identity", "delegation", "tenant_isolation", "policy_root", "audit_retention", "kill_switch",
    "production_code", "infrastructure"]

/-- `raw.strip().lower()`, of which only the ASCII result matters: the one other letter with
such a lower case is the Kelvin sign. -/
def loweredTarget (raw : String) : String :=
  String.ofList ((strip raw).toList.map fun c => if c.toNat = 0x212A then 'k' else c.toLower)

def requireImprovementTargetAllowed (raw : String) : Except Exc Unit :=
  raiseIf (loweredTarget raw ∈ forbiddenImprovementTargets)
    (.permissionError ("improvement target is forbidden: " ++ loweredTarget raw))

structure ProposalFields where
  tenantId : Uuid
  target : ImprovementTarget
  targetVersionId : Uuid
  evidenceRefs : List String
  diagnosis : String
  proposedChange : String
  validationSuiteId : String
  rollbackPlan : String
  proposerId : String
  proposalId : Uuid

def ProposalFields.check (p : ProposalFields) : Except Exc Unit :=
  checks [
    (p.evidenceRefs.isEmpty, .valueError "improvement proposal requires evidence"),
    ([p.diagnosis, p.proposedChange, p.validationSuiteId, p.rollbackPlan, p.proposerId].any isBlank,
      .valueError "improvement proposal fields must not be empty")]

structure ImprovementProposal extends ProposalFields where
  valid : toProposalFields.check = .ok ()

def ImprovementProposal.make (p : ProposalFields) : Except Exc ImprovementProposal :=
  guarded p.check fun h => ⟨p, h⟩

/-! ## Deployments -/

structure TrafficAllocation where
  salt : String
  candidatePercent : Int
  deriving DecidableEq

def TrafficAllocation.check (a : TrafficAllocation) : Except Exc Unit :=
  checks [
    (isBlank a.salt, .valueError "traffic allocation salt is required"),
    (!(1 ≤ a.candidatePercent && a.candidatePercent ≤ 100),
      .valueError "traffic allocation percent must be within 1..100")]

structure DeploymentFields where
  tenantId : Uuid
  candidateId : Uuid
  status : DeploymentStatus
  deploymentId : Uuid
  optimisticVersion : Int := 1
  transitions : List StateTransition := []
  trafficAllocation : Option TrafficAllocation := none

def DeploymentFields.check (d : DeploymentFields) : Except Exc Unit :=
  checks [(d.optimisticVersion < 1, .valueError "deployment optimistic version must be positive")]

structure Deployment extends DeploymentFields where
  valid : toDeploymentFields.check = .ok ()

def Deployment.make (d : DeploymentFields) : Except Exc Deployment :=
  guarded d.check fun h => ⟨d, h⟩

def DeploymentFields.moved (d : DeploymentFields) (target : DeploymentStatus)
    (t : StateTransition) : DeploymentFields :=
  { d with
    status := target
    optimisticVersion := d.optimisticVersion + 1
    transitions := d.transitions ++ [t] }

theorem DeploymentFields.moved_check {d : DeploymentFields} (h : d.check = .ok ())
    (target : DeploymentStatus) (t : StateTransition) : (d.moved target t).check = .ok () := by
  simp only [check, checks_cons, checks_nil, decide_eq_false_iff_not, and_true] at h ⊢
  dsimp only [moved]
  omega

def Deployment.transitionTo (d : Deployment) (target : DeploymentStatus) (actorId : Uuid)
    (reason : String) (occurredAt : Instant) : Except Exc Deployment := do
  requireTransition DeploymentStatus.value deploymentTransitions d.status target
  let t ← transitionRecord d.status.value target.value actorId reason occurredAt
  return ⟨d.moved target t, DeploymentFields.moved_check d.valid target t⟩

/-- What a successful transition leaves. -/
theorem Deployment.transitionTo_ok {d d' : Deployment} {target : DeploymentStatus}
    {actorId : Uuid} {reason : String} {occurredAt : Instant}
    (h : d.transitionTo target actorId reason occurredAt = .ok d') :
    target ∈ deploymentTransitions d.status ∧
      d'.toDeploymentFields = d.moved target
        ⟨d.status.value, target.value, occurredAt, reason, actorId⟩ := by
  simp only [transitionTo, bind_eq_ok, transitionRecord_ok] at h
  obtain ⟨_, legal, _, ⟨_, rfl⟩, moved⟩ := h
  cases moved
  exact ⟨requireTransition_ok.mp legal, rfl⟩

/-- `Deployment.enter_canary`. -/
def Deployment.enterCanary (d : Deployment) (allocation : TrafficAllocation) (actorId : Uuid)
    (reason : String) (occurredAt : Instant) : Except Exc Deployment := do
  let promoted ← d.transitionTo .canary actorId reason occurredAt
  return { promoted with trafficAllocation := some allocation, valid := promoted.valid }

/-- `Deployment.entered_at`. -/
def Deployment.enteredAt (d : Deployment) (status : DeploymentStatus) : Option Instant :=
  (d.transitions.find? (·.toStatus = status.value)).map (·.occurredAt)

/-- The counter of one metric of a deployment in one stage; its values are exact rationals. -/
structure ObservationFields where
  tenantId : Uuid
  deploymentId : Uuid
  stage : DeploymentStatus
  metric : String
  sampleCount : Int := 0
  breachCount : Int := 0
  lastValue : Option Rat := none
  firstSampleAt : Option Instant := none
  lastSampleAt : Option Instant := none
  observationId : Uuid
  optimisticVersion : Int := 1

def ObservationFields.check (o : ObservationFields) : Except Exc Unit :=
  checks [
    (isBlank o.metric, .valueError "observation metric is required"),
    (o.sampleCount < 0 || o.breachCount < 0,
      .valueError "observation counts cannot be negative"),
    (o.sampleCount < o.breachCount, .valueError "breach count cannot exceed sample count")]

structure DeploymentObservation extends ObservationFields where
  valid : toObservationFields.check = .ok ()

def DeploymentObservation.make (o : ObservationFields) : Except Exc DeploymentObservation :=
  guarded o.check fun h => ⟨o, h⟩

/-! ## Shadow pairs -/

structure ShadowMeasurementFields where
  outcomeScore : Number
  costMicrounits : Int
  latencyMs : Number
  securityViolations : Int := 0
  humanCorrections : Int := 0
  externalWriteAttempts : Int := 0

def ShadowMeasurementFields.check (m : ShadowMeasurementFields) : Except Exc Unit :=
  let negative (value : Int) (label : String) : Bool × Exc :=
    (value < 0, .valueError ("shadow " ++ label ++ " cannot be negative"))
  checks [
    (!m.outcomeScore.isFinite || !m.outcomeScore.isUnit,
      .valueError "shadow outcome score must be finite and between zero and one"),
    (!m.latencyMs.isFinite || !m.latencyMs.ge 0,
      .valueError "shadow latency must be finite and non-negative"),
    negative m.costMicrounits "cost",
    negative m.securityViolations "security violations",
    negative m.humanCorrections "human corrections",
    negative m.externalWriteAttempts "external write attempts"]

structure ShadowMeasurements extends ShadowMeasurementFields where
  valid : toShadowMeasurementFields.check = .ok ()

def ShadowMeasurements.make (m : ShadowMeasurementFields) : Except Exc ShadowMeasurements :=
  guarded m.check fun h => ⟨m, h⟩

structure ShadowComparisonFields where
  tenantId : Uuid
  deploymentId : Uuid
  requestRef : String
  stableVersionId : Uuid
  candidateVersionId : Uuid
  stable : ShadowMeasurements
  candidate : ShadowMeasurements
  observedAt : Instant
  comparisonId : Uuid

def ShadowComparisonFields.check (c : ShadowComparisonFields) : Except Exc Unit :=
  checks [(isBlank c.requestRef, .valueError "shadow comparison request reference is required")]

structure ShadowComparison extends ShadowComparisonFields where
  valid : toShadowComparisonFields.check = .ok ()

def ShadowComparison.make (c : ShadowComparisonFields) : Except Exc ShadowComparison :=
  guarded c.check fun h => ⟨c, h⟩

/-! ## Candidates -/

structure CandidateFields where
  tenantId : Uuid
  proposalId : Uuid
  baselineVersionId : Uuid
  artifactRef : String
  artifactDigest : String
  suiteId : String
  suiteVersion : String
  generatorId : String
  candidateId : Uuid
  status : CandidateStatus := .draft
  optimisticVersion : Int := 1
  transitions : List StateTransition := []
  graderPrincipalId : Option String := none
  approverPrincipalId : Option String := none
  approvalReason : Option String := none

def CandidateFields.check (c : CandidateFields) : Except Exc Unit :=
  checks [
    (isBlank c.artifactRef || isBlank c.generatorId,
      .valueError "candidate artifact and generator are required"),
    (!isSha256Hex c.artifactDigest,
      .valueError "candidate artifact digest must be a lowercase sha256 hex digest"),
    (isBlank c.suiteId || isBlank c.suiteVersion,
      .valueError "candidate suite id and version are required"),
    (c.optimisticVersion < 1, .valueError "candidate optimistic version must be positive")]

structure CandidateVersion extends CandidateFields where
  valid : toCandidateFields.check = .ok ()

def CandidateVersion.make (c : CandidateFields) : Except Exc CandidateVersion :=
  guarded c.check fun h => ⟨c, h⟩

def CandidateFields.moved (c : CandidateFields) (target : CandidateStatus)
    (t : StateTransition) : CandidateFields :=
  { c with
    status := target
    optimisticVersion := c.optimisticVersion + 1
    transitions := c.transitions ++ [t] }

theorem CandidateFields.moved_check {c : CandidateFields} (h : c.check = .ok ())
    (target : CandidateStatus) (t : StateTransition) : (c.moved target t).check = .ok () := by
  simp only [check, checks_cons, checks_nil, decide_eq_false_iff_not, and_true] at h ⊢
  obtain ⟨artifact, digest, suite, version⟩ := h
  refine ⟨artifact, digest, suite, ?_⟩
  dsimp only [moved]
  omega

def CandidateVersion.transitionTo (c : CandidateVersion) (target : CandidateStatus)
    (actorId : Uuid) (reason : String) (occurredAt : Instant) : Except Exc CandidateVersion := do
  requireTransition CandidateStatus.value candidateTransitions c.status target
  let t ← transitionRecord c.status.value target.value actorId reason occurredAt
  return ⟨c.moved target t, CandidateFields.moved_check c.valid target t⟩

/-- What a successful transition leaves. -/
theorem CandidateVersion.transitionTo_ok {c c' : CandidateVersion} {target : CandidateStatus}
    {actorId : Uuid} {reason : String} {occurredAt : Instant}
    (h : c.transitionTo target actorId reason occurredAt = .ok c') :
    target ∈ candidateTransitions c.status ∧
      c'.toCandidateFields = c.moved target
        ⟨c.status.value, target.value, occurredAt, reason, actorId⟩ := by
  simp only [transitionTo, bind_eq_ok, transitionRecord_ok] at h
  obtain ⟨_, legal, _, ⟨_, rfl⟩, moved⟩ := h
  cases moved
  exact ⟨requireTransition_ok.mp legal, rfl⟩

/-- `CandidateVersion.record_evaluation`. -/
def CandidateVersion.recordEvaluation (c : CandidateVersion) (target : CandidateStatus)
    (graderPrincipalId : Uuid) (occurredAt : Instant) : Except Exc CandidateVersion := do
  raiseIf (graderPrincipalId.str = c.generatorId)
    (.permissionError "candidate generator cannot grade its own candidate")
  let graded ← c.transitionTo target graderPrincipalId "evaluation recorded" occurredAt
  return { graded with
    graderPrincipalId := some graderPrincipalId.str
    valid := graded.valid }

/-- `CandidateVersion.record_approval`. -/
def CandidateVersion.recordApproval (c : CandidateVersion) (target : CandidateStatus)
    (approverPrincipalId : Uuid) (reason : String) (occurredAt : Instant) :
    Except Exc CandidateVersion := do
  raiseIf (isBlank reason) (.valueError "candidate approval requires a recorded rationale")
  raiseIf (approverPrincipalId.str = c.generatorId ||
      some approverPrincipalId.str = c.graderPrincipalId)
    (.permissionError "candidate approval requires an independent principal")
  let decided ← c.transitionTo target approverPrincipalId
    ("approval recorded: " ++ strip reason) occurredAt
  return { decided with
    approverPrincipalId := some approverPrincipalId.str
    approvalReason := some (strip reason)
    valid := decided.valid }

/-- `CandidateVersion.begin_deployment`, with the id and the clock reading it takes. -/
def CandidateVersion.beginDeployment (c : CandidateVersion) (actorId : Uuid) (reason : String)
    (deploymentId : Uuid) (now : Instant) : Except Exc Deployment := do
  raiseIf (c.status ≠ .approved) (.valueError "only an approved candidate can begin deployment")
  raiseIf (isBlank reason) (.valueError "transition reason must not be empty")
  return ⟨{
    tenantId := c.tenantId
    candidateId := c.candidateId
    status := .shadow
    deploymentId := deploymentId
    transitions := [⟨"approved", DeploymentStatus.shadow.value, now, reason, actorId⟩] }, rfl⟩

/-! ## Releases -/

structure Release where
  tenantId : Uuid
  candidateId : Uuid
  deploymentId : Uuid
  stableVersionId : Uuid
  previousStableVersionId : Uuid
  approvedBy : Uuid
  releaseId : Uuid
  deriving DecidableEq

/-- `Release.from_stable_deployment`. -/
def Release.fromStableDeployment (deployment : Deployment) (stableVersionId : Uuid)
    (previousStableVersionId approvedBy releaseId : Uuid) : Except Exc Release := do
  raiseIf (deployment.status ≠ .stable) (.valueError "release requires a stable deployment")
  return ⟨deployment.tenantId, deployment.candidateId, deployment.deploymentId, stableVersionId,
    previousStableVersionId, approvedBy, releaseId⟩

end Autonoesis
