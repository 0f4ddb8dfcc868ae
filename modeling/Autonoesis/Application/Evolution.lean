import Autonoesis.Application.Platform
import Autonoesis.Base.Calls
import Autonoesis.Persistence.Evolution

/-!
# The lifecycle of candidates

`CandidateLifecycleService` over the SQL repository. A method runs several transactions of the
repository, so what it has written before it raises stays. The ids and clock readings a method
draws are its arguments.
-/

namespace Autonoesis
open Base

structure ProposeImprovement where
  target : String
  targetVersionId : Uuid
  evidenceRefs : List String
  diagnosis : String
  proposedChange : String
  validationSuiteId : String
  rollbackPlan : String
  deriving DecidableEq

structure RegisterCandidate where
  proposalId : Uuid
  baselineVersionId : Uuid
  artifactRef : String
  artifactDigest : String
  suiteId : String
  suiteVersion : String
  deriving DecidableEq

structure PromotionPolicyFields where
  minSamples : Int := 1
  observationSeconds : Int := 0
  requiredMetrics : List String := []
  deriving DecidableEq

def PromotionPolicyFields.check (p : PromotionPolicyFields) : Except Exc Unit :=
  checks [
    (p.minSamples < 1, .valueError "promotion policy requires a positive minimum sample"),
    (p.observationSeconds < 0,
      .valueError "promotion policy observation window cannot be negative")]

structure PromotionPolicy extends PromotionPolicyFields where
  valid : toPromotionPolicyFields.check = .ok ()
  deriving DecidableEq

inductive GuardrailOperator where
  | lt | gt | lte | gte
  deriving DecidableEq

/-- The operator and its threshold come together. -/
structure RecordObservation where
  deploymentId : Uuid
  stage : DeploymentStatus
  metric : String
  value : Rat
  guardrail : Option (GuardrailOperator × Rat) := none
  deriving DecidableEq

/-- `_guardrail_breached`. -/
def guardrailBreached (guardrail : Option (GuardrailOperator × Rat)) (value : Rat) : Bool :=
  match guardrail with
  | none => false
  | some (.lt, threshold) => value < threshold
  | some (.gt, threshold) => threshold < value
  | some (.lte, threshold) => value ≤ threshold
  | some (.gte, threshold) => threshold ≤ value

/-- `repr` of a text without escapes. -/
def quoted (text : String) : String :=
  if '\'' ∈ text.toList && '"' ∉ text.toList then "\"" ++ text ++ "\"" else "'" ++ text ++ "'"

/-- Microseconds as `f"{seconds:.1f}"` prints them. -/
def tenths (elapsed : Int) : String :=
  let n := (elapsed + 50000) / 100000
  let digits := toString (n.natAbs / 10) ++ "." ++ toString (n.natAbs % 10)
  if n < 0 then "-" ++ digits else digits

namespace Evolution

/-- A method of the service. -/
abbrev Method (α : Type) := Calls EvolutionDb Exc α

open EvolutionDb

/-- The identities a candidate has collected. -/
def involved (principalId : Uuid) (c : CandidateVersion) : Bool :=
  principalId.str = c.generatorId || some principalId.str = c.graderPrincipalId ||
    some principalId.str = c.approverPrincipalId

/-- `_forbid_disallowed_target`; `policy` is the configured policy. -/
def forbidDisallowedTarget (policy : String → Except Exc Unit) (raw : String) :
    Except Exc ImprovementTarget := do
  requireImprovementTargetAllowed raw
  policy raw
  ImprovementTarget.ofText raw

def proposeImprovement (policy : String → Except Exc Unit) (identity : IdentityContext)
    (command : ProposeImprovement) (proposalId : Uuid) : Method ImprovementProposal := do
  let target ← Calls.ofExcept (forbidDisallowedTarget policy command.target)
  let proposal ← Calls.ofExcept (ImprovementProposal.make {
    tenantId := identity.tenantId
    target := target
    targetVersionId := command.targetVersionId
    evidenceRefs := command.evidenceRefs
    diagnosis := command.diagnosis
    proposedChange := command.proposedChange
    validationSuiteId := command.validationSuiteId
    rollbackPlan := command.rollbackPlan
    proposerId := identity.principalId.str
    proposalId := proposalId })
  Calls.tx (addProposal proposal)
  return proposal

def registerCandidate (policy : String → Except Exc Unit) (identity : IdentityContext)
    (command : RegisterCandidate) (candidateId : Uuid) : Method CandidateVersion := do
  let proposal ← Calls.tx (getProposal identity.tenantId command.proposalId)
  let _ ← Calls.ofExcept (forbidDisallowedTarget policy proposal.target.value)
  Calls.check (command.suiteId ≠ proposal.validationSuiteId)
    (.valueError ("candidate must be graded against the proposal's fixed validation suite: " ++
      command.suiteId ++ " != " ++ proposal.validationSuiteId))
  let candidate ← Calls.ofExcept (CandidateVersion.make {
    tenantId := identity.tenantId
    proposalId := command.proposalId
    baselineVersionId := command.baselineVersionId
    artifactRef := command.artifactRef
    artifactDigest := command.artifactDigest
    suiteId := command.suiteId
    suiteVersion := command.suiteVersion
    generatorId := identity.principalId.str
    candidateId := candidateId })
  Calls.tx (addCandidate candidate)
  return candidate

def submitForEvaluation (tenantId candidateId : Uuid) (now : Instant) :
    Method CandidateVersion := do
  let candidate ← Calls.tx (getCandidate tenantId candidateId)
  let submitted ← Calls.ofExcept
    (candidate.transitionTo .evaluating systemActorId "system transition" now)
  Calls.tx (saveCandidate submitted)
  return submitted

/-- The two checks on each trial of a candidate. -/
def requireOwnTrial (candidate : CandidateVersion) (candidateId : Uuid) (trial : Trial) :
    Except Exc Unit := do
  raiseIf (trial.subjectVersionId ≠ candidateId)
    (.valueError ("candidate evaluation trials must execute the candidate itself: trial " ++
      trial.trialId.str ++ " executed " ++ trial.subjectVersionId.str))
  raiseIf ((trial.suiteId, trial.suiteVersion) ≠ (candidate.suiteId, candidate.suiteVersion))
    (.valueError ("candidate evaluation trials must use the candidate's fixed suite: trial " ++
      trial.trialId.str ++ " used " ++ trial.suiteId ++ "@" ++ trial.suiteVersion))

def completeEvaluation [TrialStatistics] (identity : IdentityContext) (candidateId : Uuid)
    (policy : RepeatedTrialPolicy) (evaluationId : Uuid) (now : Instant) :
    Method (CandidateVersion × CandidateEvaluation) := do
  let candidate ← Calls.tx (getCandidate identity.tenantId candidateId)
  let trials ← Calls.tx (listTrialsForCandidate identity.tenantId candidateId)
  Calls.ofExcept (trials.forM (requireOwnTrial candidate candidateId))
  let assessment ← Calls.ofExcept (TrialConfidenceGate.assess policy trials)
  let record ← Calls.ofExcept (CandidateEvaluation.make {
    tenantId := identity.tenantId
    candidateId := candidateId
    decision := assessment.decision.value
    trialIds := trials.map (·.trialId)
    assessment := assessment
    graderPrincipalId := identity.principalId.str
    evaluationId := evaluationId })
  Calls.tx (addEvaluationRecord record)
  let target ← Calls.ofExcept (
    if assessment.met then .ok CandidateStatus.awaitingApproval
    else if assessment.decision = .notMet then .ok .rejected
    else .error (.valueError
      ("candidate evaluation evidence is incomplete: " ++ assessment.rationale)))
  let graded ← Calls.ofExcept (candidate.recordEvaluation target identity.principalId now)
  Calls.tx (saveCandidate graded)
  return (graded, record)

def decide (identity : IdentityContext) (candidateId : Uuid) (approved : Bool) (reason : String)
    (now : Instant) : Method CandidateVersion := do
  let candidate ← Calls.tx (getCandidate identity.tenantId candidateId)
  let target := if approved then CandidateStatus.approved else .rejected
  let decided ← Calls.ofExcept (candidate.recordApproval target identity.principalId reason now)
  Calls.tx (saveCandidate decided)
  return decided

def beginShadow (identity : IdentityContext) (candidateId deploymentId : Uuid) (now : Instant) :
    Method Deployment := do
  let candidate ← Calls.tx (getCandidate identity.tenantId candidateId)
  Calls.check (involved identity.principalId candidate)
    (.permissionError "release execution requires an independent principal")
  let deployment ← Calls.ofExcept (candidate.beginDeployment identity.actorId
    "approved candidate entered shadow" deploymentId now)
  Calls.tx (addDeployment deployment)
  return deployment

def promoteToCanary (identity : IdentityContext) (deploymentId : Uuid)
    (allocation : TrafficAllocation) (now : Instant) : Method Deployment := do
  let deployment ← Calls.tx (getDeployment identity.tenantId deploymentId)
  let candidate ← Calls.tx (getCandidate identity.tenantId deployment.candidateId)
  Calls.check (involved identity.principalId candidate)
    (.permissionError "release execution requires an independent principal")
  let promoted ← Calls.ofExcept (deployment.enterCanary allocation identity.actorId
    ("canary entered with " ++ toString allocation.candidatePercent ++
      "% deterministic candidate traffic") now)
  Calls.tx (saveDeployment promoted)
  return promoted

/-- One metric of `_assert_promotion_gate`. -/
def requireEvidence (policy : PromotionPolicy) (metric : String)
    (observation : Option DeploymentObservation) : Except Exc Unit :=
  let missing := "missing evidence for required metric " ++ quoted metric ++ ": "
  match observation with
  | none => .error (.valueError
      (missing ++ "0 < " ++ toString policy.minSamples ++ " samples"))
  | some o => do
    raiseIf (o.sampleCount < policy.minSamples) (.valueError (missing ++
      toString o.sampleCount ++ " < " ++ toString policy.minSamples ++ " samples"))
    raiseIf o.lastValue.isNone (.valueError (missing ++ "no sample value"))

/-- `_assert_promotion_gate`. -/
def assertPromotionGate (deployment : Deployment) (policy : PromotionPolicy) (now : Instant) :
    Method Unit := do
  match deployment.enteredAt .canary with
  | none => Calls.ofExcept (.error (.valueError "canary observation window has not started"))
  | some enteredAt =>
    let elapsed := now - enteredAt
    Calls.check (elapsed < policy.observationSeconds * 1000000)
      (.valueError ("canary observation window not elapsed: " ++ tenths elapsed ++ "s < " ++
        toString policy.observationSeconds ++ "s"))
    policy.requiredMetrics.forM fun metric => do
      let observation ← Calls.tx
        (getObservation deployment.tenantId deployment.deploymentId .canary metric)
      Calls.ofExcept (requireEvidence policy metric observation)

def releaseStable (identity : IdentityContext) (deploymentId stableVersionId : Uuid)
    (policy : PromotionPolicy) (releaseId : Uuid) (now : Instant) : Method Release := do
  let deployment ← Calls.tx (getDeployment identity.tenantId deploymentId)
  Calls.check (deployment.status ≠ .canary)
    (.valueError "only a canary deployment can promote to stable")
  assertPromotionGate deployment policy now
  let candidate ← Calls.tx (getCandidate identity.tenantId deployment.candidateId)
  let stable ← Calls.ofExcept
    (deployment.transitionTo .stable identity.actorId "canary gate passed" now)
  let release ← Calls.ofExcept (Release.fromStableDeployment stable stableVersionId
    candidate.baselineVersionId identity.actorId releaseId)
  Calls.tx (saveDeployment stable)
  Calls.tx (addRelease release)
  return release

def recordObservation (identity : IdentityContext) (command : RecordObservation)
    (observationId : Uuid) (now : Instant) : Method DeploymentObservation := do
  let deployment ← Calls.tx (getDeployment identity.tenantId command.deploymentId)
  Calls.check (deployment.status ≠ command.stage)
    (.valueError ("observation stage " ++ command.stage.value ++
      " does not match deployment status " ++ deployment.status.value))
  let existing ← Calls.tx
    (getObservation identity.tenantId command.deploymentId command.stage command.metric)
  let breached := guardrailBreached command.guardrail command.value
  let observation ← Calls.ofExcept (DeploymentObservation.make (match existing with
    | none => {
        tenantId := identity.tenantId
        deploymentId := command.deploymentId
        stage := command.stage
        metric := command.metric
        sampleCount := 1
        breachCount := if breached then 1 else 0
        lastValue := some command.value
        firstSampleAt := some now
        lastSampleAt := some now
        observationId := observationId }
    | some old => { old.toObservationFields with
        sampleCount := old.sampleCount + 1
        breachCount := if breached then old.breachCount + 1 else 0
        lastValue := some command.value
        lastSampleAt := some now }))
  Calls.tx (saveObservation observation)
  return observation

def rollbackDeployment (identity : IdentityContext) (deploymentId : Uuid) (reason : String)
    (now : Instant) : Method Deployment := do
  Calls.check (isBlank reason) (.valueError "rollback requires a recorded reason")
  let deployment ← Calls.tx (getDeployment identity.tenantId deploymentId)
  let rolledBack ← Calls.ofExcept
    (deployment.transitionTo .rolledBack identity.actorId (strip reason) now)
  Calls.tx (saveDeployment rolledBack)
  return rolledBack

def rollbackIfBreached (identity : IdentityContext) (deploymentId : Uuid)
    (stage : DeploymentStatus) (metric : String) (minConsecutive : Int) (now : Instant) :
    Method (Option Deployment) := do
  match ← Calls.tx (getObservation identity.tenantId deploymentId stage metric) with
  | none => return none
  | some observation =>
    if observation.breachCount < minConsecutive then return none
    else
      let rolledBack ← rollbackDeployment identity deploymentId ("guardrail breach: " ++ metric ++
        " breached " ++ toString observation.breachCount ++ " consecutive samples") now
      return some rolledBack

def rollback (identity : IdentityContext) (releaseId rollbackId : Uuid) (now : Instant) :
    Method Release := do
  let release ← Calls.tx (getActiveRelease identity.tenantId releaseId)
  let deployment ← Calls.tx (getDeployment identity.tenantId release.deploymentId)
  let rolledBack ← Calls.ofExcept
    (deployment.transitionTo .rolledBack identity.actorId "release rollback requested" now)
  Calls.tx (saveDeployment rolledBack)
  let restored : Release := {
    tenantId := identity.tenantId
    candidateId := release.candidateId
    deploymentId := release.deploymentId
    stableVersionId := release.previousStableVersionId
    previousStableVersionId := release.stableVersionId
    approvedBy := identity.actorId
    releaseId := rollbackId }
  Calls.tx (addRelease restored)
  return restored

/-! ## What a method leaves -/

section
variable {db db' : EvolutionDb} {policy : String → Except Exc Unit} {identity : IdentityContext}
  {now : Instant}

/-- A method that has raised and written nothing. -/
def Raised {α : Type} (db db' : EvolutionDb) (r : Except Exc α) : Prop :=
  db' = db ∧ ∃ e, r = .error e

theorem getRow_reads {α : Type} {name : String} {table : EvolutionDb → Dict Uuid α}
    {tenantOf : α → Uuid} {tenantId id : Uuid} :
    Calls.Reads (Calls.tx (getRow name table tenantOf tenantId id)) :=
  Calls.reads_tx fun _ _ _ found => (getRow_ok.mp found).2.2

theorem read_reads {α : Type} (f : EvolutionDb → α) :
    Calls.Reads (Calls.tx (Tx.read f : EvolutionTx α)) :=
  Calls.reads_tx fun _ _ _ read => congrArg Prod.snd (Tx.read_ok.mp read)

theorem getActiveRelease_reads {tenantId releaseId : Uuid} :
    Calls.Reads (Calls.tx (getActiveRelease tenantId releaseId)) :=
  Calls.reads_tx fun _ _ _ found => by
    obtain ⟨_, _, _, _, _, same⟩ := getActiveRelease_ok found
    exact congrArg Prod.snd same

theorem getRow_found {α : Type} {name : String} {table : EvolutionDb → Dict Uuid α}
    {tenantOf : α → Uuid} {tenantId id : Uuid} {a : α}
    (found : Calls.ran (Calls.tx (getRow name table tenantOf tenantId id)) db = (.ok a, db')) :
    (table db).get? id = some a ∧ tenantOf a = tenantId :=
  have := getRow_ok.mp (Calls.tx_ok found)
  ⟨this.1, this.2.1⟩

theorem proposeImprovement_ran {command : ProposeImprovement} {id : Uuid}
    {r : Except Exc ImprovementProposal}
    (whole : Calls.ran (proposeImprovement policy identity command id) db = (r, db')) :
    Raised db db' r ∨ ∃ p, r = .ok p ∧ p.proposalId = id ∧ db.proposals.get? id = none ∧
      db' = { db with proposals := db.proposals.set id p } := by
  rcases Calls.bind_reads (Calls.reads_ofExcept _) whole with raised | ⟨target, _, whole⟩
  · exact .inl raised
  rcases Calls.bind_reads (Calls.reads_ofExcept _) whole with raised | ⟨p, made, whole⟩
  · exact .inl raised
  rcases Calls.tx_pure_ran whole with raised | ⟨wrote, rfl⟩
  · exact .inl raised
  obtain ⟨absent, rfl⟩ := insertRow_ok.mp wrote
  obtain ⟨_, rfl⟩ := guarded_eq_ok.mp (Calls.ofExcept_ok made)
  exact .inr ⟨_, rfl, rfl, absent, rfl⟩

theorem addCandidate_ok {c : CandidateVersion} {r : Unit × EvolutionDb}
    (ran : addCandidate c db = .ok r) : db.candidates.get? c.candidateId = none ∧
      r.2 = { db with candidates := db.candidates.set c.candidateId c } := by
  simp only [addCandidate, Tx.bind_ok, Tx.read_ok, Tx.check_ok] at ran
  obtain ⟨_, _, ⟨⟩, _, _, ⟨_, rfl⟩, ran⟩ := ran
  exact insertRow_ok.mp ran

/-- A candidate as it is registered. -/
structure Registered (identity : IdentityContext) (command : RegisterCandidate) (id : Uuid)
    (c : CandidateVersion) : Prop where
  tenant : c.tenantId = identity.tenantId
  baseline : c.baselineVersionId = command.baselineVersionId
  generator : c.generatorId = identity.principalId.str
  id_eq : c.candidateId = id
  draft : c.status = .draft
  ungraded : c.graderPrincipalId = none
  unapproved : c.approverPrincipalId = none

theorem registerCandidate_ran {command : RegisterCandidate} {id : Uuid}
    {r : Except Exc CandidateVersion}
    (whole : Calls.ran (registerCandidate policy identity command id) db = (r, db')) :
    Raised db db' r ∨ ∃ c, r = .ok c ∧ Registered identity command id c ∧
      db.candidates.get? id = none ∧ db' = { db with candidates := db.candidates.set id c } := by
  rcases Calls.bind_reads getRow_reads whole with raised | ⟨proposal, _, whole⟩
  · exact .inl raised
  rcases Calls.bind_reads (Calls.reads_ofExcept _) whole with raised | ⟨target, _, whole⟩
  · exact .inl raised
  rcases Calls.bind_reads (Calls.reads_check _ _) whole with raised | ⟨_, _, whole⟩
  · exact .inl raised
  rcases Calls.bind_reads (Calls.reads_ofExcept _) whole with raised | ⟨c, made, whole⟩
  · exact .inl raised
  rcases Calls.tx_pure_ran whole with raised | ⟨wrote, rfl⟩
  · exact .inl raised
  obtain ⟨absent, rfl⟩ := addCandidate_ok wrote
  obtain ⟨_, rfl⟩ := guarded_eq_ok.mp (Calls.ofExcept_ok made)
  exact .inr ⟨_, rfl, ⟨rfl, rfl, rfl, rfl, rfl, rfl, rfl⟩, absent, rfl⟩

theorem submitForEvaluation_ran {tenantId candidateId : Uuid} {r : Except Exc CandidateVersion}
    (whole : Calls.ran (submitForEvaluation tenantId candidateId now) db = (r, db')) :
    Raised db db' r ∨ ∃ c c', r = .ok c' ∧ db.candidates.get? candidateId = some c ∧
      c.tenantId = tenantId ∧
      c.transitionTo .evaluating systemActorId "system transition" now = .ok c' ∧
      db' = { db with candidates := db.candidates.set c'.candidateId c' } := by
  rcases Calls.bind_reads getRow_reads whole with raised | ⟨c, found, whole⟩
  · exact .inl raised
  rcases Calls.bind_reads (Calls.reads_ofExcept _) whole with raised | ⟨c', moved, whole⟩
  · exact .inl raised
  rcases Calls.tx_pure_ran whole with raised | ⟨wrote, rfl⟩
  · exact .inl raised
  obtain ⟨there, tenant⟩ := getRow_found found
  exact .inr ⟨c, c', rfl, there, tenant, Calls.ofExcept_ok moved, (saveVersioned_ok.mp wrote).2⟩

theorem decide_ran {candidateId : Uuid} {approved : Bool} {reason : String}
    {r : Except Exc CandidateVersion}
    (whole : Calls.ran (decide identity candidateId approved reason now) db = (r, db')) :
    Raised db db' r ∨ ∃ c c', r = .ok c' ∧ db.candidates.get? candidateId = some c ∧
      c.tenantId = identity.tenantId ∧
      c.recordApproval (if approved then .approved else .rejected) identity.principalId reason
        now = .ok c' ∧
      db' = { db with candidates := db.candidates.set c'.candidateId c' } := by
  rcases Calls.bind_reads getRow_reads whole with raised | ⟨c, found, whole⟩
  · exact .inl raised
  rcases Calls.bind_reads (Calls.reads_ofExcept _) whole with raised | ⟨c', moved, whole⟩
  · exact .inl raised
  rcases Calls.tx_pure_ran whole with raised | ⟨wrote, rfl⟩
  · exact .inl raised
  obtain ⟨there, tenant⟩ := getRow_found found
  exact .inr ⟨c, c', rfl, there, tenant, Calls.ofExcept_ok moved, (saveVersioned_ok.mp wrote).2⟩

/-- A record of the evaluation of `c` over the trials `db` has of it, each of which has executed
the candidate on its fixed suite. -/
structure Records (db : EvolutionDb) (identity : IdentityContext) (c : CandidateVersion)
    (candidateId id : Uuid) (e : CandidateEvaluation) : Prop where
  tenant : e.tenantId = identity.tenantId
  candidate : e.candidateId = candidateId
  grader : e.graderPrincipalId = identity.principalId.str
  id_eq : e.evaluationId = id
  trials : e.trialIds = (db.trialsOf identity.tenantId candidateId).map (·.trialId)
  own : ∀ t ∈ db.trialsOf identity.tenantId candidateId, t.subjectVersionId = candidateId ∧
    t.suiteId = c.suiteId ∧ t.suiteVersion = c.suiteVersion

theorem requireOwnTrial_ok {c : CandidateVersion} {candidateId : Uuid} {t : Trial}
    (ran : requireOwnTrial c candidateId t = .ok ()) : t.subjectVersionId = candidateId ∧
      t.suiteId = c.suiteId ∧ t.suiteVersion = c.suiteVersion := by
  simp only [requireOwnTrial, bind_eq_ok, raiseIf_eq_ok, ne_eq, decide_eq_false_iff_not, not_not,
    Prod.mk.injEq] at ran
  obtain ⟨_, subject, suite⟩ := ran
  exact ⟨subject, suite⟩

theorem completeEvaluation_ran [TrialStatistics] {candidateId : Uuid}
    {policy : RepeatedTrialPolicy} {id : Uuid}
    {r : Except Exc (CandidateVersion × CandidateEvaluation)}
    (whole : Calls.ran (completeEvaluation identity candidateId policy id now) db = (r, db')) :
    Raised db db' r ∨ ∃ c e, db.candidates.get? candidateId = some c ∧
      c.tenantId = identity.tenantId ∧ Records db identity c candidateId id e ∧
      db.evaluations.get? id = none ∧
      ((∃ error, r = .error error ∧ db' = { db with evaluations := db.evaluations.set id e }) ∨
        ∃ c' target, r = .ok (c', e) ∧
          (target = .rejected ∨ target = .awaitingApproval ∧ e.decision = "met") ∧
          c.recordEvaluation target identity.principalId now = .ok c' ∧
          db' = { db with
            evaluations := db.evaluations.set id e
            candidates := db.candidates.set c'.candidateId c' }) := by
  rcases Calls.bind_reads getRow_reads whole with raised | ⟨c, found, whole⟩
  · exact .inl raised
  rcases Calls.bind_reads (read_reads _) whole with raised | ⟨trials, listed, whole⟩
  · exact .inl raised
  rcases Calls.bind_reads (Calls.reads_ofExcept _) whole with raised | ⟨_, own, whole⟩
  · exact .inl raised
  rcases Calls.bind_reads (Calls.reads_ofExcept _) whole with raised | ⟨assessment, _, whole⟩
  · exact .inl raised
  rcases Calls.bind_reads (Calls.reads_ofExcept _) whole with raised | ⟨e, made, whole⟩
  · exact .inl raised
  obtain ⟨there, tenant⟩ := getRow_found found
  have listed : trials = db.trialsOf identity.tenantId candidateId :=
    congrArg Prod.fst (Tx.read_ok.mp (Calls.tx_ok listed))
  have ⟨records, decision⟩ :
      Records db identity c candidateId id e ∧ e.decision = assessment.decision.value := by
    obtain ⟨_, rfl⟩ := guarded_eq_ok.mp (Calls.ofExcept_ok made)
    have own := forM_eq_ok.mp (Calls.ofExcept_ok own)
    refine ⟨⟨rfl, rfl, rfl, rfl, congrArg _ listed, fun t among => ?_⟩, rfl⟩
    exact requireOwnTrial_ok (own t (listed ▸ among))
  rcases Calls.bind_ran.mp whole with ⟨error, raised, rfl⟩ | ⟨_, db₁, first, whole⟩
  · rcases Calls.tx_ran.mp raised with ⟨_, _, _, rfl⟩ | ⟨_, _, ⟨⟩⟩
    exact .inl ⟨rfl, error, rfl⟩
  obtain ⟨absent, rfl⟩ := insertRow_ok.mp (Calls.tx_ok first)
  rw [records.id_eq] at absent
  refine .inr ⟨c, e, there, tenant, records, absent, ?_⟩
  rw [records.id_eq] at whole
  rcases Calls.bind_reads (Calls.reads_ofExcept _) whole with
    ⟨same, error, rfl⟩ | ⟨target, chosen, whole⟩
  · exact .inl ⟨error, rfl, same⟩
  rcases Calls.bind_reads (Calls.reads_ofExcept _) whole with
    ⟨same, error, rfl⟩ | ⟨c', graded, whole⟩
  · exact .inl ⟨error, rfl, same⟩
  rcases Calls.tx_pure_ran whole with ⟨same, error, rfl⟩ | ⟨wrote, rfl⟩
  · exact .inl ⟨error, rfl, same⟩
  refine .inr ⟨c', target, rfl, ?_, Calls.ofExcept_ok graded, (saveVersioned_ok.mp wrote).2⟩
  have chosen := Calls.ofExcept_ok chosen
  by_cases met : assessment.met = true
  · rw [if_pos met] at chosen
    cases chosen
    refine .inr ⟨rfl, ?_⟩
    have reached : assessment.decision = .met := by
      simpa [TrialConfidenceAssessment.met] using met
    rw [decision, reached]
    rfl
  · rw [if_neg met] at chosen
    split at chosen <;> cases chosen
    exact .inl rfl

theorem involved_eq_false {principalId : Uuid} {c : CandidateVersion} :
    involved principalId c = false ↔ principalId.str ≠ c.generatorId ∧
      some principalId.str ≠ c.graderPrincipalId ∧
      some principalId.str ≠ c.approverPrincipalId := by
  simp [involved, and_assoc]

theorem beginShadow_ran {candidateId id : Uuid} {r : Except Exc Deployment}
    (whole : Calls.ran (beginShadow identity candidateId id now) db = (r, db')) :
    Raised db db' r ∨ ∃ c d, r = .ok d ∧ db.candidates.get? candidateId = some c ∧
      c.tenantId = identity.tenantId ∧ involved identity.principalId c = false ∧
      c.beginDeployment identity.actorId "approved candidate entered shadow" id now = .ok d ∧
      db.deployments.get? d.deploymentId = none ∧
      db' = { db with deployments := db.deployments.set d.deploymentId d } := by
  rcases Calls.bind_reads getRow_reads whole with raised | ⟨c, found, whole⟩
  · exact .inl raised
  rcases Calls.bind_reads (Calls.reads_check _ _) whole with raised | ⟨_, free, whole⟩
  · exact .inl raised
  rcases Calls.bind_reads (Calls.reads_ofExcept _) whole with raised | ⟨d, begun, whole⟩
  · exact .inl raised
  rcases Calls.tx_pure_ran whole with raised | ⟨wrote, rfl⟩
  · exact .inl raised
  obtain ⟨there, tenant⟩ := getRow_found found
  obtain ⟨absent, written⟩ := insertRow_ok.mp wrote
  exact .inr ⟨c, d, rfl, there, tenant, Calls.check_ok free, Calls.ofExcept_ok begun, absent,
    written⟩

theorem promoteToCanary_ran {deploymentId : Uuid} {allocation : TrafficAllocation}
    {r : Except Exc Deployment}
    (whole : Calls.ran (promoteToCanary identity deploymentId allocation now) db = (r, db')) :
    Raised db db' r ∨ ∃ c d d' reason, r = .ok d' ∧ db.deployments.get? deploymentId = some d ∧
      d.tenantId = identity.tenantId ∧ db.candidates.get? d.candidateId = some c ∧
      involved identity.principalId c = false ∧
      d.enterCanary allocation identity.actorId reason now = .ok d' ∧
      db' = { db with deployments := db.deployments.set d'.deploymentId d' } := by
  rcases Calls.bind_reads getRow_reads whole with raised | ⟨d, found, whole⟩
  · exact .inl raised
  rcases Calls.bind_reads getRow_reads whole with raised | ⟨c, candidate, whole⟩
  · exact .inl raised
  rcases Calls.bind_reads (Calls.reads_check _ _) whole with raised | ⟨_, free, whole⟩
  · exact .inl raised
  rcases Calls.bind_reads (Calls.reads_ofExcept _) whole with raised | ⟨d', moved, whole⟩
  · exact .inl raised
  rcases Calls.tx_pure_ran whole with raised | ⟨wrote, rfl⟩
  · exact .inl raised
  obtain ⟨there, tenant⟩ := getRow_found found
  exact .inr ⟨c, d, d', _, rfl, there, tenant, (getRow_found candidate).1, Calls.check_ok free,
    Calls.ofExcept_ok moved, (saveVersioned_ok.mp wrote).2⟩

theorem assertPromotionGate_reads (d : Deployment) (policy : PromotionPolicy) (now : Instant) :
    Calls.Reads (assertPromotionGate d policy now) := by
  unfold assertPromotionGate
  split
  · exact Calls.reads_ofExcept _
  · exact Calls.reads_bind (Calls.reads_check _ _) fun _ =>
      Calls.reads_forM (fun _ => Calls.reads_bind (read_reads _) fun _ => Calls.reads_ofExcept _) _

theorem releaseStable_ran {deploymentId stableVersionId : Uuid} {policy : PromotionPolicy}
    {id : Uuid} {r : Except Exc Release} (fresh : ∀ row ∈ db.releases, row.releaseId ≠ id)
    (whole : Calls.ran (releaseStable identity deploymentId stableVersionId policy id now) db =
      (r, db')) :
    Raised db db' r ∨ ∃ c d d' release, r = .ok release ∧
      db.deployments.get? deploymentId = some d ∧ d.tenantId = identity.tenantId ∧
      db.candidates.get? d.candidateId = some c ∧ c.tenantId = identity.tenantId ∧
      d.status = .canary ∧
      d.transitionTo .stable identity.actorId "canary gate passed" now = .ok d' ∧
      release = ⟨d'.tenantId, d'.candidateId, d'.deploymentId, stableVersionId,
        c.baselineVersionId, identity.actorId, id⟩ ∧
      db' = { db with
        deployments := db.deployments.set d'.deploymentId d'
        releases := deactivated db.releases identity.tenantId c.baselineVersionId ++
          [⟨release, c.baselineVersionId, true⟩] } := by
  rcases Calls.bind_reads getRow_reads whole with raised | ⟨d, found, whole⟩
  · exact .inl raised
  rcases Calls.bind_reads (Calls.reads_check _ _) whole with raised | ⟨_, canary, whole⟩
  · exact .inl raised
  rcases Calls.bind_reads (assertPromotionGate_reads _ _ _) whole with raised | ⟨_, _, whole⟩
  · exact .inl raised
  rcases Calls.bind_reads getRow_reads whole with raised | ⟨c, candidate, whole⟩
  · exact .inl raised
  rcases Calls.bind_reads (Calls.reads_ofExcept _) whole with raised | ⟨d', moved, whole⟩
  · exact .inl raised
  rcases Calls.bind_reads (Calls.reads_ofExcept _) whole with raised | ⟨release, made, whole⟩
  · exact .inl raised
  obtain ⟨there, tenant⟩ := getRow_found found
  obtain ⟨candidate, owned⟩ := getRow_found candidate
  have moved := Calls.ofExcept_ok moved
  obtain ⟨_, fields⟩ := Deployment.transitionTo_ok moved
  have made := Calls.ofExcept_ok made
  simp only [Release.fromStableDeployment, bind_eq_ok, raiseIf_eq_ok] at made
  obtain ⟨_, _, made⟩ := made
  obtain rfl : _ = release := by simpa [pure, Except.pure] using made
  have ids : d'.tenantId = identity.tenantId ∧ d'.candidateId = d.candidateId := by
    rw [fields]
    exact ⟨tenant, rfl⟩
  rcases Calls.bind_ran.mp whole with ⟨error, raised, rfl⟩ | ⟨_, db₁, first, rest⟩
  · rcases Calls.tx_ran.mp raised with ⟨_, _, _, rfl⟩ | ⟨_, _, ⟨⟩⟩
    exact .inl ⟨rfl, error, rfl⟩
  obtain ⟨_, rfl⟩ := saveVersioned_ok.mp (Calls.tx_ok first)
  -- the candidate is there and the id is not, so the second write cannot fail
  have added : addRelease ⟨d'.tenantId, d'.candidateId, d'.deploymentId, stableVersionId,
      c.baselineVersionId, identity.actorId, id⟩
      { db with deployments := db.deployments.set d'.deploymentId d' } = .ok ((), _) :=
    addRelease_ok.mpr ⟨c, ids.2 ▸ candidate, owned.trans ids.1.symm, fresh, rfl⟩
  rcases Calls.bind_ran.mp rest with ⟨error, raised, _⟩ | ⟨_, db₂, second, returned⟩
  · rcases Calls.tx_ran.mp raised with ⟨_, failed, _⟩ | ⟨_, _, ⟨⟩⟩
    cases failed.symm.trans added
  cases (Calls.tx_ok second).symm.trans added
  obtain ⟨rfl, rfl⟩ := Calls.pure_ran.mp returned
  rw [ids.1]
  exact .inr ⟨c, d, d', _, rfl, there, tenant, candidate, owned,
    by simpa using Calls.check_ok canary, moved,
    by rw [ids.1], rfl⟩

theorem rollbackDeployment_ran {deploymentId : Uuid} {reason : String} {r : Except Exc Deployment}
    (whole : Calls.ran (rollbackDeployment identity deploymentId reason now) db = (r, db')) :
    Raised db db' r ∨ ∃ d d', r = .ok d' ∧ db.deployments.get? deploymentId = some d ∧
      d.tenantId = identity.tenantId ∧
      d.transitionTo .rolledBack identity.actorId (strip reason) now = .ok d' ∧
      db' = { db with deployments := db.deployments.set d'.deploymentId d' } := by
  rcases Calls.bind_reads (Calls.reads_check _ _) whole with raised | ⟨_, _, whole⟩
  · exact .inl raised
  rcases Calls.bind_reads getRow_reads whole with raised | ⟨d, found, whole⟩
  · exact .inl raised
  rcases Calls.bind_reads (Calls.reads_ofExcept _) whole with raised | ⟨d', moved, whole⟩
  · exact .inl raised
  rcases Calls.tx_pure_ran whole with raised | ⟨wrote, rfl⟩
  · exact .inl raised
  obtain ⟨there, tenant⟩ := getRow_found found
  exact .inr ⟨d, d', rfl, there, tenant, Calls.ofExcept_ok moved, (saveVersioned_ok.mp wrote).2⟩

theorem rollbackIfBreached_ran {deploymentId : Uuid} {stage : DeploymentStatus} {metric : String}
    {minConsecutive : Int} {r : Except Exc (Option Deployment)}
    (whole : Calls.ran (rollbackIfBreached identity deploymentId stage metric minConsecutive now)
      db = (r, db')) :
    db' = db ∧ ((∃ e, r = .error e) ∨ r = .ok none) ∨ ∃ d d' reason, r = .ok (some d') ∧
      db.deployments.get? deploymentId = some d ∧ d.tenantId = identity.tenantId ∧
      d.transitionTo .rolledBack identity.actorId reason now = .ok d' ∧
      db' = { db with deployments := db.deployments.set d'.deploymentId d' } := by
  rcases Calls.bind_reads (read_reads _) whole with ⟨same, raised⟩ | ⟨observed, _, whole⟩
  · exact .inl ⟨same, .inl raised⟩
  cases observed with
  | none =>
    obtain ⟨rfl, rfl⟩ := Calls.pure_ran.mp whole
    exact .inl ⟨rfl, .inr rfl⟩
  | some observation =>
    dsimp only at whole
    split at whole
    · obtain ⟨rfl, rfl⟩ := Calls.pure_ran.mp whole
      exact .inl ⟨rfl, .inr rfl⟩
    · rcases Calls.bind_ran.mp whole with ⟨e, raised, rfl⟩ | ⟨d', _, ran, returned⟩
      · rcases rollbackDeployment_ran raised with ⟨same, _⟩ | ⟨_, _, ⟨⟩, _⟩
        exact .inl ⟨same, .inl ⟨e, rfl⟩⟩
      · obtain ⟨rfl, rfl⟩ := Calls.pure_ran.mp returned
        rcases rollbackDeployment_ran ran with ⟨_, _, ⟨⟩⟩ | ⟨d, _, ⟨⟩, there, tenant, moved, rfl⟩
        exact .inr ⟨d, d', _, rfl, there, tenant, moved, rfl⟩

/-- The tables no method but one for observations leaves out. -/
theorem recordObservation_ran {command : RecordObservation} {id : Uuid}
    {r : Except Exc DeploymentObservation}
    (whole : Calls.ran (recordObservation identity command id now) db = (r, db')) :
    Raised db db' r ∨ ∃ o rows, r = .ok o ∧ db' = { db with observations := rows } := by
  rcases Calls.bind_reads getRow_reads whole with raised | ⟨d, _, whole⟩
  · exact .inl raised
  rcases Calls.bind_reads (Calls.reads_check _ _) whole with raised | ⟨_, _, whole⟩
  · exact .inl raised
  rcases Calls.bind_reads (read_reads _) whole with raised | ⟨existing, _, whole⟩
  · exact .inl raised
  rcases Calls.bind_reads (Calls.reads_ofExcept _) whole with raised | ⟨o, _, whole⟩
  · exact .inl raised
  rcases Calls.tx_pure_ran whole with raised | ⟨wrote, rfl⟩
  · exact .inl raised
  exact .inr ⟨o, _, rfl, Tx.write_ok.mp wrote⟩

/-- The candidate and the deployment of each release are stored, under its tenant. -/
def Linked (db : EvolutionDb) : Prop :=
  ∀ row ∈ db.releases, ∃ c d, db.candidates.get? row.candidateId = some c ∧
    c.tenantId = row.tenantId ∧ c.baselineVersionId = row.stableSlot ∧
    db.deployments.get? row.deploymentId = some d ∧ d.tenantId = row.tenantId

theorem rollback_ran {releaseId id : Uuid} {r : Except Exc Release} (linked : Linked db)
    (fresh : ∀ row ∈ db.releases, row.releaseId ≠ id)
    (whole : Calls.ran (rollback identity releaseId id now) db = (r, db')) :
    Raised db db' r ∨ ∃ row d d' release, r = .ok release ∧ row ∈ db.releases ∧
      row.releaseId = releaseId ∧ row.tenantId = identity.tenantId ∧ row.active = true ∧
      db.deployments.get? row.deploymentId = some d ∧ d.tenantId = identity.tenantId ∧
      d.transitionTo .rolledBack identity.actorId "release rollback requested" now = .ok d' ∧
      release = ⟨identity.tenantId, row.candidateId, row.deploymentId,
        row.previousStableVersionId, row.stableVersionId, identity.actorId, id⟩ ∧
      db' = { db with
        deployments := db.deployments.set d'.deploymentId d'
        releases := deactivated db.releases identity.tenantId row.stableSlot ++
          [⟨release, row.stableSlot, true⟩] } := by
  rcases Calls.bind_reads getActiveRelease_reads whole with raised | ⟨release, active, whole⟩
  · exact .inl raised
  obtain ⟨row, there, named, tenant, inForce, same⟩ := getActiveRelease_ok (Calls.tx_ok active)
  cases same
  rcases Calls.bind_reads getRow_reads whole with raised | ⟨d, found, whole⟩
  · exact .inl raised
  rcases Calls.bind_reads (Calls.reads_ofExcept _) whole with raised | ⟨d', moved, whole⟩
  · exact .inl raised
  obtain ⟨deployment, owned⟩ := getRow_found found
  rcases Calls.bind_ran.mp whole with ⟨error, raised, rfl⟩ | ⟨_, db₁, first, rest⟩
  · rcases Calls.tx_ran.mp raised with ⟨_, _, _, rfl⟩ | ⟨_, _, ⟨⟩⟩
    exact .inl ⟨rfl, error, rfl⟩
  obtain ⟨_, rfl⟩ := saveVersioned_ok.mp (Calls.tx_ok first)
  obtain ⟨c, _, candidate, candidateTenant, slot, _⟩ := linked row there
  have added : addRelease ⟨identity.tenantId, row.candidateId, row.deploymentId,
      row.previousStableVersionId, row.stableVersionId, identity.actorId, id⟩
      { db with deployments := db.deployments.set d'.deploymentId d' } = .ok ((), _) :=
    addRelease_ok.mpr ⟨c, candidate, candidateTenant.trans tenant, fresh, rfl⟩
  rcases Calls.bind_ran.mp rest with ⟨error, raised, _⟩ | ⟨_, db₂, second, returned⟩
  · rcases Calls.tx_ran.mp raised with ⟨_, failed, _⟩ | ⟨_, _, ⟨⟩⟩
    cases failed.symm.trans added
  cases (Calls.tx_ok second).symm.trans added
  obtain ⟨rfl, rfl⟩ := Calls.pure_ran.mp returned
  exact .inr ⟨row, d, d', _, rfl, there, named, tenant, inForce, deployment, owned,
    Calls.ofExcept_ok moved, rfl, by rw [slot]⟩

end

/-! ## Sequences of calls -/

inductive Call where
  | proposeImprovement (identity : IdentityContext) (command : ProposeImprovement)
  | registerCandidate (identity : IdentityContext) (command : RegisterCandidate)
  | addTrial (trial : Trial)
  | submitForEvaluation (tenantId candidateId : Uuid)
  | completeEvaluation (identity : IdentityContext) (candidateId : Uuid)
      (policy : RepeatedTrialPolicy)
  | decide (identity : IdentityContext) (candidateId : Uuid) (approved : Bool) (reason : String)
  | beginShadow (identity : IdentityContext) (candidateId : Uuid)
  | promoteToCanary (identity : IdentityContext) (deploymentId : Uuid)
      (allocation : TrafficAllocation)
  | releaseStable (identity : IdentityContext) (deploymentId stableVersionId : Uuid)
      (policy : PromotionPolicy)
  | recordObservation (identity : IdentityContext) (command : RecordObservation)
  | rollbackIfBreached (identity : IdentityContext) (deploymentId : Uuid)
      (stage : DeploymentStatus) (metric : String) (minConsecutive : Int)
  | rollbackDeployment (identity : IdentityContext) (deploymentId : Uuid) (reason : String)
  | rollback (identity : IdentityContext) (releaseId : Uuid)
  deriving DecidableEq

/-- What a call returns, as far as later calls are about it. -/
inductive Answer where
  | done
  | release (release : Release)
  deriving DecidableEq

variable [TrialStatistics]

/-- A call, with the id it draws and the clock. -/
def Call.run (policy : String → Except Exc Unit) (id : Uuid) (now : Instant) :
    Call → Method Answer
  | .proposeImprovement identity command => do
    let _ ← Evolution.proposeImprovement policy identity command id
    return .done
  | .registerCandidate identity command => do
    let _ ← Evolution.registerCandidate policy identity command id
    return .done
  | .addTrial trial => do
    Calls.tx (EvolutionDb.addTrial trial)
    return .done
  | .submitForEvaluation tenantId candidateId => do
    let _ ← Evolution.submitForEvaluation tenantId candidateId now
    return .done
  | .completeEvaluation identity candidateId trialPolicy => do
    let _ ← Evolution.completeEvaluation identity candidateId trialPolicy id now
    return .done
  | .decide identity candidateId approved reason => do
    let _ ← Evolution.decide identity candidateId approved reason now
    return .done
  | .beginShadow identity candidateId => do
    let _ ← Evolution.beginShadow identity candidateId id now
    return .done
  | .promoteToCanary identity deploymentId allocation => do
    let _ ← Evolution.promoteToCanary identity deploymentId allocation now
    return .done
  | .releaseStable identity deploymentId stableVersionId promotion => do
    return .release
      (← Evolution.releaseStable identity deploymentId stableVersionId promotion id now)
  | .recordObservation identity command => do
    let _ ← Evolution.recordObservation identity command id now
    return .done
  | .rollbackIfBreached identity deploymentId stage metric minConsecutive => do
    let _ ← Evolution.rollbackIfBreached identity deploymentId stage metric minConsecutive now
    return .done
  | .rollbackDeployment identity deploymentId reason => do
    let _ ← Evolution.rollbackDeployment identity deploymentId reason now
    return .done
  | .rollback identity releaseId => do
    return .release (← Evolution.rollback identity releaseId id now)

/-- The id is that of no release. -/
def Unused (db : EvolutionDb) (id : Uuid) : Prop := ∀ row ∈ db.releases, row.releaseId ≠ id

/-- A call that was made: the tables it found, and how it ended. -/
structure Entry where
  call : Call
  id : Uuid
  now : Instant
  before : EvolutionDb
  result : Except Exc Answer

/-- A sequence of calls from `start`, each of which meets `ok` and draws an id no release has:
the calls made, and the tables they leave. -/
inductive Runs (policy : String → Except Exc Unit) (ok : EvolutionDb → Call → Prop)
    (start : EvolutionDb) : List Entry → EvolutionDb → Prop
  | refl : Runs policy ok start [] start
  | next {past : List Entry} {db db' : EvolutionDb} (call : Call) (id : Uuid) (now : Instant)
      {result : Except Exc Answer} (before : Runs policy ok start past db) (legal : ok db call)
      (fresh : Unused db id) (ran : Calls.ran (call.run policy id now) db = (result, db')) :
      Runs policy ok start (past ++ [⟨call, id, now, db, result⟩]) db'

/-- A sequence of calls on empty tables. -/
abbrev Reach (policy : String → Except Exc Unit) (ok : EvolutionDb → Call → Prop) :
    List Entry → EvolutionDb → Prop :=
  Runs policy ok {}

section
variable {policy : String → Except Exc Unit} {ok : EvolutionDb → Call → Prop}
  {start mid db : EvolutionDb} {past more : List Entry}

theorem Runs.trans (first : Runs policy ok start past mid) (rest : Runs policy ok mid more db) :
    Runs policy ok start (past ++ more) db := by
  induction rest with
  | refl => rwa [List.append_nil]
  | next call id now _ legal fresh ran before =>
    rw [← List.append_assoc]
    exact .next call id now before legal fresh ran

/-- Calls to make one after another, each with the id it draws and the clock. -/
abbrev Script := List (Call × Uuid × Instant)

/-- The tables a script leaves. -/
def Script.leaves (policy : String → Except Exc Unit) : Script → EvolutionDb → EvolutionDb
  | [], db => db
  | (call, id, now) :: rest, db =>
    Script.leaves policy rest (Calls.ran (call.run policy id now) db).2

/-- The calls of a script as they were made. -/
def Script.entries (policy : String → Except Exc Unit) : Script → EvolutionDb → List Entry
  | [], _ => []
  | (call, id, now) :: rest, db =>
    let r := Calls.ran (call.run policy id now) db
    ⟨call, id, now, db, r.1⟩ :: Script.entries policy rest r.2

/-- Each call of a script meets `ok` where it is made, and draws an id no release has. -/
def Script.Legal (policy : String → Except Exc Unit) (ok : EvolutionDb → Call → Prop) :
    Script → EvolutionDb → Prop
  | [], _ => True
  | (call, id, now) :: rest, db => ok db call ∧ Unused db id ∧
    Script.Legal policy ok rest (Calls.ran (call.run policy id now) db).2

instance (db : EvolutionDb) (id : Uuid) : Decidable (Unused db id) :=
  inferInstanceAs (Decidable (∀ row ∈ db.releases, row.releaseId ≠ id))

instance Script.decidableLegal [∀ db call, Decidable (ok db call)] :
    (script : Script) → (db : EvolutionDb) → Decidable (script.Legal policy ok db)
  | [], _ => inferInstanceAs (Decidable True)
  | (call, id, now) :: rest, db =>
    let _ := Script.decidableLegal rest (Calls.ran (call.run policy id now) db).2
    inferInstanceAs (Decidable (_ ∧ _ ∧ _))

theorem Script.runs {script : Script} (legal : script.Legal policy ok start) :
    Runs policy ok start (script.entries policy start) (script.leaves policy start) := by
  induction script generalizing start with
  | nil => exact .refl
  | cons first rest ih =>
    obtain ⟨call, id, now⟩ := first
    obtain ⟨meets, fresh, legal⟩ := legal
    exact Runs.trans (.next call id now .refl meets fresh rfl) (ih legal)

end

/-- Everything a call can do to the tables, with its result. -/
inductive Effect (db : EvolutionDb) (id : Uuid) (now : Instant) :
    Call → Except Exc Answer → EvolutionDb → Prop
  | same {call : Call} {result : Except Exc Answer}
      (quiet : ∀ release, result ≠ .ok (.release release)) : Effect db id now call result db
  | proposed {identity : IdentityContext} {command : ProposeImprovement} (p : ImprovementProposal)
      (absent : db.proposals.get? id = none) :
      Effect db id now (.proposeImprovement identity command) (.ok .done)
        { db with proposals := db.proposals.set id p }
  | registered {identity : IdentityContext} {command : RegisterCandidate} {c : CandidateVersion}
      (registered : Registered identity command id c) (absent : db.candidates.get? id = none) :
      Effect db id now (.registerCandidate identity command) (.ok .done)
        { db with candidates := db.candidates.set id c }
  | tried (t : Trial) (absent : db.trials.get? t.trialId = none) :
      Effect db id now (.addTrial t) (.ok .done)
        { db with trials := db.trials.set t.trialId t }
  | submitted {tenantId candidateId : Uuid} {c c' : CandidateVersion}
      (there : db.candidates.get? candidateId = some c) (tenant : c.tenantId = tenantId)
      (moved : c.transitionTo .evaluating systemActorId "system transition" now = .ok c') :
      Effect db id now (.submitForEvaluation tenantId candidateId) (.ok .done)
        { db with candidates := db.candidates.set c'.candidateId c' }
  | recorded {identity : IdentityContext} {candidateId : Uuid} {policy : RepeatedTrialPolicy}
      {c : CandidateVersion} {e : CandidateEvaluation} (error : Exc)
      (records : Records db identity c candidateId id e)
      (absent : db.evaluations.get? id = none) :
      Effect db id now (.completeEvaluation identity candidateId policy) (.error error)
        { db with evaluations := db.evaluations.set id e }
  | evaluated {identity : IdentityContext} {candidateId : Uuid} {policy : RepeatedTrialPolicy}
      {c c' : CandidateVersion} {e : CandidateEvaluation} {target : CandidateStatus}
      (there : db.candidates.get? candidateId = some c) (tenant : c.tenantId = identity.tenantId)
      (records : Records db identity c candidateId id e)
      (absent : db.evaluations.get? id = none)
      (decided : target = .rejected ∨ target = .awaitingApproval ∧ e.decision = "met")
      (graded : c.recordEvaluation target identity.principalId now = .ok c') :
      Effect db id now (.completeEvaluation identity candidateId policy) (.ok .done) { db with
        evaluations := db.evaluations.set id e
        candidates := db.candidates.set c'.candidateId c' }
  | decided {identity : IdentityContext} {candidateId : Uuid} {approved : Bool} {reason : String}
      {c c' : CandidateVersion} (there : db.candidates.get? candidateId = some c)
      (tenant : c.tenantId = identity.tenantId)
      (recorded : c.recordApproval (if approved then .approved else .rejected)
        identity.principalId reason now = .ok c') :
      Effect db id now (.decide identity candidateId approved reason) (.ok .done)
        { db with candidates := db.candidates.set c'.candidateId c' }
  | shadowed {identity : IdentityContext} {candidateId : Uuid} {c : CandidateVersion}
      {d : Deployment} (there : db.candidates.get? candidateId = some c)
      (tenant : c.tenantId = identity.tenantId)
      (independent : involved identity.principalId c = false)
      (begun : c.beginDeployment identity.actorId "approved candidate entered shadow" id now =
        .ok d)
      (absent : db.deployments.get? d.deploymentId = none) :
      Effect db id now (.beginShadow identity candidateId) (.ok .done)
        { db with deployments := db.deployments.set d.deploymentId d }
  | promoted {identity : IdentityContext} {deploymentId : Uuid} {allocation : TrafficAllocation}
      {c : CandidateVersion} {d d' : Deployment} {reason : String}
      (there : db.deployments.get? deploymentId = some d)
      (candidate : db.candidates.get? d.candidateId = some c)
      (independent : involved identity.principalId c = false)
      (moved : d.enterCanary allocation identity.actorId reason now = .ok d') :
      Effect db id now (.promoteToCanary identity deploymentId allocation) (.ok .done)
        { db with deployments := db.deployments.set d'.deploymentId d' }
  | released {identity : IdentityContext} {deploymentId stableVersionId : Uuid}
      {policy : PromotionPolicy} {c : CandidateVersion} {d d' : Deployment} {release : Release}
      (there : db.deployments.get? deploymentId = some d)
      (tenant : d.tenantId = identity.tenantId)
      (candidate : db.candidates.get? d.candidateId = some c)
      (owned : c.tenantId = identity.tenantId)
      (moved : d.transitionTo .stable identity.actorId "canary gate passed" now = .ok d')
      (made : release = ⟨d'.tenantId, d'.candidateId, d'.deploymentId, stableVersionId,
        c.baselineVersionId, identity.actorId, id⟩) :
      Effect db id now (.releaseStable identity deploymentId stableVersionId policy)
        (.ok (.release release)) { db with
          deployments := db.deployments.set d'.deploymentId d'
          releases := deactivated db.releases identity.tenantId c.baselineVersionId ++
            [⟨release, c.baselineVersionId, true⟩] }
  | observed {identity : IdentityContext} {command : RecordObservation}
      (rows : Dict (Uuid × Uuid × DeploymentStatus × String) DeploymentObservation) :
      Effect db id now (.recordObservation identity command) (.ok .done)
        { db with observations := rows }
  | rolledBack {call : Call} {identity : IdentityContext} {deploymentId : Uuid}
      {d d' : Deployment} {reason : String}
      (kind : (∃ text, call = .rollbackDeployment identity deploymentId text) ∨
        ∃ stage metric minConsecutive,
          call = .rollbackIfBreached identity deploymentId stage metric minConsecutive)
      (there : db.deployments.get? deploymentId = some d)
      (tenant : d.tenantId = identity.tenantId)
      (moved : d.transitionTo .rolledBack identity.actorId reason now = .ok d') :
      Effect db id now call (.ok .done)
        { db with deployments := db.deployments.set d'.deploymentId d' }
  | restored {identity : IdentityContext} {releaseId : Uuid} {row : ReleaseRow}
      {d d' : Deployment} {release : Release} (active : row ∈ db.releases)
      (named : row.releaseId = releaseId) (tenant : row.tenantId = identity.tenantId)
      (inForce : row.active = true) (there : db.deployments.get? row.deploymentId = some d)
      (owned : d.tenantId = identity.tenantId)
      (moved : d.transitionTo .rolledBack identity.actorId "release rollback requested" now =
        .ok d')
      (made : release = ⟨identity.tenantId, row.candidateId, row.deploymentId,
        row.previousStableVersionId, row.stableVersionId, identity.actorId, id⟩) :
      Effect db id now (.rollback identity releaseId) (.ok (.release release)) { db with
        deployments := db.deployments.set d'.deploymentId d'
        releases := deactivated db.releases identity.tenantId row.stableSlot ++
          [⟨release, row.stableSlot, true⟩] }

section
variable {db db' : EvolutionDb} {id : Uuid} {now : Instant} {policy : String → Except Exc Unit}
  {call : Call} {result : Except Exc Answer}

omit [TrialStatistics] in
theorem answer_ran {α : Type} {x : Method α} {f : α → Answer}
    (whole : Calls.ran (x >>= fun a => pure (f a)) db = (result, db')) :
    (∃ e, Calls.ran x db = (.error e, db') ∧ result = .error e) ∨
      ∃ a, Calls.ran x db = (.ok a, db') ∧ result = .ok (f a) := by
  rcases Calls.bind_ran.mp whole with raised | ⟨a, _, first, returned⟩
  · exact .inl raised
  · obtain ⟨rfl, rfl⟩ := Calls.pure_ran.mp returned
    exact .inr ⟨a, first, rfl⟩

omit [TrialStatistics] in
theorem Effect.raised {α : Type} {r : Except Exc α} (raised : Raised db db' r)
    (quiet : ∀ release, result ≠ .ok (.release release)) : Effect db id now call result db' := by
  obtain ⟨rfl, _⟩ := raised
  exact .same quiet

omit [TrialStatistics] in
theorem addTrial_ok {t : Trial} {r : Unit × EvolutionDb} (ran : addTrial t db = .ok r) :
    db.trials.get? t.trialId = none ∧
      r.2 = { db with trials := db.trials.set t.trialId t } := by
  simp only [addTrial, Tx.bind_ok, Tx.read_ok, Tx.check_ok] at ran
  obtain ⟨_, _, ⟨⟩, _, _, ⟨_, rfl⟩, ran⟩ := ran
  exact insertRow_ok.mp ran

theorem run_effect (linked : Linked db) (fresh : Unused db id)
    (ran : Calls.ran (call.run policy id now) db = (result, db')) :
    Effect db id now call result db' := by
  have silent (e : Exc) (release : Release) : (.error e : Except Exc Answer) ≠
      .ok (.release release) := nofun
  have done (release : Release) : (.ok .done : Except Exc Answer) ≠ .ok (.release release) := by
    simp
  cases call with
  | proposeImprovement identity command =>
    rcases answer_ran ran with ⟨e, whole, rfl⟩ | ⟨p, whole, rfl⟩
    · rcases proposeImprovement_ran whole with raised | ⟨p, ⟨⟩, _⟩
      exact .raised raised (silent e)
    · rcases proposeImprovement_ran whole with ⟨_, _, ⟨⟩⟩ | ⟨p, ⟨⟩, rfl, absent, rfl⟩
      exact .proposed p absent
  | registerCandidate identity command =>
    rcases answer_ran ran with ⟨e, whole, rfl⟩ | ⟨c, whole, rfl⟩
    · rcases registerCandidate_ran whole with raised | ⟨c, ⟨⟩, _⟩
      exact .raised raised (silent e)
    · rcases registerCandidate_ran whole with ⟨_, _, ⟨⟩⟩ | ⟨c, ⟨⟩, registered, absent, rfl⟩
      exact .registered registered absent
  | addTrial t =>
    rcases Calls.tx_pure_ran ran with ⟨rfl, e, rfl⟩ | ⟨wrote, rfl⟩
    · exact .same (silent e)
    · obtain ⟨absent, rfl⟩ := addTrial_ok wrote
      exact .tried t absent
  | submitForEvaluation tenantId candidateId =>
    rcases answer_ran ran with ⟨e, whole, rfl⟩ | ⟨c', whole, rfl⟩
    · rcases submitForEvaluation_ran whole with raised | ⟨_, _, ⟨⟩, _⟩
      exact .raised raised (silent e)
    · rcases submitForEvaluation_ran whole with ⟨_, _, ⟨⟩⟩ | ⟨c, _, ⟨⟩, there, tenant, moved, rfl⟩
      exact .submitted there tenant moved
  | completeEvaluation identity candidateId trialPolicy =>
    rcases answer_ran ran with ⟨error, whole, rfl⟩ | ⟨both, whole, rfl⟩
    · rcases completeEvaluation_ran whole with raised | ⟨c, e, _, _, records, absent, kept⟩
      · exact .raised raised (silent error)
      · rcases kept with ⟨error, ⟨⟩, rfl⟩ | ⟨_, _, ⟨⟩, _⟩
        exact .recorded error records absent
    · rcases completeEvaluation_ran whole with ⟨_, _, ⟨⟩⟩ | ⟨c, e, there, tenant, records, absent, kept⟩
      rcases kept with ⟨_, ⟨⟩, _⟩ | ⟨c', target, ⟨⟩, decided, graded, rfl⟩
      exact .evaluated there tenant records absent decided graded
  | decide identity candidateId approved reason =>
    rcases answer_ran ran with ⟨e, whole, rfl⟩ | ⟨c', whole, rfl⟩
    · rcases decide_ran whole with raised | ⟨_, _, ⟨⟩, _⟩
      exact .raised raised (silent e)
    · rcases decide_ran whole with ⟨_, _, ⟨⟩⟩ | ⟨c, _, ⟨⟩, there, tenant, recorded, rfl⟩
      exact .decided there tenant recorded
  | beginShadow identity candidateId =>
    rcases answer_ran ran with ⟨e, whole, rfl⟩ | ⟨d, whole, rfl⟩
    · rcases beginShadow_ran whole with raised | ⟨_, _, ⟨⟩, _⟩
      exact .raised raised (silent e)
    · rcases beginShadow_ran whole with
        ⟨_, _, ⟨⟩⟩ | ⟨c, _, ⟨⟩, there, tenant, independent, begun, absent, rfl⟩
      exact .shadowed there tenant independent begun absent
  | promoteToCanary identity deploymentId allocation =>
    rcases answer_ran ran with ⟨e, whole, rfl⟩ | ⟨d', whole, rfl⟩
    · rcases promoteToCanary_ran whole with raised | ⟨_, _, _, _, ⟨⟩, _⟩
      exact .raised raised (silent e)
    · rcases promoteToCanary_ran whole with
        ⟨_, _, ⟨⟩⟩ | ⟨c, d, _, reason, ⟨⟩, there, _, candidate, independent, moved, rfl⟩
      exact .promoted there candidate independent moved
  | releaseStable identity deploymentId stableVersionId promotion =>
    rcases answer_ran ran with ⟨e, whole, rfl⟩ | ⟨release, whole, rfl⟩
    · rcases releaseStable_ran fresh whole with raised | ⟨_, _, _, _, ⟨⟩, _⟩
      exact .raised raised (silent e)
    · rcases releaseStable_ran fresh whole with
        ⟨_, _, ⟨⟩⟩ | ⟨c, d, d', _, ⟨⟩, there, tenant, candidate, owned, _, moved, made, rfl⟩
      exact .released there tenant candidate owned moved made
  | recordObservation identity command =>
    rcases answer_ran ran with ⟨e, whole, rfl⟩ | ⟨o, whole, rfl⟩
    · rcases recordObservation_ran whole with raised | ⟨_, _, ⟨⟩, _⟩
      exact .raised raised (silent e)
    · rcases recordObservation_ran whole with ⟨_, _, ⟨⟩⟩ | ⟨_, rows, _, rfl⟩
      exact .observed rows
  | rollbackIfBreached identity deploymentId stage metric minConsecutive =>
    rcases answer_ran ran with ⟨e, whole, rfl⟩ | ⟨rolled, whole, rfl⟩
    · rcases rollbackIfBreached_ran whole with ⟨rfl, _⟩ | ⟨_, _, _, ⟨⟩, _⟩
      exact .same (silent e)
    · rcases rollbackIfBreached_ran whole with
        ⟨rfl, _⟩ | ⟨d, d', reason, _, there, tenant, moved, rfl⟩
      · exact .same done
      · exact .rolledBack (.inr ⟨stage, metric, minConsecutive, rfl⟩) there tenant moved
  | rollbackDeployment identity deploymentId reason =>
    rcases answer_ran ran with ⟨e, whole, rfl⟩ | ⟨d', whole, rfl⟩
    · rcases rollbackDeployment_ran whole with raised | ⟨_, _, ⟨⟩, _⟩
      exact .raised raised (silent e)
    · rcases rollbackDeployment_ran whole with ⟨_, _, ⟨⟩⟩ | ⟨d, _, ⟨⟩, there, tenant, moved, rfl⟩
      exact .rolledBack (.inl ⟨reason, rfl⟩) there tenant moved
  | rollback identity releaseId =>
    rcases answer_ran ran with ⟨e, whole, rfl⟩ | ⟨release, whole, rfl⟩
    · rcases rollback_ran linked fresh whole with raised | ⟨_, _, _, _, ⟨⟩, _⟩
      exact .raised raised (silent e)
    · rcases rollback_ran linked fresh whole with ⟨_, _, ⟨⟩⟩ |
        ⟨row, d, d', _, ⟨⟩, active, named, tenant, inForce, there, owned, moved, made, rfl⟩
      exact .restored active named tenant inForce there owned moved made

end

end Evolution

end Autonoesis
