import Autonoesis.Base.Numbers
import Autonoesis.Domain.Values

/-!
# Repeated trials and their confidence gate

A candidate is graded on repeated trials of one subject. The gate counts them and compares the
bounds of the Wilson interval with the threshold; the interval is floating-point code of the
standard library and stays a parameter, and a float is an exact rational.
-/

namespace Autonoesis
open Base

inductive TrialStatus where
  | pending | running | passed | failed | invalid
  deriving DecidableEq

/-- A trial, as far as the gate and the lifecycle of candidates read it. -/
structure Trial where
  tenantId : Uuid
  suiteId : String
  suiteVersion : String
  subjectVersionId : Uuid
  harnessVersion : String
  trialId : Uuid
  status : TrialStatus := .pending
  candidateId : Option Uuid := none
  deriving DecidableEq

inductive ConfidenceDecision where
  | met | notMet | insufficientSample
  deriving DecidableEq

def ConfidenceDecision.value : ConfidenceDecision → String
  | met => "met"
  | notMet => "not_met"
  | insufficientSample => "insufficient_sample"

structure RepeatedTrialPolicyFields where
  passThreshold : Rat
  confidenceLevel : Rat := 19 / 20
  minValidTrials : Int := 10
  deriving DecidableEq

def RepeatedTrialPolicyFields.check (p : RepeatedTrialPolicyFields) : Except Exc Unit :=
  checks [
    (!(0 < p.passThreshold && p.passThreshold < 1),
      .valueError "repeated-trial threshold must be between zero and one, exclusive"),
    (!(1 / 2 < p.confidenceLevel && p.confidenceLevel < 1),
      .valueError "confidence level must be between one half and one, exclusive"),
    (p.minValidTrials < 1,
      .valueError "repeated-trial policy requires at least one valid trial")]

structure RepeatedTrialPolicy extends RepeatedTrialPolicyFields where
  valid : toRepeatedTrialPolicyFields.check = .ok ()
  deriving DecidableEq

/-- The floating-point code the gate rests on: `wilson_score_interval`, and the texts the
rationale is made of. -/
class TrialStatistics where
  wilsonScoreInterval : (passes total : Nat) → (confidenceLevel : Rat) → Rat × Rat
  fixed : Rat → String
  percent : Rat → String
  repr : Rat → String

structure TrialConfidenceAssessment where
  policy : RepeatedTrialPolicy
  decision : ConfidenceDecision
  passedTrials : Nat
  failedTrials : Nat
  invalidTrials : Nat
  passRate : Option Rat
  lowerBound : Option Rat
  upperBound : Option Rat
  rationale : String

def TrialConfidenceAssessment.met (a : TrialConfidenceAssessment) : Bool := a.decision = .met

namespace TrialConfidenceGate

/-- The fields repeated trials share, by name. -/
def sharedFields : List (String × (Trial → Uuid × String)) :=
  [("tenant_id", fun t => (t.tenantId, "")), ("suite_id", fun t => (0, t.suiteId)),
    ("suite_version", fun t => (0, t.suiteVersion)),
    ("subject_version_id", fun t => (t.subjectVersionId, "")),
    ("harness_version", fun t => (0, t.harnessVersion))]

attribute [local instance] Uuid.lawfulBEq in
/-- The loop of `_require_one_subject` over the trials, with the ids it has seen. -/
def requireDistinct : List Uuid → List Trial → Except Exc Unit
  | _, [] => .ok ()
  | seen, trial :: rest => do
    raiseIf (trial.status ∉ [TrialStatus.passed, .failed, .invalid])
      (.valueError "confidence assessment requires terminal trials only")
    raiseIf (trial.trialId ∈ seen)
      (.valueError "repeated trials must be distinct: duplicate trial id")
    requireDistinct (trial.trialId :: seen) rest

/-- `_require_one_subject`. -/
def requireOneSubject (trials : List Trial) : Except Exc Unit := do
  requireDistinct [] trials
  match trials with
  | [] => return ()
  | reference :: _ =>
    sharedFields.forM fun (name, field) =>
      raiseIf (trials.any fun trial => field trial ≠ field reference)
        (.valueError ("repeated trials must share " ++ name))

variable [TrialStatistics]

/-- `TrialConfidenceGate.assess`. -/
def assess (policy : RepeatedTrialPolicy) (trials : List Trial) :
    Except Exc TrialConfidenceAssessment := do
  requireOneSubject trials
  let passed := trials.countP (·.status = .passed)
  let failed := trials.countP (·.status = .failed)
  let invalid := trials.countP (·.status = .invalid)
  let valid := passed + failed
  let (lower, upper) :=
    TrialStatistics.wilsonScoreInterval passed valid policy.confidenceLevel
  let rate : Rat := passed / valid
  let bounded {α : Type} (a : α) : Option α := if valid = 0 then none else some a
  let assessment (decision : ConfidenceDecision) (rationale : String) :
      TrialConfidenceAssessment :=
    ⟨policy, decision, passed, failed, invalid, bounded rate, bounded lower, bounded upper,
      rationale⟩
  let held := "pass rate " ++ TrialStatistics.fixed rate
  let level := TrialStatistics.percent policy.confidenceLevel
  let threshold := TrialStatistics.repr policy.passThreshold
  if (valid : Int) < policy.minValidTrials then
    return assessment .insufficientSample (toString valid ++
      " valid trials do not satisfy the minimum sample of " ++ toString policy.minValidTrials ++
      "; " ++ toString invalid ++ " invalid trials cannot close the gap")
  else if policy.passThreshold ≤ lower then
    return assessment .met (held ++ " holds a " ++ level ++ " lower bound of " ++
      TrialStatistics.fixed lower ++ " at or above threshold " ++ threshold)
  else if upper < policy.passThreshold then
    return assessment .notMet (held ++ " holds a " ++ level ++ " upper bound of " ++
      TrialStatistics.fixed upper ++ " below threshold " ++ threshold)
  else
    -- The interval straddles the threshold: neither decision, and more trials may come.
    return assessment .insufficientSample (held ++ " with " ++ level ++ " bounds [" ++
      TrialStatistics.fixed lower ++ ", " ++ TrialStatistics.fixed upper ++
      "] straddles threshold " ++ threshold)

end TrialConfidenceGate

/-! ## The record of an evaluation -/

structure EvaluationFields where
  tenantId : Uuid
  candidateId : Uuid
  decision : String
  trialIds : List Uuid
  assessment : TrialConfidenceAssessment
  graderPrincipalId : String
  evaluationId : Uuid

/-- The payload of an assessment is never empty. -/
def EvaluationFields.check (e : EvaluationFields) : Except Exc Unit :=
  checks [
    (e.decision ∉ ["met", "not_met", "insufficient_sample"],
      .valueError "candidate evaluation decision is not a known gate outcome"),
    (e.trialIds.isEmpty, .valueError "candidate evaluation must reference at least one Trial"),
    (isBlank e.graderPrincipalId,
      .valueError "candidate evaluation requires the grading principal")]

structure CandidateEvaluation extends EvaluationFields where
  valid : toEvaluationFields.check = .ok ()

def CandidateEvaluation.make (e : EvaluationFields) : Except Exc CandidateEvaluation :=
  guarded e.check fun h => ⟨e, h⟩

/-! ## Suites and the results of trials -/

inductive GraderStatus where
  | pass | fail | unknown | invalid
  deriving DecidableEq

def GraderStatus.value : GraderStatus → String
  | pass => "pass"
  | fail => "fail"
  | unknown => "unknown"
  | invalid => "invalid"

inductive GraderKind where
  | deterministic | outcome | trajectory | llm | human
  deriving DecidableEq

def GraderKind.value : GraderKind → String
  | deterministic => "deterministic"
  | outcome => "outcome"
  | trajectory => "trajectory"
  | llm => "llm"
  | human => "human"

inductive CaseVisibility where
  | pub | hidden | productionReplay
  deriving DecidableEq

structure EvaluationCase where
  caseId : String
  inputPayload : Payload
  expectedOutcome : Payload
  tags : List String
  visibility : CaseVisibility := .pub
  weight : Number := .float "1.0" true (by decide)
  gating : Bool := false

def EvaluationCase.check (c : EvaluationCase) : Except Exc Unit :=
  checks [(c.caseId = "" || c.weight.le 0,
    .valueError "evaluation case requires an id and positive weight")]

structure SuiteFields where
  suiteId : String
  version : String
  cases : List EvaluationCase
  passThreshold : Number

def SuiteFields.check (s : SuiteFields) : Except Exc Unit :=
  checks [(s.cases.isEmpty || !s.passThreshold.isUnit,
    .valueError "evaluation suite requires cases and a valid threshold")]

structure EvaluationSuite extends SuiteFields where
  valid : toSuiteFields.check = .ok ()

def EvaluationSuite.make (s : SuiteFields) : Except Exc EvaluationSuite :=
  guarded s.check fun h => ⟨s, h⟩

structure GraderResult where
  trialId : Uuid
  graderId : String
  graderVersion : String
  score : Option Number
  passed : Option Bool
  rationale : String
  evidenceRefs : List String
  status : Option GraderStatus := none
  kind : GraderKind := .deterministic

def GraderResult.inferred (g : GraderResult) : GraderStatus :=
  match g.passed with
  | some true => .pass
  | some false => .fail
  | none => .unknown

/-- The constructor, which fills a status in that is not given. -/
def GraderResult.make (g : GraderResult) : Except Exc GraderResult := do
  checks [
    (g.score.any (!·.isUnit), .valueError "grader score must be between zero and one"),
    (g.score.isNone && g.passed.isSome,
      .valueError "unknown score must have an unknown pass result")]
  match g.status with
  | none => return { g with status := some g.inferred }
  | some status =>
    checks [
      ((status = .pass || status = .fail) && status ≠ g.inferred,
        .valueError "grader status conflicts with pass result"),
      (status = .invalid && g.passed.isSome,
        .valueError "invalid grader result cannot have a pass result")]
    return g

/-- What the constructor built, it accepts as it is. -/
theorem GraderResult.make_made {given g : GraderResult} (made : given.make = .ok g) :
    g.make = .ok g := by
  simp only [make, bind_eq_ok] at made
  obtain ⟨_, scored, built⟩ := made
  cases status : given.status with
  | none =>
    rw [status] at built
    cases built
    simp only [make, scored]
    cases passed : given.passed with
    | none => simp [inferred, passed, checks]
    | some b => cases b <;> simp [inferred, passed, checks]
  | some s =>
    rw [status] at built
    obtain ⟨_, consistent, same⟩ := bind_eq_ok.mp built
    cases same
    rw [make, scored, status]
    simp only [consistent]
    rfl

structure TrialCaseResult where
  caseId : String
  inputPayload : Payload
  outputPayload : Option Payload
  subjectExecuted : Bool
  graderResults : List GraderResult := []
  evidenceRefs : List String := []
  executorId : Option String := none
  environmentRef : Option String := none
  modelRef : Option String := none
  toolRefs : List String := []
  randomSeed : Option Int := none
  costMicrounits : Int := 0
  failureReason : Option String := none

def TrialCaseResult.check (r : TrialCaseResult) : Except Exc Unit :=
  checks [
    (r.costMicrounits < 0, .valueError "case cost cannot be negative"),
    (r.subjectExecuted && (r.outputPayload.isNone || r.executorId.all (· = "") ||
        r.evidenceRefs.isEmpty || r.environmentRef.all (· = "")),
      .valueError "executed subject requires output, executor, evidence, and environment"),
    (!r.subjectExecuted && r.failureReason.all (· = ""),
      .valueError "unexecuted subject requires a failure reason")]

/-- A trial with what its execution left. -/
structure TrialFields extends Trial where
  randomSeed : Option Int := none
  caseResults : List TrialCaseResult := []
  totalCostMicrounits : Int := 0
  failureReason : Option String := none
  startedAt : Option Instant := none
  completedAt : Option Instant := none

def TrialFields.check (t : TrialFields) : Except Exc Unit :=
  checks [
    (t.totalCostMicrounits < 0, .valueError "trial cost cannot be negative"),
    ((t.status = .passed || t.status = .failed) &&
        (t.caseResults.isEmpty || t.caseResults.any (!·.subjectExecuted)),
      .valueError "a completed trial requires executed subject results"),
    (t.caseResults.any (·.graderResults.any (·.trialId ≠ t.trialId)),
      .valueError "grader result must belong to its containing trial"),
    (t.status = .invalid && t.failureReason.all (· = ""),
      .valueError "an invalid trial requires a failure reason")]

structure RecordedTrial extends TrialFields where
  valid : toTrialFields.check = .ok ()

def RecordedTrial.make (t : TrialFields) : Except Exc RecordedTrial :=
  guarded t.check fun h => ⟨t, h⟩

end Autonoesis
