import Mathlib.Algebra.Ring.Int.Defs
import Mathlib.Algebra.Ring.Rat
import Autonoesis.Evaluation.Graders

/-!
# Running a suite

The harness executes every case of a suite on one subject version and has the output graded. It
leaves the loop at the first case that is not executed and graded, and a trial is valid when none is
and no grader is in doubt or is the executor itself. Only a valid trial is decided, by the gating
cases and by the weight of the cases that pass.
-/

namespace Autonoesis.Evaluation
open Base

structure ExecutionFields where
  subjectVersionId : Uuid
  outputPayload : Payload
  executorId : String
  evidenceRefs : List String
  environmentRef : String
  modelRef : Option String := none
  toolRefs : List String := []
  costMicrounits : Int := 0

def ExecutionFields.check (e : ExecutionFields) : Except Exc Unit :=
  checks [
    (e.executorId = "" || e.evidenceRefs.isEmpty || e.environmentRef = "",
      .valueError "subject execution requires executor, evidence, and environment"),
    (e.costMicrounits < 0, .valueError "subject execution cost cannot be negative")]

structure SubjectExecutionResult extends ExecutionFields where
  valid : toExecutionFields.check = .ok ()

/-- What the executor returns or raises when it is called for the case number `index` of a run. -/
abbrev SubjectExecutor := (index : Nat) → (subjectVersionId : Uuid) →
  (inputPayload : Payload) → (randomSeed : Int) → Except Exc SubjectExecutionResult

/-- A suite whose weights are rational numbers; the constructor of a case demands them positive. -/
structure WeightedSuite extends EvaluationSuite where
  weights : ∀ case ∈ cases, case.weight.isFinite = true ∧ 0 < case.weight.value

/-- What `run_suite` is given: a suite, or one that the catalog has loaded. -/
inductive SuiteInput where
  | suite (s : WeightedSuite)
  | harnessSuite (s : WeightedSuite) (loadedBy : Uuid)

def SuiteInput.resolved : SuiteInput → WeightedSuite
  | suite s => s
  | harnessSuite s _ => s

/-- A suite with protected cases comes from the catalog. -/
def SuiteInput.unprotected : SuiteInput → Bool
  | suite s => s.cases.all (·.visibility = .pub)
  | harnessSuite _ _ => true

structure EvaluationHarness where
  subjectExecutor : Option SubjectExecutor := none
  graderPipeline : Option GraderPipeline := none
  harnessVersion : String := "2"

/-- The kind a legacy grader is configured under. -/
def knownKind (name : String) : GraderKind :=
  ([.deterministic, .outcome, .trajectory, .llm, .human].find? fun kind : GraderKind =>
    kind.value = name).getD .deterministic

/-- The constructor of the harness, with the legacy graders by name. -/
def EvaluationHarness.make (subjectExecutor : Option SubjectExecutor)
    (graders : List (String × Grader)) (graderPipeline : Option GraderPipeline)
    (harnessVersion : String := "2") : Except Exc EvaluationHarness := do
  match graderPipeline, graders with
  | some _, _ :: _ => throw (.valueError "configure grader_pipeline or legacy graders, not both")
  | some pipeline, [] => return { subjectExecutor, graderPipeline := some pipeline, harnessVersion }
  | none, [] => return { subjectExecutor, harnessVersion }
  | none, _ :: _ =>
    let pipeline ← GraderPipeline.make (graders.map fun (name, grader) => ⟨knownKind name, grader⟩)
    return { subjectExecutor, graderPipeline := some pipeline, harnessVersion }

/-- A call of `run_suite`, with the identifier and the times it draws. -/
structure RunSuite where
  suite : SuiteInput
  subjectVersionId : Uuid
  tenantId : Uuid
  randomSeed : Int := 0
  trialId : Uuid
  startedAt : Instant
  completedAt : Instant

namespace RunSuite

def cases (c : RunSuite) : List EvaluationCase := c.suite.resolved.cases

/-- The result of a case that was not executed. -/
def unexecuted (c : RunSuite) (index : Nat) (case : EvaluationCase) (reason : String) :
    TrialCaseResult where
  caseId := case.caseId
  inputPayload := case.inputPayload
  outputPayload := none
  subjectExecuted := false
  randomSeed := some (c.randomSeed + index)
  failureReason := some reason

/-- The result of a case that was executed. -/
def executed (c : RunSuite) (index : Nat) (case : EvaluationCase)
    (execution : SubjectExecutionResult) (graderResults : List GraderResult)
    (failureReason : Option String) : TrialCaseResult where
  caseId := case.caseId
  inputPayload := case.inputPayload
  outputPayload := some execution.outputPayload
  subjectExecuted := true
  graderResults
  evidenceRefs := execution.evidenceRefs
  executorId := some execution.executorId
  environmentRef := some execution.environmentRef
  modelRef := execution.modelRef
  toolRefs := execution.toolRefs
  randomSeed := some (c.randomSeed + index)
  costMicrounits := execution.costMicrounits
  failureReason

/-- `replace(grade, trial_id=trial_id)`. -/
def ownGrade (c : RunSuite) (grade : GraderResult) : Except Exc GraderResult :=
  ({ grade with trialId := c.trialId } : GraderResult).make

/-- The result of one case, and why the loop is left behind it. -/
abbrev CaseEnd := TrialCaseResult × Option String

/-- `f"{what}: {type(exc).__name__}: {exc}"`, for an exception that `except Exception` catches. -/
def caught (what : String) (e : Exc) (result : String → TrialCaseResult) : Except Exc CaseEnd :=
  if e.isA .exception then do
    let reason := what ++ ": " ++ e.name ++ ": " ++ e.message
    let result ← checked TrialCaseResult.check (result reason)
    return (result, some reason)
  else .error e

/-- The body of the loop of `run_suite`. -/
def runCase (c : RunSuite) (executor : SubjectExecutor) (pipeline : GraderPipeline) (index : Nat)
    (case : EvaluationCase) : Except Exc CaseEnd :=
  match executor index c.subjectVersionId case.inputPayload (c.randomSeed + index) with
  | .error e => caught "subject execution failed" e (c.unexecuted index case)
  | .ok execution =>
    if execution.subjectVersionId ≠ c.subjectVersionId then do
      let reason := "executor returned output from a different subject version"
      let result ← checked TrialCaseResult.check (c.unexecuted index case reason)
      return (result, some reason)
    else
      let grades : Except Exc (List GraderResult) := do
        let grades ← pipeline.grade index case execution.outputPayload
        grades.mapM fun grade : Grade => c.ownGrade grade.toGraderResult
      match grades with
      | .error e =>
        caught "grader execution failed" e fun reason =>
          c.executed index case execution [] (some reason)
      | .ok grades => do
        let result ← checked TrialCaseResult.check (c.executed index case execution grades none)
        return (result, none)

/-- The loop of `run_suite` over the cases. -/
def runCases (c : RunSuite) (executor : SubjectExecutor) (pipeline : GraderPipeline) :
    Nat → List EvaluationCase → Except Exc (List TrialCaseResult × Option String)
  | _, [] => .ok ([], none)
  | index, case :: rest => do
    match ← c.runCase executor pipeline index case with
    | (result, some reason) => return ([result], some reason)
    | (result, none) =>
      let (results, reason) ← c.runCases executor pipeline (index + 1) rest
      return (result :: results, reason)

def totalCost (results : List TrialCaseResult) : Int := (results.map (·.costMicrounits)).sum

/-- `_invalid_trial`. -/
def invalidTrial (c : RunSuite) (harnessVersion reason : String)
    (caseResults : List TrialCaseResult := []) : Except Exc RecordedTrial :=
  RecordedTrial.make {
    tenantId := c.tenantId
    suiteId := c.suite.resolved.suiteId
    suiteVersion := c.suite.resolved.version
    subjectVersionId := c.subjectVersionId
    harnessVersion
    trialId := c.trialId
    status := .invalid
    randomSeed := some c.randomSeed
    caseResults
    totalCostMicrounits := totalCost caseResults
    failureReason := some reason
    startedAt := some c.startedAt
    completedAt := some c.completedAt }

/-- The first grader that is the executor of its case. -/
def identityConflict (results : List TrialCaseResult) : Option String :=
  results.findSome? fun result =>
    (result.graderResults.find? fun grade => some grade.graderId = result.executorId).map
      (·.graderId)

/-- The first result that is in doubt. -/
def uncertain (results : List TrialCaseResult) : Option GraderResult :=
  results.findSome? fun result =>
    result.graderResults.find? fun grade =>
      grade.status = some .unknown || grade.status = some .invalid

def casePasses (result : TrialCaseResult) : Bool :=
  !result.graderResults.isEmpty && result.graderResults.all (·.status = some .pass)

/-- The sum of the weights of some cases. -/
def weight (cases : List EvaluationCase) : Rat := (cases.map (·.weight.value)).sum

/-- The status of a valid trial. -/
def status (c : RunSuite) (passes : List Bool) : TrialStatus :=
  let gatingFailed := (c.cases.zip passes).any fun (case, passed) => case.gating && !passed
  let passed := ((c.cases.zip passes).filter (·.2)).map (·.1)
  if !gatingFailed && c.suite.resolved.passThreshold.le (weight passed / weight c.cases) then
    .passed
  else .failed

/-- `EvaluationHarness.run_suite`. -/
def runSuite (h : EvaluationHarness) (c : RunSuite) : Except Exc RecordedTrial :=
  if !c.suite.unprotected then
    c.invalidTrial h.harnessVersion "protected suite must be loaded through the evaluation catalog"
  else match h.subjectExecutor, h.graderPipeline with
  | none, _ => c.invalidTrial h.harnessVersion "subject executor is not configured"
  | some _, none => c.invalidTrial h.harnessVersion "no independent grader is configured"
  | some executor, some pipeline => do
    let (results, reason) ← c.runCases executor pipeline 0 c.cases
    match reason, identityConflict results, uncertain results with
    | some reason, _, _ => c.invalidTrial h.harnessVersion reason results
    | none, some graderId, _ =>
      c.invalidTrial h.harnessVersion
        ("subject executor and grader share identity: " ++ graderId) results
    | none, none, some grade =>
      c.invalidTrial h.harnessVersion ("grader returned " ++
        (grade.status.getD .unknown).value ++ ": " ++ grade.rationale) results
    | none, none, none =>
      RecordedTrial.make {
        tenantId := c.tenantId
        suiteId := c.suite.resolved.suiteId
        suiteVersion := c.suite.resolved.version
        subjectVersionId := c.subjectVersionId
        harnessVersion := h.harnessVersion
        trialId := c.trialId
        status := c.status (results.map casePasses)
        randomSeed := some c.randomSeed
        caseResults := results
        totalCostMicrounits := totalCost results
        startedAt := some c.startedAt
        completedAt := some c.completedAt }

end RunSuite

end Autonoesis.Evaluation
