import Autonoesis.Domain.Trials
import Autonoesis.Persistence.ExecutionCodec

/-!
# Evaluation suites and trials as rows

A Trial is stored with its case results, and each of these with the results of its graders. What is
not a JSON value in the payload of a case comes back as another value, or is refused.
-/

namespace Autonoesis
open Base Json

instance : StrEnum CaseVisibility where
  name := "CaseVisibility"
  members := [.pub, .hidden, .productionReplay]
  value
    | .pub => "public"
    | .hidden => "hidden"
    | .productionReplay => "production_replay"
  complete a := by cases a <;> decide
  distinct a b := by cases a <;> cases b <;> decide

instance : StrEnum TrialStatus where
  name := "TrialStatus"
  members := [.pending, .running, .passed, .failed, .invalid]
  value
    | .pending => "pending"
    | .running => "running"
    | .passed => "passed"
    | .failed => "failed"
    | .invalid => "invalid"
  complete a := by cases a <;> decide
  distinct a b := by cases a <;> cases b <;> decide

instance : StrEnum GraderStatus where
  name := "GraderStatus"
  members := [.pass, .fail, .unknown, .invalid]
  value := GraderStatus.value
  complete a := by cases a <;> decide
  distinct a b := by cases a <;> cases b <;> decide

instance : StrEnum GraderKind where
  name := "GraderKind"
  members := [.deterministic, .outcome, .trajectory, .llm, .human]
  value := GraderKind.value
  complete a := by cases a <;> decide
  distinct a b := by cases a <;> cases b <;> decide

/-! ## Suites -/

/-- A row of `evaluation_suites`. -/
structure SuiteRow where
  id : String
  tenantId : String
  suiteId : String
  version : String
  definition : Json

def EvaluationCase.payload (case : EvaluationCase) : Except Exc Json := do
  return .obj [
    ("case_id", .str case.caseId),
    ("input_payload", ← payloadJson case.inputPayload),
    ("expected_outcome", ← payloadJson case.expectedOutcome),
    ("tags", .arr (case.tags.map .str)),
    ("visibility", memberJson case.visibility),
    ("weight", case.weight.json),
    ("gating", .bool case.gating)]

theorem isFloatText_one : isFloatText true "1.0" = true := by decide

def evaluationCaseFrom (case : Json) : Except Exc EvaluationCase := do
  checked EvaluationCase.check {
    caseId := ← case.at_ "case_id" asStr
    inputPayload := ← case.getD "input_payload" [] asPayload
    expectedOutcome := ← case.getD "expected_outcome" [] asPayload
    tags := ← case.getD "tags" [] (asList asStr)
    visibility := ← case.getD "visibility" .pub asMember
    weight := ← case.getD "weight" (.float "1.0" true isFloatText_one) asNumber
    gating := ← case.getD "gating" false asBool }

/-- `suite_payload`. -/
def EvaluationSuite.payload (item : EvaluationSuite) : Except Exc Json := do
  return .obj [
    ("pass_threshold", item.passThreshold.json),
    ("cases", .arr (← item.cases.mapM (·.payload)))]

/-- The row `add_suite` inserts under a fresh identifier. -/
def EvaluationSuite.row (id tenantId : Uuid) (suite : EvaluationSuite) : Except Exc SuiteRow := do
  return {
    id := id.str
    tenantId := tenantId.str
    suiteId := suite.suiteId
    version := suite.version
    definition := ← suite.payload }

/-- `suite_from_row`. -/
def suiteFromRow (row : SuiteRow) : Except Exc EvaluationSuite := do
  let definition := row.definition
  EvaluationSuite.make {
    suiteId := row.suiteId
    version := row.version
    cases := ← definition.getD "cases" [] (asList evaluationCaseFrom)
    passThreshold :=
      ← definition.getD "pass_threshold" (.float "1.0" true isFloatText_one) asNumber }

/-- Every part of the suite was accepted by its own constructor. -/
def EvaluationSuite.Accepted (suite : EvaluationSuite) : Prop :=
  ∀ case ∈ suite.cases, case.check = .ok ()

/-- The payloads of the case are JSON values. -/
structure EvaluationCase.IsJson (case : EvaluationCase) : Prop where
  inputPayload : Any.IsJson case.inputPayload
  expectedOutcome : Any.IsJson case.expectedOutcome

theorem evaluationCaseFrom_payload {case : EvaluationCase} (accepted : case.check = .ok ())
    (json : case.IsJson) :
    ∃ column, case.payload = .ok column ∧ evaluationCaseFrom column = .ok case := by
  obtain ⟨⟨input, inputPayload⟩, ⟨outcome, expectedOutcome⟩⟩ := json
  refine ⟨_, by rw [EvaluationCase.payload, inputPayload, expectedOutcome,
    payloadJson_ofRecord, payloadJson_ofRecord]; rfl, ?_⟩
  have same : (⟨case.caseId, Any.ofRecord input, Any.ofRecord outcome, case.tags, case.visibility,
      case.weight, case.gating⟩ : EvaluationCase) = case := by
    rw [← inputPayload, ← expectedOutcome]
  simp [evaluationCaseFrom, at_, getD, same, checked_ok accepted]

theorem evaluationCaseFrom_isJson {column : Json} {case : EvaluationCase}
    (read : evaluationCaseFrom column = .ok case) : case.IsJson := by
  simp only [evaluationCaseFrom, bind_eq_ok] at read
  obtain ⟨_, _, input, given, outcome, wanted, _, _, _, _, _, _, _, _, made⟩ := read
  rw [eq_of_checked made]
  have default : Any.IsJson [] := ⟨[], rfl⟩
  constructor
  · obtain rfl | ⟨_, given⟩ := read_of_getD given
    · exact default
    · exact asPayload_ok given
  · obtain rfl | ⟨_, wanted⟩ := read_of_getD wanted
    · exact default
    · exact asPayload_ok wanted

theorem suiteFromRow_row_iff {suite : EvaluationSuite} (accepted : suite.Accepted)
    (id tenantId : Uuid) :
    (∃ row, suite.row id tenantId = .ok row ∧ suiteFromRow row = .ok suite) ↔
      ∀ case ∈ suite.cases, case.IsJson := by
  constructor
  · rintro ⟨row, _, read⟩ case there
    simp only [suiteFromRow, bind_eq_ok] at read
    obtain ⟨rows, listed, _, _, made⟩ := read
    obtain ⟨_, rfl⟩ := guarded_eq_ok.mp made
    obtain rfl | ⟨_, listed⟩ := read_of_getD listed
    · cases there
    · obtain ⟨_, read⟩ := read_of_asList listed case there
      exact evaluationCaseFrom_isJson read
  · intro json
    obtain ⟨columns, written, back⟩ := asList_mapM fun case there =>
      evaluationCaseFrom_payload (accepted case there) (json case there)
    have same : EvaluationSuite.make suite.toSuiteFields = .ok suite :=
      guarded_eq_ok.mpr ⟨suite.valid, rfl⟩
    refine ⟨_, by rw [EvaluationSuite.row, EvaluationSuite.payload, written]; rfl, ?_⟩
    simp [suiteFromRow, getD, back]
    exact same

/-! ## Trials -/

/-- A row of `evaluation_trials`. -/
structure TrialRow where
  id : String
  tenantId : String
  suiteId : String
  suiteVersion : String
  subjectVersionId : String
  harnessVersion : String
  candidateId : Option String
  status : String
  result : Json

def GraderResult.payload (grade : GraderResult) : Json :=
  .obj [
    ("trial_id", grade.trialId.json),
    ("grader_id", .str grade.graderId),
    ("grader_version", .str grade.graderVersion),
    ("score", optional Number.json grade.score),
    ("passed", optional .bool grade.passed),
    ("rationale", .str grade.rationale),
    ("evidence_refs", .arr (grade.evidenceRefs.map .str)),
    ("status", optional memberJson grade.status),
    ("kind", memberJson grade.kind)]

def graderResultFrom (grade : Json) : Except Exc GraderResult := do
  GraderResult.make {
    trialId := ← grade.at_ "trial_id" asUuid
    graderId := ← grade.at_ "grader_id" asStr
    graderVersion := ← grade.at_ "grader_version" asStr
    score := ← grade.get? "score" asNumber
    passed := ← grade.get? "passed" asBool
    rationale := ← grade.at_ "rationale" asStr
    evidenceRefs := ← grade.getD "evidence_refs" [] (asList asStr)
    status := ← grade.get? "status" asMember
    kind := ← grade.getD "kind" .deterministic asMember }

def TrialCaseResult.payload (result : TrialCaseResult) : Except Exc Json := do
  return .obj [
    ("case_id", .str result.caseId),
    ("input_payload", ← payloadJson result.inputPayload),
    ("output_payload", optional id (← result.outputPayload.mapM payloadJson)),
    ("subject_executed", .bool result.subjectExecuted),
    ("evidence_refs", .arr (result.evidenceRefs.map .str)),
    ("executor_id", optional .str result.executorId),
    ("environment_ref", optional .str result.environmentRef),
    ("model_ref", optional .str result.modelRef),
    ("tool_refs", .arr (result.toolRefs.map .str)),
    ("random_seed", optional .int result.randomSeed),
    ("cost_microunits", .int result.costMicrounits),
    ("failure_reason", optional .str result.failureReason),
    ("grader_results", .arr (result.graderResults.map (·.payload)))]

def trialCaseResultFrom (result : Json) : Except Exc TrialCaseResult := do
  checked TrialCaseResult.check {
    caseId := ← result.at_ "case_id" asStr
    inputPayload := ← result.at_ "input_payload" asPayload
    outputPayload := ← result.get? "output_payload" asPayload
    subjectExecuted := ← result.at_ "subject_executed" asBool
    graderResults := ← result.getD "grader_results" [] (asList graderResultFrom)
    evidenceRefs := ← result.getD "evidence_refs" [] (asList asStr)
    executorId := ← result.get? "executor_id" asStr
    environmentRef := ← result.get? "environment_ref" asStr
    modelRef := ← result.get? "model_ref" asStr
    toolRefs := ← result.getD "tool_refs" [] (asList asStr)
    randomSeed := ← result.get? "random_seed" asInt
    costMicrounits := ← result.getD "cost_microunits" 0 asInt
    failureReason := ← result.get? "failure_reason" asStr }

/-- `trial_payload`. -/
def RecordedTrial.payload (item : RecordedTrial) : Except Exc Json := do
  return .obj [
    ("random_seed", optional .int item.randomSeed),
    ("total_cost_microunits", .int item.totalCostMicrounits),
    ("failure_reason", optional .str item.failureReason),
    ("started_at", optional Instant.json item.startedAt),
    ("completed_at", optional Instant.json item.completedAt),
    ("case_results", .arr (← item.caseResults.mapM (·.payload)))]

/-- The row `add_trial` inserts. -/
def RecordedTrial.row (trial : RecordedTrial) : Except Exc TrialRow := do
  return {
    id := trial.trialId.str
    tenantId := trial.tenantId.str
    suiteId := trial.suiteId
    suiteVersion := trial.suiteVersion
    subjectVersionId := trial.subjectVersionId.str
    harnessVersion := trial.harnessVersion
    candidateId := trial.candidateId.map (·.str)
    status := StrEnum.value trial.status
    result := ← trial.payload }

/-- `trial_from_row`. -/
def trialFromRow (row : TrialRow) : Except Exc RecordedTrial := do
  let payload := row.result.orEmpty
  RecordedTrial.make {
    tenantId := ← Uuid.parse row.tenantId
    suiteId := row.suiteId
    suiteVersion := row.suiteVersion
    subjectVersionId := ← Uuid.parse row.subjectVersionId
    harnessVersion := row.harnessVersion
    trialId := ← Uuid.parse row.id
    candidateId := ← given asUuid (optional .str row.candidateId)
    status := ← ofValue row.status
    randomSeed := ← payload.get? "random_seed" asInt
    caseResults := ← payload.getD "case_results" [] (asList trialCaseResultFrom)
    totalCostMicrounits := ← payload.getD "total_cost_microunits" 0 asInt
    failureReason := ← payload.get? "failure_reason" asStr
    startedAt := ← payload.ifGiven "started_at" asInstant
    completedAt := ← payload.ifGiven "completed_at" asInstant }

/-- Every case result and every grader result was built by its constructor. -/
structure RecordedTrial.Accepted (trial : RecordedTrial) : Prop where
  caseResults : ∀ result ∈ trial.caseResults, result.check = .ok ()
  graderResults : ∀ result ∈ trial.caseResults, ∀ grade ∈ result.graderResults,
    ∃ given : GraderResult, given.make = .ok grade

theorem graderResultFrom_payload {given grade : GraderResult} (made : given.make = .ok grade) :
    graderResultFrom grade.payload = .ok grade := by
  have same := GraderResult.make_made made
  simp [graderResultFrom, GraderResult.payload, at_, get?, getD, same]

/-- The payloads of the result are JSON values. -/
structure TrialCaseResult.IsJson (result : TrialCaseResult) : Prop where
  inputPayload : Any.IsJson result.inputPayload
  outputPayload : ∀ payload ∈ result.outputPayload, Any.IsJson payload

theorem trialCaseResultFrom_payload {result : TrialCaseResult} (accepted : result.check = .ok ())
    (graded : ∀ grade ∈ result.graderResults, ∃ given : GraderResult, given.make = .ok grade)
    (json : result.IsJson) :
    ∃ column, result.payload = .ok column ∧ trialCaseResultFrom column = .ok result := by
  obtain ⟨⟨input, inputPayload⟩, values⟩ := json
  obtain ⟨output, outputPayload⟩ : ∃ output : Option (List (String × Json)),
      result.outputPayload = output.map Any.ofRecord := by
    cases given : result.outputPayload with
    | none => exact ⟨none, rfl⟩
    | some payload =>
      obtain ⟨members, rfl⟩ := values payload given
      exact ⟨some members, rfl⟩
  have written : (output.map Any.ofRecord).mapM payloadJson = .ok (output.map .obj) := by
    cases output with
    | none => rfl
    | some members =>
      change some <$> payloadJson (Any.ofRecord members) = _
      rw [payloadJson_ofRecord]
      rfl
  have nullable : optional id (output.map .obj) = optional .obj output := by cases output <;> rfl
  have grades : asList graderResultFrom (.arr (result.graderResults.map (·.payload))) =
      .ok result.graderResults :=
    asList_map fun grade there => by
      obtain ⟨_, made⟩ := graded grade there
      exact graderResultFrom_payload made
  have same : (⟨result.caseId, Any.ofRecord input, output.map Any.ofRecord, result.subjectExecuted,
      result.graderResults, result.evidenceRefs, result.executorId, result.environmentRef,
      result.modelRef, result.toolRefs, result.randomSeed, result.costMicrounits,
      result.failureReason⟩ : TrialCaseResult) = result := by
    rw [← inputPayload, ← outputPayload]
  refine ⟨_, by rw [TrialCaseResult.payload, inputPayload, outputPayload, payloadJson_ofRecord,
    written, ok_bind, ok_bind, nullable]; rfl, ?_⟩
  simp [trialCaseResultFrom, at_, get?, getD, grades, same, checked_ok accepted]

theorem trialCaseResultFrom_isJson {column : Json} {result : TrialCaseResult}
    (read : trialCaseResultFrom column = .ok result) : result.IsJson := by
  simp only [trialCaseResultFrom, bind_eq_ok] at read
  obtain ⟨_, _, input, given, output, produced, _, _, _, _, _, _, _, _, _, _, _, _, _, _, _, _, _, _,
    _, _, made⟩ := read
  rw [eq_of_checked made]
  constructor
  · obtain ⟨_, given⟩ := read_of_at given
    exact asPayload_ok given
  · intro payload there
    obtain rfl | ⟨_, produced⟩ := read_of_getD produced
    · cases there
    · obtain ⟨_, produced⟩ := read_of_asOption produced payload there
      exact asPayload_ok produced

theorem trialFromRow_row_iff {trial : RecordedTrial} (accepted : trial.Accepted) :
    (∃ row, trial.row = .ok row ∧ trialFromRow row = .ok trial) ↔
      ∀ result ∈ trial.caseResults, result.IsJson := by
  constructor
  · rintro ⟨row, _, read⟩ result there
    simp only [trialFromRow, bind_eq_ok] at read
    obtain ⟨_, _, _, _, _, _, _, _, _, _, _, _, results, listed, _, _, _, _, _, _, _, _, made⟩ := read
    obtain ⟨_, rfl⟩ := guarded_eq_ok.mp made
    obtain rfl | ⟨_, listed⟩ := read_of_getD listed
    · cases there
    · obtain ⟨_, read⟩ := read_of_asList listed result there
      exact trialCaseResultFrom_isJson read
  · intro json
    obtain ⟨columns, written, results⟩ := asList_mapM fun result there =>
      trialCaseResultFrom_payload (accepted.caseResults result there)
        (accepted.graderResults result there) (json result there)
    have same : RecordedTrial.make trial.toTrialFields = .ok trial :=
      guarded_eq_ok.mpr ⟨trial.valid, rfl⟩
    have candidate : given asUuid (optional .str (trial.candidateId.map (·.str))) =
        .ok trial.candidateId := by
      have column : optional .str (trial.candidateId.map (·.str)) =
          optional Uuid.json trial.candidateId := by
        cases trial.candidateId <;> rfl
      rw [column, given_uuid]
    refine ⟨_, by rw [RecordedTrial.row, RecordedTrial.payload, written]; rfl, ?_⟩
    simp [trialFromRow, get?, getD, ifGiven, results, candidate]
    exact same

end Autonoesis
