import Mathlib.Algebra.Order.BigOperators.Group.List
import Mathlib.Algebra.Order.Ring.Rat
import Autonoesis.Evaluation.Harness

/-!
# What a trial is decided by

A trial is passed or failed exactly when every case was executed on the subject asked for and graded
by others without doubt, and invalid otherwise. A valid trial is passed exactly when the gating
cases pass and the passing cases weigh enough, where a case passes when every stage passes it.
-/

namespace Autonoesis.Evaluation
open Base

/-- A made result belongs to any trial. -/
theorem GraderResult.make_trialId {g : GraderResult} (made : g.make = .ok g) (trialId : Uuid) :
    ({ g with trialId } : GraderResult).make = .ok { g with trialId } := by
  cases given : g.status with
  | none =>
    simp only [GraderResult.make, bind_eq_ok, given] at made
    obtain ⟨_, _, built⟩ := made
    have filled := congrArg (fun r => r.status) (Except.ok.inj built)
    rw [given] at filled
    cases filled
  | some status =>
    simp only [GraderResult.make, bind_eq_ok, given] at made ⊢
    obtain ⟨_, scored, _, consistent, _⟩ := made
    exact ⟨(), scored, (), consistent, rfl⟩

/-- The grades as the trial records them. -/
def recorded (trialId : Uuid) (grades : List Grade) : List GraderResult :=
  grades.map fun g => { g.toGraderResult with trialId }

namespace RunSuite

/-- Case number `index` was executed on the subject asked for, and the pipeline graded it. -/
structure Ran (c : RunSuite) (executor : SubjectExecutor) (pipeline : GraderPipeline)
    (index : Nat) (case : EvaluationCase) (execution : SubjectExecutionResult)
    (grades : List Grade) : Prop where
  executed : executor index c.subjectVersionId case.inputPayload (c.randomSeed + index) =
    .ok execution
  subject : execution.subjectVersionId = c.subjectVersionId
  graded : pipeline.grade index case execution.outputPayload = .ok grades

/-- The grades are not in doubt, and none is by the executor. -/
structure Sound (execution : SubjectExecutionResult) (grades : List Grade) : Prop where
  certain : ∀ g ∈ grades, g.status ≠ some .unknown ∧ g.status ≠ some .invalid
  independent : ∀ g ∈ grades, g.graderId ≠ execution.executorId

/-- The harness could run the suite, and ran every case soundly. -/
def Valid (h : EvaluationHarness) (c : RunSuite) : Prop :=
  c.suite.unprotected = true ∧ ∃ executor pipeline, h.subjectExecutor = some executor ∧
    h.graderPipeline = some pipeline ∧ ∀ q ∈ c.cases.zipIdx, ∃ execution grades,
      c.Ran executor pipeline q.2 q.1 execution grades ∧ Sound execution grades

/-- Every configured stage was run on the output of the case, in the order of governance and by
graders of distinct names, and passed it. -/
def Passes (h : EvaluationHarness) (c : RunSuite) (q : EvaluationCase × Nat) : Prop :=
  ∃ executor pipeline execution results, h.subjectExecutor = some executor ∧
    h.graderPipeline = some pipeline ∧
    executor q.2 c.subjectVersionId q.1.inputPayload (c.randomSeed + q.2) = .ok execution ∧
    List.Forall₂ (GraderPipeline.StagePasses q.2 q.1 execution.outputPayload) pipeline.stages
      results ∧
    (results.map fun r => priority r.kind).Pairwise (· < ·) ∧ (results.map (·.graderId)).Nodup

variable {c : RunSuite} {executor : SubjectExecutor} {pipeline : GraderPipeline} {index : Nat}
  {case : EvaluationCase} {execution : SubjectExecutionResult} {grades : List Grade}

/-! ## One case -/

theorem ownGrades (c : RunSuite) (grades : List Grade) :
    grades.mapM (fun grade : Grade => c.ownGrade grade.toGraderResult) =
      .ok (recorded c.trialId grades) := by
  induction grades with
  | nil => rfl
  | cons g rest ih =>
    rw [List.mapM_cons, ownGrade, GraderResult.make_trialId g.made, ih]
    rfl

/-- What the loop records of a case that ran. -/
def record (c : RunSuite) (index : Nat) (case : EvaluationCase)
    (execution : SubjectExecutionResult) (grades : List Grade) : TrialCaseResult :=
  c.executed index case execution (recorded c.trialId grades) none

theorem cost_nonneg (execution : SubjectExecutionResult) : 0 ≤ execution.costMicrounits := by
  have valid := execution.valid
  simp only [ExecutionFields.check, checks_cons, decide_eq_false_iff_not, not_lt] at valid
  exact valid.2.1

/-- The constructor accepts the result of an execution. -/
theorem executed_check (graderResults : List GraderResult) (failureReason : Option String) :
    (c.executed index case execution graderResults failureReason).check = .ok () := by
  have valid := execution.valid
  simp only [ExecutionFields.check, checks_cons, Bool.or_eq_false_iff] at valid
  obtain ⟨⟨⟨executor, evidence⟩, environment⟩, _⟩ := valid
  simp only [TrialCaseResult.check, checks_cons, checks_nil, and_true]
  refine ⟨decide_eq_false (not_lt.mpr (cost_nonneg execution)), ?_, rfl⟩
  simp [executed, executor, evidence, environment]

theorem unexecuted_check {reason : String} (said : reason ≠ "") :
    (c.unexecuted index case reason).check = .ok () := by
  simp [TrialCaseResult.check, unexecuted, said]

/-- How one turn of the loop ends. -/
inductive Turn (c : RunSuite) (executor : SubjectExecutor) (pipeline : GraderPipeline)
    (index : Nat) (case : EvaluationCase) : Except Exc CaseEnd → Prop
  | ran {execution : SubjectExecutionResult} {grades : List Grade}
      (ran : c.Ran executor pipeline index case execution grades) :
      Turn c executor pipeline index case (.ok (c.record index case execution grades, none))
  | left {result : TrialCaseResult} {reason : String} (failed : ∀ execution grades,
      ¬c.Ran executor pipeline index case execution grades) (said : reason ≠ "")
      (ungraded : result.graderResults = []) (cost : 0 ≤ result.costMicrounits) :
      Turn c executor pipeline index case (.ok (result, some reason))
  | raised {e : Exc} (uncaught : e.isA .exception = false) :
      Turn c executor pipeline index case (.error e)

theorem turn_caught {what : String} {e : Exc} {result : String → TrialCaseResult}
    (failed : ∀ execution grades, ¬c.Ran executor pipeline index case execution grades)
    (accepted : ∀ reason, reason ≠ "" → (result reason).check = .ok ())
    (ungraded : ∀ reason, (result reason).graderResults = [])
    (cost : ∀ reason, 0 ≤ (result reason).costMicrounits) :
    Turn c executor pipeline index case (caught what e result) := by
  unfold caught
  by_cases exception : e.isA .exception = true
  · rw [if_pos exception]
    have said : what ++ ": " ++ e.name ++ ": " ++ e.message ≠ "" := by
      intro empty
      have length := congrArg String.length empty
      simp at length
    simp only [checked_ok (accepted _ said)]
    exact .left failed said (ungraded _) (cost _)
  · rw [if_neg exception]
    exact .raised (by simpa using exception)

theorem turn_runCase (c : RunSuite) (executor : SubjectExecutor) (pipeline : GraderPipeline)
    (index : Nat) (case : EvaluationCase) :
    Turn c executor pipeline index case (c.runCase executor pipeline index case) := by
  unfold runCase
  cases outcome : executor index c.subjectVersionId case.inputPayload (c.randomSeed + index) with
  | error e =>
    apply turn_caught
    · intro execution grades ran
      rw [ran.executed] at outcome
      cases outcome
    · exact fun reason said => unexecuted_check said
    · exact fun reason => rfl
    · exact fun reason => le_rfl
  | ok execution =>
    have unique : ∀ execution' grades, c.Ran executor pipeline index case execution' grades →
        execution' = execution := by
      intro execution' grades ran
      rw [ran.executed] at outcome
      exact Except.ok.inj outcome
    by_cases other : execution.subjectVersionId ≠ c.subjectVersionId
    · simp only [if_pos other]
      rw [checked_ok (unexecuted_check (by decide))]
      apply Turn.left _ (by decide) rfl le_rfl
      intro execution' grades ran
      exact other (unique execution' grades ran ▸ ran.subject)
    · simp only [if_neg other]
      cases graded : pipeline.grade index case execution.outputPayload with
      | error e =>
        apply turn_caught
        · intro execution' grades ran
          cases unique execution' grades ran
          rw [ran.graded] at graded
          cases graded
        · exact fun reason said => executed_check _ _
        · exact fun reason => rfl
        · exact fun reason => cost_nonneg execution
      | ok grades =>
        have own : (do
            let grades ← Except.ok grades
            grades.mapM fun grade : Grade => c.ownGrade grade.toGraderResult) =
            .ok (recorded c.trialId grades) := ownGrades c grades
        simp only [own]
        rw [checked_ok (executed_check _ _)]
        exact .ran ⟨outcome, not_not.mp other, graded⟩

/-! ## The loop -/

/-- The results can be recorded: no cost is negative, and the grades belong to the trial. -/
def Recordable (c : RunSuite) (results : List TrialCaseResult) : Prop :=
  ∀ r ∈ results, 0 ≤ r.costMicrounits ∧ ∀ g ∈ r.graderResults, g.trialId = c.trialId

theorem recordable_cons {r : TrialCaseResult} {results : List TrialCaseResult}
    (cost : 0 ≤ r.costMicrounits) (own : ∀ g ∈ r.graderResults, g.trialId = c.trialId)
    (rest : c.Recordable results) : c.Recordable (r :: results) :=
  List.forall_mem_cons.mpr ⟨⟨cost, own⟩, rest⟩

theorem record_own (grades : List Grade) :
    ∀ g ∈ (c.record index case execution grades).graderResults, g.trialId = c.trialId := by
  intro g there
  obtain ⟨_, _, rfl⟩ := List.mem_map.mp there
  rfl

/-- The case ran, and this is what the loop recorded of it. -/
def RanAs (c : RunSuite) (executor : SubjectExecutor) (pipeline : GraderPipeline)
    (q : EvaluationCase × Nat) (r : TrialCaseResult) : Prop :=
  ∃ execution grades, c.Ran executor pipeline q.2 q.1 execution grades ∧
    r = c.record q.2 q.1 execution grades

/-- How the loop ends. -/
inductive LoopEnd (c : RunSuite) (executor : SubjectExecutor) (pipeline : GraderPipeline)
    (cases : List (EvaluationCase × Nat)) :
    Except Exc (List TrialCaseResult × Option String) → Prop
  | ran {results : List TrialCaseResult}
      (ran : List.Forall₂ (c.RanAs executor pipeline) cases results)
      (recordable : c.Recordable results) : LoopEnd c executor pipeline cases (.ok (results, none))
  | left {results : List TrialCaseResult} {reason : String} (failed : ∃ q ∈ cases,
        ∀ execution grades, ¬c.Ran executor pipeline q.2 q.1 execution grades)
      (said : reason ≠ "") (recordable : c.Recordable results) :
      LoopEnd c executor pipeline cases (.ok (results, some reason))
  | raised {e : Exc} (uncaught : e.isA .exception = false) :
      LoopEnd c executor pipeline cases (.error e)

theorem loopEnd_runCases (c : RunSuite) (executor : SubjectExecutor) (pipeline : GraderPipeline)
    (cases : List EvaluationCase) : ∀ index,
    LoopEnd c executor pipeline (cases.zipIdx index) (c.runCases executor pipeline index cases) := by
  induction cases with
  | nil =>
    intro index
    exact .ran .nil fun _ there => absurd there List.not_mem_nil
  | cons case rest ih =>
    intro index
    rw [runCases, List.zipIdx_cons]
    have turn := c.turn_runCase executor pipeline index case
    generalize c.runCase executor pipeline index case = ended at turn
    cases turn with
    | raised uncaught => exact .raised uncaught
    | left failed said ungraded cost =>
      refine .left ⟨(case, index), List.mem_cons_self, failed⟩ said ?_
      apply recordable_cons cost
      · rw [ungraded]
        exact fun _ there => absurd there List.not_mem_nil
      · exact fun _ there => absurd there List.not_mem_nil
    | @ran execution grades ran =>
      have later := ih (index + 1)
      generalize c.runCases executor pipeline (index + 1) rest = ended at later
      cases later with
      | raised uncaught => exact .raised uncaught
      | left failed said recordable =>
        obtain ⟨q, there, failed⟩ := failed
        exact .left ⟨q, List.mem_cons_of_mem _ there, failed⟩ said
          (recordable_cons (cost_nonneg execution) (record_own grades) recordable)
      | ran others recordable =>
        exact .ran (.cons ⟨execution, grades, ran, rfl⟩ others)
          (recordable_cons (cost_nonneg execution) (record_own grades) recordable)

/-! ## What the loop recorded -/

variable {cases : List (EvaluationCase × Nat)} {results : List TrialCaseResult}

theorem Ran.unique {execution' : SubjectExecutionResult} {grades' : List Grade}
    (ran : c.Ran executor pipeline index case execution grades)
    (ran' : c.Ran executor pipeline index case execution' grades') :
    execution' = execution ∧ grades' = grades := by
  have same := ran'.executed
  rw [ran.executed] at same
  cases same
  have graded := ran'.graded
  rw [ran.graded] at graded
  cases graded
  exact ⟨rfl, rfl⟩

theorem identityConflict_cons {r : TrialCaseResult} : identityConflict (r :: results) = none ↔
    (∀ g ∈ r.graderResults, some g.graderId ≠ r.executorId) ∧ identityConflict results = none := by
  simp [identityConflict]

theorem uncertain_cons {r : TrialCaseResult} : uncertain (r :: results) = none ↔
    (∀ g ∈ r.graderResults, g.status ≠ some .unknown ∧ g.status ≠ some .invalid) ∧
      uncertain results = none := by
  simp [uncertain]

theorem sound_record : Sound execution grades ↔
    (∀ g ∈ (c.record index case execution grades).graderResults,
      some g.graderId ≠ (c.record index case execution grades).executorId) ∧
    ∀ g ∈ (c.record index case execution grades).graderResults,
      g.status ≠ some .unknown ∧ g.status ≠ some .invalid := by
  simp only [record, RunSuite.executed, recorded, List.forall_mem_map, ne_eq, Option.some.injEq]
  constructor
  · exact fun sound => ⟨sound.independent, sound.certain⟩
  · exact fun ⟨independent, certain⟩ => ⟨certain, independent⟩

theorem ran_executed (ran : List.Forall₂ (c.RanAs executor pipeline) cases results) :
    ∀ r ∈ results, r.subjectExecuted = true := by
  induction ran with
  | nil => exact fun _ there => absurd there List.not_mem_nil
  | cons first _ ih =>
    obtain ⟨execution, grades, _, rfl⟩ := first
    exact List.forall_mem_cons.mpr ⟨rfl, ih⟩

/-- No grader is the executor and none is in doubt exactly when every case ran soundly. -/
theorem sound_iff (ran : List.Forall₂ (c.RanAs executor pipeline) cases results) :
    identityConflict results = none ∧ uncertain results = none ↔
      ∀ q ∈ cases, ∃ execution grades,
        c.Ran executor pipeline q.2 q.1 execution grades ∧ Sound execution grades := by
  induction ran with
  | nil => simp [identityConflict, uncertain]
  | @cons q r cases results first _ ih =>
    obtain ⟨execution, grades, ran, rfl⟩ := first
    have own : (∃ execution grades, c.Ran executor pipeline q.2 q.1 execution grades ∧
        Sound execution grades) ↔ Sound execution grades := by
      constructor
      · rintro ⟨execution', grades', ran', sound⟩
        obtain ⟨rfl, rfl⟩ := ran.unique ran'
        exact sound
      · exact fun sound => ⟨execution, grades, ran, sound⟩
    rw [List.forall_mem_cons, own, ← ih, identityConflict_cons, uncertain_cons,
      @sound_record c q.2 q.1]
    tauto

/-- A recorded case passes exactly when every stage was run and passed it. -/
theorem casePasses_record {h : EvaluationHarness} (hasExecutor : h.subjectExecutor = some executor)
    (hasPipeline : h.graderPipeline = some pipeline)
    (ran : c.Ran executor pipeline index case execution grades) :
    casePasses (c.record index case execution grades) = true ↔ c.Passes h (case, index) := by
  have passes : casePasses (c.record index case execution grades) = true ↔
      ∀ g ∈ grades, g.status = some .pass := by
    have some := GraderPipeline.grade_ne_nil ran.graded
    simp [casePasses, record, RunSuite.executed, recorded, some]
  rw [passes]
  constructor
  · intro pass
    obtain ⟨stages, distinct, _⟩ :=
      (GraderPipeline.gradeStages_pass_iff pipeline.stages [] grades).mp ⟨ran.graded, pass⟩
    exact ⟨executor, pipeline, execution, grades, hasExecutor, hasPipeline, ran.executed, stages,
      GraderPipeline.passes_ordered stages, distinct⟩
  · rintro ⟨executor', pipeline', execution', results, has, has', executed, passed, _, distinct⟩
    cases has.symm.trans hasExecutor
    cases has'.symm.trans hasPipeline
    cases executed.symm.trans ran.executed
    have all := (GraderPipeline.gradeStages_pass_iff pipeline.stages [] results).mpr
      ⟨passed, distinct, fun _ _ => List.not_mem_nil⟩
    cases all.1.symm.trans ran.graded
    exact all.2

theorem zip_casePasses {cases : List EvaluationCase} {start : Nat}
    {P : EvaluationCase × Nat → Prop} [DecidablePred P]
    (agree : List.Forall₂ (fun q r => casePasses r = true ↔ P q) (cases.zipIdx start) results) :
    cases.zip (results.map casePasses) =
      (cases.zipIdx start).map fun q => (q.1, decide (P q)) := by
  induction cases generalizing start results with
  | nil => rfl
  | cons case rest ih =>
    rw [List.zipIdx_cons] at agree ⊢
    cases agree with
    | cons first others =>
      rw [List.map_cons, List.map_cons, List.zip_cons_cons, ih others]
      congr 2
      rw [Bool.eq_iff_iff, first, decide_eq_true_eq]

/-! ## The trial -/

theorem totalCost_nonneg (recordable : c.Recordable results) : 0 ≤ totalCost results := by
  apply List.sum_nonneg
  intro cost there
  obtain ⟨r, mem, rfl⟩ := List.mem_map.mp there
  exact (recordable r mem).1

theorem recordable_trial (recordable : c.Recordable results) :
    results.any (·.graderResults.any (·.trialId ≠ c.trialId)) = false := by
  simp only [List.any_eq_false, decide_eq_true_eq, not_not, Bool.not_eq_true]
  intro r mem g there
  simpa using (recordable r mem).2 g there

theorem invalidTrial_ok {harnessVersion reason : String} (recordable : c.Recordable results)
    (said : reason ≠ "") : ∃ trial, c.invalidTrial harnessVersion reason results = .ok trial ∧
      trial.status = .invalid ∧ trial.totalCostMicrounits = totalCost trial.caseResults := by
  refine ⟨⟨_, ?_⟩, guarded_eq_ok.mpr ⟨?_, rfl⟩, rfl, rfl⟩
  all_goals
    simp only [TrialFields.check, checks_cons, checks_nil, recordable_trial recordable, and_true]
    exact ⟨decide_eq_false (not_lt.mpr (totalCost_nonneg recordable)), by simp, trivial, by simp [said]⟩

theorem cases_ne_nil (c : RunSuite) : c.cases ≠ [] := by
  have valid := c.suite.resolved.valid
  simp only [SuiteFields.check, checks_cons, Bool.or_eq_false_iff] at valid
  intro none
  rw [show c.suite.resolved.cases = [] from none] at valid
  cases valid.1.1

/-- The threshold is a number between zero and one. -/
theorem passThreshold_le (c : RunSuite) (rate : Rat) :
    c.suite.resolved.passThreshold.le rate = true ↔ c.suite.resolved.passThreshold.value ≤ rate := by
  have valid := c.suite.resolved.valid
  simp only [SuiteFields.check, checks_cons, Bool.or_eq_false_iff, Bool.not_eq_false'] at valid
  have unit := valid.1.2
  revert unit
  cases c.suite.resolved.passThreshold with
  | int n => simp [Number.le, Number.value]
  | float repr finite text =>
    cases finite with
    | true => simp [Number.le, Number.value]
    | false =>
      simp only [Number.isUnit, Number.ge, Number.le, Bool.and_eq_true, decide_eq_true_eq]
      rintro ⟨rfl, wrong⟩
      exact absurd wrong (by decide)

theorem status_cases (c : RunSuite) (passes : List Bool) :
    c.status passes = .passed ∨ c.status passes = .failed := by
  simp only [status]
  split_ifs
  · exact .inl rfl
  · exact .inr rfl

/-- A valid trial is decided by the gating cases and by the weight of those that pass. -/
theorem status_passed {P : EvaluationCase × Nat → Prop} [DecidablePred P]
    (agree : List.Forall₂ (fun q r => casePasses r = true ↔ P q) c.cases.zipIdx results) :
    c.status (results.map casePasses) = .passed ↔
      (∀ q ∈ c.cases.zipIdx, q.1.gating = true → P q) ∧
        c.suite.resolved.passThreshold.value ≤
          weight ((c.cases.zipIdx.filter P).map (·.1)) / weight c.cases := by
  have unfolded : c.status (results.map casePasses) =
      if !((c.cases.zip (results.map casePasses)).any fun p => p.1.gating && !p.2) &&
          c.suite.resolved.passThreshold.le
            (weight (((c.cases.zip (results.map casePasses)).filter (·.2)).map (·.1)) /
              weight c.cases)
      then .passed else .failed := rfl
  have gating : (c.cases.zip (results.map casePasses)).any (fun p => p.1.gating && !p.2) =
      false ↔ ∀ q ∈ c.cases.zipIdx, q.1.gating = true → P q := by
    rw [zip_casePasses agree]
    simp only [List.any_eq_false, List.forall_mem_map, Bool.and_eq_true, Bool.not_eq_true',
      decide_eq_false_iff_not, not_and, not_not]
  have passing : ((c.cases.zip (results.map casePasses)).filter (·.2)).map (·.1) =
      (c.cases.zipIdx.filter P).map (·.1) := by
    rw [zip_casePasses agree, List.filter_map, List.map_map]
    rfl
  rw [← gating, ← passThreshold_le, ← passing, unfolded]
  simp only [Bool.and_eq_true, Bool.not_eq_true']
  split_ifs with both
  · exact ⟨fun _ => both, fun _ => rfl⟩
  · exact ⟨fun failed => (by cases failed), fun passed => absurd passed both⟩

open Classical in
/-- What a trial says of the run of a suite. -/
structure Decided (h : EvaluationHarness) (c : RunSuite) (trial : RecordedTrial) : Prop where
  valid : trial.status = .passed ∨ trial.status = .failed ↔ c.Valid h
  invalid : trial.status = .invalid ↔ ¬c.Valid h
  passed : c.Valid h → (trial.status = .passed ↔
    (∀ q ∈ c.cases.zipIdx, q.1.gating = true → c.Passes h q) ∧
      c.suite.resolved.passThreshold.value ≤
        weight ((c.cases.zipIdx.filter (c.Passes h)).map (·.1)) / weight c.cases)
  cost : trial.totalCostMicrounits = totalCost trial.caseResults

theorem decided_invalid {h : EvaluationHarness} {harnessVersion reason : String}
    (invalid : ¬c.Valid h) (recordable : c.Recordable results) (said : reason ≠ "") :
    ∃ trial, c.invalidTrial harnessVersion reason results = .ok trial ∧ Decided h c trial := by
  obtain ⟨trial, made, status, cost⟩ := c.invalidTrial_ok recordable said
  refine ⟨trial, made, ?_, ?_, fun valid => absurd valid invalid, cost⟩
  · simp [status, invalid]
  · simp [status, invalid]

open Classical in
theorem decided_valid {h : EvaluationHarness} {t : TrialFields} (valid : c.Valid h)
    (agree : List.Forall₂ (fun q r => casePasses r = true ↔ c.Passes h q) c.cases.zipIdx results)
    (executed : ∀ r ∈ results, r.subjectExecuted = true) (recordable : c.Recordable results)
    (status : t.status = c.status (results.map casePasses)) (recorded : t.caseResults = results)
    (own : t.trialId = c.trialId) (cost : t.totalCostMicrounits = totalCost results) :
    ∃ trial, RecordedTrial.make t = .ok trial ∧ Decided h c trial := by
  have some : results ≠ [] := by
    intro none
    have length := agree.length_eq
    rw [none, List.length_zipIdx] at length
    exact cases_ne_nil c (List.length_eq_zero_iff.mp length)
  have accepted : t.check = .ok () := by
    have decided := c.status_cases (results.map casePasses)
    rw [← status] at decided
    simp only [TrialFields.check, checks_cons, checks_nil, recorded, own, cost,
      recordable_trial recordable, and_true]
    refine ⟨decide_eq_false (not_lt.mpr (totalCost_nonneg recordable)), ?_, trivial, ?_⟩
    · have ran : results.any (!·.subjectExecuted) = false := by
        simpa [List.any_eq_false] using executed
      simp [some, ran]
    · obtain decided | decided := decided
      · simp [decided]
      · simp [decided]
  refine ⟨⟨t, accepted⟩, guarded_eq_ok.mpr ⟨accepted, rfl⟩, ?_, ?_, fun _ => ?_, ?_⟩
  · simp only [status, valid, iff_true]
    exact c.status_cases _
  · have decided := c.status_cases (results.map casePasses)
    simp only [status, valid, not_true, iff_false]
    obtain decided | decided := decided
    · rw [decided]
      decide
    · rw [decided]
      decide
  · rw [status]
    exact status_passed agree
  · rw [recorded]
    exact cost

theorem reason_ne_nil {what : String} (detail : String) (said : what ≠ "") :
    what ++ detail ≠ "" := by
  intro empty
  exact said (String.append_eq_empty_iff.mp empty).1

/-- A run of a suite returns a decided trial, whatever the executor and the graders do, unless one
of them raises what `except Exception` does not catch. -/
theorem runSuite_decides (h : EvaluationHarness) (c : RunSuite) :
    (∃ e, runSuite h c = .error e ∧ e.isA .exception = false) ∨
      ∃ trial, runSuite h c = .ok trial ∧ Decided h c trial := by
  have nothing : c.Recordable [] := fun _ there => absurd there List.not_mem_nil
  unfold runSuite
  by_cases protect : c.suite.unprotected = true
  · rw [if_neg (by simp [protect])]
    cases hasExecutor : h.subjectExecutor with
    | none =>
      refine .inr (decided_invalid ?_ nothing (by decide))
      rintro ⟨_, executor, _, has, _⟩
      cases hasExecutor.symm.trans has
    | some executor =>
      cases hasPipeline : h.graderPipeline with
      | none =>
        refine .inr (decided_invalid ?_ nothing (by decide))
        rintro ⟨_, _, pipeline, _, has, _⟩
        cases hasPipeline.symm.trans has
      | some pipeline =>
        have valid : c.Valid h ↔ ∀ q ∈ c.cases.zipIdx, ∃ execution grades,
            c.Ran executor pipeline q.2 q.1 execution grades ∧ Sound execution grades := by
          constructor
          · rintro ⟨_, executor', pipeline', has, has', sound⟩
            cases hasExecutor.symm.trans has
            cases hasPipeline.symm.trans has'
            exact sound
          · exact fun sound => ⟨protect, executor, pipeline, hasExecutor, hasPipeline, sound⟩
        dsimp only
        have loop := c.loopEnd_runCases executor pipeline c.cases 0
        generalize c.runCases executor pipeline 0 c.cases = ended at loop
        cases loop with
        | raised uncaught => exact .inl ⟨_, rfl, uncaught⟩
        | left failed said recordable =>
          obtain ⟨q, there, failed⟩ := failed
          refine .inr (decided_invalid ?_ recordable said)
          intro sound
          obtain ⟨execution, grades, ran, _⟩ := valid.mp sound q there
          exact failed execution grades ran
        | @ran results ran recordable =>
          right
          rw [← sound_iff ran] at valid
          cases conflict : identityConflict results with
          | some graderId =>
            simp only [bind, Except.bind, conflict]
            apply decided_invalid _ recordable (reason_ne_nil _ (by decide))
            simp [valid, conflict]
          | none =>
            cases doubt : uncertain results with
            | some grade =>
              simp only [bind, Except.bind, conflict, doubt]
              apply decided_invalid _ recordable
              · rw [String.append_assoc, String.append_assoc]
                exact reason_ne_nil _ (by decide)
              · simp [valid, doubt]
            | none =>
              simp only [bind, Except.bind, conflict, doubt]
              refine decided_valid (valid.mpr ⟨conflict, doubt⟩) ?_ ?_ recordable rfl rfl rfl rfl
              · apply ran.imp
                rintro q r ⟨execution, grades, ran, rfl⟩
                exact casePasses_record hasExecutor hasPipeline ran
              · exact ran_executed ran
  · rw [if_pos (by simpa using protect)]
    refine .inr (decided_invalid ?_ nothing (by decide))
    exact fun valid => protect valid.1

end RunSuite

end Autonoesis.Evaluation
