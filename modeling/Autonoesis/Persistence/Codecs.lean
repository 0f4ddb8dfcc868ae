import Autonoesis.Base.Stored
import Autonoesis.Persistence.ActionCodec
import Autonoesis.Persistence.ContextCodec
import Autonoesis.Persistence.EvidenceCodec
import Autonoesis.Persistence.EvolutionCodec
import Autonoesis.Persistence.TrialCodec
import Autonoesis.Persistence.Updates

/-!
# What the repository writes, it reads back

An aggregate is inserted once, and what the commands make of it is saved over its row. A save leaves
the columns of the identity as they are, and no command changes them; so the row is always that of
the value stored last. Everything else is only inserted.

The payloads of environment facts, of the cases of a suite and of the results of a trial may hold
any value, and a column gives back a JSON value. So these are read back exactly if they were JSON
values before.
-/

namespace Autonoesis
open Base

def goalCodec : RowCodec GoalContract GoalRow Exc where
  row := GoalContract.row
  save := GoalContract.save
  read := goalFromRow
  save_row _ := rfl
  save_save _ _ _ := rfl

def runCodec : RowCodec Run RunRow Exc where
  row := Run.row
  save := Run.save
  read := runFromRow
  save_row _ := rfl
  save_save _ _ _ := rfl

/-- The tasks of one plan. -/
def taskCodec (planId : Uuid) : RowCodec Task TaskRow Exc where
  row := Task.row planId
  save := Task.save
  read := taskFromRow
  save_row _ := rfl
  save_save _ _ _ := rfl

def actionCodec [Sha256] : RowCodec Action ActionRow Exc where
  row := Action.row
  save := Action.save
  read := actionFromRow
  save_row _ := rfl
  save_save _ _ _ := rfl

def approvalCodec : RowCodec ApprovalRequest ApprovalRow Exc where
  row := ApprovalRequest.row
  save := ApprovalRequest.save
  read := approvalFromRow
  save_row _ := rfl
  save_save _ _ _ := rfl

def candidateCodec : RowCodec CandidateVersion CandidateRow Exc where
  row := CandidateVersion.row
  save := CandidateVersion.save
  read := candidateFromRow
  save_row _ := rfl
  save_save _ _ _ := rfl

def deploymentCodec : RowCodec Deployment DeploymentRow Exc where
  row := Deployment.row
  save := Deployment.save
  read := deploymentFromRow
  save_row _ := rfl
  save_save _ _ _ := rfl

/-! ## No command changes a column that a save leaves -/

theorem goal_keeps {g g' : GoalContract} {target : GoalStatus} {actorId : Uuid} {reason : String}
    {at_ : Instant} (moved : g.transitionTo target actorId reason at_ = .ok g') :
    goalCodec.Keeps g g' := by
  have same := (GoalContract.transitionTo_ok moved).2
  simp only [RowCodec.Keeps, goalCodec, GoalContract.save, GoalContract.row, same,
    GoalFields.moved]

theorem run_moves_keeps {run updated : Run} {target : RunStatus} {actorId : Uuid}
    {reason : String} {at_ : Instant}
    (moved : run.transitionTo target actorId reason at_ = .ok updated) :
    runCodec.Keeps run updated := by
  have same := (Run.transitionTo_ok moved).2
  simp only [RowCodec.Keeps, runCodec, Run.save, Run.row, same, RunFields.moved]

theorem run_keeps {run updated : Run} (saves : run.Saves updated) :
    runCodec.Keeps run updated := by
  cases saves with
  | transition moved => exact run_moves_keeps moved
  | start moved =>
    simp only [App.startRun, bind_eq_ok] at moved
    obtain ⟨_, _, bound, binding, moved⟩ := moved
    have same := (Run.bindExecution_ok binding).2
    have first : runCodec.Keeps run bound := by
      simp only [RowCodec.Keeps, runCodec, Run.save, Run.row, same]
    exact first.trans (run_moves_keeps moved)

theorem task_moves_keeps {planId : Uuid} {task updated : Task} {target : TaskStatus}
    {actorId : Uuid} {reason : String} {at_ : Instant}
    (moved : task.transitionTo target actorId reason at_ = .ok updated) :
    (taskCodec planId).Keeps task updated := by
  have same := (Task.transitionTo_ok moved).2
  simp only [RowCodec.Keeps, taskCodec, Task.save, Task.row, same, TaskFields.moved]

theorem task_keeps {planId : Uuid} {task updated : Task} (saves : task.Saves updated) :
    (taskCodec planId).Keeps task updated := by
  cases saves with
  | complete moved => exact task_moves_keeps moved
  | start moved =>
    unfold App.startedTask at moved
    split at moved
    · obtain ⟨ready, readied, moved⟩ := bind_eq_ok.mp moved
      exact (task_moves_keeps readied).trans (task_moves_keeps moved)
    · exact task_moves_keeps moved

theorem action_keeps [Sha256] {action updated : Action} {keys : List AttemptKey}
    (saves : action.Saves keys updated) : actionCodec.Keeps action updated := by
  rcases saves.cases with moves | ⟨_, rfl⟩
  · refine RowCodec.keeps_of_transGen (fun a b step => ?_) moves
    obtain ⟨_, _, _, _, moved⟩ := step
    have same := (Action.transitionTo_ok moved).2
    simp only [RowCodec.Keeps, actionCodec, Action.save, Action.row, same, ActionFields.moved]
  · exact RowCodec.Keeps.refl _

theorem approval_keeps {a decided : ApprovalRequest} {approverId : Uuid} {approved : Bool}
    {reason : String} {principalId : Option Uuid} {now : Instant}
    (h : a.decide approverId approved reason principalId now = .ok decided) :
    approvalCodec.Keeps a decided := by
  simp only [ApprovalRequest.decide, bind_eq_ok] at h
  obtain ⟨_, _, _, _, _, _, h⟩ := h
  split at h
  · obtain ⟨t, _, made⟩ := bind_eq_ok.mp h
    obtain ⟨_, rfl⟩ := guarded_eq_ok.mp made
    rfl
  · split at h
    · obtain ⟨_, rfl⟩ := guarded_eq_ok.mp h
      rfl
    · obtain ⟨t, _, made⟩ := bind_eq_ok.mp h
      obtain ⟨_, rfl⟩ := guarded_eq_ok.mp made
      rfl

theorem candidate_moves_keeps {candidate updated : CandidateVersion} {target : CandidateStatus}
    {actorId : Uuid} {reason : String} {at_ : Instant}
    (moved : candidate.transitionTo target actorId reason at_ = .ok updated) :
    candidateCodec.Keeps candidate updated := by
  have same := (CandidateVersion.transitionTo_ok moved).2
  simp only [RowCodec.Keeps, candidateCodec, CandidateVersion.save, CandidateVersion.row, same,
    CandidateFields.moved]

theorem candidate_keeps {candidate updated : CandidateVersion} (saves : candidate.Saves updated) :
    candidateCodec.Keeps candidate updated := by
  cases saves with
  | submitted moved => exact candidate_moves_keeps moved
  | evaluated moved =>
    simp only [CandidateVersion.recordEvaluation, bind_eq_ok] at moved
    obtain ⟨_, _, graded, moved, done⟩ := moved
    cases done
    exact (candidate_moves_keeps moved).trans rfl
  | decided moved =>
    simp only [CandidateVersion.recordApproval, bind_eq_ok] at moved
    obtain ⟨_, _, _, _, decided, moved, done⟩ := moved
    cases done
    exact (candidate_moves_keeps moved).trans rfl

theorem deployment_moves_keeps {deployment updated : Deployment} {target : DeploymentStatus}
    {actorId : Uuid} {reason : String} {at_ : Instant}
    (moved : deployment.transitionTo target actorId reason at_ = .ok updated) :
    deploymentCodec.Keeps deployment updated := by
  have same := (Deployment.transitionTo_ok moved).2
  simp only [RowCodec.Keeps, deploymentCodec, Deployment.save, Deployment.row, same,
    DeploymentFields.moved]

theorem deployment_keeps {deployment updated : Deployment} (saves : deployment.Saves updated) :
    deploymentCodec.Keeps deployment updated := by
  cases saves with
  | transition moved => exact deployment_moves_keeps moved
  | promoted moved =>
    simp only [Deployment.enterCanary, bind_eq_ok] at moved
    obtain ⟨promoted, moved, done⟩ := moved
    cases done
    exact (deployment_moves_keeps moved).trans rfl

/-! ## Every codec is lossless -/

/-- For every value that its constructors have accepted, what the repository has written is read
back as the value: of an aggregate after any saves, of an Outcome with its evidence as long as the
table of evidence only grows. -/
structure CodecsLossless [Sha256] : Prop where
  goals : goalCodec.Lossless (fun g g' => (Aggregate.goal g).Saves [] (.goal g'))
    GoalContract.Accepted
  runs : runCodec.Lossless Run.Saves Run.Accepted
  tasks : ∀ planId, (taskCodec planId).Lossless Task.Saves Task.Accepted
  actions : actionCodec.Lossless (fun a a' => ∃ keys, a.Saves keys a') Action.Accepted
  actionAttempts : ∀ attempt, actionAttemptFromRow attempt.row = .ok attempt
  approvals : approvalCodec.Lossless (fun a a' => (Aggregate.approval a).Saves [] (.approval a'))
    ApprovalRequest.Accepted
  evidence : ∀ item : Evidence, item.Accepted → evidenceFromRow item.row = .ok item
  outcomes : ∀ item, outcomeFromRow item.row item.evidence = .ok item
  addedOutcomes : ∀ evidence more item row, addOutcome evidence item = .ok row →
    getOutcome (evidence ++ more) item.tenantId row = .ok item
  contextSnapshots : ∀ snapshot : ContextSnapshot, snapshot.Accepted →
    ((∃ row, snapshot.row = .ok row ∧ contextSnapshotFromRow row = .ok snapshot) ↔
      ∀ fact ∈ snapshot.environmentFacts, Any.IsJson fact.value)
  memory : ∀ (item : MemoryRecord) now, item.check = .ok () →
    memoryFromRow (item.row now) = .ok item
  proposals : ∀ proposal, proposalFromRow proposal.row = .ok proposal
  candidates : candidateCodec.Lossless CandidateVersion.Saves CandidateVersion.Accepted
  deployments : deploymentCodec.Lossless Deployment.Saves Deployment.Accepted
  releases : ∀ release stableSlot active,
    releaseFromRow { Release.row stableSlot release with active := active } = .ok release
  shadowComparisons : ∀ comparison, shadowComparisonFromRow comparison.row = .ok comparison
  suites : ∀ (suite : EvaluationSuite) id tenantId, suite.Accepted →
    ((∃ row, suite.row id tenantId = .ok row ∧ suiteFromRow row = .ok suite) ↔
      ∀ case ∈ suite.cases, case.IsJson)
  trials : ∀ trial : RecordedTrial, trial.Accepted →
    ((∃ row, trial.row = .ok row ∧ trialFromRow row = .ok trial) ↔
      ∀ result ∈ trial.caseResults, result.IsJson)

theorem codecs_lossless [Sha256] : CodecsLossless where
  goals := by
    refine RowCodec.lossless (fun g g' saves => ?_) fun _ accepted => goalFromRow_row accepted
    cases saves with
    | goal moved => exact goal_keeps moved
  runs := RowCodec.lossless (fun _ _ saves => run_keeps saves)
    fun _ accepted => runFromRow_row accepted
  tasks planId := RowCodec.lossless (fun _ _ saves => task_keeps saves)
    fun _ accepted => taskFromRow_row planId accepted
  actions := RowCodec.lossless (fun _ _ ⟨_, saves⟩ => action_keeps saves)
    fun _ accepted => actionFromRow_row accepted
  actionAttempts := actionAttemptFromRow_row
  approvals := by
    refine RowCodec.lossless (fun a a' saves => ?_) fun _ accepted => approvalFromRow_row accepted
    cases saves with
    | approval decided => exact approval_keeps decided
  evidence _ accepted := evidenceFromRow_row accepted
  outcomes := outcomeFromRow_row
  addedOutcomes evidence more item row added := by
    obtain ⟨rfl, found⟩ := addOutcome_ok added
    exact getOutcome_row fun e there => getEvidence_append (found e there) more
  contextSnapshots _ accepted := contextSnapshotFromRow_row_iff accepted
  memory _ now accepted := memoryFromRow_row accepted now
  proposals := proposalFromRow_row
  candidates := RowCodec.lossless (fun _ _ saves => candidate_keeps saves)
    fun _ accepted => candidateFromRow_row accepted
  deployments := RowCodec.lossless (fun _ _ saves => deployment_keeps saves)
    fun _ accepted => deploymentFromRow_row accepted
  releases := releaseFromRow_row
  shadowComparisons := shadowComparisonFromRow_row
  suites _ id tenantId accepted := suiteFromRow_row_iff accepted id tenantId
  trials _ accepted := trialFromRow_row_iff accepted

namespace RecordedTrial.Sample
attribute [local instance] Gateway.Sample.sha256

def grade : GraderResult where
  trialId := 3
  graderId := "exact"
  graderVersion := "1"
  score := some 1
  passed := some true
  rationale := "equal"
  evidenceRefs := ["e1"]
  status := some .pass

def executed : TrialCaseResult where
  caseId := "c1"
  inputPayload := [("city", .str "Oslo")]
  outputPayload := some [("sky", .str "clear")]
  subjectExecuted := true
  graderResults := [grade]
  evidenceRefs := ["e1"]
  executorId := some "worker"
  environmentRef := some "pinned"

/-- A passed trial of one case. -/
def passed : RecordedTrial where
  tenantId := 1
  suiteId := "weather"
  suiteVersion := "1"
  subjectVersionId := 2
  harnessVersion := "1"
  trialId := 3
  status := .passed
  caseResults := [executed]
  startedAt := some 5
  completedAt := some 6
  valid := by decide

theorem passed_accepted : passed.Accepted where
  caseResults result there := by
    rw [List.mem_singleton.mp there]
    decide
  graderResults result there graded listed := by
    rw [List.mem_singleton.mp there] at listed
    rw [List.mem_singleton.mp listed]
    exact ⟨grade, by rfl⟩

theorem passed_read : ∃ row, passed.row = .ok row ∧ trialFromRow row = .ok passed := by
  refine (codecs_lossless.trials passed passed_accepted).mpr fun result there => ?_
  rw [List.mem_singleton.mp there]
  refine ⟨⟨[("city", .str "Oslo")], rfl⟩, ?_⟩
  rintro payload ⟨⟩
  exact ⟨[("sky", .str "clear")], rfl⟩

/-- The subject answers with a pair. -/
def located : TrialCaseResult :=
  { executed with outputPayload := some [("at", .tuple [.int 60, .int 11])] }

/-- The pair comes back as a list. -/
theorem pair_not_read : ¬∀ trial : RecordedTrial, trial.Accepted →
    ∃ row, trial.row = .ok row ∧ trialFromRow row = .ok trial := by
  intro lossless
  let trial : RecordedTrial := { passed with caseResults := [located], valid := by decide }
  have accepted : trial.Accepted := by
    refine ⟨fun result there => ?_, fun result there graded listed => ?_⟩
    · rw [List.mem_singleton.mp there]
      decide
    · rw [List.mem_singleton.mp there] at listed
      rw [List.mem_singleton.mp listed]
      exact ⟨grade, by rfl⟩
  have json := (trialFromRow_row_iff accepted).mp (lossless trial accepted) located
    List.mem_cons_self
  obtain ⟨members, same⟩ := json.outputPayload _ rfl
  cases members with
  | nil => cases same
  | cons member _ =>
    obtain ⟨_, v⟩ := member
    cases v <;> cases same

end RecordedTrial.Sample

end Autonoesis
