import Autonoesis.Application.Actions
import Autonoesis.Base.Versioned
import Autonoesis.Domain.Improvement
import Autonoesis.Runtime.Gateway
import Autonoesis.Runtime.Moves

/-!
# Concurrent updates of one aggregate

Every command of the application services that changes a Goal, Run, Task, Action, approval
request, candidate or deployment reads it, computes the value to save and saves it where the
stored version is still the one it read. Commands of any number of clients are interleaved,
and a client may save in a later transaction than the one it has read in.
-/

namespace Autonoesis
open Base

/-! ## What the commands save -/

/-- The commands on a Run: a validated plan binds the execution snapshot and starts it, every
other command takes one transition. -/
inductive Run.Saves (run updated : Run) : Prop
  | transition {target : RunStatus} {actorId : Uuid} {reason : String} {at_ : Instant}
      (moved : run.transitionTo target actorId reason at_ = .ok updated)
  | start {snapshot : RunExecutionSnapshot} {actorId : Uuid} {at_ : Instant}
      (moved : App.startRun run snapshot actorId at_ = .ok updated)

/-- The commands on a Task. -/
inductive Task.Saves (task updated : Task) : Prop
  | start {actorId : Uuid} {readyAt startedAt : Instant}
      (moved : App.startedTask task actorId readyAt startedAt = .ok updated)
  | complete {target : TaskStatus} {actorId : Uuid} {reason : String} {at_ : Instant}
      (moved : task.transitionTo target actorId reason at_ = .ok updated)

/-- The unique keys of the table of attempts, beside its primary key. -/
inductive AttemptKey where
  | invocation (tenantId invocationId : Uuid) (status : ActionAttemptStatus)
  | idempotency (tenantId : Uuid) (idempotencyKey : String)
  deriving DecidableEq

/-- What `uq_action_attempt_invocation_status` and `uq_action_attempt_idempotency` hold of an
attempt. -/
def ActionAttempt.keys (a : ActionAttempt) : List AttemptKey :=
  [.invocation a.tenantId a.invocationId a.status, .idempotency a.tenantId a.idempotencyKey]

/-- The commands on an Action, with the keys of the attempt their transaction inserts. What
`execute_governed_action` saves is what the gateway returned, in a transaction after the call. -/
inductive Action.Saves [Sha256] (action : Action) : List AttemptKey → Action → Prop
  | transition {updated : Action} {target : ActionStatus} {actorId : Uuid} {reason : String}
      {at_ : Instant} (moved : action.transitionTo target actorId reason at_ = .ok updated) :
      action.Saves [] updated
  | governed {c : Gateway.Call} {h : List GatewayEvent} {result : GatewayResult}
      {attempt : ActionAttempt} (given : c.action = action)
      (returned : Prog.Exec c.prog h (.ret result)) (about : attempt.actionId = action.actionId) :
      action.Saves attempt.keys result.action
  | attempted {updated : Action} {cmd : RecordActionAttempt} {actorId : Uuid}
      {startedAt settledAt : Instant} {attempt : ActionAttempt}
      (executable : action.status = .authorized ∨ action.status = .executing)
      (moved : App.attemptedAction action cmd actorId startedAt settledAt = .ok updated)
      (about : attempt.tenantId = action.tenantId ∧ attempt.actionId = action.actionId ∧
        attempt.invocationId = cmd.invocationId ∧ attempt.status = cmd.status) :
      action.Saves attempt.keys updated
  | reconciled {updated : Action} {target : ActionStatus} {actorId : Uuid} {reason : String}
      {at_ : Instant} {attempt : ActionAttempt} (unknown : action.status = .unknown)
      (moved : action.transitionTo target actorId reason at_ = .ok updated)
      (about : attempt.actionId = action.actionId) : action.Saves attempt.keys updated

/-- The commands on a candidate. -/
inductive CandidateVersion.Saves (candidate updated : CandidateVersion) : Prop
  | submitted {actorId : Uuid} {reason : String} {at_ : Instant}
      (moved : candidate.transitionTo .evaluating actorId reason at_ = .ok updated)
  | evaluated {target : CandidateStatus} {grader : Uuid} {at_ : Instant}
      (moved : candidate.recordEvaluation target grader at_ = .ok updated)
  | decided {target : CandidateStatus} {approver : Uuid} {reason : String} {at_ : Instant}
      (moved : candidate.recordApproval target approver reason at_ = .ok updated)

/-- The commands on a deployment. -/
inductive Deployment.Saves (deployment updated : Deployment) : Prop
  | promoted {allocation : TrafficAllocation} {actorId : Uuid} {reason : String} {at_ : Instant}
      (moved : deployment.enterCanary allocation actorId reason at_ = .ok updated)
  | transition {target : DeploymentStatus} {actorId : Uuid} {reason : String} {at_ : Instant}
      (moved : deployment.transitionTo target actorId reason at_ = .ok updated)

/-! ## Aggregates and their rows -/

inductive AggregateKind where
  | goal | run | task | action | approval | candidate | deployment
  deriving DecidableEq

def AggregateKind.value : AggregateKind → String
  | goal => "goal"
  | run => "run"
  | task => "task"
  | action => "action"
  | approval => "approval"
  | candidate => "candidate"
  | deployment => "deployment"

inductive Aggregate where
  | goal (goal : GoalContract)
  | run (run : Run)
  | task (task : Task)
  | action (action : Action)
  | approval (approval : ApprovalRequest)
  | candidate (candidate : CandidateVersion)
  | deployment (deployment : Deployment)

namespace Aggregate

/-- The table of the aggregate and its primary key there. -/
def key : Aggregate → AggregateKind × Uuid
  | goal g => (.goal, g.goalId)
  | run r => (.run, r.runId)
  | task t => (.task, t.taskId)
  | action a => (.action, a.actionId)
  | approval a => (.approval, a.approvalId)
  | candidate c => (.candidate, c.candidateId)
  | deployment d => (.deployment, d.deploymentId)

def tenantId : Aggregate → Uuid
  | goal g => g.tenantId
  | run r => r.tenantId
  | task t => t.tenantId
  | action a => a.tenantId
  | approval a => a.tenantId
  | candidate c => c.tenantId
  | deployment d => d.tenantId

def version : Aggregate → Int
  | goal g => g.version
  | run r => r.optimisticVersion
  | task t => t.optimisticVersion
  | action a => a.optimisticVersion
  | approval a => a.optimisticVersion
  | candidate c => c.optimisticVersion
  | deployment d => d.optimisticVersion

def transitions : Aggregate → List StateTransition
  | goal g => g.transitions
  | run r => r.transitions
  | task t => t.transitions
  | action a => a.transitions
  | approval a => a.transitions
  | candidate c => c.transitions
  | deployment d => d.transitions

def reviews : Aggregate → List ApprovalReview
  | approval a => a.reviews
  | _ => []

/-- What a client that has read an aggregate may save, with the keys its transaction inserts. -/
inductive Saves [Sha256] : Aggregate → List AttemptKey → Aggregate → Prop
  | goal {g g' : GoalContract} {target : GoalStatus} {actorId : Uuid} {reason : String}
      {at_ : Instant} (moved : g.transitionTo target actorId reason at_ = .ok g') :
      Saves (goal g) [] (goal g')
  | run {r r' : Run} (saves : r.Saves r') : Saves (run r) [] (run r')
  | task {t t' : Task} (saves : t.Saves t') : Saves (task t) [] (task t')
  | action {a a' : Action} {keys : List AttemptKey} (saves : a.Saves keys a') :
      Saves (action a) keys (action a')
  | approval {a a' : ApprovalRequest} {approverId : Uuid} {approved : Bool} {reason : String}
      {principalId : Option Uuid} {now : Instant}
      (decided : a.decide approverId approved reason principalId now = .ok a') :
      Saves (approval a) [] (approval a')
  | candidate {c c' : CandidateVersion} (saves : c.Saves c') :
      Saves (candidate c) [] (candidate c')
  | deployment {d d' : Deployment} (saves : d.Saves d') : Saves (deployment d) [] (deployment d')

/-- The version a save expects: the caller passes the one it read, but `save_candidate` and
`save_deployment` take it from the value to save. -/
def expectedVersion (read : Aggregate) : Aggregate → Int
  | candidate c => c.optimisticVersion - 1
  | deployment d => d.optimisticVersion - 1
  | _ => read.version

/-- The `WHERE` clause of a save, beside the primary key. -/
def matching (read saved row : Aggregate) : Bool :=
  row.tenantId = saved.tenantId && row.version = read.expectedVersion saved

/-- The save methods of the SQL repository. -/
def save (rows : Dict (AggregateKind × Uuid) Aggregate) (read saved : Aggregate) :
    Except Exc (Dict (AggregateKind × Uuid) Aggregate) :=
  match Versioned.update (matching read saved) rows saved.key saved with
  | some rows' => .ok rows'
  | none => .error (.concurrencyConflict (saved.key.1.value ++ " optimistic version changed"))

/-- Clients reading and saving aggregates. -/
def updates [Sha256] : Versioned.Protocol (AggregateKind × Uuid) Aggregate AttemptKey where
  key := key
  version := version
  Saves := Saves
  matching := matching

/-- A later version: the log has grown, or one review has been added. -/
structure Advances (a b : Aggregate) : Prop where
  version : a.version < b.version
  log : (∃ t more, b.transitions = a.transitions ++ t :: more) ∨
    b.transitions = a.transitions ∧ ∃ review, b.reviews = a.reviews ++ [review]

/-- What a save makes of the aggregate it was computed from. `record_action_attempt` saves an
executing Action as it is when it records that the attempt has started. -/
inductive Follows (a b : Aggregate) : Prop
  | advances (advances : a.Advances b)
  | attemptStarted {executing : Action} (status : executing.status = .executing)
      (read : a = action executing) (same : b = a)

end Aggregate

/-! ## Every save grows the log -/

/-- A version and a log, and a later version with a longer log. -/
def Grows (x y : Int × List StateTransition) : Prop :=
  x.1 < y.1 ∧ ∃ t more, y.2 = x.2 ++ t :: more

theorem grows_one (version : Int) (log : List StateTransition) (t : StateTransition) :
    Grows (version, log) (version + 1, log ++ [t]) :=
  ⟨Int.lt_add_one_of_le (Int.le_refl version), t, [], rfl⟩

theorem Grows.trans {x y z : Int × List StateTransition} (first : Grows x y)
    (second : Grows y z) : Grows x z := by
  obtain ⟨later, t, more, log⟩ := first
  obtain ⟨later', t', more', log'⟩ := second
  refine ⟨Int.lt_trans later later', t, more ++ t' :: more', ?_⟩
  rw [log', log, List.append_assoc, List.cons_append]

theorem Run.Saves.spec {run updated : Run} (saves : run.Saves updated) :
    updated.runId = run.runId ∧
      Grows (run.optimisticVersion, run.transitions)
        (updated.optimisticVersion, updated.transitions) := by
  cases saves with
  | transition moved =>
    rw [(Run.transitionTo_ok moved).2]
    exact ⟨rfl, grows_one ..⟩
  | start moved =>
    simp only [App.startRun, bind_eq_ok] at moved
    obtain ⟨_, _, bound, binding, moved⟩ := moved
    rw [(Run.transitionTo_ok moved).2]
    have same := (Run.bindExecution_ok binding).2
    rw [RunFields.moved, same]
    exact ⟨rfl, grows_one ..⟩

theorem Task.transitionTo_spec {task updated : Task} {target : TaskStatus} {actorId : Uuid}
    {reason : String} {at_ : Instant}
    (moved : task.transitionTo target actorId reason at_ = .ok updated) :
    updated.taskId = task.taskId ∧
      Grows (task.optimisticVersion, task.transitions)
        (updated.optimisticVersion, updated.transitions) := by
  rw [(Task.transitionTo_ok moved).2]
  exact ⟨rfl, grows_one ..⟩

theorem Task.Saves.spec {task updated : Task} (saves : task.Saves updated) :
    updated.taskId = task.taskId ∧
      Grows (task.optimisticVersion, task.transitions)
        (updated.optimisticVersion, updated.transitions) := by
  cases saves with
  | complete moved => exact Task.transitionTo_spec moved
  | start moved =>
    unfold App.startedTask at moved
    split at moved
    · obtain ⟨ready, readied, moved⟩ := bind_eq_ok.mp moved
      obtain ⟨same, grown⟩ := Task.transitionTo_spec readied
      obtain ⟨same', grown'⟩ := Task.transitionTo_spec moved
      exact ⟨same'.trans same, grown.trans grown'⟩
    · exact Task.transitionTo_spec moved

theorem Action.transitionTo_spec {action updated : Action} {target : ActionStatus}
    {actorId : Uuid} {reason : String} {at_ : Instant}
    (moved : action.transitionTo target actorId reason at_ = .ok updated) :
    updated.actionId = action.actionId ∧
      Grows (action.optimisticVersion, action.transitions)
        (updated.optimisticVersion, updated.transitions) := by
  rw [(Action.transitionTo_ok moved).2]
  exact ⟨rfl, grows_one ..⟩

theorem Action.Moves.spec {action updated : Action} (moves : action.Moves updated) :
    updated.actionId = action.actionId ∧
      Grows (action.optimisticVersion, action.transitions)
        (updated.optimisticVersion, updated.transitions) := by
  induction moves with
  | single moved =>
    obtain ⟨_, _, _, _, moved⟩ := moved
    exact Action.transitionTo_spec moved
  | tail _ moved ih =>
    obtain ⟨_, _, _, _, moved⟩ := moved
    obtain ⟨same, grown⟩ := Action.transitionTo_spec moved
    exact ⟨same.trans ih.1, ih.2.trans grown⟩

/-- An attempt moves the Action on, unless it only reports the start of one that executes. -/
theorem App.attemptedAction_cases {action updated : Action} {cmd : RecordActionAttempt}
    {actorId : Uuid} {startedAt settledAt : Instant}
    (executable : action.status = .authorized ∨ action.status = .executing)
    (h : App.attemptedAction action cmd actorId startedAt settledAt = .ok updated) :
    action.Moves updated ∨ action.status = .executing ∧ updated = action := by
  have settles (executing : Action)
      (h : App.settledAction executing cmd actorId settledAt = .ok updated) :
      Action.Moves executing updated ∨ updated = executing := by
    unfold App.settledAction at h
    split at h
    · cases h
      exact .inr rfl
    · exact .inl (.single ⟨_, _, _, _, h⟩)
  unfold App.attemptedAction at h
  split at h
  · obtain ⟨executing, started, settled⟩ := bind_eq_ok.mp h
    rcases settles executing settled with moves | rfl
    · exact .inl (.head ⟨_, _, _, _, started⟩ moves)
    · exact .inl (.single ⟨_, _, _, _, started⟩)
  · rename_i other
    rcases settles action h with moves | same
    · exact .inl moves
    · exact .inr ⟨executable.resolve_left other, same⟩

theorem CandidateVersion.Saves.spec {candidate updated : CandidateVersion}
    (saves : candidate.Saves updated) :
    updated.candidateId = candidate.candidateId ∧
      updated.optimisticVersion = candidate.optimisticVersion + 1 ∧
      ∃ t, updated.transitions = candidate.transitions ++ [t] := by
  cases saves with
  | submitted moved =>
    rw [(CandidateVersion.transitionTo_ok moved).2]
    exact ⟨rfl, rfl, _, rfl⟩
  | evaluated moved =>
    simp only [CandidateVersion.recordEvaluation, bind_eq_ok] at moved
    obtain ⟨_, _, graded, moved, done⟩ := moved
    cases done
    dsimp only
    rw [(CandidateVersion.transitionTo_ok moved).2]
    exact ⟨rfl, rfl, _, rfl⟩
  | decided moved =>
    simp only [CandidateVersion.recordApproval, bind_eq_ok] at moved
    obtain ⟨_, _, _, _, decided, moved, done⟩ := moved
    cases done
    dsimp only
    rw [(CandidateVersion.transitionTo_ok moved).2]
    exact ⟨rfl, rfl, _, rfl⟩

theorem Deployment.Saves.spec {deployment updated : Deployment}
    (saves : deployment.Saves updated) :
    updated.deploymentId = deployment.deploymentId ∧
      updated.optimisticVersion = deployment.optimisticVersion + 1 ∧
      ∃ t, updated.transitions = deployment.transitions ++ [t] := by
  cases saves with
  | transition moved =>
    rw [(Deployment.transitionTo_ok moved).2]
    exact ⟨rfl, rfl, _, rfl⟩
  | promoted moved =>
    simp only [Deployment.enterCanary, bind_eq_ok] at moved
    obtain ⟨promoted, moved, done⟩ := moved
    cases done
    dsimp only
    rw [(Deployment.transitionTo_ok moved).2]
    exact ⟨rfl, rfl, _, rfl⟩

/-- A decision ends the request with one more record, or adds one review to it. -/
theorem ApprovalRequest.decide_spec {a decided : ApprovalRequest} {approverId : Uuid}
    {approved : Bool} {reason : String} {principalId : Option Uuid} {now : Instant}
    (h : a.decide approverId approved reason principalId now = .ok decided) :
    decided.approvalId = a.approvalId ∧ a.optimisticVersion < decided.optimisticVersion ∧
      ((∃ t, decided.transitions = a.transitions ++ [t]) ∨
        decided.transitions = a.transitions ∧
          ∃ review, decided.reviews = a.reviews ++ [review]) := by
  have later : a.optimisticVersion < a.optimisticVersion + 1 := Int.lt_succ _
  simp only [decide, bind_eq_ok] at h
  obtain ⟨_, _, _, _, _, _, h⟩ := h
  split at h
  · obtain ⟨t, _, made⟩ := bind_eq_ok.mp h
    obtain ⟨_, rfl⟩ := guarded_eq_ok.mp made
    exact ⟨rfl, later, .inl ⟨t, rfl⟩⟩
  · split at h
    · obtain ⟨_, rfl⟩ := guarded_eq_ok.mp h
      exact ⟨rfl, later, .inr ⟨rfl, _, rfl⟩⟩
    · obtain ⟨t, _, made⟩ := bind_eq_ok.mp h
      obtain ⟨_, rfl⟩ := guarded_eq_ok.mp made
      exact ⟨rfl, later, .inl ⟨t, rfl⟩⟩

/-- A save of an Action moves it on, unless it only reports the start of an attempt on one
that executes. -/
theorem Action.Saves.cases [Sha256] {action updated : Action} {keys : List AttemptKey}
    (saves : action.Saves keys updated) :
    action.Moves updated ∨ action.status = .executing ∧ updated = action := by
  cases saves with
  | transition moved => exact .inl (.single ⟨_, _, _, _, moved⟩)
  | governed given returned =>
    subst given
    exact .inl (Gateway.Call.returned_moves returned)
  | attempted executable moved => exact App.attemptedAction_cases executable moved
  | reconciled _ moved => exact .inl (.single ⟨_, _, _, _, moved⟩)

/-! ## Saves follow each other -/

namespace Aggregate

section
variable [Sha256] {a b : Aggregate} {keys : List AttemptKey}

omit [Sha256] in
theorem Grows.advances (grown : Grows (a.version, a.transitions) (b.version, b.transitions)) :
    a.Advances b :=
  ⟨grown.1, .inl grown.2⟩

/-- A save keeps the key, and is of a later version unless it changes nothing. -/
theorem Saves.spec (saves : a.Saves keys b) : b.key = a.key ∧ a.Follows b := by
  cases saves with
  | goal moved =>
    refine ⟨?_, .advances (Grows.advances ?_)⟩ <;> simp only [key, version, transitions]
    · rw [(GoalContract.transitionTo_ok moved).2]
      rfl
    · rw [(GoalContract.transitionTo_ok moved).2]
      exact grows_one ..
  | run saves =>
    obtain ⟨same, grown⟩ := saves.spec
    exact ⟨congrArg (Prod.mk _) same, .advances (Grows.advances grown)⟩
  | task saves =>
    obtain ⟨same, grown⟩ := saves.spec
    exact ⟨congrArg (Prod.mk _) same, .advances (Grows.advances grown)⟩
  | action saves =>
    rcases saves.cases with moves | ⟨executing, rfl⟩
    · obtain ⟨same, grown⟩ := moves.spec
      exact ⟨congrArg (Prod.mk _) same, .advances (Grows.advances grown)⟩
    · exact ⟨rfl, .attemptStarted executing rfl rfl⟩
  | approval decided =>
    obtain ⟨same, later, ended | reviewed⟩ := ApprovalRequest.decide_spec decided
    · obtain ⟨t, log⟩ := ended
      exact ⟨congrArg (Prod.mk _) same, .advances ⟨later, .inl ⟨t, [], log⟩⟩⟩
    · exact ⟨congrArg (Prod.mk _) same, .advances ⟨later, .inr reviewed⟩⟩
  | candidate saves =>
    obtain ⟨same, next, t, log⟩ := saves.spec
    refine ⟨congrArg (Prod.mk _) same, .advances ⟨?_, .inl ⟨t, [], log⟩⟩⟩
    simp only [version, next]
    exact Int.lt_succ _
  | deployment saves =>
    obtain ⟨same, next, t, log⟩ := saves.spec
    refine ⟨congrArg (Prod.mk _) same, .advances ⟨?_, .inl ⟨t, [], log⟩⟩⟩
    simp only [version, next]
    exact Int.lt_succ _

/-- The version a save expects is the one its client has read, also where the save method
takes it from the value to save. -/
theorem Saves.expectedVersion_eq (saves : a.Saves keys b) : a.expectedVersion b = a.version := by
  cases saves with
  | candidate saves =>
    obtain ⟨_, next, _⟩ := saves.spec
    simp only [expectedVersion, version, next, Int.add_sub_cancel]
  | deployment saves =>
    obtain ⟨_, next, _⟩ := saves.spec
    simp only [expectedVersion, version, next, Int.add_sub_cancel]
  | _ => rfl

theorem updates_lawful : updates.Lawful where
  key_eq saves := saves.spec.1
  later saves := by
    rcases saves.spec.2 with ⟨later, _⟩ | ⟨_, _, same⟩
    · exact .inr later
    · exact .inl same
  version_eq saves matched := by
    simp only [updates, matching, Bool.and_eq_true, decide_eq_true_eq] at matched
    exact matched.2.trans saves.expectedVersion_eq

/-- However the commands of any number of clients are interleaved, what is stored of an
aggregate is the value committed last, each committed value is what a command made of the one
before, with a later version and a longer log or one more review, or is the executing Action
an attempt has started on; and a save whose client has read another value than the stored one
raises and changes nothing. -/
theorem updates_serial {s : Versioned.State (AggregateKind × Uuid) Aggregate AttemptKey}
    (reach : Versioned.Reachable updates s) :
    (∀ k, s.rows.get? k = (s.historyOf updates k).getLast? ∧
      (s.historyOf updates k).IsChain fun a b => (∃ keys, a.Saves keys b) ∧ a.Follows b) ∧
    ∀ i a keys b, s.clients i = some a → a.Saves keys b → s.rows.get? a.key ≠ some a →
      save s.rows a b = .error
        (.concurrencyConflict (b.key.1.value ++ " optimistic version changed")) := by
  have sound := reach.sound updates_lawful
  refine ⟨fun k => ⟨sound.last k, ?_⟩, fun i a keys b here saves stale => ?_⟩
  · exact (sound.chain k).imp fun a b saves => ⟨saves, saves.choose_spec.spec.2⟩
  · have missed := sound.stale updates_lawful here saves stale
    simp only [save]
    rw [show Versioned.update (matching a b) s.rows b.key b = none from missed]

end

/-! ## An attempt recorded twice -/

namespace Sample
attribute [local instance] Gateway.Sample.sha256

/-- The Action of the examples once `authorize_action_at_execution_time` has allowed it. -/
def authorized : Action where
  toActionFields :=
    Gateway.Sample.action.moved .authorized ⟨"proposed", "authorized", 10, "allowed", 5⟩
  valid := by decide

/-- An attempt on it has started. -/
def executing : Action where
  toActionFields :=
    authorized.moved .executing ⟨"authorized", "executing", 11, "tool invocation started", 5⟩
  valid := by decide

/-- The report of a start, for an invocation. -/
def started (invocationId : Uuid) : RecordActionAttempt where
  actionId := 4
  invocationId := invocationId
  status := .started
  receiptRef := "gateway://started"
  executorIdentity := "worker"

/-- The attempt that is recorded of it, under an idempotency key. -/
def attempt (invocationId : Uuid) (idempotencyKey : String)
    (named : isBlank idempotencyKey = false) : ActionAttempt where
  tenantId := 1
  runId := 2
  actionId := 4
  invocationId := invocationId
  status := .started
  idempotencyKey := idempotencyKey
  receiptRef := "gateway://started"
  executorIdentity := "worker"
  attemptId := 20 + invocationId
  recordedAt := 12
  valid := by
    have others : isBlank "gateway://started" = false ∧ isBlank "worker" = false := by decide
    simp [ActionAttemptFields.check, named, others]

def first : ActionAttempt := attempt 7 "start-1" (by decide)

def second : ActionAttempt := attempt 8 "start-2" (by decide)

theorem saves_authorized : Saves (.action Gateway.Sample.action) [] (.action authorized) :=
  .action (.transition (show Gateway.Sample.action.transitionTo .authorized 5 "allowed" 10 =
    .ok authorized by decide))

theorem saves_started : Saves (.action authorized) first.keys (.action executing) :=
  .action (.attempted (.inl rfl)
    (show App.attemptedAction authorized (started 7) 5 11 12 = .ok executing by decide)
    ⟨rfl, rfl, rfl, rfl⟩)

theorem saves_started_again : Saves (.action executing) second.keys (.action executing) :=
  .action (.attempted (.inr rfl)
    (show App.attemptedAction executing (started 8) 5 13 14 = .ok executing by decide)
    ⟨rfl, rfl, rfl, rfl⟩)

/-- One client proposes the Action, authorizes it and reports the start of an attempt. -/
theorem reached : ∃ rows, Versioned.Reachable updates
      ⟨rows, [.action Gateway.Sample.action, .action authorized, .action executing], first.keys,
        fun _ => none⟩ ∧
    rows.get? (updates.key (.action executing)) = some (.action executing) := by
  have proposed : Versioned.Reachable updates
      ⟨Dict.set .empty (AggregateKind.action, 4) (.action Gateway.Sample.action),
        [.action Gateway.Sample.action], [], fun _ => none⟩ :=
    Relation.ReflTransGen.single
      (Versioned.Step.add (p := updates) (Aggregate.action Gateway.Sample.action) rfl)
  have allowed := proposed.save (Dict.get?_set_self ..) saves_authorized (by simp) rfl (by decide)
  have begun := allowed.save (Dict.get?_set_self ..) saves_started (by simp) rfl (by decide)
  exact ⟨_, begun, Dict.get?_set_self ..⟩

/-- The start of another invocation is reported while the Action executes: the Action is saved as
it is, and its version does not increase. -/
theorem attempt_started_twice : ¬ ∀ s, Versioned.Reachable updates s →
    ∀ k, (s.historyOf updates k).IsChain fun a b => a.version < b.version := by
  intro increases
  obtain ⟨rows, begun, found⟩ := reached
  have again := begun.save found saves_started_again (by decide) rfl (by decide)
  have chain : [(1 : Int), 2, 3, 3].IsChain (· < ·) :=
    (List.isChain_map version).mpr (increases _ again (AggregateKind.action, 4))
  exact absurd chain (by decide)

theorem updates_serial_attempt :
    ∃ s, Versioned.Reachable updates s ∧ s.history.length = 3 ∧
      (s.historyOf updates (AggregateKind.action, 4)).IsChain
        fun a b => (∃ keys, a.Saves keys b) ∧ a.Follows b := by
  obtain ⟨rows, begun, _⟩ := reached
  exact ⟨_, begun, rfl, ((updates_serial begun).1 _).2⟩

end Sample

end Aggregate

end Autonoesis
