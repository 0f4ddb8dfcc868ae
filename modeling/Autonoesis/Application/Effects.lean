import Autonoesis.Application.Governed
import Autonoesis.Application.Capture

/-! What a command can do to the Goals, Runs, Tasks, Actions and Outcomes: `Change` lists every
way, and each command that returns made one of them. -/

namespace Autonoesis
open Base

/-- The five tables the completion of a Run is decided on. -/
structure Core where
  goals : Dict Uuid GoalContract
  runs : Dict Uuid Run
  tasks : Dict Uuid Task
  actions : Dict Uuid Action
  outcomes : Dict Uuid Outcome

def Store.core (s : Store) : Core := ⟨s.goals, s.runs, s.tasks, s.actions, s.outcomes⟩

/-- What a Goal keeps for life. -/
def GoalFields.ident (g : GoalFields) : Uuid × Uuid × List SuccessCriterion :=
  (g.tenantId, g.goalId, g.successCriteria)

/-- What a Run keeps for life. -/
def RunFields.ident (r : RunFields) : Uuid × Uuid × Uuid := (r.tenantId, r.goalId, r.runId)

/-- What a Task keeps for life. -/
def TaskFields.ident (t : TaskFields) : Uuid × Uuid × Uuid := (t.tenantId, t.runId, t.taskId)

/-- Everything `complete_run` asks of a Run before it succeeds. -/
structure Core.Complete (c : Core) (run : Run) : Prop where
  tasks : ∀ t ∈ c.tasks.values, t.tenantId = run.tenantId → t.runId = run.runId →
    t.status = .succeeded
  actions : ∀ a ∈ c.actions.values, a.tenantId = run.tenantId → a.runId = run.runId →
    a.status = .succeeded
  outcomes : ∃ goal, c.goals.get? run.goalId = some goal ∧ ∀ criterion ∈ goal.successCriteria,
    ∃ o ∈ c.outcomes.values, o.tenantId = run.tenantId ∧ o.runId = run.runId ∧
      o.criterionId = criterion.criterionId ∧ o.status = .verified

/-- The ways a command changes the five tables. -/
inductive Change (c : Core) : Core → Prop
  | idle : Change c c
  | goalAdded {g : GoalContract} (fresh : c.goals.get? g.goalId = none)
      (draft : g.status = .draft) : Change c { c with goals := c.goals.set g.goalId g }
  | goalMoved {id : Uuid} {g g' : GoalContract} (found : c.goals.get? id = some g)
      (same : g'.ident = g.ident)
      (proof : g'.status = .satisfied → ∃ run ∈ c.runs.values, run.tenantId = g.tenantId ∧
        run.goalId = g.goalId ∧ run.status = .succeeded) :
      Change c { c with goals := c.goals.set g'.goalId g' }
  | runAdded {run : Run} (fresh : c.runs.get? run.runId = none) (pending : run.status = .pending) :
      Change c { c with runs := c.runs.set run.runId run }
  | planned {id : Uuid} {run run' : Run} {tasks : List Task} (found : c.runs.get? id = some run)
      (pending : run.status = .pending) (same : run'.ident = run.ident)
      (running : run'.status = .running)
      (members : ∀ t ∈ tasks, t.tenantId = run.tenantId ∧ t.runId = run.runId) :
      Change c { c with
        runs := c.runs.set run'.runId run'
        tasks := tasks.foldl (fun d t => d.set t.taskId t) c.tasks }
  | runMoved {id : Uuid} {run run' : Run} (found : c.runs.get? id = some run)
      (same : run'.ident = run.ident) (legal : run'.status ∈ runTransitions run.status)
      (halts : run'.status ≠ .running)
      (complete : run'.status = .succeeded → c.Complete run) :
      Change c { c with runs := c.runs.set run'.runId run' }
  | taskMoved {id : Uuid} {t t' : Task} (found : c.tasks.get? id = some t)
      (same : t'.ident = t.ident) (live : taskTransitions t.status ≠ []) :
      Change c { c with tasks := c.tasks.set t'.taskId t' }
  | actionAdded {id runKey : Uuid} {a : Action} {t : Task} {run : Run}
      (fresh : c.actions.get? a.actionId = none)
      (found : c.tasks.get? id = some t) (running : t.status = .running)
      (runFound : c.runs.get? runKey = some run) (sameRun : runKey = t.runId)
      (member : a.tenantId = t.tenantId ∧ a.runId = t.runId)
      (proposed : a.status = .proposed)
      (unique : ∀ b ∈ c.actions.values,
        b.tenantId = a.tenantId → b.idempotencyKey ≠ a.idempotencyKey) :
      Change c { c with actions := c.actions.set a.actionId a }
  | actionMoved {id : Uuid} {a a' : Action} (found : c.actions.get? id = some a)
      (same : a'.core = a.core) (live : actionTransitions a.status ≠ []) :
      Change c { c with actions := c.actions.set a'.actionId a' }
  | outcomeAdded {o : Outcome} (fresh : c.outcomes.get? o.outcomeId = none) :
      Change c { c with outcomes := c.outcomes.set o.outcomeId o }

/-- Drawn identifiers are not in use: `uuid4` does not repeat itself. -/
def Env.Fresh (env : Env) (c : Core) : Prop :=
  ∀ n, c.goals.get? (env.uuid n) = none ∧ c.runs.get? (env.uuid n) = none ∧
    c.actions.get? (env.uuid n) = none ∧ c.outcomes.get? (env.uuid n) = none

namespace Store

section
variable [Sha256]

theorem recordAudit_keeps (audit : AuditEvent) (now : Instant) :
    Tx.Keeps core (recordAudit audit now) :=
  Tx.keeps_bind (Tx.keeps_read _) fun _ => Tx.keeps_bind (Tx.keeps_ofExcept _) fun _ =>
    Tx.keeps_write fun _ => rfl

variable {s : Store} {audit : AuditEvent} {now : Instant} {v : Int} {r : Unit × Store}

theorem addGoal_ok {goal : GoalContract} (h : addGoal goal audit now s = .ok r) :
    r.2.core = { s.core with goals := s.core.goals.set goal.goalId goal } := by
  simp only [addGoal, Tx.bind_ok, Tx.write_ok] at h
  obtain ⟨_, _, rfl, recorded⟩ := h
  exact (recordAudit_keeps _ _).eq recorded

theorem saveGoal_ok {goal : GoalContract} (h : saveGoal goal v audit now s = .ok r) :
    r.2.core = { s.core with goals := s.core.goals.set goal.goalId goal } := by
  simp only [saveGoal, getGoal, Tx.bind_ok, find_ok, Tx.check_ok, Tx.write_ok] at h
  obtain ⟨current, _, ⟨_, _, rfl⟩, _, _, ⟨_, rfl⟩, _, _, rfl, recorded⟩ := h
  exact (recordAudit_keeps _ _).eq recorded

theorem addRun_ok {run : Run} (h : addRun run audit now s = .ok r) :
    r.2.core = { s.core with runs := s.core.runs.set run.runId run } := by
  simp only [addRun, Tx.bind_ok, Tx.write_ok] at h
  obtain ⟨_, _, rfl, recorded⟩ := h
  exact (recordAudit_keeps _ _).eq recorded

theorem saveRun_ok {run : Run} (h : saveRun run v audit now s = .ok r) :
    r.2.core = { s.core with runs := s.core.runs.set run.runId run } := by
  simp only [saveRun, getRun, Tx.bind_ok, find_ok, Tx.check_ok, Tx.write_ok] at h
  obtain ⟨current, _, ⟨_, _, rfl⟩, _, _, ⟨_, rfl⟩, _, _, rfl, recorded⟩ := h
  exact (recordAudit_keeps _ _).eq recorded

end

variable {s : Store} {v : Int} {r : Unit × Store}

theorem saveTask_ok {task : Task} (h : saveTask task v s = .ok r) :
    r.2.core = { s.core with tasks := s.core.tasks.set task.taskId task } := by
  simp only [saveTask, getTask, Tx.bind_ok, find_ok, Tx.check_ok, Tx.write_ok] at h
  obtain ⟨current, _, ⟨_, _, rfl⟩, _, _, ⟨_, rfl⟩, saved⟩ := h
  rw [saved]
  rfl

theorem saveAction_ok {action : Action} (h : saveAction action v s = .ok r) :
    r.2.core = { s.core with actions := s.core.actions.set action.actionId action } := by
  simp only [saveAction, getAction, Tx.bind_ok, find_ok, Tx.check_ok, Tx.write_ok] at h
  obtain ⟨current, _, ⟨_, _, rfl⟩, _, _, ⟨_, rfl⟩, saved⟩ := h
  rw [saved]
  rfl

theorem addAction_ok {action : Action} (h : addAction action s = .ok r) :
    r.2.core = { s.core with actions := s.core.actions.set action.actionId action } ∧
      ∀ b ∈ s.actions.values, b.tenantId = action.tenantId →
        b.idempotencyKey ≠ action.idempotencyKey := by
  simp only [addAction, Tx.bind_ok, Tx.read_ok, Tx.check_ok, Tx.write_ok] at h
  obtain ⟨_, _, ⟨⟩, _, _, ⟨unused, rfl⟩, saved⟩ := h
  refine ⟨by rw [saved]; rfl, fun b there tenant key => ?_⟩
  have := List.any_eq_false.mp unused b there
  simp [tenant, key] at this

theorem addActionAttempt_keeps (attempt : ActionAttempt) :
    Tx.Keeps core (addActionAttempt attempt) :=
  Tx.keeps_bind (Tx.keeps_read _) fun _ => Tx.keeps_bind (Tx.keeps_check _ _) fun _ =>
    Tx.keeps_write fun _ => rfl

theorem getApproval_keeps (tenantId approvalId : Uuid) {γ : Type} (f : Store → γ) :
    Tx.Keeps f (getApproval tenantId approvalId) := by
  refine Tx.keeps_bind (Tx.keeps_read _) fun found => ?_
  cases found with
  | none => exact Tx.keeps_raise _
  | some item => exact Tx.keeps_bind (Tx.keeps_check _ _) fun _ => Tx.keeps_pure _

theorem getContextSnapshot_keeps (tenantId runId : Uuid) {γ : Type} (f : Store → γ) :
    Tx.Keeps f (getContextSnapshot tenantId runId) := by
  refine Tx.keeps_bind (Tx.keeps_read _) fun found => ?_
  cases found with
  | none => exact Tx.keeps_raise _
  | some item => exact Tx.keeps_pure _

theorem getPlan_keeps (tenantId planId : Uuid) {γ : Type} (f : Store → γ) :
    Tx.Keeps f (getPlan tenantId planId) := by
  refine Tx.keeps_bind (find_keeps _ _ _ _ _ _) fun plan =>
    Tx.keeps_bind (Tx.keeps_mapM (fun t => ?_) _) fun _ => Tx.keeps_ofExcept _
  refine Tx.keeps_bind (Tx.keeps_read _) fun found => ?_
  cases found with
  | none => exact Tx.keeps_raise _
  | some task => exact Tx.keeps_pure _

theorem saveApproval_keeps (approval : ApprovalRequest) (v : Int) :
    Tx.Keeps core (saveApproval approval v) :=
  Tx.keeps_bind (getApproval_keeps _ _ _) fun _ => Tx.keeps_bind (Tx.keeps_check _ _) fun _ =>
    Tx.keeps_write fun _ => rfl

theorem addApproval_keeps (approval : ApprovalRequest) : Tx.Keeps core (addApproval approval) :=
  Tx.keeps_write fun _ => rfl

theorem addEvidence_keeps (item : Evidence) : Tx.Keeps core (addEvidence item) :=
  Tx.keeps_bind (find_keeps _ _ _ _ _ _) fun _ => Tx.keeps_bind (Tx.keeps_check _ _) fun _ =>
    Tx.keeps_write fun _ => rfl

theorem addOutcome_ok {o : Outcome} (h : addOutcome o s = .ok r) :
    r.2.core = { s.core with outcomes := s.core.outcomes.set o.outcomeId o } := by
  simp only [addOutcome, Tx.bind_ok, Tx.write_ok] at h
  obtain ⟨_, s₁, checked, saved⟩ := h
  have same : s₁ = s := by
    refine (Tx.keeps_forM (f := fun s => s) (fun e => ?_) _).eq checked
    exact Tx.keeps_bind (find_keeps _ _ _ _ _ _) fun _ => Tx.keeps_check _ _
  rw [saved, same]
  rfl

end Store

end Autonoesis
