import Autonoesis.Application.Steps
import Autonoesis.Application.Threads
import Autonoesis.Runtime.Ledger

/-! The application as a system: the store and the reservations it shares, the commands that
run to their end in one step, and the programs whose calls other steps may come between. -/

namespace Autonoesis
open Base

/-- A command other than `execute_governed_action`, with its principal. -/
inductive Command where
  | createGoal (ctx : CommandContext) (cmd : CreateGoal)
  | activateGoal (ctx : CommandContext) (goalId : Uuid) (reason : String)
  | requestRun (ctx : CommandContext) (goalId : Uuid)
  | prepareRunContext (ctx : CommandContext) (cmd : PrepareRunContext)
  | createValidatedPlan (ctx : CommandContext) (cmd : CreateValidatedPlan)
  | startTask (ctx : CommandContext) (taskId : Uuid)
  | completeTask (ctx : CommandContext) (taskId : Uuid) (succeeded : Bool) (reason : String)
  | proposeAction (ctx : CommandContext) (cmd : ProposeAction)
  | requestApproval (ctx : CommandContext) (cmd : RequestApproval)
  | decideApproval (ctx : CommandContext) (cmd : DecideApproval)
  | authorizeAction (ctx : CommandContext) (cmd : AuthorizeActionAtExecutionTime)
  | recordActionAttempt (ctx : CommandContext) (cmd : RecordActionAttempt)
  | reconcileUnknownAction (ctx : CommandContext) (cmd : ReconcileUnknownAction)
  | recordEvidence (ctx : CommandContext) (item : Evidence)
  | captureEvidence (ctx : CommandContext) (cmd : CaptureAuthoritativeEvidence)
  | deleteEvidence (ctx : CommandContext) (cmd : RequestEvidenceDeletion)
  | verifyOutcome (ctx : CommandContext) (runId : Uuid) (criterionId : String)
      (evidenceIds : List Uuid)
  | completeRun (ctx : CommandContext) (runId : Uuid)
  | satisfyOrFailGoal (ctx : CommandContext) (goalId : Uuid) (satisfied : Bool) (reason : String)
  | cancelRun (ctx : CommandContext) (runId : Uuid) (reason : String)
  | failRun (ctx : CommandContext) (runId : Uuid) (reason : String)
  | takeOverRun (ctx : CommandContext) (runId : Uuid) (reason : String)

/-- A transaction run on its own makes the change it makes when it returns, or none. -/
theorem change_commit {α : Type} {x : StoreTx α} {s : Store}
    (ran : ∀ {a s'}, x s = .ok (a, s') → Change s.core s'.core) :
    Change s.core (x.commit s).2.core := by
  obtain ⟨e, failed⟩ | ⟨a, s', returned, done⟩ := Tx.commit_cases x s
  · rw [failed]
    exact .idle
  · rw [done]
    exact ran returned

theorem change_of_eq {c c' : Core} (same : c' = c) : Change c c' := same ▸ .idle

section
variable [Sha256]

/-- The store a command leaves, whether it returns or raises. -/
def Command.run (ports : Ports) (env : Env) (s : Store) : Command → Store
  | createGoal ctx cmd => ((App.createGoal ports env ctx cmd).commit s).2
  | activateGoal ctx goalId reason => ((App.activateGoal env ctx goalId reason).commit s).2
  | requestRun ctx goalId => ((App.requestRun ports env ctx goalId).commit s).2
  | prepareRunContext ctx cmd => ((App.prepareRunContext ports env ctx cmd).commit s).2
  | createValidatedPlan ctx cmd => ((App.createValidatedPlan env ctx cmd).commit s).2
  | startTask ctx taskId => ((App.startTask env ctx taskId).commit s).2
  | completeTask ctx taskId succeeded reason =>
    ((App.completeTask env ctx taskId succeeded reason).commit s).2
  | proposeAction ctx cmd => ((App.proposeAction env ctx cmd).commit s).2
  | requestApproval ctx cmd => ((App.requestApproval env ctx cmd).commit s).2
  | decideApproval ctx cmd => ((App.decideApproval env ctx cmd).commit s).2
  | authorizeAction ctx cmd =>
    ((App.authorizeActionAtExecutionTime ports env ctx cmd).commit s).2
  | recordActionAttempt ctx cmd => ((App.recordActionAttempt env ctx cmd).commit s).2
  | reconcileUnknownAction ctx cmd => ((App.reconcileUnknownAction env ctx cmd).commit s).2
  | recordEvidence ctx item => ((App.recordEvidence env ctx item).commit s).2
  | captureEvidence ctx cmd => (App.captureAuthoritativeEvidence ports env ctx cmd s).2
  | deleteEvidence ctx cmd => (App.requestEvidenceDeletion ports env ctx cmd s).2
  | verifyOutcome ctx runId criterionId evidenceIds =>
    ((App.verifyOutcome ports env ctx runId criterionId evidenceIds).commit s).2
  | completeRun ctx runId => ((App.completeRun env ctx runId).commit s).2
  | satisfyOrFailGoal ctx goalId satisfied reason =>
    ((App.satisfyOrFailGoal env ctx goalId satisfied reason).commit s).2
  | cancelRun ctx runId reason => ((App.cancelRun env ctx runId reason).commit s).2
  | failRun ctx runId reason => ((App.failRun env ctx runId reason).commit s).2
  | takeOverRun ctx runId reason => ((App.takeOverRun env ctx runId reason).commit s).2

/-- Every command makes one change, or none. -/
theorem Command.change {ports : Ports} {env : Env} {s : Store} (fresh : env.Fresh s.core)
    (command : Command) : Change s.core (command.run ports env s).core := by
  cases command with
  | createGoal => exact change_commit (App.createGoal_change fresh)
  | activateGoal => exact change_commit App.activateGoal_change
  | requestRun => exact change_commit (App.requestRun_change fresh)
  | prepareRunContext ctx cmd => exact change_of_eq ((App.prepareRunContext_keeps cmd).commit s)
  | createValidatedPlan => exact change_commit App.createValidatedPlan_change
  | startTask => exact change_commit App.startTask_change
  | completeTask => exact change_commit App.completeTask_change
  | proposeAction => exact change_commit (App.proposeAction_change fresh)
  | requestApproval => exact change_commit App.requestApproval_change
  | decideApproval => exact change_commit App.decideApproval_change
  | authorizeAction => exact change_commit App.authorizeActionAtExecutionTime_change
  | recordActionAttempt => exact change_commit App.recordActionAttempt_change
  | reconcileUnknownAction => exact change_commit App.reconcileUnknownAction_change
  | recordEvidence ctx item => exact change_of_eq ((App.recordEvidence_keeps item).commit s)
  | captureEvidence ctx cmd => exact change_of_eq (App.captureAuthoritativeEvidence_core cmd s)
  | deleteEvidence ctx cmd => exact change_of_eq (App.requestEvidenceDeletion_core cmd s)
  | verifyOutcome => exact change_commit (App.verifyOutcome_change fresh)
  | completeRun => exact change_commit App.completeRun_change
  | satisfyOrFailGoal => exact change_commit App.satisfyOrFailGoal_change
  | cancelRun => exact change_commit App.cancelRun_change
  | failRun => exact change_commit App.failRun_change
  | takeOverRun => exact change_commit App.takeOverRun_change

/-! ## The shared state -/

/-- What the programs share: the store and the reservations of the gateway. -/
structure World where
  store : Store
  reservations : Reservations

/-- The world before the first command. -/
def World.initial (limit : Int) : World := ⟨{}, .initial limit⟩

/-- How the calls of the programs are answered: a transaction by what it computes, the ports
of the gateway as `Gateway.Answers` says, a port outside both by any value; and any call
may raise before it has an effect. -/
inductive Answers (w : World) : (r : AppReq) → Except Exc (AppResp r) → World → Prop
  | load (ctx : CommandContext) (cmd : ExecuteGovernedAction) :
      Answers w (.load ctx cmd) ((App.loadAction ctx cmd).commit w.store).1
        { w with store := ((App.loadAction ctx cmd).commit w.store).2 }
  | record (env : Env) (facts : ExecutionFacts) :
      Answers w (.record facts) ((App.recordExecution env facts).commit w.store).1
        { w with store := ((App.recordExecution env facts).commit w.store).2 }
  | gateway {r : GatewayReq} {ans : Except Exc (GatewayResp r)} {reservations : Reservations}
      (answered : Gateway.Answers w.reservations r ans reservations) :
      Answers w (.gateway r) ans { w with reservations := reservations }
  | getRun (tenantId runId : Uuid) :
      Answers w (.getRun tenantId runId) ((Store.getRun tenantId runId).commit w.store).1 w
  | listTasks (tenantId runId : Uuid) :
      Answers w (.listTasks tenantId runId) ((Store.listTasks tenantId runId).commit w.store).1 w
  | startTask (env : Env) (ctx : CommandContext) (taskId : Uuid) :
      Answers w (.startTask ctx taskId) ((App.startTask env ctx taskId).commit w.store).1
        { w with store := ((App.startTask env ctx taskId).commit w.store).2 }
  | assertWritable (tenantId runId : Uuid) (ans : Except Exc Unit) :
      Answers w (.assertWritable tenantId runId) ans w
  | uuid4 (ans : Except Exc Uuid) : Answers w .uuid4 ans w
  | now (ans : Except Exc Instant) : Answers w .now ans w
  | executor (runId : Uuid) (task : Task) (ans : Except Exc Unit) :
      Answers w (.executor runId task) ans w
  | raised (r : AppReq) (e : Exc) : Answers w r (.error e) w

/-- What a command run from outside the programs makes of the world. -/
def World.command (w : World) (c : Command) (w' : World) : Prop :=
  ∃ ports env, env.Fresh w.store.core ∧ w' = { w with store := c.run ports env w.store }

/-- Calls of `execute_governed_action` and `execute_run` among any other commands. The
executor that `execute_run` calls acts through commands and calls of its own. -/
def system : System World Command AppReq AppResp Exc AppReply where
  starts p := (∃ config ctx cmd, p = App.executeGovernedAction config ctx cmd) ∨
    ∃ config tenantId runId, p = App.executeRun config tenantId runId
  answers := Answers
  outside := World.command

/-! ## What an answer changes -/

omit [Sha256] in
theorem App.cachedExecution_keeps (ctx : CommandContext) (actionId : Uuid) {γ : Type}
    (f : Store → γ) : Tx.Keeps f (App.cachedExecution ctx actionId) := by
  refine Tx.keeps_bind (Store.find_keeps _ _ _ _ _ _) fun _ =>
    Tx.keeps_bind (Tx.keeps_read _) fun _ => Tx.keeps_bind (Tx.keeps_read _) fun _ => ?_
  split
  · exact Tx.keeps_pure _
  · exact Tx.keeps_raise _

omit [Sha256] in
theorem App.loadAction_keeps (ctx : CommandContext) (cmd : ExecuteGovernedAction) {γ : Type}
    (f : Store → γ) : Tx.Keeps f (App.loadAction ctx cmd) := by
  refine Tx.keeps_bind ⟨fun h => congrArg _ (App.loadIdempotency_ok h)⟩ fun cached => ?_
  cases cached with
  | none =>
    exact Tx.keeps_bind (Store.find_keeps _ _ _ _ _ _) fun _ =>
      Tx.keeps_bind (App.suppliedApproval_keeps _ _) fun _ => Tx.keeps_pure _
  | some cached =>
    exact Tx.keeps_bind (App.cachedExecution_keeps _ _ _) fun _ => Tx.keeps_pure _

omit [Sha256] in
/-- A fresh load is of the Action the command names, and of the command's tenant. -/
theorem App.loadAction_fresh {ctx : CommandContext} {cmd : ExecuteGovernedAction} {s s' : Store}
    {action : Action} {approval : Option ApprovalRequest}
    (h : App.loadAction ctx cmd s = .ok (.fresh action approval, s')) :
    s.actions.get? cmd.actionId = some action ∧ action.tenantId = ctx.tenantId := by
  simp only [App.loadAction, Tx.bind_ok] at h
  obtain ⟨cached, _, loaded, h⟩ := h
  cases App.loadIdempotency_ok loaded
  cases cached with
  | none =>
    simp only [Tx.bind_ok, Store.getAction, Store.find_ok, Tx.pure_ok] at h
    obtain ⟨found, _, ⟨there, tenant, rfl⟩, _, _, _, ⟨⟩⟩ := h
    exact ⟨there, tenant⟩
  | some cached =>
    obtain ⟨_, _, _, returned⟩ := Tx.bind_ok.mp h
    cases Tx.pure_ok.mp returned

theorem App.recordExecution_ok {env : Env} {facts : ExecutionFacts} {s s' : Store} {u : Unit}
    (h : App.recordExecution env facts s = .ok (u, s')) :
    s'.core = { s.core with
      actions := s.core.actions.set facts.result.action.actionId facts.result.action } := by
  simp only [App.recordExecution, Tx.bind_ok, Store.getAction, Store.find_ok, Tx.check_ok] at h
  obtain ⟨current, _, ⟨_, _, rfl⟩, _, _, ⟨_, rfl⟩, _, _, saved, _, _, attempted, _, _, evidenced,
    _, _, audited, _, _, audited', remembered⟩ := h
  rw [(App.remember_keeps _ _).eq remembered, (App.audit_keeps _ _ _ _).eq audited',
    (App.audit_keeps _ _ _ _).eq audited, (Store.addEvidence_keeps _).eq evidenced,
    (Store.addActionAttempt_keeps _).eq attempted, Store.saveAction_ok saved]

/-- A record, run on its own, saves the Action it was given or changes nothing. -/
theorem App.recordExecution_core (env : Env) (facts : ExecutionFacts) (s : Store) :
    ((App.recordExecution env facts).commit s).2.core = s.core ∨
    ((App.recordExecution env facts).commit s).2.core = { s.core with
      actions := s.core.actions.set facts.result.action.actionId facts.result.action } := by
  obtain ⟨e, failed⟩ | ⟨u, s', ran, done⟩ := Tx.commit_cases (App.recordExecution env facts) s
  · rw [failed]
    exact Or.inl rfl
  · rw [done]
    exact Or.inr (App.recordExecution_ok ran)

variable {w w' : World}

/-- Calls other than a record and those of the worker leave the tables as they are. -/
theorem Answers.core_eq {r : AppReq} {ans : Except Exc (AppResp r)} (answered : Answers w r ans w')
    (notRecord : App.isRecord r = false) (notWorker : App.isWorker r = false) :
    w'.store.core = w.store.core := by
  cases answered with
  | load ctx cmd => exact (App.loadAction_keeps ctx cmd _).commit _
  | record => cases notRecord
  | startTask => cases notWorker
  | _ => rfl

/-- A fresh answer of the first transaction is an Action of the store and of the tenant that
asked. -/
theorem Answers.loaded {ctx : CommandContext} {cmd : ExecuteGovernedAction} {action : Action}
    {approval : Option ApprovalRequest}
    (answered : Answers w (.load ctx cmd) (.ok (.fresh action approval)) w') :
    w.store.core.actions.get? cmd.actionId = some action ∧ action.tenantId = ctx.tenantId := by
  generalize reply : Except.ok (LoadedAction.fresh action approval) = ans at answered
  cases answered with
  | load =>
    obtain ⟨e, failed⟩ | ⟨loaded, s', ran, done⟩ :=
      Tx.commit_cases (App.loadAction ctx cmd) w.store
    · rw [failed] at reply
      cases reply
    · rw [done] at reply
      cases reply
      exact App.loadAction_fresh ran
  | raised => cases reply

theorem Answers.recorded {facts : ExecutionFacts} {ans : Except Exc Unit}
    (answered : Answers w (.record facts) ans w') :
    w'.store.core = w.store.core ∨ w'.store.core = { w.store.core with
      actions := w.store.core.actions.set facts.result.action.actionId facts.result.action } := by
  cases answered with
  | record env => exact App.recordExecution_core env facts w.store
  | raised => exact Or.inl rfl

/-- The worker's calls change the tables as the command they stand for. -/
theorem Answers.worker_change {r : AppReq} {ans : Except Exc (AppResp r)}
    (answered : Answers w r ans w') (worker : App.isWorker r = true) :
    Change w.store.core w'.store.core := by
  cases answered with
  | load | record | gateway | assertWritable | uuid4 | now => cases worker
  | startTask env ctx taskId => exact change_commit App.startTask_change
  | getRun | listTasks | executor | raised => exact .idle

end

end Autonoesis
