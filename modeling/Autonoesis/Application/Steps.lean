import Autonoesis.Application.Effects

/-! Each command, taken apart: what it read, what it checked and the one change it made. -/

namespace Autonoesis.App
open Base

variable {ctx : CommandContext} {s s' : Store}

theorem requireAny_ok {allowed : List String} {u : Unit}
    (h : requireAny ctx allowed s = .ok (u, s')) : s' = s :=
  (Tx.ofExcept_ok.mp h).2

theorem loadIdempotency_ok {key : String} {cached : Option Uuid}
    (h : loadIdempotency ctx key s = .ok (cached, s')) : s' = s := by
  simp only [loadIdempotency, Store.getIdempotency, Tx.bind_ok, Tx.read_ok, Tx.check_ok] at h
  obtain ⟨_, _, ⟨⟩, _, _, ⟨_, same⟩, ⟨⟩⟩ := h
  exact same

theorem remember_keeps (key : String) (value : Uuid) :
    Tx.Keeps Store.core (remember ctx key value) :=
  Tx.keeps_bind (Tx.keeps_read _) fun _ => Tx.keeps_bind (Tx.keeps_read _) fun _ =>
    Tx.keeps_bind (Tx.keeps_check _ _) fun _ => Tx.keeps_write fun _ => rfl

theorem cachedGoal_ok {key : String} {requested : Uuid} {r : GoalContract × Store}
    (h : cachedGoal ctx key requested s = .ok r) :
    ∃ id, s.goals.get? id = some r.1 ∧ r.1.tenantId = ctx.tenantId ∧ r.2 = s := by
  simp only [cachedGoal, Store.getGoal, Tx.bind_ok, Store.find_ok] at h
  obtain ⟨_, _, loaded, found, tenant, same⟩ := h
  cases loadIdempotency_ok loaded
  exact ⟨_, found, tenant, same⟩

theorem cachedRun_ok {key : String} {requested : Uuid} {r : Run × Store}
    (h : cachedRun ctx key requested s = .ok r) :
    ∃ id, s.runs.get? id = some r.1 ∧ r.1.tenantId = ctx.tenantId ∧ r.2 = s := by
  simp only [cachedRun, Store.getRun, Tx.bind_ok, Store.find_ok] at h
  obtain ⟨_, _, loaded, found, tenant, same⟩ := h
  cases loadIdempotency_ok loaded
  exact ⟨_, found, tenant, same⟩

theorem cachedTask_ok {key : String} {requested : Uuid} {r : Task × Store}
    (h : cachedTask ctx key requested s = .ok r) :
    ∃ id, s.tasks.get? id = some r.1 ∧ r.1.tenantId = ctx.tenantId ∧ r.2 = s := by
  simp only [cachedTask, Store.getTask, Tx.bind_ok, Store.find_ok] at h
  obtain ⟨_, _, loaded, found, tenant, same⟩ := h
  cases loadIdempotency_ok loaded
  exact ⟨_, found, tenant, same⟩

section
variable [Sha256] {ports : Ports} {env : Env}

theorem audit_keeps (eventType : String) (item : AuditItem) (eventId : Uuid) (now : Instant) :
    Tx.Keeps Store.core (audit ctx eventType item eventId now) :=
  Store.recordAudit_keeps _ _

/-! ## Goals and Runs -/

theorem createGoal_change {cmd : CreateGoal} {goal : GoalContract} (fresh : env.Fresh s.core)
    (h : createGoal ports env ctx cmd s = .ok (goal, s')) : Change s.core s'.core := by
  simp only [createGoal, Tx.bind_ok] at h
  obtain ⟨_, _, role, cached, _, loaded, h⟩ := h
  cases requireAny_ok role
  cases loadIdempotency_ok loaded
  cases cached with
  | some cached =>
    cases (Store.find_ok.mp h).2.2
    exact .idle
  | none =>
    simp only [Tx.bind_ok, Tx.ofExcept_ok, Tx.pure_ok] at h
    obtain ⟨_, _, ⟨_, rfl⟩, _, _, ⟨_, rfl⟩, _, _, ⟨_, rfl⟩, _, _, ⟨_, rfl⟩, _, _, ⟨_, rfl⟩,
      made, _, ⟨valid, rfl⟩, _, _, added, _, _, remembered, ⟨⟩⟩ := h
    obtain ⟨_, rfl⟩ := guarded_eq_ok.mp valid
    rw [(remember_keeps _ _).eq remembered, Store.addGoal_ok added]
    exact .goalAdded (fresh 0).1 rfl

theorem activateGoal_change {goalId : Uuid} {reason : String} {goal : GoalContract}
    (h : activateGoal env ctx goalId reason s = .ok (goal, s')) : Change s.core s'.core := by
  simp only [activateGoal, Tx.bind_ok, Tx.ite_ok, Tx.ofExcept_ok, Tx.pure_ok] at h
  obtain ⟨_, _, role, current, _, read, h⟩ := h
  cases requireAny_ok role
  obtain ⟨id, found, _, rfl⟩ := cachedGoal_ok read
  rcases h with ⟨_, _, _, remembered, ⟨⟩⟩ | ⟨_, active, _, ⟨moved, rfl⟩, _, _, saved, _, _,
    remembered, ⟨⟩⟩
  · rw [(remember_keeps _ _).eq remembered]
    exact .idle
  · rw [(remember_keeps _ _).eq remembered, Store.saveGoal_ok saved]
    obtain ⟨_, fields⟩ := GoalContract.transitionTo_ok moved
    refine .goalMoved found (by rw [fields]; rfl) fun satisfied => ?_
    rw [fields] at satisfied
    cases satisfied

theorem requestRun_change {goalId : Uuid} {run : Run} (fresh : env.Fresh s.core)
    (h : requestRun ports env ctx goalId s = .ok (run, s')) : Change s.core s'.core := by
  simp only [requestRun, Tx.bind_ok] at h
  obtain ⟨_, _, role, cached, _, loaded, h⟩ := h
  cases requireAny_ok role
  cases loadIdempotency_ok loaded
  cases cached with
  | some cached =>
    cases (Store.find_ok.mp h).2.2
    exact .idle
  | none =>
    simp only [Tx.bind_ok, Store.getGoal, Store.find_ok, Store.listRuns, Tx.read_ok,
      Tx.ofExcept_ok, Tx.pure_ok] at h
    obtain ⟨goal, _, ⟨_, _, rfl⟩, _, _, ⟨⟩, _, _, ⟨_, rfl⟩, _, _, ⟨_, rfl⟩, _, _, ⟨_, rfl⟩,
      _, _, ⟨_, rfl⟩, made, _, ⟨valid, rfl⟩, _, _, added, _, _, remembered, ⟨⟩⟩ := h
    obtain ⟨_, rfl⟩ := guarded_eq_ok.mp valid
    rw [(remember_keeps _ _).eq remembered, Store.addRun_ok added]
    exact .runAdded (fresh 0).2.1 rfl

theorem prepareRunContext_keeps (cmd : PrepareRunContext) :
    Tx.Keeps Store.core (prepareRunContext ports env ctx cmd) := by
  refine Tx.keeps_bind (Tx.keeps_ofExcept _) fun _ =>
    Tx.keeps_bind ⟨fun h => congrArg _ (loadIdempotency_ok h)⟩ fun cached => ?_
  cases cached with
  | some cached => exact Store.getContextSnapshot_keeps _ _ _
  | none =>
    refine Tx.keeps_bind (Store.find_keeps _ _ _ _ _ _) fun run =>
      Tx.keeps_bind (Tx.keeps_mapM (fun _ => Store.find_keeps _ _ _ _ _ _) _) fun _ =>
      Tx.keeps_bind (Tx.keeps_ofExcept _) fun _ => Tx.keeps_bind ?_ fun _ =>
      Tx.keeps_bind (audit_keeps _ _ _ _) fun _ => Tx.keeps_bind (remember_keeps _ _) fun _ =>
      Tx.keeps_pure _
    exact Tx.keeps_bind (Tx.keeps_read _) fun _ => Tx.keeps_bind (Tx.keeps_check _ _) fun _ =>
      Tx.keeps_write fun _ => rfl

omit [Sha256] in
theorem startRun_ok {run run' : Run} {snapshot : RunExecutionSnapshot} {actorId : Uuid}
    {now : Instant} (h : startRun run snapshot actorId now = .ok run') :
    run'.ident = run.ident ∧ run'.status = .running := by
  simp only [startRun, bind_eq_ok] at h
  obtain ⟨_, _, bound, bind, moved⟩ := h
  obtain ⟨_, fields⟩ := Run.bindExecution_ok bind
  obtain ⟨_, fields'⟩ := Run.transitionTo_ok moved
  have same : bound.ident = run.ident := by rw [fields]; rfl
  exact ⟨by rw [fields']; exact same, by rw [fields']; rfl⟩

theorem createValidatedPlan_change {cmd : CreateValidatedPlan} {plan : Plan}
    (h : createValidatedPlan env ctx cmd s = .ok (plan, s')) : Change s.core s'.core := by
  simp only [createValidatedPlan, Tx.bind_ok] at h
  obtain ⟨_, _, role, cached, _, loaded, h⟩ := h
  cases requireAny_ok role
  cases loadIdempotency_ok loaded
  cases cached with
  | some cached =>
    rw [(Store.getPlan_keeps _ _ Store.core).eq h]
    exact .idle
  | none =>
    simp only [Tx.bind_ok, Store.getRun, Store.find_ok, Tx.check_ok, decide_eq_false_iff_not,
      not_not, Tx.ofExcept_ok, Store.addPlan, Tx.write_ok, Tx.pure_ok] at h
    obtain ⟨run, _, ⟨found, tenant, rfl⟩, _, _, ⟨pending, rfl⟩, snapshot, s₁, read, tasks, _,
      ⟨_, rfl⟩, made, _, ⟨valid, rfl⟩, bound, _, ⟨started, rfl⟩, _, _, rfl, _, _, saved, _, _,
      remembered, ⟨⟩⟩ := h
    cases (Store.getContextSnapshot_keeps _ _ (fun s => s)).eq read
    obtain ⟨_, rfl⟩ := guarded_eq_ok.mp valid
    obtain ⟨same, running⟩ := startRun_ok started
    rw [(remember_keeps _ _).eq remembered, Store.saveRun_ok saved]
    refine .planned found pending same running fun t there => ?_
    obtain ⟨tenant', member⟩ := Plan.members _ there
    exact ⟨tenant'.trans tenant.symm, member⟩

theorem transitionRun_change {runId : Uuid} {target : RunStatus} {reason operation : String}
    {run : Run} (h : transitionRun env ctx runId target reason operation s = .ok (run, s'))
    (halts : target ≠ .running) (open_ : target ≠ .succeeded) : Change s.core s'.core := by
  simp only [transitionRun, Tx.bind_ok, Tx.check_ok, Tx.ite_ok, Tx.ofExcept_ok, Tx.pure_ok] at h
  obtain ⟨_, _, ⟨_, rfl⟩, current, _, read, h⟩ := h
  obtain ⟨id, found, _, rfl⟩ := cachedRun_ok read
  rcases h with ⟨_, _, _, remembered, ⟨⟩⟩ | ⟨_, updated, _, ⟨moved, rfl⟩, _, _, saved, _, _,
    remembered, ⟨⟩⟩
  · rw [(remember_keeps _ _).eq remembered]
    exact .idle
  · rw [(remember_keeps _ _).eq remembered, Store.saveRun_ok saved]
    obtain ⟨legal, fields⟩ := Run.transitionTo_ok moved
    have status : run.status = target := by rw [fields]; rfl
    refine .runMoved found (by rw [fields]; rfl) (by rw [status]; exact legal)
      (by rw [status]; exact halts) fun succeeded => ?_
    exact absurd (status.symm.trans succeeded) open_

theorem cancelRun_change {runId : Uuid} {reason : String} {run : Run}
    (h : cancelRun env ctx runId reason s = .ok (run, s')) : Change s.core s'.core := by
  simp only [cancelRun, Tx.bind_ok] at h
  obtain ⟨_, _, role, h⟩ := h
  cases requireAny_ok role
  exact transitionRun_change h nofun nofun

theorem failRun_change {runId : Uuid} {reason : String} {run : Run}
    (h : failRun env ctx runId reason s = .ok (run, s')) : Change s.core s'.core := by
  simp only [failRun, Tx.bind_ok] at h
  obtain ⟨_, _, role, h⟩ := h
  cases requireAny_ok role
  exact transitionRun_change h nofun nofun

theorem takeOverRun_change {runId : Uuid} {reason : String} {run : Run}
    (h : takeOverRun env ctx runId reason s = .ok (run, s')) : Change s.core s'.core := by
  simp only [takeOverRun, Tx.bind_ok] at h
  obtain ⟨_, _, role, h⟩ := h
  cases requireAny_ok role
  exact transitionRun_change h nofun nofun

omit [Sha256] in
theorem mem_criteriaOf {outcomes : List Outcome} {keep : Outcome → Bool} {c : String} :
    c ∈ criteriaOf outcomes keep ↔ ∃ o ∈ outcomes, keep o = true ∧ o.criterionId = c := by
  simp [criteriaOf, and_assoc]

omit [Sha256] in
theorem completionTarget_succeeded {goal : GoalContract} {outcomes : List Outcome}
    (succeeded : (completionTarget goal outcomes).1 = .succeeded) :
    ∀ criterion ∈ goal.successCriteria, ∃ o ∈ outcomes,
      o.status = .verified ∧ o.criterionId = criterion.criterionId := by
  simp only [completionTarget] at succeeded
  split at succeeded
  · rename_i all
    intro criterion there
    have verified := List.all_eq_true.mp all _ (List.mem_map_of_mem there)
    obtain ⟨o, listed, status, same⟩ := mem_criteriaOf.mp (of_decide_eq_true verified)
    exact ⟨o, listed, of_decide_eq_true status, same⟩
  · split at succeeded <;> cases succeeded

omit [Sha256] in
theorem completionTarget_halts (goal : GoalContract) (outcomes : List Outcome) :
    (completionTarget goal outcomes).1 ≠ .running := by
  simp only [completionTarget]
  split
  · nofun
  · split <;> nofun

theorem completeRun_change {runId : Uuid} {run : Run}
    (h : completeRun env ctx runId s = .ok (run, s')) : Change s.core s'.core := by
  simp only [completeRun, Tx.bind_ok, Tx.ite_ok, Tx.check_ok, Store.getGoal, Store.find_ok,
    Store.listTasks, Store.listActions, Store.listOutcomes, Tx.read_ok, Tx.ofExcept_ok,
    Tx.pure_ok] at h
  obtain ⟨_, _, role, current, _, read, h⟩ := h
  cases requireAny_ok role
  obtain ⟨id, found, tenant, rfl⟩ := cachedRun_ok read
  rcases h with ⟨_, _, _, remembered, ⟨⟩⟩ | ⟨_, _, _, ⟨_, rfl⟩, goal, _, ⟨goalFound, _, rfl⟩, _, _,
    ⟨⟩, _, _, ⟨⟩, _, _, ⟨⟩, _, _, ⟨settled, rfl⟩, h⟩
  · rw [(remember_keeps _ _).eq remembered]
    exact .idle
  rcases h with ⟨_, _, _, remembered, ⟨⟩⟩ | ⟨_, updated, _, ⟨moved, rfl⟩, _, _, saved, _, _,
    remembered, ⟨⟩⟩
  · rw [(remember_keeps _ _).eq remembered]
    exact .idle
  rw [(remember_keeps _ _).eq remembered, Store.saveRun_ok saved]
  obtain ⟨legal, fields⟩ := Run.transitionTo_ok moved
  have status : run.status = _ := congrArg RunFields.status fields
  refine .runMoved found (by rw [fields]; rfl) (by rw [status]; exact legal)
    (by rw [status]; exact completionTarget_halts _ _) fun succeeded => ?_
  simp only [Bool.or_eq_false_iff, List.any_eq_false, List.mem_filter, Bool.and_eq_true,
    decide_eq_true_eq, not_not, and_imp] at settled
  have verified := completionTarget_succeeded (status.symm.trans succeeded)
  refine {
    tasks := fun t there same member => settled.1 t there (same.trans tenant) member
    actions := fun a there same member => settled.2 a there (same.trans tenant) member
    outcomes := ⟨goal, goalFound, fun criterion there => ?_⟩ }
  obtain ⟨o, listed, status, criterion'⟩ := verified criterion there
  simp only [List.mem_filter, Bool.and_eq_true, decide_eq_true_eq] at listed
  exact ⟨o, listed.1, listed.2.1.trans tenant.symm, listed.2.2, criterion', status⟩

omit [Sha256] in
theorem someRunVerified_keeps (goal : GoalContract) (tenantId : Uuid) (runs : List Run)
    {γ : Type} (f : Store → γ) : Tx.Keeps f (someRunVerified goal tenantId runs) := by
  induction runs with
  | nil => exact Tx.keeps_pure _
  | cons run rest ih =>
    exact Tx.keeps_bind (Tx.keeps_read _) fun _ => Tx.keeps_ite (Tx.keeps_pure _) ih

omit [Sha256] in
theorem finishTarget_ok {goal : GoalContract} {tenantId : Uuid} {satisfied : Bool}
    {runs : List Run} {target : GoalStatus}
    (h : finishTarget goal tenantId satisfied runs s = .ok (target, s')) :
    s' = s ∧ (target = .satisfied → ∃ run ∈ runs, run.status = .succeeded) := by
  cases satisfied with
  | true =>
    simp only [finishTarget, if_true, Tx.bind_ok, Tx.check_ok, Tx.pure_ok] at h
    obtain ⟨_, _, ⟨some_, rfl⟩, _, _, read, _, _, ⟨_, rfl⟩, ⟨⟩⟩ := h
    refine ⟨(someRunVerified_keeps goal tenantId _ (fun s => s)).eq read, fun _ => ?_⟩
    simpa using some_
  | false =>
    simp only [finishTarget, Bool.false_eq_true, if_false, Tx.bind_ok, Tx.check_ok,
      Tx.pure_ok] at h
    obtain ⟨_, _, ⟨_, rfl⟩, ⟨⟩⟩ := h
    exact ⟨rfl, nofun⟩

theorem satisfyOrFailGoal_change {goalId : Uuid} {satisfied : Bool} {reason : String}
    {goal : GoalContract} (h : satisfyOrFailGoal env ctx goalId satisfied reason s = .ok (goal, s')) :
    Change s.core s'.core := by
  simp only [satisfyOrFailGoal, Tx.bind_ok, Tx.check_ok, Tx.ite_ok, Store.listRuns, Tx.read_ok,
    Tx.ofExcept_ok, Tx.pure_ok] at h
  obtain ⟨_, _, role, _, _, ⟨_, rfl⟩, current, _, read, h⟩ := h
  cases requireAny_ok role
  obtain ⟨id, found, tenant, rfl⟩ := cachedGoal_ok read
  rcases h with ⟨_, _, _, remembered, ⟨⟩⟩ | ⟨_, runs, _, ⟨⟩, target, _, decided, updated, _,
    ⟨moved, rfl⟩, _, _, saved, _, _, remembered, ⟨⟩⟩
  · rw [(remember_keeps _ _).eq remembered]
    exact .idle
  obtain ⟨rfl, proof⟩ := finishTarget_ok decided
  rw [(remember_keeps _ _).eq remembered, Store.saveGoal_ok saved]
  obtain ⟨_, fields⟩ := GoalContract.transitionTo_ok moved
  have status : goal.status = target := by rw [fields]; rfl
  refine .goalMoved found (by rw [fields]; rfl) fun finished => ?_
  obtain ⟨run, listed, succeeded⟩ := proof (status.symm.trans finished)
  simp only [List.mem_filter, Bool.and_eq_true, decide_eq_true_eq, Option.all_some] at listed
  exact ⟨run, listed.1, listed.2.1.trans tenant.symm, listed.2.2, succeeded⟩

/-! ## Tasks -/

omit [Sha256] in
theorem startedTask_ok {task task' : Task} {actorId : Uuid} {readyAt startedAt : Instant}
    (h : startedTask task actorId readyAt startedAt = .ok task') :
    task'.ident = task.ident ∧ taskTransitions task.status ≠ [] := by
  simp only [startedTask] at h
  split at h
  · obtain ⟨ready, first, moved⟩ := bind_eq_ok.mp h
    obtain ⟨legal, readied⟩ := Task.transitionTo_ok first
    obtain ⟨_, fields⟩ := Task.transitionTo_ok moved
    have same : ready.ident = task.ident := by rw [readied]; rfl
    exact ⟨by rw [fields]; exact same, List.ne_nil_of_mem legal⟩
  · obtain ⟨legal, fields⟩ := Task.transitionTo_ok h
    exact ⟨by rw [fields]; rfl, List.ne_nil_of_mem legal⟩

theorem startTask_change {taskId : Uuid} {task : Task}
    (h : startTask env ctx taskId s = .ok (task, s')) : Change s.core s'.core := by
  simp only [startTask, Tx.bind_ok, Tx.ite_ok, Tx.check_ok, Tx.ofExcept_ok, Tx.pure_ok] at h
  obtain ⟨_, _, role, current, _, read, h⟩ := h
  cases requireAny_ok role
  obtain ⟨id, found, _, rfl⟩ := cachedTask_ok read
  rcases h with ⟨_, _, _, remembered, ⟨⟩⟩ | ⟨_, _, _, dependencies, _, _, ⟨_, rfl⟩, started, _,
    ⟨moved, rfl⟩, _, _, saved, _, _, audited, _, _, remembered, ⟨⟩⟩
  · rw [(remember_keeps _ _).eq remembered]
    exact .idle
  cases (Tx.keeps_mapM (fun _ => Store.find_keeps _ _ _ _ _ (fun s => s)) _).eq dependencies
  rw [(remember_keeps _ _).eq remembered, (audit_keeps _ _ _ _).eq audited,
    Store.saveTask_ok saved]
  obtain ⟨same, live⟩ := startedTask_ok moved
  exact .taskMoved found same live

theorem completeTask_change {taskId : Uuid} {succeeded : Bool} {reason : String} {task : Task}
    (h : completeTask env ctx taskId succeeded reason s = .ok (task, s')) :
    Change s.core s'.core := by
  simp only [completeTask, Tx.bind_ok, Tx.check_ok, Tx.ite_ok, Tx.ofExcept_ok, Tx.pure_ok] at h
  obtain ⟨_, _, role, _, _, ⟨_, rfl⟩, current, _, read, h⟩ := h
  cases requireAny_ok role
  obtain ⟨id, found, _, rfl⟩ := cachedTask_ok read
  rcases h with ⟨_, _, _, remembered, ⟨⟩⟩ | ⟨_, _, _, ⟨_, rfl⟩, completed, _, ⟨moved, rfl⟩, _, _,
    saved, _, _, audited, _, _, remembered, ⟨⟩⟩
  · rw [(remember_keeps _ _).eq remembered]
    exact .idle
  rw [(remember_keeps _ _).eq remembered, (audit_keeps _ _ _ _).eq audited,
    Store.saveTask_ok saved]
  obtain ⟨legal, fields⟩ := Task.transitionTo_ok moved
  exact .taskMoved found (by rw [fields]; rfl) (List.ne_nil_of_mem legal)

/-! ## Actions -/

theorem proposeAction_change {cmd : ProposeAction} {action : Action} (fresh : env.Fresh s.core)
    (h : proposeAction env ctx cmd s = .ok (action, s')) : Change s.core s'.core := by
  simp only [proposeAction, Tx.bind_ok] at h
  obtain ⟨_, _, role, cached, _, loaded, h⟩ := h
  cases requireAny_ok role
  cases loadIdempotency_ok loaded
  cases cached with
  | some cached =>
    cases (Store.find_ok.mp h).2.2
    exact .idle
  | none =>
    simp only [Tx.bind_ok, Store.getTask, Store.getRun, Store.find_ok, Tx.check_ok,
      decide_eq_false_iff_not, not_not, Tx.ofExcept_ok, Tx.pure_ok] at h
    obtain ⟨task, _, ⟨found, tenant, rfl⟩, _, _, ⟨running, rfl⟩, run, _, ⟨runFound, _, rfl⟩, _, _,
      ⟨_, rfl⟩, _, _, ⟨_, rfl⟩, made, _, ⟨valid, rfl⟩, _, _, added, _, _, audited, _, _,
      remembered, ⟨⟩⟩ := h
    obtain ⟨_, rfl⟩ := guarded_eq_ok.mp valid
    obtain ⟨table, unique⟩ := Store.addAction_ok added
    rw [(remember_keeps _ _).eq remembered, (audit_keeps _ _ _ _).eq audited, table]
    exact .actionAdded (fresh 0).2.2.1 found running runFound rfl ⟨tenant.symm, rfl⟩ rfl unique

theorem requestApproval_change {cmd : RequestApproval} {approval : ApprovalRequest}
    (h : requestApproval env ctx cmd s = .ok (approval, s')) : Change s.core s'.core := by
  simp only [requestApproval, Tx.bind_ok] at h
  obtain ⟨_, _, role, cached, _, loaded, h⟩ := h
  cases requireAny_ok role
  cases loadIdempotency_ok loaded
  cases cached with
  | some cached =>
    rw [(Store.getApproval_keeps _ _ Store.core).eq h]
    exact .idle
  | none =>
    simp only [Tx.bind_ok, Store.getAction, Store.find_ok, Tx.check_ok, Tx.ofExcept_ok,
      Tx.pure_ok] at h
    obtain ⟨action, _, ⟨found, _, rfl⟩, _, _, ⟨_, rfl⟩, made, _, ⟨_, rfl⟩, awaiting, _,
      ⟨moved, rfl⟩, _, s₁, added, _, _, saved, _, _, audited, _, _, remembered, ⟨⟩⟩ := h
    rw [(remember_keeps _ _).eq remembered, (audit_keeps _ _ _ _).eq audited,
      Store.saveAction_ok saved, (Store.addApproval_keeps _).eq added]
    obtain ⟨legal, fields⟩ := Action.transitionTo_ok moved
    exact .actionMoved found (by rw [fields]; rfl) (List.ne_nil_of_mem legal)

omit [Sha256] in
theorem denyByApproval_change {approval decided : ApprovalRequest} {u : Unit}
    (h : denyByApproval env ctx approval decided s = .ok (u, s')) : Change s.core s'.core := by
  simp only [denyByApproval, Tx.bind_ok, Store.getAction, Store.find_ok, Tx.ofExcept_ok] at h
  obtain ⟨action, _, ⟨found, _, rfl⟩, denied, _, ⟨moved, rfl⟩, saved⟩ := h
  obtain ⟨legal, fields⟩ := Action.transitionTo_ok moved
  rw [Store.saveAction_ok saved]
  exact .actionMoved found (by rw [fields]; rfl) (List.ne_nil_of_mem legal)

theorem decideApproval_change {cmd : DecideApproval} {approval : ApprovalRequest}
    (h : decideApproval env ctx cmd s = .ok (approval, s')) : Change s.core s'.core := by
  simp only [decideApproval, Tx.bind_ok] at h
  obtain ⟨cached, _, loaded, h⟩ := h
  cases loadIdempotency_ok loaded
  cases cached with
  | some cached =>
    rw [(Store.getApproval_keeps _ _ Store.core).eq h]
    exact .idle
  | none =>
    simp only [Tx.bind_ok, Tx.ite_ok, Tx.check_ok, Tx.ofExcept_ok, Tx.pure_ok] at h
    obtain ⟨current, s₁, read, _, _, role, _, _, ⟨_, rfl⟩, decided, _, ⟨_, rfl⟩, _, s₂, saved, h⟩ := h
    cases requireAny_ok role
    have before : s₂.core = s.core := by
      rw [(Store.saveApproval_keeps _ _).eq saved, (Store.getApproval_keeps _ _ Store.core).eq read]
    rw [← before]
    rcases h with ⟨_, _, _, denied, _, _, audited, _, _, remembered, ⟨⟩⟩ |
      ⟨_, _, _, audited, _, _, remembered, ⟨⟩⟩
    · rw [(remember_keeps _ _).eq remembered, (audit_keeps _ _ _ _).eq audited]
      exact denyByApproval_change denied
    · rw [(remember_keeps _ _).eq remembered, (audit_keeps _ _ _ _).eq audited]
      exact .idle

omit [Sha256] in
theorem suppliedApproval_keeps (id : Option Uuid) {γ : Type} (f : Store → γ) :
    Tx.Keeps f (suppliedApproval ctx id) := by
  cases id with
  | none => exact Tx.keeps_pure _
  | some id => exact Tx.keeps_bind (Store.getApproval_keeps _ _ _) fun _ => Tx.keeps_pure _

theorem legacyAuthorized_change {policyVersion : String} {action current : Action} {id : Uuid}
    (found : s.actions.get? id = some action)
    (h : legacyAuthorized env ctx policyVersion action s = .ok (current, s')) :
    Change s.core s'.core := by
  simp only [legacyAuthorized, Tx.ite_ok, Tx.bind_ok, Tx.ofExcept_ok, Tx.pure_ok] at h
  rcases h with ⟨_, authorized, _, ⟨moved, rfl⟩, _, _, saved, _, _, audited, ⟨⟩⟩ | ⟨_, ⟨⟩⟩
  · rw [(audit_keeps _ _ _ _).eq audited, Store.saveAction_ok saved]
    obtain ⟨legal, fields⟩ := Action.transitionTo_ok moved
    exact .actionMoved found (by rw [fields]; rfl) (List.ne_nil_of_mem legal)
  · exact .idle

theorem authorizeActionAtExecutionTime_change {cmd : AuthorizeActionAtExecutionTime}
    {result : Except String ActionExecutionEnvelope}
    (h : authorizeActionAtExecutionTime ports env ctx cmd s = .ok (result, s')) :
    Change s.core s'.core := by
  simp only [authorizeActionAtExecutionTime, Tx.bind_ok, Tx.check_ok, Store.getAction,
    Store.find_ok] at h
  obtain ⟨_, _, ⟨_, rfl⟩, _, _, role, _, _, ⟨_, rfl⟩, cached, _, loaded, action, _,
    ⟨found, _, rfl⟩, approval, _, read, h⟩ := h
  cases requireAny_ok role
  cases loadIdempotency_ok loaded
  cases (suppliedApproval_keeps _ (fun s => s)).eq read
  cases denial : legacyDenial cmd action approval (env.now 1) with
  | some reason =>
    simp only [denial, Tx.ite_ok, Tx.bind_ok, Tx.ofExcept_ok, Tx.pure_ok] at h
    rcases h with ⟨_, denied, _, ⟨moved, rfl⟩, _, _, saved, _, _, audited, _, _, remembered, ⟨⟩⟩ |
      ⟨_, ⟨⟩⟩
    · rw [(remember_keeps _ _).eq remembered, (audit_keeps _ _ _ _).eq audited,
        Store.saveAction_ok saved]
      obtain ⟨legal, fields⟩ := Action.transitionTo_ok moved
      exact .actionMoved found (by rw [fields]; rfl) (List.ne_nil_of_mem legal)
    · exact .idle
  | none =>
    simp only [denial, Tx.bind_ok, Tx.check_ok, Tx.ofExcept_ok] at h
    obtain ⟨current, _, authorized, _, _, ⟨_, rfl⟩, envelope, _, ⟨_, rfl⟩, h⟩ := h
    have change := legacyAuthorized_change found authorized
    cases cached with
    | some invocation =>
      cases Tx.pure_ok.mp h
      exact change
    | none =>
      simp only [Tx.bind_ok, Tx.pure_ok] at h
      obtain ⟨_, _, remembered, ⟨⟩⟩ := h
      rw [(remember_keeps _ _).eq remembered]
      exact change

omit [Sha256] in
theorem settledAction_core {action action' : Action} {cmd : RecordActionAttempt} {actorId : Uuid}
    {settledAt : Instant} (h : settledAction action cmd actorId settledAt = .ok action') :
    action'.core = action.core := by
  unfold settledAction at h
  split at h
  · cases h
    rfl
  · obtain ⟨_, fields⟩ := Action.transitionTo_ok h
    rw [fields]
    rfl

omit [Sha256] in
theorem attemptedAction_core {action action' : Action} {cmd : RecordActionAttempt}
    {actorId : Uuid} {startedAt settledAt : Instant}
    (h : attemptedAction action cmd actorId startedAt settledAt = .ok action') :
    action'.core = action.core := by
  unfold attemptedAction at h
  split at h
  · obtain ⟨executing, started, settled⟩ := bind_eq_ok.mp h
    obtain ⟨_, fields⟩ := Action.transitionTo_ok started
    rw [settledAction_core settled, fields]
    rfl
  · exact settledAction_core h

theorem recordActionAttempt_change {cmd : RecordActionAttempt} {action : Action}
    (h : recordActionAttempt env ctx cmd s = .ok (action, s')) : Change s.core s'.core := by
  simp only [recordActionAttempt, Tx.bind_ok] at h
  obtain ⟨_, _, role, cached, _, loaded, h⟩ := h
  cases requireAny_ok role
  cases loadIdempotency_ok loaded
  cases cached with
  | some cached =>
    cases (Store.find_ok.mp h).2.2
    exact .idle
  | none =>
    simp only [Tx.bind_ok, Store.getAction, Store.find_ok, Tx.check_ok, Tx.ofExcept_ok,
      Tx.pure_ok] at h
    obtain ⟨current, _, ⟨found, _, rfl⟩, _, _, ⟨ready, rfl⟩, updated, _, ⟨attempted, rfl⟩, attempt, _,
      ⟨_, rfl⟩, _, _, added, _, _, saved, _, _, audited, _, _, remembered, ⟨⟩⟩ := h
    rw [(remember_keeps _ _).eq remembered, (audit_keeps _ _ _ _).eq audited,
      Store.saveAction_ok saved, (Store.addActionAttempt_keeps _).eq added]
    simp only [Bool.and_eq_false_iff, decide_eq_false_iff_not, not_not] at ready
    refine .actionMoved found (attemptedAction_core attempted) ?_
    rcases ready with status | status <;> rw [status] <;> exact List.cons_ne_nil _ _

theorem reconcileUnknownAction_change {cmd : ReconcileUnknownAction} {action : Action}
    (h : reconcileUnknownAction env ctx cmd s = .ok (action, s')) : Change s.core s'.core := by
  simp only [reconcileUnknownAction, Tx.bind_ok] at h
  obtain ⟨_, _, role, cached, _, loaded, h⟩ := h
  cases requireAny_ok role
  cases loadIdempotency_ok loaded
  cases cached with
  | some cached =>
    cases (Store.find_ok.mp h).2.2
    exact .idle
  | none =>
    simp only [Tx.bind_ok, Store.getAction, Store.find_ok, Tx.check_ok, Tx.ofExcept_ok,
      Tx.pure_ok] at h
    obtain ⟨current, _, ⟨found, _, rfl⟩, _, _, ⟨_, rfl⟩, updated, _, ⟨moved, rfl⟩, attempt, _,
      ⟨_, rfl⟩, _, _, added, _, _, saved, _, _, audited, _, _, remembered, ⟨⟩⟩ := h
    rw [(remember_keeps _ _).eq remembered, (audit_keeps _ _ _ _).eq audited,
      Store.saveAction_ok saved, (Store.addActionAttempt_keeps _).eq added]
    obtain ⟨legal, fields⟩ := Action.transitionTo_ok moved
    exact .actionMoved found (by rw [fields]; rfl) (List.ne_nil_of_mem legal)

/-! ## Evidence and outcomes -/

theorem recordEvidence_keeps (item : Evidence) :
    Tx.Keeps Store.core (recordEvidence env ctx item) := by
  refine Tx.keeps_bind (Tx.keeps_ofExcept _) fun _ => Tx.keeps_bind (Tx.keeps_check _ _) fun _ =>
    Tx.keeps_bind (Tx.keeps_check _ _) fun _ =>
    Tx.keeps_bind ⟨fun h => congrArg _ (loadIdempotency_ok h)⟩ fun cached => ?_
  cases cached with
  | some cached => exact Store.find_keeps _ _ _ _ _ _
  | none =>
    exact Tx.keeps_bind (Store.find_keeps _ _ _ _ _ _) fun _ =>
      Tx.keeps_bind (Tx.keeps_check _ _) fun _ => Tx.keeps_bind (Store.addEvidence_keeps _) fun _ =>
      Tx.keeps_bind (audit_keeps _ _ _ _) fun _ => Tx.keeps_bind (remember_keeps _ _) fun _ =>
      Tx.keeps_pure _

theorem verifyOutcome_change {runId : Uuid} {criterionId : String} {evidenceIds : List Uuid}
    {outcome : Outcome} (fresh : env.Fresh s.core)
    (h : verifyOutcome ports env ctx runId criterionId evidenceIds s = .ok (outcome, s')) :
    Change s.core s'.core := by
  simp only [verifyOutcome, Tx.bind_ok, Tx.check_ok] at h
  obtain ⟨_, _, role, _, _, ⟨_, rfl⟩, cached, _, loaded, h⟩ := h
  cases requireAny_ok role
  cases loadIdempotency_ok loaded
  cases cached with
  | some cached =>
    cases (Store.find_ok.mp h).2.2
    exact .idle
  | none =>
    simp only [Tx.bind_ok, Store.getRun, Store.getGoal, Store.find_ok] at h
    obtain ⟨run, _, ⟨_, _, rfl⟩, goal, _, ⟨_, _, rfl⟩, h⟩ := h
    cases listed : goal.successCriteria.find? (·.criterionId = criterionId) with
    | none =>
      rw [listed] at h
      cases Tx.raise_ok.mp h
    | some criterion =>
      simp only [listed, Tx.bind_ok, Tx.check_ok, Tx.ofExcept_ok, Tx.pure_ok] at h
      obtain ⟨items, _, read, _, _, ⟨_, rfl⟩, decision, _, ⟨_, rfl⟩, made, _, ⟨valid, rfl⟩, _, _,
        added, _, _, audited, _, _, remembered, ⟨⟩⟩ := h
      cases (Tx.keeps_mapM (fun _ => Store.find_keeps _ _ _ _ _ (fun s => s)) _).eq read
      obtain ⟨_, rfl⟩ := guarded_eq_ok.mp valid
      rw [(remember_keeps _ _).eq remembered, (audit_keeps _ _ _ _).eq audited,
        Store.addOutcome_ok added]
      exact .outcomeAdded (fresh 0).2.2.2

theorem observeCapture_keeps (cmd : CaptureAuthoritativeEvidence) :
    Tx.Keeps Store.core (observeCapture ports env ctx cmd) := by
  refine Tx.keeps_bind (Store.find_keeps _ _ _ _ _ _) fun run =>
    Tx.keeps_bind (Store.find_keeps _ _ _ _ _ _) fun goal =>
    Tx.keeps_bind (Store.find_keeps _ _ _ _ _ _) fun action =>
    Tx.keeps_bind (Tx.keeps_check _ _) fun _ => ?_
  cases goal.successCriteria.find? (·.criterionId = cmd.criterionId) with
  | none => exact Tx.keeps_raise _
  | some criterion =>
    refine Tx.keeps_bind (Tx.keeps_ofExcept _) fun _ => Tx.keeps_bind (Tx.keeps_ofExcept _) fun _ =>
      Tx.keeps_bind (Tx.keeps_ofExcept _) fun _ =>
      Tx.keeps_bind (Tx.keeps_bind (Tx.keeps_read _) fun existing => ?_) fun _ => Tx.keeps_pure _
    cases existing with
    | none => exact Tx.keeps_write fun _ => rfl
    | some existing => exact Tx.keeps_check _ _

theorem planCapture_keeps (cmd : CaptureAuthoritativeEvidence) :
    Tx.Keeps Store.core (planCapture ports env ctx cmd) := by
  refine Tx.keeps_bind (Tx.keeps_ofExcept _) fun _ => Tx.keeps_bind (Tx.keeps_check _ _) fun _ =>
    Tx.keeps_bind ⟨fun h => congrArg _ (loadIdempotency_ok h)⟩ fun cached => ?_
  cases cached with
  | some cached => exact Tx.keeps_bind (Store.find_keeps _ _ _ _ _ _) fun _ => Tx.keeps_pure _
  | none =>
    refine Tx.keeps_bind (Tx.keeps_read _) fun pending => ?_
    cases pending with
    | none => exact observeCapture_keeps cmd
    | some pending =>
      exact Tx.keeps_bind (Tx.keeps_check _ _) fun _ => Tx.keeps_ite
        (Tx.keeps_bind (Store.find_keeps _ _ _ _ _ _) fun _ => Tx.keeps_pure _) (Tx.keeps_pure _)

theorem commitEvidenceCapture_keeps (saga : EvidenceCaptureSaga)
    (stored : EvidenceArtifactDescriptor) :
    Tx.Keeps Store.core (commitEvidenceCapture env ctx saga stored) :=
  Tx.keeps_bind (Tx.keeps_ofExcept _) fun _ => Tx.keeps_bind (Tx.keeps_ofExcept _) fun _ =>
    Tx.keeps_bind (Store.addEvidence_keeps _) fun _ =>
    Tx.keeps_bind (Tx.keeps_bind (Store.find_keeps _ _ _ _ _ _) fun _ =>
      Tx.keeps_bind (Tx.keeps_check _ _) fun _ => Tx.keeps_write fun _ => rfl) fun _ =>
    Tx.keeps_bind (audit_keeps _ _ _ _) fun _ => Tx.keeps_bind (remember_keeps _ _) fun _ =>
    Tx.keeps_pure _

theorem captureAuthoritativeEvidence_core (cmd : CaptureAuthoritativeEvidence) (s : Store) :
    (captureAuthoritativeEvidence ports env ctx cmd s).2.core = s.core := by
  refine Tx.andThen_keeps (planCapture_keeps cmd) (fun plan s => ?_) s
  cases storeArtifact ports plan with
  | error e => rfl
  | ok done =>
    cases done with
    | inl evidence => rfl
    | inr planned => exact (commitEvidenceCapture_keeps _ _).commit s

theorem requestEvidenceDeletion_core (cmd : RequestEvidenceDeletion) (s : Store) :
    (requestEvidenceDeletion ports env ctx cmd s).2.core = s.core := by
  have record : ∀ r, Tx.Keeps Store.core (Store.recordEvidenceDeletion r) :=
    fun _ => Tx.keeps_write fun _ => rfl
  refine Tx.andThen_keeps ?_ (fun (evidence, requested) s => ?_) s
  · exact Tx.keeps_bind (Tx.keeps_ofExcept _) fun _ => Tx.keeps_bind (Tx.keeps_check _ _) fun _ =>
      Tx.keeps_bind (Tx.keeps_check _ _) fun _ =>
      Tx.keeps_bind (Store.find_keeps _ _ _ _ _ _) fun _ => Tx.keeps_bind (record _) fun _ =>
      Tx.keeps_bind (audit_keeps _ _ _ _) fun _ => Tx.keeps_pure _
  · dsimp only
    cases settleDeletion requested (ports.evidence.delete evidence.descriptor) with
    | error e => rfl
    | ok final =>
      have finish : Tx.Keeps Store.core (finishDeletion env ctx evidence final) :=
        Tx.keeps_bind (record _) fun _ => Tx.keeps_bind (audit_keeps _ _ _ _) fun _ =>
          Tx.keeps_pure _
      exact finish.commit s

end

end Autonoesis.App
