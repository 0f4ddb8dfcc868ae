import Autonoesis.Application.Recovery
import Autonoesis.Base.Served
import Autonoesis.Persistence.PlanRows

/-!
# Running the tasks of a plan

`execute_run` over a freshly planned Run: it starts the pending tasks in the order in which
`list_tasks` returns them, and hands each to the executor.
-/

namespace Autonoesis
open Base

/-- What one `execute_run` is served with: the order of the rows of `list_tasks`, what each
`start_task` draws, and the executor. -/
structure Runner where
  arrange : List Task → List Task
  env : Uuid → Env
  execute : Task → Store → Except Exc Unit × Store

inductive TaskEvent where
  | started (taskId : Uuid)
  | executed (taskId : Uuid)

/-- The calls that start a task, or execute it, and return. -/
def taskEvent : AppEvent → Option TaskEvent
  | ⟨.startTask _ _, .ok task⟩ => some (.started task.taskId)
  | ⟨.executor _ task, .ok _⟩ => some (.executed task.taskId)
  | _ => none

/-- Each task of a list comes after its dependencies. -/
def DependenciesFirst : List Uuid → List Task → Prop
  | _, [] => True
  | done, task :: rest =>
    (∀ d ∈ task.dependsOn, d ∈ done) ∧ DependenciesFirst (done ++ [task.taskId]) rest

section
variable [Sha256]

def Runner.handle (x : Runner) (s : Store) : (r : AppReq) → Except Exc (AppResp r) × Store
  | .getRun tenantId runId => (Store.getRun tenantId runId).commit s
  | .listTasks tenantId runId =>
    let listed := (Store.listTasks tenantId runId).commit s
    (listed.1.map x.arrange, listed.2)
  | .startTask ctx taskId => (App.startTask (x.env taskId) ctx taskId).commit s
  | .executor _ task => x.execute task s
  | _ => (.error (.runtimeError "not a call of execute_run"), s)

/-- An executor that marks the running task it is given succeeded. It starts no task. -/
structure Runner.Marks (x : Runner) : Prop where
  marks : ∀ (s : Store) (task : Task), s.Audited → s.tasks.get? task.taskId = some task →
    task.status = .running → ∃ (done : Task) (s' : Store), x.execute task s = (.ok (), s') ∧
      s'.tasks = s.tasks.set task.taskId done ∧ done.tenantId = task.tenantId ∧
      done.status = .succeeded ∧ s'.Audited ∧ ∀ ctx : CommandContext,
        s'.idempotency.get? (ctx.tenantId, ctx.key "start_task") =
          s.idempotency.get? (ctx.tenantId, ctx.key "start_task") ∧
        s'.idempotencyDigests.get? (ctx.tenantId, ctx.key "start_task") =
          s.idempotencyDigests.get? (ctx.tenantId, ctx.key "start_task")

end

/-! ## The command that starts a task -/

namespace App

variable {s s' : Store} {ctx : CommandContext}

theorem startedTask_returns {task : Task} (pending : task.status = .pending) (actorId : Uuid)
    (readyAt startedAt : Instant) :
    ∃ started, startedTask task actorId readyAt startedAt = .ok started ∧
      started.status = .running ∧ started.taskId = task.taskId ∧
      started.tenantId = task.tenantId := by
  have step (t : Task) (target : TaskStatus) (reason : String) (at' : Instant)
      (legal : target ∈ taskTransitions t.status) (spoken : isBlank reason = false) :
      ∃ t', t.transitionTo target actorId reason at' = .ok t' ∧ t'.status = target ∧
        t'.taskId = t.taskId ∧ t'.tenantId = t.tenantId :=
    ⟨_, bind_eq_ok.mpr ⟨(), requireTransition_ok.mpr legal, bind_eq_ok.mpr
      ⟨_, transitionRecord_ok.mpr ⟨spoken, rfl⟩, rfl⟩⟩, rfl, rfl, rfl⟩
  obtain ⟨ready, first, status, named, tenant⟩ := step task .ready "task dependencies satisfied"
    readyAt (by rw [pending]; decide) (by decide +kernel)
  obtain ⟨started, second, running, named', tenant'⟩ := step ready .running
    "task execution started" startedAt (by rw [status]; decide) (by decide +kernel)
  refine ⟨started, ?_, running, named'.trans named, tenant'.trans tenant⟩
  simp only [startedTask, pending, if_true]
  exact bind_eq_ok.mpr ⟨ready, first, second⟩

variable [Sha256]

omit [Sha256] in
theorem loadIdempotency_unbound {key : String}
    (undigested : s.idempotencyDigests.get? (ctx.tenantId, key) = none) :
    loadIdempotency ctx key s = .ok (s.idempotency.get? (ctx.tenantId, key), s) :=
  loadIdempotency_returns.mpr ⟨fun _ used => (by cases undigested.symm.trans used), rfl⟩

/-- A pending task whose start was never recorded, where `start_task` finds it. -/
structure Startable (s : Store) (ctx : CommandContext) (task : Task) : Prop where
  there : s.tasks.get? task.taskId = some task
  tenant : task.tenantId = ctx.tenantId
  pending : task.status = .pending
  unbound : s.idempotency.get? (ctx.tenantId, ctx.key "start_task") = none
  undigested : s.idempotencyDigests.get? (ctx.tenantId, ctx.key "start_task") = none

omit [Sha256] in
theorem Startable.cached {task : Task} (startable : Startable s ctx task) :
    cachedTask ctx (ctx.key "start_task") task.taskId s = .ok (task, s) := by
  refine Tx.bind_ok.mpr ⟨none, s, ?_, ?_⟩
  · rw [loadIdempotency_unbound startable.undigested, startable.unbound]
  · exact Store.find_ok.mpr ⟨startable.there, startable.tenant, rfl⟩

/-- A task whose dependencies have succeeded is started. -/
theorem startTask_returns {task : Task} (startable : Startable s ctx task) (audited : s.Audited)
    (role : roleCheck ctx operators = .ok ())
    (ready : ∀ d ∈ task.dependsOn, ∃ t, s.tasks.get? d = some t ∧ t.tenantId = ctx.tenantId ∧
      t.status = .succeeded) (env : Env) :
    ∃ started s', startTask env ctx task.taskId s = .ok (started, s') ∧
      started.status = .running ∧ started.taskId = task.taskId ∧
      started.tenantId = task.tenantId ∧ s'.tasks = s.tasks.set task.taskId started ∧
      s'.idempotency = s.idempotency.set (ctx.tenantId, ctx.key "start_task") task.taskId ∧
      s'.idempotencyDigests =
        s.idempotencyDigests.set (ctx.tenantId, ctx.key "start_task") ctx.requestDigest := by
  obtain ⟨started, made, running, named, tenant⟩ := startedTask_returns startable.pending
    ctx.identity.actorId (env.now 0) (env.now 1)
  choose find found using ready
  obtain ⟨events, logged⟩ := Store.recordAudit_returns (s := { s with
    tasks := s.tasks.set task.taskId started }) audited
    (ctx.audit "task.started" started.auditItem (env.uuid 0)) (env.now 2)
  have dependencies : task.dependsOn.mapM (Store.getTask ctx.tenantId) s =
      .ok (task.dependsOn.map fun d => (s.tasks.get? d).getD task, s) :=
    Tx.mapM_returns fun d among => by
      obtain ⟨stored, owned, _⟩ := found d among
      rw [stored]
      exact Store.find_ok.mpr ⟨stored, owned, rfl⟩
  have succeeded : (task.dependsOn.map fun d => (s.tasks.get? d).getD task).any
      (fun t => t.status ≠ .succeeded) = false := by
    simp only [List.any_eq_false, List.mem_map, decide_eq_true_eq, not_not]
    rintro _ ⟨d, among, rfl⟩
    obtain ⟨stored, _, status⟩ := found d among
    rw [stored]
    exact status
  have saved : Store.saveTask started task.optimisticVersion s =
      .ok ((), { s with tasks := s.tasks.set task.taskId started }) := by
    refine Tx.bind_ok.mpr ⟨task, s, Store.find_ok.mpr ⟨?_, tenant.symm, rfl⟩,
      Tx.bind_ok.mpr ⟨(), s, Tx.check_ok.mpr ⟨by simp, rfl⟩, Tx.write_ok.mpr ?_⟩⟩
    · rw [named]
      exact startable.there
    · rw [named]
  have ran : startTask env ctx task.taskId s = .ok (started, { s with
      tasks := s.tasks.set task.taskId started
      audits := events
      idempotency := s.idempotency.set (ctx.tenantId, ctx.key "start_task") started.taskId
      idempotencyDigests :=
        s.idempotencyDigests.set (ctx.tenantId, ctx.key "start_task") ctx.requestDigest }) := by
    refine Tx.bind_ok.mpr ⟨(), s, Tx.ofExcept_ok.mpr ⟨role, rfl⟩,
      Tx.bind_ok.mpr ⟨task, s, startable.cached, ?_⟩⟩
    rw [if_neg (by rw [startable.pending]; decide)]
    refine Tx.bind_ok.mpr ⟨_, s, dependencies, Tx.bind_ok.mpr ⟨(), s,
      Tx.check_ok.mpr ⟨succeeded, rfl⟩, Tx.bind_ok.mpr ⟨started, s,
      Tx.ofExcept_ok.mpr ⟨made, rfl⟩, Tx.bind_ok.mpr ⟨(), _, saved,
      Tx.bind_ok.mpr ⟨(), _, logged, ?_⟩⟩⟩⟩⟩
    refine Tx.bind_ok.mpr ⟨(), _, Store.putIdempotency_ok.mpr ⟨fun old bound => ?_, rfl⟩, rfl⟩
    cases startable.unbound.symm.trans bound
  exact ⟨started, _, ran, running, named, tenant, rfl, by rw [named], rfl⟩

omit [Sha256] in
theorem mem_of_getTasks {tenantId : Uuid} {ids : List Uuid} {tasks : List Task}
    (ran : ids.mapM (Store.getTask tenantId) s = .ok (tasks, s')) {d : Uuid} (among : d ∈ ids)
    {t : Task} (there : s.tasks.get? d = some t) : t ∈ tasks := by
  induction ids generalizing tasks s' with
  | nil => cases among
  | cons id rest ih =>
    rw [List.mapM_cons] at ran
    obtain ⟨first, s₁, read, ran⟩ := Tx.bind_ok.mp ran
    obtain ⟨others, s₂, reading, done⟩ := Tx.bind_ok.mp ran
    obtain ⟨found, _, rfl⟩ := Store.find_ok.mp read
    cases Tx.pure_ok.mp done
    rcases List.mem_cons.mp among with rfl | later
    · cases there.symm.trans found
      exact List.mem_cons_self
    · exact List.mem_cons_of_mem _ (ih reading later)

/-- A task is not started before a dependency has succeeded. -/
theorem startTask_refuses {task t : Task} (startable : Startable s ctx task) {d : Uuid}
    (among : d ∈ task.dependsOn) (there : s.tasks.get? d = some t) (unmet : t.status ≠ .succeeded)
    (env : Env) : ∃ e, startTask env ctx task.taskId s = .error e := by
  cases ran : startTask env ctx task.taskId s with
  | error e => exact ⟨e, rfl⟩
  | ok r =>
    obtain ⟨started, s'⟩ := r
    simp only [startTask, Tx.bind_ok, Tx.ite_ok, Tx.check_ok, Tx.ofExcept_ok, Tx.pure_ok] at ran
    obtain ⟨_, _, role, current, _, read, ran⟩ := ran
    cases requireAny_ok role
    cases startable.cached.symm.trans read
    rcases ran with ⟨running, _⟩ | ⟨_, found, _, dependencies, _, _, ⟨succeeded, rfl⟩, _⟩
    · cases startable.pending.symm.trans running
    · have each := List.any_eq_false.mp succeeded t (mem_of_getTasks dependencies among there)
      simp only [decide_eq_true_eq, not_not] at each
      exact absurd each unmet

omit [Sha256] in
theorem length_str (u : Uuid) : u.str.length = 36 := by
  unfold Uuid.str
  simp only [String.length_ofList, List.length_append, List.length_take, List.length_drop,
    length_hexDigits, List.length_singleton]
  rfl

/-- A context of the worker, for any operation with a short name. -/
theorem workerContext_returns (hex : ∀ text, isSha256Hex (Sha256.hexdigest text) = true)
    (tenantId runId : Uuid) {operation : String} (short : operation.length ≤ 200) :
    ∃ ctx, workerContext tenantId runId operation = .ok ctx ∧ ctx.tenantId = tenantId ∧
      roleCheck ctx operators = .ok () ∧
      ctx.idempotencyKey = "temporal:" ++ operation ++ ":" ++ runId.str ∧
      ctx.requestDigest = Sha256.hexdigest (operation ++ "\n" ++ runId.str) := by
  have spoken : isBlank ("temporal:" ++ operation ++ ":" ++ runId.str) = false := by
    have letter : isSpace 't' = false := by decide +kernel
    simp [isBlank, String.toList_append, letter]
  have bounded : ("temporal:" ++ operation ++ ":" ++ runId.str).length ≤ 300 := by
    have parts : "temporal:".length = 9 ∧ ":".length = 1 := by decide +kernel
    simp only [String.length_append, length_str, parts.1, parts.2]
    omega
  refine ⟨_, guarded_eq_ok.mpr ⟨?_, rfl⟩, rfl, ?_, rfl, rfl⟩
  · simp only [CommandContextFields.check, checks_cons, checks_nil, Bool.or_eq_false_iff, spoken,
      hex, decide_eq_false_iff_not, not_lt, Bool.not_true, and_true, true_and]
    exact bounded
  · simp [roleCheck, operators]

end App

/-! ## The loop over the tasks -/

/-- The key under which the worker starts a task. -/
def startKey (runId taskId : Uuid) : String :=
  "start_task" ++ ":" ++ ("temporal:" ++ ("start-task:" ++ taskId.str) ++ ":" ++ runId.str)

theorem startKey_injective {runId a b : Uuid} (same : startKey runId a = startKey runId b) :
    a = b := by
  have texts := congrArg String.toList same
  simp only [startKey, String.toList_append, List.append_assoc, List.append_cancel_left_eq] at texts
  have lengths : a.str.toList.length = b.str.toList.length := by
    simp only [String.length_toList, App.length_str]
  exact Uuid.str_injective (String.ext_iff.mpr (List.append_inj_left texts lengths))

/-- The loop with the tasks in `done` executed, and those in `rest` still to come. -/
structure Underway (s : Store) (tenantId runId : Uuid) (done : List Uuid) (rest : List Task) :
    Prop where
  audited : s.Audited
  executed : ∀ id ∈ done, ∃ t, s.tasks.get? id = some t ∧ t.tenantId = tenantId ∧
    t.status = .succeeded
  waiting : ∀ t ∈ rest, s.tasks.get? t.taskId = some t ∧ t.tenantId = tenantId ∧
    t.status = .pending
  unstarted : ∀ t ∈ rest, s.idempotency.get? (tenantId, startKey runId t.taskId) = none ∧
    s.idempotencyDigests.get? (tenantId, startKey runId t.taskId) = none

section
variable [Sha256] {x : Runner} {config : GatewayConfig} {s : Store} {tenantId runId : Uuid}
  {done : List Uuid} {task : Task} {rest : List Task}

/-- The context in which the worker starts a task. -/
theorem startContext (hex : ∀ text, isSha256Hex (Sha256.hexdigest text) = true)
    (tenantId runId taskId : Uuid) :
    ∃ ctx, App.workerContext tenantId runId ("start-task:" ++ taskId.str) = .ok ctx ∧
      App.roleCheck ctx App.operators = .ok () ∧ ctx.tenantId = tenantId ∧
      ctx.key "start_task" = startKey runId taskId := by
  have short : ("start-task:" ++ taskId.str).length ≤ 200 := by
    have head : "start-task:".length = 11 := by decide +kernel
    simp only [String.length_append, App.length_str, head]
    omega
  obtain ⟨ctx, made, tenant, role, named, _⟩ :=
    App.workerContext_returns hex tenantId runId short
  refine ⟨ctx, made, role, tenant, ?_⟩
  rw [CommandContext.key, named]
  rfl

omit [Sha256] in
theorem Underway.startable (underway : Underway s tenantId runId done (task :: rest))
    {ctx : CommandContext} (tenant : ctx.tenantId = tenantId)
    (key : ctx.key "start_task" = startKey runId task.taskId) : App.Startable s ctx task := by
  obtain ⟨there, owned, pending⟩ := underway.waiting task List.mem_cons_self
  obtain ⟨unbound, undigested⟩ := underway.unstarted task List.mem_cons_self
  rw [← key, ← tenant] at unbound undigested
  exact ⟨there, owned.trans tenant.symm, pending, unbound, undigested⟩

theorem dispatchTasks_ready (hex : ∀ text, isSha256Hex (Sha256.hexdigest text) = true)
    (marks : x.Marks) (configured : config.executorConfigured = true)
    (underway : Underway s tenantId runId done (task :: rest))
    (nodup : ((task :: rest).map (·.taskId)).Nodup)
    (ready : ∀ d ∈ task.dependsOn, d ∈ done) : ∃ started executed s',
      taskEvent started = some (.started task.taskId) ∧
      taskEvent executed = some (.executed task.taskId) ∧
      Underway s' tenantId runId (done ++ [task.taskId]) rest ∧
      ∀ n, Prog.served (fun _ => x.handle) n
          (App.dispatchTasks config tenantId runId (task :: rest)) s =
        (started :: executed :: (Prog.served (fun _ => x.handle) (n + 2)
            (App.dispatchTasks config tenantId runId rest) s').1,
          (Prog.served (fun _ => x.handle) (n + 2)
            (App.dispatchTasks config tenantId runId rest) s').2) := by
  obtain ⟨ctx, made, role, tenant, key⟩ := startContext hex tenantId runId task.taskId
  have startable := underway.startable tenant key
  obtain ⟨started, s₁, start, running, named, owned, tasks₁, keys₁, digests₁⟩ :=
    App.startTask_returns startable underway.audited role
      (fun d among => tenant ▸ underway.executed d (ready d among)) (x.env task.taskId)
  have holds : Store.Holds Store.Audited (App.startTask (x.env task.taskId) ctx task.taskId) :=
    App.startTask_holds fun p _ => (Store.audited_kept (Recovery.digest_length hex) p :
      Store.Kept (fun _ => True) Store.Audited p)
  obtain ⟨succeeded, s₂, executed, tasks₂, same, status, audited, keys₂⟩ :=
    marks.marks s₁ started (holds.run underway.audited start).1
      (by rw [named, tasks₁]; exact Dict.get?_set_self _ _ _) running
  rw [named, tasks₁] at tasks₂
  have others {id : Uuid} (other : id ≠ task.taskId) : s₂.tasks.get? id = s.tasks.get? id := by
    rw [tasks₂, Dict.get?_set_ne _ _ other, Dict.get?_set_ne _ _ other]
  have apart {t : Task} (among : t ∈ rest) : t.taskId ≠ task.taskId := by
    intro same
    exact (List.nodup_cons.mp nodup).1 (List.mem_map.mpr ⟨t, among, same⟩)
  refine ⟨⟨.startTask ctx task.taskId, .ok started⟩, ⟨.executor runId started, .ok ()⟩, s₂, ?_, ?_,
    ⟨audited, fun id among => ?_, fun t among => ?_, fun t among => ?_⟩, fun n => ?_⟩
  · simp [taskEvent, named]
  · simp [taskEvent, named]
  · by_cases here : id = task.taskId
    · refine ⟨succeeded, ?_, same.trans (owned.trans (startable.tenant.trans tenant)), status⟩
      rw [tasks₂, here]
      exact Dict.get?_set_self _ _ _
    · rw [others here]
      rcases List.mem_append.mp among with before | last
      · exact underway.executed id before
      · exact absurd (List.mem_singleton.mp last) here
  · rw [others (apart among)]
    exact underway.waiting t (List.mem_cons_of_mem _ among)
  · obtain ⟨other, _, _, tenant', key'⟩ := startContext hex tenantId runId t.taskId
    have differs : (tenantId, startKey runId t.taskId) ≠ (tenantId, startKey runId task.taskId) :=
      fun same => apart among (startKey_injective (Prod.mk.inj same).2)
    have kept := keys₂ other
    rw [keys₁, digests₁, tenant, key, tenant', key', Dict.get?_set_ne _ _ differs,
      Dict.get?_set_ne _ _ differs] at kept
    rw [kept.1, kept.2]
    exact underway.unstarted t (List.mem_cons_of_mem _ among)
  · have begin : x.handle s (.startTask ctx task.taskId) = (.ok started, s₁) := by
      simp only [Runner.handle, Tx.commit, start]
    have finish : x.handle s₁ (.executor runId started) = (.ok (), s₂) := executed
    simp only [App.dispatchTasks, startable.pending, if_true, made]
    change Prog.served _ n (Prog.request (AppReq.startTask ctx task.taskId) >>= _) s = _
    rw [Prog.served_request_bind begin, if_pos (by simp [running, configured]),
      Prog.served_request_bind finish]

theorem dispatchTasks_unmet (hex : ∀ text, isSha256Hex (Sha256.hexdigest text) = true)
    (underway : Underway s tenantId runId done (task :: rest)) {d : Uuid}
    (among : d ∈ task.dependsOn) {t : Task} (waits : t ∈ task :: rest) (named : t.taskId = d)
    (n : Nat) : ∃ e, (Prog.served (fun _ => x.handle) n
      (App.dispatchTasks config tenantId runId (task :: rest)) s).2.1 = .error e := by
  obtain ⟨ctx, made, role, tenant, key⟩ := startContext hex tenantId runId task.taskId
  have startable := underway.startable tenant key
  obtain ⟨there, _, pending⟩ := underway.waiting t waits
  obtain ⟨e, refused⟩ := App.startTask_refuses startable among (named ▸ there)
    (by rw [pending]; decide) (x.env task.taskId)
  have raised : x.handle s (.startTask ctx task.taskId) = (.error e, s) := by
    simp only [Runner.handle, Tx.commit, refused]
  refine ⟨e, ?_⟩
  simp only [App.dispatchTasks, startable.pending, if_true, made]
  change (Prog.served _ n (Prog.request (AppReq.startTask ctx task.taskId) >>= _) s).2.1 = _
  rw [Prog.served_request_raised raised]

/-- The events of a task that is started and then executed. -/
def dispatched (task : Task) : List TaskEvent := [.started task.taskId, .executed task.taskId]

theorem dispatchTasks_served (hex : ∀ text, isSha256Hex (Sha256.hexdigest text) = true)
    (marks : x.Marks) (configured : config.executorConfigured = true)
    (underway : Underway s tenantId runId done rest) (nodup : (rest.map (·.taskId)).Nodup)
    (closed : ∀ t ∈ rest, ∀ d ∈ t.dependsOn, d ∈ done ∨ ∃ t' ∈ rest, t'.taskId = d) (n : Nat) :
    let run := Prog.served (fun _ => x.handle) n
      (App.dispatchTasks config tenantId runId rest) s
    (DependenciesFirst done rest → run.2.1 = .ok () ∧
      run.1.filterMap taskEvent = rest.flatMap dispatched) ∧
    (¬ DependenciesFirst done rest → ∃ e, run.2.1 = .error e) := by
  induction rest generalizing s done n with
  | nil => exact ⟨fun _ => ⟨rfl, rfl⟩, fun disordered => absurd trivial disordered⟩
  | cons task rest ih =>
    by_cases ready : ∀ d ∈ task.dependsOn, d ∈ done
    · obtain ⟨started, executed, s', first, second, underway', served⟩ :=
        dispatchTasks_ready hex marks configured underway nodup ready
      have closed' : ∀ t ∈ rest, ∀ d ∈ t.dependsOn,
          d ∈ done ++ [task.taskId] ∨ ∃ t' ∈ rest, t'.taskId = d := by
        intro t among d needs
        rcases closed t (List.mem_cons_of_mem _ among) d needs with before | ⟨t', later, named⟩
        · exact .inl (List.mem_append_left _ before)
        · rcases List.mem_cons.mp later with rfl | later
          · exact .inl (List.mem_append_right _ (List.mem_singleton.mpr named.symm))
          · exact .inr ⟨t', later, named⟩
      obtain ⟨good, bad⟩ := ih underway' (List.nodup_cons.mp nodup).2 closed' (n + 2)
      rw [served]
      refine ⟨fun ordered => ?_, fun disordered => bad fun ordered => disordered ⟨ready, ordered⟩⟩
      obtain ⟨returned, events⟩ := good ordered.2
      refine ⟨returned, ?_⟩
      simp only [List.filterMap_cons, first, second, events, List.flatMap_cons, dispatched,
        List.cons_append, List.nil_append]
    · refine ⟨fun ordered => absurd ordered.1 ready, fun _ => ?_⟩
      push Not at ready
      obtain ⟨d, needs, missing⟩ := ready
      rcases closed task List.mem_cons_self d needs with before | ⟨t, waits, named⟩
      · exact absurd before missing
      · exact dispatchTasks_unmet hex underway needs waits named n

end

/-! ## A freshly planned Run -/

/-- The rows of `list_tasks`, in the order of the store. -/
def listed (s : Store) (tenantId runId : Uuid) : List Task :=
  s.tasks.values.filter fun t => t.tenantId = tenantId && t.runId = runId

/-- The Run of the plan is running, the tasks stored for it are those of the plan, all of them
pending, and the worker has started none of them. -/
structure Planned (s : Store) (plan : Plan) : Prop where
  audited : s.Audited
  running : ∃ run, s.runs.get? plan.runId = some run ∧ run.tenantId = plan.tenantId ∧
    run.status = .running
  stored : ∀ t ∈ plan.tasks, s.tasks.get? t.taskId = some t ∧ t.status = .pending
  listed : (listed s plan.tenantId plan.runId).Perm plan.tasks
  unstarted : ∀ t ∈ plan.tasks,
    s.idempotency.get? (plan.tenantId, startKey plan.runId t.taskId) = none ∧
    s.idempotencyDigests.get? (plan.tenantId, startKey plan.runId t.taskId) = none

/-- The task ids of a plan are unique, and its dependencies are among them. -/
theorem Plan.closed (plan : Plan) : (plan.tasks.map (·.taskId)).Nodup ∧
    ∀ t ∈ plan.tasks, ∀ d ∈ t.dependsOn, ∃ t' ∈ plan.tasks, t'.taskId = d := by
  have valid := plan.valid
  simp only [PlanFields.check, PlanFields.checkIn, bind_eq_ok, forM_eq_ok, checks_cons,
    checks_nil, Bool.not_eq_false', decide_eq_true_eq] at valid
  obtain ⟨_, ⟨_, _, nodup, _⟩, _, checked, _⟩ := valid
  refine ⟨nodup, fun t among d needs => ?_⟩
  have member := checked t among
  simp only [PlanFields.checkTask, checks_cons, checks_nil, Bool.not_eq_false', List.all_eq_true,
    decide_eq_true_eq] at member
  exact List.mem_map.mp (member.2.1 d needs)

namespace Store

variable [Sha256]

/-- What `save_run` leaves behind. -/
theorem saveRun_written {run : Run} {version : Int} {audit : AuditEvent} {now : Instant}
    {s s' : Store} (ran : saveRun run version audit now s = .ok ((), s')) : ∃ events, s' = { s with
      runs := s.runs.set run.runId run
      audits := events } := by
  simp only [saveRun, recordAudit, Tx.bind_ok, getRun, find_ok, Tx.check_ok, Tx.write_ok,
    Tx.read_ok, Tx.ofExcept_ok] at ran
  obtain ⟨_, _, ⟨_, _, rfl⟩, _, _, ⟨_, rfl⟩, _, _, rfl, _, _, ⟨⟩, chained, _, ⟨_, rfl⟩, rfl⟩ := ran
  exact ⟨_, rfl⟩

end Store

/-- In memory a replayed `create_validated_plan` returns the plan of the first call. -/
theorem createValidatedPlan_replayed [Sha256] {env env' : Env} {ctx : CommandContext}
    {cmd cmd' : CreateValidatedPlan} {plan : Plan} {s s' : Store}
    (ran : App.createValidatedPlan env ctx cmd s = .ok (plan, s')) :
    App.createValidatedPlan env' ctx cmd' s' = .ok (plan, s') := by
  simp only [App.createValidatedPlan, Tx.bind_ok] at ran ⊢
  obtain ⟨_, _, role, cached, _, loaded, ran⟩ := ran
  cases App.requireAny_ok role
  cases App.loadIdempotency_ok loaded
  cases cached with
  | some planId =>
    cases (Store.getPlan_keeps _ _ (fun s => s)).eq ran
    exact ⟨_, _, role, _, _, loaded, ran⟩
  | none =>
    simp only [Tx.bind_ok, Store.getRun, Store.find_ok, Tx.check_ok, Tx.ofExcept_ok, Store.addPlan,
      Tx.write_ok, Tx.pure_ok] at ran
    obtain ⟨run, _, ⟨_, tenant, rfl⟩, _, _, ⟨_, rfl⟩, snapshot, s₁, read, tasks, _, ⟨_, rfl⟩, made,
      _, ⟨valid, rfl⟩, bound, _, ⟨_, rfl⟩, _, _, rfl, _, _, saved, _, _, remembered, ⟨⟩⟩ := ran
    cases (Store.getContextSnapshot_keeps _ _ (fun s => s)).eq read
    obtain ⟨_, same⟩ := guarded_eq_ok.mp valid
    have owned : plan.tenantId = ctx.tenantId := by rw [← same]
    obtain ⟨events, rfl⟩ := Store.saveRun_written saved
    obtain ⟨_, written⟩ := Store.putIdempotency_ok.mp remembered
    change s' = _ at written
    have role' : App.requireAny ctx App.operators s' = .ok ((), s') :=
      Tx.ofExcept_ok.mpr ⟨(Tx.ofExcept_ok.mp role).1, rfl⟩
    refine ⟨(), s', role', some plan.planId, s', ?_, ?_⟩
    · refine App.loadIdempotency_returns.mpr ⟨fun d used => ?_, ?_⟩
      · have digests := congrArg Store.idempotencyDigests written
        rw [digests, Dict.get?_set_self] at used
        exact (Option.some.inj used).symm
      · have values := congrArg Store.idempotency written
        rw [values, Dict.get?_set_self]
    · rw [← owned]
      exact Store.getPlan_of_added (congrArg Store.plans written) (congrArg Store.tasks written)

/-- New keys come last, in the order in which they are set. -/
theorem entries_fold {tasks : List Task} {d : Dict Uuid Task}
    (nodup : (tasks.map (·.taskId)).Nodup) (fresh : ∀ t ∈ tasks, d.get? t.taskId = none) :
    (tasks.foldl (fun d t => d.set t.taskId t) d).entries =
      d.entries ++ tasks.map fun t => (t.taskId, t) := by
  induction tasks generalizing d with
  | nil => simp
  | cons t rest ih =>
    obtain ⟨new, nodup⟩ := List.nodup_cons.mp nodup
    have absent := fresh t List.mem_cons_self
    have later : ∀ t' ∈ rest, (d.set t.taskId t).get? t'.taskId = none := by
      intro t' among
      rw [Dict.get?_set_ne]
      · exact fresh t' (List.mem_cons_of_mem _ among)
      · intro same
        exact new (List.mem_map.mpr ⟨t', among, same⟩)
    rw [List.foldl_cons, ih nodup later, Dict.entries_set absent, List.map_cons, List.append_assoc]
    rfl

/-- A Run is freshly planned once `create_validated_plan` has returned, on task ids and keys that
were not in use. -/
theorem createValidatedPlan_planned [Sha256]
    (hex : ∀ text, isSha256Hex (Sha256.hexdigest text) = true) {env : Env} {ctx : CommandContext}
    {cmd : CreateValidatedPlan} {plan : Plan} {s s' : Store}
    (ran : App.createValidatedPlan env ctx cmd s = .ok (plan, s')) (audited : s.Audited)
    (unplanned : listed s ctx.tenantId plan.runId = [])
    (first : s.idempotency.get? (ctx.tenantId, ctx.key "create_validated_plan") = none)
    (fresh : ∀ t ∈ plan.tasks, s.tasks.get? t.taskId = none)
    (unstarted : ∀ t ∈ plan.tasks,
      s.idempotency.get? (ctx.tenantId, startKey plan.runId t.taskId) = none ∧
      s.idempotencyDigests.get? (ctx.tenantId, startKey plan.runId t.taskId) = none) :
    Planned s' plan := by
  have kept : ∀ p ∈ (Command.createValidatedPlan ctx cmd).parts,
      Store.Kept (fun _ => True) Store.Audited p := fun p _ =>
    Store.audited_kept (Recovery.digest_length hex) p
  have holds : Store.Holds Store.Audited (App.createValidatedPlan env ctx cmd) :=
    App.createValidatedPlan_holds kept fun _ => trivial
  have audited' := (holds.run audited ran).1
  simp only [App.createValidatedPlan, Tx.bind_ok] at ran
  obtain ⟨_, _, role, cached, _, loaded, ran⟩ := ran
  cases App.requireAny_ok role
  obtain ⟨_, loaded⟩ := App.loadIdempotency_returns.mp loaded
  rw [first] at loaded
  cases loaded
  simp only [Tx.bind_ok, Store.getRun, Store.find_ok, Tx.check_ok, decide_eq_false_iff_not,
    not_not, Tx.ofExcept_ok, Store.addPlan, Tx.write_ok, Tx.pure_ok] at ran
  obtain ⟨run, _, ⟨found, tenant, rfl⟩, _, _, ⟨pending, rfl⟩, snapshot, s₁, read, tasks, _,
    ⟨built, rfl⟩, made, _, ⟨valid, rfl⟩, bound, _, ⟨started, rfl⟩, _, _, rfl, _, _, saved, _, _,
    remembered, ⟨⟩⟩ := ran
  cases (Store.getContextSnapshot_keeps _ _ (fun s => s)).eq read
  obtain ⟨_, rfl⟩ := guarded_eq_ok.mp valid
  obtain ⟨same, running⟩ := App.startRun_ok started
  obtain ⟨owned, _, named⟩ : bound.tenantId = run.tenantId ∧ bound.goalId = run.goalId ∧
    bound.runId = run.runId := by simpa [RunFields.ident] using same
  obtain ⟨events, rfl⟩ := Store.saveRun_written saved
  obtain ⟨_, written⟩ := Store.putIdempotency_ok.mp remembered
  cases written
  obtain ⟨nodup, _⟩ := Plan.closed ⟨_, ‹_›⟩
  have last := entries_fold nodup fresh
  refine ⟨audited', ⟨bound, ?_, ?_, running⟩, fun t among => ⟨?_, ?_⟩, ?_, fun t among => ?_⟩
  · exact (Dict.get?_set _ _ _ _).trans (if_pos named.symm)
  · exact owned.trans tenant
  · refine (Dict.get?_eq_some _ _ _).mpr ?_
    rw [last]
    exact List.mem_append_right _ (List.mem_map.mpr ⟨t, among, rfl⟩)
  · obtain ⟨item, _, make⟩ := mem_of_mapM_eq_ok built among
    obtain ⟨_, rfl⟩ := guarded_eq_ok.mp make
    rfl
  · rw [Autonoesis.listed, Dict.values] at unplanned ⊢
    dsimp only at last ⊢
    have values : (tasks.map fun t => (t.taskId, t)).map Prod.snd = tasks := by
      simp [Function.comp_def]
    rw [last, List.map_append, List.filter_append, unplanned, List.nil_append, values,
      List.filter_eq_self.mpr]
    intro t among
    obtain ⟨owned, member⟩ := Plan.members ⟨_, ‹_›⟩ among
    simp [owned, member]
  · have differs : (ctx.tenantId, startKey run.runId t.taskId) ≠
        (ctx.tenantId, ctx.key "create_validated_plan") := by
      intro same
      have := congrArg String.toList (Prod.mk.inj same).2
      simp [startKey, CommandContext.key] at this
    dsimp only
    rw [Dict.get?_set_ne _ _ differs, Dict.get?_set_ne _ _ differs]
    exact unstarted t among

section
variable [Sha256] {x : Runner} {config : GatewayConfig} {s : Store} {plan : Plan}

omit [Sha256] in
/-- The loop before its first task, in any order of the tasks. -/
theorem Planned.underway (planned : Planned s plan) {order : List Task}
    (all : order.Perm plan.tasks) : Underway s plan.tenantId plan.runId [] order where
  audited := planned.audited
  executed := by
    intro id among
    cases among
  waiting := by
    intro t among
    have member := all.mem_iff.mp among
    obtain ⟨there, pending⟩ := planned.stored t member
    exact ⟨there, (plan.members member).1, pending⟩
  unstarted := fun t among => planned.unstarted t (all.mem_iff.mp among)

variable (x config) in
/-- Before the loop, `execute_run` reads the Run and its tasks. -/
theorem executeRun_served (planned : Planned s plan) :
    let order := x.arrange (Autonoesis.listed s plan.tenantId plan.runId)
    let loop := Prog.served (fun _ => x.handle) 2
      (App.dispatchTasks config plan.tenantId plan.runId order) s
    let run := Prog.served (fun _ => x.handle) 0
      (App.executeRun config plan.tenantId plan.runId) s
    run.2.1 = loop.2.1.map (fun _ => .dispatched "dispatched") ∧
      run.1.filterMap taskEvent = loop.1.filterMap taskEvent := by
  intro order loop run
  obtain ⟨record, there, tenant, running⟩ := planned.running
  have first : x.handle s (.getRun plan.tenantId plan.runId) = (.ok record, s) := by
    have read : Store.getRun plan.tenantId plan.runId s = .ok (record, s) :=
      Store.find_ok.mpr ⟨there, tenant, rfl⟩
    simp only [Runner.handle, Tx.commit, read]
  have second : x.handle s (.listTasks plan.tenantId plan.runId) = (.ok order, s) := rfl
  have whole : run = (⟨.getRun plan.tenantId plan.runId, .ok record⟩ ::
      ⟨.listTasks plan.tenantId plan.runId, .ok order⟩ :: (Prog.served (fun _ => x.handle) 2
        (App.dispatchTasks config plan.tenantId plan.runId order >>= fun _ =>
          pure (AppReply.dispatched "dispatched")) s).1,
      (Prog.served (fun _ => x.handle) 2
        (App.dispatchTasks config plan.tenantId plan.runId order >>= fun _ =>
          pure (AppReply.dispatched "dispatched")) s).2) := by
    change Prog.served (fun _ => x.handle) 0
      (Prog.request (AppReq.getRun plan.tenantId plan.runId) >>= _) s = _
    rw [Prog.served_request_bind first]
    simp only [running, reduceCtorEq, decide_false, Bool.or_self, Bool.false_eq_true, if_false]
    rw [Prog.served_request_bind second]
  rw [whole, Prog.served_bind]
  change _ = loop.2.1.map _ ∧ _ = loop.1.filterMap _
  cases ended : loop with
  | mk events rest =>
    obtain ⟨result, s'⟩ := rest
    change Prog.served _ 2 _ s = _ at ended
    rw [ended]
    cases result with
    | error e => exact ⟨rfl, by simp [List.filterMap_cons, taskEvent]⟩
    | ok done => exact ⟨rfl, by simp [List.filterMap_cons, taskEvent, Prog.pure_eq, Prog.served]⟩

/-- `execute_run` on a freshly planned Run, with an executor that marks each task succeeded: it
starts and executes every task once, each after its dependencies, and returns, exactly when
`list_tasks` returns the tasks in such an order. -/
theorem tasks_dispatched_iff (hex : ∀ text, isSha256Hex (Sha256.hexdigest text) = true)
    (marks : x.Marks) (configured : config.executorConfigured = true) (planned : Planned s plan)
    (arranges : ∀ rows, (x.arrange rows).Perm rows) :
    (∃ order : List Task, order.Perm plan.tasks ∧ DependenciesFirst [] order ∧
      let run := Prog.served (fun _ => x.handle) 0
        (App.executeRun config plan.tenantId plan.runId) s
      run.2.1 = .ok (.dispatched "dispatched") ∧
      run.1.filterMap taskEvent = order.flatMap dispatched) ↔
    DependenciesFirst [] (x.arrange (listed s plan.tenantId plan.runId)) := by
  have all : (x.arrange (listed s plan.tenantId plan.runId)).Perm plan.tasks :=
    (arranges _).trans planned.listed
  obtain ⟨nodup, closed⟩ := plan.closed
  obtain ⟨good, bad⟩ := dispatchTasks_served hex marks configured (planned.underway all)
    ((all.map _).nodup_iff.mpr nodup) (fun t among d needs => .inr (by
      obtain ⟨t', member, named⟩ := closed t (all.mem_iff.mp among) d needs
      exact ⟨t', all.mem_iff.mpr member, named⟩)) 2
  obtain ⟨result, events⟩ := executeRun_served x config planned
  constructor
  · rintro ⟨_, _, _, returned, _⟩
    by_contra disordered
    obtain ⟨e, raised⟩ := bad disordered
    rw [result, raised] at returned
    cases returned
  · intro ordered
    obtain ⟨returned, told⟩ := good ordered
    exact ⟨_, all, ordered, by rw [result, returned]; rfl, events.trans told⟩

end

namespace Sample

attribute [local instance] sha256

/-- A mail and a report about it, with the report listed first. -/
def reportFirst : CreateValidatedPlan := { plan with
  tasks := [
    { name := "report", completionCriterion := "reported", dependsOn := [49], taskId := some 50 },
    { name := "send", completionCriterion := "sent", taskId := some 49 }] }

/-- The Run with its context and no plan. -/
@[irreducible] def unplanned : Store := Store.after {} (session (preparation.take 4))

@[irreducible] def planning : Except Exc (Plan × Store) :=
  App.createValidatedPlan (env 36) (context "plan-1" plan_named) reportFirst unplanned

/-- An executor that marks the task it is given succeeded. -/
def marking (arrange : List Task → List Task) : Runner where
  arrange := arrange
  env _ := env 120
  execute task s :=
    match task.transitionTo .succeeded 5 "task completed" 10 with
    | .ok done => (.ok (), { s with tasks := s.tasks.set task.taskId done })
    | .error e => (.error e, s)

theorem marking_marks (arrange : List Task → List Task) : (marking arrange).Marks := by
  refine ⟨fun s task audited there running => ?_⟩
  have legal : TaskStatus.succeeded ∈ taskTransitions task.status := by
    rw [running]
    decide
  have moved : ∃ done, task.transitionTo .succeeded 5 "task completed" 10 = .ok done ∧
      done.tenantId = task.tenantId ∧ done.status = .succeeded :=
    ⟨_, bind_eq_ok.mpr ⟨(), requireTransition_ok.mpr legal, bind_eq_ok.mpr
      ⟨_, transitionRecord_ok.mpr ⟨by decide +kernel, rfl⟩, rfl⟩⟩, rfl, rfl⟩
  obtain ⟨done, made, tenant, succeeded⟩ := moved
  refine ⟨done, { s with tasks := s.tasks.set task.taskId done }, ?_, rfl, tenant, succeeded,
    audited, fun ctx => ⟨rfl, rfl⟩⟩
  simp only [marking, made]

def raised {α : Type} : Except Exc α → Option Exc
  | .ok _ => none
  | .error e => some e

/-- The worker's `execute_run` over the planned Run. -/
def running (arrange : List Task → List Task) (plan : Plan) (s : Store) :
    List AppEvent × Except Exc AppReply × Store :=
  Prog.served (fun _ => (marking arrange).handle) 0
    (App.executeRun ⟨true, false, false, true⟩ plan.tenantId plan.runId) s

/-- What the samples below ask of the call of `create_validated_plan`. -/
def Fits : Except Exc (Plan × Store) → Prop
  | .ok (plan, s) => (∀ t ∈ plan.tasks, unplanned.tasks.get? t.taskId = none ∧
      unplanned.idempotency.get? (1, startKey plan.runId t.taskId) = none ∧
      unplanned.idempotencyDigests.get? (1, startKey plan.runId t.taskId) = none) ∧
    listed unplanned 1 plan.runId = [] ∧
    listed s plan.tenantId plan.runId = plan.tasks ∧
    plan.tasks.reverse.map (fun t => (t.taskId, t.dependsOn)) = [(49, []), (50, [49])] ∧
    raised (running id plan s).2.1 =
      some (.valueError "task dependencies must succeed before the task starts") ∧
    (running id plan s).1.filterMap taskEvent = []
  | .error _ => False

instance : (made : Except Exc (Plan × Store)) → Decidable (Fits made)
  | .ok _ => inferInstanceAs (Decidable (_ ∧ _))
  | .error _ => inferInstanceAs (Decidable False)

theorem unplanned_draws : drawsUnused (preparation.take 4) {} = true := by decide +kernel

theorem unplanned_later : Store.Later {} unplanned := by
  unfold unplanned
  exact later_session unplanned_draws

theorem unplanned_unbound : unplanned.idempotency.get?
    (1, (context "plan-1" (by decide)).key "create_validated_plan") = none := by
  decide +kernel

theorem planning_fits : Fits planning := by decide +kernel

theorem planned_of_fits {made : Except Exc (Plan × Store)} (planned : planning = made)
    (fits : Fits made) : ∃ plan s, made = .ok (plan, s) ∧ Planned s plan ∧
      Fits (.ok (plan, s)) := by
  have audited : unplanned.Audited :=
    unplanned_later.audited (Recovery.digest_length Recovery.Sample.hexdigest_hex) fun e there => by
      cases there
  cases made with
  | error e => exact fits.elim
  | ok made =>
    obtain ⟨free, empty, _⟩ := id fits
    have ran : App.createValidatedPlan (env 36) (context "plan-1" (by decide)) reportFirst
        unplanned = .ok made := by rwa [planning] at planned
    exact ⟨made.1, made.2, rfl, createValidatedPlan_planned Recovery.Sample.hexdigest_hex ran
      audited empty unplanned_unbound (fun t among => (free t among).1) (fun t among =>
      (free t among).2), fits⟩

/-- With the mail listed before its report, both tasks are executed. -/
theorem mail_dispatched : ∃ plan s, planning = .ok (plan, s) ∧
    ∃ order : List Task, order.Perm plan.tasks ∧ DependenciesFirst [] order ∧
      let run := Prog.served (fun _ => (marking List.reverse).handle) 0
        (App.executeRun ⟨true, false, false, true⟩ plan.tenantId plan.runId) s
      run.2.1 = .ok (.dispatched "dispatched") ∧
      run.1.filterMap taskEvent = order.flatMap dispatched := by
  obtain ⟨plan, s, ran, planned, fits⟩ := planned_of_fits rfl planning_fits
  obtain ⟨_, _, listed, ordered, _⟩ := fits
  refine ⟨plan, s, ran, (tasks_dispatched_iff Recovery.Sample.hexdigest_hex (marking_marks _) rfl
    planned fun rows => rows.reverse_perm).mpr ?_⟩
  obtain ⟨mail, rest, two, mailed, one⟩ := List.map_eq_cons_iff.mp ordered
  obtain ⟨report, _, rfl, reported, none⟩ := List.map_eq_cons_iff.mp one
  cases List.map_eq_nil_iff.mp none
  obtain ⟨_, free⟩ := Prod.mk.inj mailed
  obtain ⟨named, needs⟩ := Prod.mk.inj reported
  change DependenciesFirst [] (Autonoesis.listed s plan.tenantId plan.runId).reverse
  rw [listed, two]
  simp [DependenciesFirst, *]

/-- A plan that lists the report before the mail it depends on: the tasks are listed in the order
in which they were stored, and no task is started. -/
theorem report_blocks_mail : ∃ plan s, planning = .ok (plan, s) ∧ Planned s plan ∧
    (marking id).Marks ∧ (running id plan s).2.1 =
      .error (.valueError "task dependencies must succeed before the task starts") ∧
    (running id plan s).1.filterMap taskEvent = [] := by
  obtain ⟨plan, s, ran, planned, fits⟩ := planned_of_fits rfl planning_fits
  obtain ⟨_, _, _, _, stopped, events⟩ := fits
  refine ⟨plan, s, ran, planned, marking_marks id, ?_, events⟩
  cases ended : (running id plan s).2.1 with
  | error e =>
    rw [ended] at stopped
    exact congrArg Except.error (Option.some.inj stopped)
  | ok done =>
    rw [ended] at stopped
    cases stopped

end Sample

end Autonoesis
