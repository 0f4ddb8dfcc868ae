import Autonoesis.Application.Completion
import Autonoesis.Domain.Approvals

/-!
# What a command leaves to the other tenants

Each command acts for one tenant. What it saves it has read under that tenant, but a new
record is assigned to its identifier without a look at what is stored there. `Under` follows
the records of another tenant through a command; they stay as they are as long as none of
the identifiers the command assigns to is theirs.
-/

namespace Autonoesis
open Base

/-- The tables whose records belong to a tenant. -/
inductive Table where
  | goal | run | snapshot | plan | task | action | attempt | approval | evidence | outcome
  deriving DecidableEq

def Table.all : List Table :=
  [.goal, .run, .snapshot, .plan, .task, .action, .attempt, .approval, .evidence, .outcome]

abbrev Table.Row : Table → Type
  | goal => GoalContract
  | run => Run
  | snapshot => ContextSnapshot
  | plan => Plan
  | task => Task
  | action => Action
  | attempt => ActionAttempt
  | approval => ApprovalRequest
  | evidence => Evidence
  | outcome => Outcome

def Table.tenantOf : (i : Table) → i.Row → Uuid
  | goal => fun row : GoalContract => row.tenantId
  | run => fun row : Run => row.tenantId
  | snapshot => fun row : ContextSnapshot => row.tenantId
  | plan => fun row : Plan => row.tenantId
  | task => fun row : Task => row.tenantId
  | action => fun row : Action => row.tenantId
  | attempt => fun row : ActionAttempt => row.tenantId
  | approval => fun row : ApprovalRequest => row.tenantId
  | evidence => fun row : Evidence => row.tenantId
  | outcome => fun row : Outcome => row.tenantId

namespace Store

def table (s : Store) : (i : Table) → Dict Uuid i.Row
  | .goal => s.goals
  | .run => s.runs
  | .snapshot => s.contextSnapshots
  | .plan => s.plans
  | .task => s.tasks
  | .action => s.actions
  | .attempt => s.actionAttempts
  | .approval => s.approvals
  | .evidence => s.evidence
  | .outcome => s.outcomes

def setTable (s : Store) : (i : Table) → Dict Uuid i.Row → Store
  | .goal, d => { s with goals := d }
  | .run, d => { s with runs := d }
  | .snapshot, d => { s with contextSnapshots := d }
  | .plan, d => { s with plans := d }
  | .task, d => { s with tasks := d }
  | .action, d => { s with actions := d }
  | .attempt, d => { s with actionAttempts := d }
  | .approval, d => { s with approvals := d }
  | .evidence, d => { s with evidence := d }
  | .outcome, d => { s with outcomes := d }

end Store

/-- The records of one tenant, by the identifiers they are stored under, and its idempotency
entries. -/
structure Records where
  rows : (i : Table) → Uuid → Option i.Row
  idempotency : String → Option Uuid
  idempotencyDigests : String → Option String

/-- The tenant has no record under the identifier. -/
def Records.Free (v : Records) (id : Uuid) : Prop := ∀ i, v.rows i id = none

namespace Store

def records (t : Uuid) (s : Store) : Records where
  rows i := (s.table i).owned fun row => i.tenantOf row = t
  idempotency key := s.idempotency.get? (t, key)
  idempotencyDigests key := s.idempotencyDigests.get? (t, key)

/-- Assigning one tenant's record to an identifier another has none under leaves the other's
records as they are. -/
theorem records_setTable (s : Store) {t id : Uuid} (i : Table) (row : i.Row)
    (other : i.tenantOf row ≠ t) (free : (s.records t).rows i id = none) :
    (s.setTable i ((s.table i).set id row)).records t = s.records t := by
  have same := @Dict.owned_set _ _ _ (fun row => decide (i.tenantOf row = t)) _ _ _
    (decide_eq_false other) free
  have tables : ((s.setTable i ((s.table i).set id row)).records t).rows = (s.records t).rows := by
    funext j
    cases i <;> cases j <;> first | rfl | exact same
  cases i <;> exact congrArg (Records.mk · _ _) tables

/-- The records of a tenant beside the sagas of all captures, which only a capture changes. -/
def aside (t : Uuid) (s : Store) : Records × Dict Uuid EvidenceCaptureSaga :=
  (s.records t, s.evidenceCaptureSagas)

theorem aside_setTable (s : Store) {t id : Uuid} (i : Table) (row : i.Row)
    (other : i.tenantOf row ≠ t) (free : (s.aside t).1.rows i id = none) :
    (s.setTable i ((s.table i).set id row)).aside t = s.aside t := by
  have sagas (d : Dict Uuid i.Row) :
      (s.setTable i d).evidenceCaptureSagas = s.evidenceCaptureSagas := by
    cases i <;> rfl
  exact Prod.ext (records_setTable s i row other free) (sagas _)

/-- A transaction leaves the records of tenant `t` and the sagas, which are `v`, as they are. -/
abbrev Spares {α : Type} (t : Uuid) (v : Records × Dict Uuid EvidenceCaptureSaga)
    (x : StoreTx α) : Prop :=
  Tx.Under (fun s => s.aside t = v) x fun _ => True

variable {t mine id : Uuid} {v : Records × Dict Uuid EvidenceCaptureSaga}

theorem put_spares (i : Table) {row : i.Row} {g : Store → Store} (other : i.tenantOf row ≠ t)
    (free : v.1.rows i id = none) (assigns : ∀ s, g s = s.setTable i ((s.table i).set id row)) :
    Spares t v (Tx.write g) := by
  refine Tx.under_write (fun s at_v => ?_) trivial
  rw [assigns, aside_setTable s i row other (by rw [at_v]; exact free)]
  exact at_v

/-- A record that is found is the reader's, and no one else's. -/
theorem find_under (i : Table) {missing : String} (apart : mine ≠ t) :
    Tx.Under (fun s => s.aside t = v) (find (·.table i) i.tenantOf missing mine id)
      fun row => i.tenantOf row = mine ∧ v.1.rows i id = none := by
  constructor
  intro s row s' at_v ran
  obtain ⟨there, tenant, rfl⟩ := find_ok.mp ran
  refine ⟨at_v, tenant, ?_⟩
  rw [← at_v]
  exact Dict.owned_eq_none there (decide_eq_false (tenant ▸ apart))

theorem find_spares (i : Table) {missing : String} (apart : mine ≠ t) :
    Spares t v (find (·.table i) i.tenantOf missing mine id) :=
  (find_under i apart).mono fun _ _ => trivial

/-- The saves of the store: over a record the saved one's tenant has there. -/
theorem save_spares (i : Table) {missing : String} {row : i.Row} {stale : i.Row → Bool} {e : Exc}
    {g : Store → Store} (other : i.tenantOf row ≠ t)
    (assigns : ∀ s, g s = s.setTable i ((s.table i).set id row)) :
    Spares t v (do
      let current ← find (·.table i) i.tenantOf missing (i.tenantOf row) id
      Tx.check (stale current) e
      Tx.write g) :=
  Tx.under_bind (find_under i other) fun _ found => (Tx.keeps_check _ _).under_bind fun _ =>
    put_spares i other found.2 assigns

theorem getApproval_under (apart : mine ≠ t) :
    Tx.Under (fun s => s.aside t = v) (getApproval mine id)
      fun row => row.tenantId = mine ∧ v.1.rows .approval id = none := by
  constructor
  intro s row s' at_v ran
  have still := (getApproval_keeps mine id (fun s => s)).eq ran
  subst still
  simp only [getApproval, Tx.bind_ok, Tx.read_ok] at ran
  obtain ⟨found, _, ⟨⟩, ran⟩ := ran
  cases there : s'.approvals.get? id with
  | none =>
    rw [there] at ran
    cases ran
  | some item =>
    simp only [there, Tx.bind_ok, Tx.check_ok, Tx.pure_ok] at ran
    obtain ⟨_, _, ⟨tenant, rfl⟩, ⟨⟩⟩ := ran
    have own : row.tenantId = mine := by simpa using tenant
    refine ⟨at_v, own, ?_⟩
    rw [← at_v]
    exact Dict.owned_eq_none there (decide_eq_false (own ▸ apart : row.tenantId ≠ t))

theorem putIdempotency_spares {key digest : String} (apart : mine ≠ t) :
    Tx.Keeps (aside t) (putIdempotency mine key id digest) := by
  refine Tx.keeps_bind (Tx.keeps_read _) fun _ => Tx.keeps_bind (Tx.keeps_read _) fun _ =>
    Tx.keeps_bind (Tx.keeps_check _ _) fun _ => Tx.keeps_write fun s => ?_
  have other (k : String) : (t, k) ≠ (mine, key) := fun same => apart (Prod.mk.inj same).1.symm
  have ids := funext fun k => Dict.get?_set_ne s.idempotency id (other k)
  have digests := funext fun k => Dict.get?_set_ne s.idempotencyDigests digest (other k)
  exact congrArg (·, s.evidenceCaptureSagas)
    (congrArg₂ (Records.mk (s.records t).rows) ids digests)

/-! ## New records -/

theorem addContextSnapshot_spares {row : ContextSnapshot} (other : row.tenantId ≠ t)
    (free : v.1.rows .snapshot row.snapshotId = none) : Spares t v (addContextSnapshot row) :=
  (Tx.keeps_read _).under_bind fun _ => (Tx.keeps_check _ _).under_bind fun _ =>
    put_spares .snapshot other free fun _ => rfl

/-- The tasks of a plan are assigned one after the other. -/
theorem putTasks_aside {s : Store} {tasks : List Task} (other : ∀ task ∈ tasks, task.tenantId ≠ t)
    (free : ∀ task ∈ tasks, (s.aside t).1.rows .task task.taskId = none) :
    ({ s with tasks := tasks.foldl (fun d task => d.set task.taskId task) s.tasks } : Store).aside
      t = s.aside t := by
  induction tasks generalizing s with
  | nil => rfl
  | cons task rest ih =>
    have head := aside_setTable s .task task (other task List.mem_cons_self)
      (free task List.mem_cons_self)
    have tail := ih (s := s.setTable .task ((s.table .task).set task.taskId task))
      (fun task' there => other task' (List.mem_cons_of_mem _ there))
      fun task' there => by
        rw [head]
        exact free task' (List.mem_cons_of_mem _ there)
    exact tail.trans head

theorem addPlan_spares {row : Plan} (other : row.tenantId ≠ t)
    (free : v.1.rows .plan row.planId = none) (others : ∀ task ∈ row.tasks, task.tenantId ≠ t)
    (frees : ∀ task ∈ row.tasks, v.1.rows .task task.taskId = none) : Spares t v (addPlan row) := by
  refine Tx.under_write (fun s at_v => ?_) trivial
  subst at_v
  have tasks := putTasks_aside others frees
  have plan := aside_setTable { s with
      tasks := row.tasks.foldl (fun d task => d.set task.taskId task) s.tasks }
    .plan row other (by rw [tasks]; exact free)
  exact plan.trans tasks

theorem addAction_spares {row : Action} (other : row.tenantId ≠ t)
    (free : v.1.rows .action row.actionId = none) : Spares t v (addAction row) :=
  (Tx.keeps_read _).under_bind fun _ => (Tx.keeps_check _ _).under_bind fun _ =>
    put_spares .action other free fun _ => rfl

theorem addActionAttempt_spares {row : ActionAttempt} (other : row.tenantId ≠ t)
    (free : v.1.rows .attempt row.attemptId = none) : Spares t v (addActionAttempt row) :=
  (Tx.keeps_read _).under_bind fun _ => (Tx.keeps_check _ _).under_bind fun _ =>
    put_spares .attempt other free fun _ => rfl

theorem addApproval_spares {row : ApprovalRequest} (other : row.tenantId ≠ t)
    (free : v.1.rows .approval row.approvalId = none) : Spares t v (addApproval row) :=
  put_spares .approval other free fun _ => rfl

theorem addEvidence_spares {row : Evidence} (other : row.tenantId ≠ t)
    (free : v.1.rows .evidence row.evidenceId = none) : Spares t v (addEvidence row) :=
  (find_keeps _ _ _ _ _ _).under_bind fun _ => (Tx.keeps_check _ _).under_bind fun _ =>
    put_spares .evidence other free fun _ => rfl

theorem addOutcome_spares {row : Outcome} (other : row.tenantId ≠ t)
    (free : v.1.rows .outcome row.outcomeId = none) : Spares t v (addOutcome row) := by
  refine (Tx.keeps_forM (fun e => ?_) _).under_bind fun _ =>
    put_spares .outcome other free fun _ => rfl
  exact Tx.keeps_bind (find_keeps _ _ _ _ _ _) fun _ => Tx.keeps_check _ _

theorem recordEvidenceDeletion_spares (record : EvidenceDeletionRecord) :
    Spares t v (recordEvidenceDeletion record) :=
  Tx.under_write (fun _ at_v => at_v) trivial

/-! ## Saves -/

theorem saveTask_spares {row : Task} {n : Int} (other : row.tenantId ≠ t) :
    Spares t v (saveTask row n) :=
  save_spares .task other fun _ => rfl

theorem saveAction_spares {row : Action} {n : Int} (other : row.tenantId ≠ t) :
    Spares t v (saveAction row n) :=
  save_spares .action other fun _ => rfl

theorem saveApproval_spares {row : ApprovalRequest} {n : Int} (other : row.tenantId ≠ t) :
    Spares t v (saveApproval row n) :=
  Tx.under_bind (getApproval_under other) fun _ found => (Tx.keeps_check _ _).under_bind fun _ =>
    put_spares .approval other found.2 fun _ => rfl

section
variable [Sha256] {audit : AuditEvent} {now : Instant}

theorem recordAudit_spares (audit : AuditEvent) (now : Instant) :
    Spares t v (recordAudit audit now) :=
  (Tx.keeps_read _).under_bind fun _ => (Tx.keeps_ofExcept _).under_bind fun _ =>
    Tx.under_write (fun _ at_v => at_v) trivial

theorem addGoal_spares {row : GoalContract} (other : row.tenantId ≠ t)
    (free : v.1.rows .goal row.goalId = none) : Spares t v (addGoal row audit now) :=
  Tx.under_bind (put_spares .goal other free fun _ => rfl) fun _ _ => recordAudit_spares _ _

theorem addRun_spares {row : Run} (other : row.tenantId ≠ t)
    (free : v.1.rows .run row.runId = none) : Spares t v (addRun row audit now) :=
  Tx.under_bind (put_spares .run other free fun _ => rfl) fun _ _ => recordAudit_spares _ _

theorem saveGoal_spares {row : GoalContract} {n : Int} (other : row.tenantId ≠ t) :
    Spares t v (saveGoal row n audit now) :=
  Tx.under_bind (find_under .goal other) fun _ found => (Tx.keeps_check _ _).under_bind fun _ =>
    Tx.under_bind (put_spares .goal other found.2 fun _ => rfl) fun _ _ => recordAudit_spares _ _

theorem saveRun_spares {row : Run} {n : Int} (other : row.tenantId ≠ t) :
    Spares t v (saveRun row n audit now) :=
  Tx.under_bind (find_under .run other) fun _ found => (Tx.keeps_check _ _).under_bind fun _ =>
    Tx.under_bind (put_spares .run other found.2 fun _ => rfl) fun _ _ => recordAudit_spares _ _

end

end Store

/-- Every saga is stored under the identifier of its evidence. -/
def Store.SagasKeyed (s : Store) : Prop :=
  ∀ id saga, s.evidenceCaptureSagas.get? id = some saga → saga.evidenceId = id

/-- A store in which tenant `t` has the records `r`. -/
def Store.Beside (t : Uuid) (r : Records) (s : Store) : Prop := s.records t = r ∧ s.SagasKeyed

/-! ## The commands -/

theorem mem_of_mapM_eq_ok {α β : Type} {f : α → Except Exc β} {items : List α} {made : List β}
    (h : items.mapM f = .ok made) {b : β} (there : b ∈ made) : ∃ a ∈ items, f a = .ok b := by
  induction items generalizing made with
  | nil =>
    cases h
    exact absurd there List.not_mem_nil
  | cons a rest ih =>
    rw [List.mapM_cons] at h
    obtain ⟨first, ran, h⟩ := bind_eq_ok.mp h
    obtain ⟨others, later, h⟩ := bind_eq_ok.mp h
    cases h
    rcases List.mem_cons.mp there with rfl | there
    · exact ⟨a, List.mem_cons_self, ran⟩
    · obtain ⟨a', listed, ran'⟩ := ih later there
      exact ⟨a', List.mem_cons_of_mem _ listed, ran'⟩

theorem GoalContract.transitionTo_tenant {g g' : GoalContract} {target : GoalStatus}
    {actorId : Uuid} {reason : String} {occurredAt : Instant}
    (h : g.transitionTo target actorId reason occurredAt = .ok g') : g'.tenantId = g.tenantId := by
  rw [(transitionTo_ok h).2]
  rfl

theorem Run.transitionTo_tenant {r r' : Run} {target : RunStatus} {actorId : Uuid}
    {reason : String} {occurredAt : Instant}
    (h : r.transitionTo target actorId reason occurredAt = .ok r') : r'.tenantId = r.tenantId := by
  rw [(transitionTo_ok h).2]
  rfl

theorem Task.transitionTo_tenant {r r' : Task} {target : TaskStatus} {actorId : Uuid}
    {reason : String} {occurredAt : Instant}
    (h : r.transitionTo target actorId reason occurredAt = .ok r') : r'.tenantId = r.tenantId := by
  rw [(transitionTo_ok h).2]
  rfl

theorem Action.transitionTo_tenant {a a' : Action} {target : ActionStatus} {actorId : Uuid}
    {reason : String} {occurredAt : Instant}
    (h : a.transitionTo target actorId reason occurredAt = .ok a') : a'.tenantId = a.tenantId := by
  rw [(transitionTo_ok h).2]
  rfl

theorem ApprovalRequest.decide_tenant {a decided : ApprovalRequest} {approverId : Uuid}
    {approved : Bool} {reason : String} {principalId : Option Uuid} {now : Instant}
    (h : a.decide approverId approved reason principalId now = .ok decided) :
    decided.tenantId = a.tenantId := by
  simp only [decide, bind_eq_ok, raiseIf_eq_ok, exists_and_left, exists_const] at h
  obtain ⟨_, _, _, h⟩ := h
  split at h
  · obtain ⟨_, _, made⟩ := bind_eq_ok.mp h
    rw [make_ok made]
  · split at h
    · rw [make_ok h]
    · obtain ⟨_, _, made⟩ := bind_eq_ok.mp h
      rw [make_ok made]

namespace App
open Store

variable {t : Uuid} {v : Records × Dict Uuid EvidenceCaptureSaga} {ctx : CommandContext}
  {env : Env} {ports : Ports}

theorem loadIdempotency_spares (key : String) : Tx.Keeps (aside t) (loadIdempotency ctx key) :=
  ⟨fun ran => congrArg _ (loadIdempotency_ok ran)⟩

theorem remember_spares (apart : ctx.tenantId ≠ t) (key : String) (value : Uuid) :
    Tx.Keeps (aside t) (remember ctx key value) :=
  putIdempotency_spares apart

/-- The end of a command that changed nothing. -/
theorem remembered_spares {α : Type} (apart : ctx.tenantId ≠ t) {key : String} {value : Uuid}
    {a : α} : Spares t v (do remember ctx key value; return a) :=
  (remember_spares apart _ _).under_bind fun _ => Tx.under_pure trivial

theorem cachedGoal_under (apart : ctx.tenantId ≠ t) (key : String) (requested : Uuid) :
    Tx.Under (fun s => s.aside t = v) (cachedGoal ctx key requested) fun g => g.tenantId = ctx.tenantId :=
  (loadIdempotency_spares _).under_bind fun _ => (find_under .goal apart).mono fun _ found => found.1

theorem cachedRun_under (apart : ctx.tenantId ≠ t) (key : String) (requested : Uuid) :
    Tx.Under (fun s => s.aside t = v) (cachedRun ctx key requested) fun r => r.tenantId = ctx.tenantId :=
  (loadIdempotency_spares _).under_bind fun _ => (find_under .run apart).mono fun _ found => found.1

theorem cachedTask_under (apart : ctx.tenantId ≠ t) (key : String) (requested : Uuid) :
    Tx.Under (fun s => s.aside t = v) (cachedTask ctx key requested) fun r => r.tenantId = ctx.tenantId :=
  (loadIdempotency_spares _).under_bind fun _ => (find_under .task apart).mono fun _ found => found.1

section
variable [Sha256]

/-- The end of a command that changed something. -/
theorem audited_spares {α : Type} (apart : ctx.tenantId ≠ t) {eventType key : String}
    {item : AuditItem} {eventId value : Uuid} {now : Instant} {a : α} :
    Spares t v (do
      audit ctx eventType item eventId now
      remember ctx key value
      return a) :=
  Tx.under_bind (recordAudit_spares _ _) fun _ _ => remembered_spares apart

theorem createGoal_spares (apart : ctx.tenantId ≠ t) (free : ∀ n, v.1.Free (env.uuid n))
    (cmd : CreateGoal) : Spares t v (createGoal ports env ctx cmd) := by
  refine (Tx.keeps_ofExcept _).under_bind fun _ => (loadIdempotency_spares _).under_bind fun
    | some _ => find_spares .goal apart
    | none => ?_
  refine (Tx.keeps_ofExcept _).under_bind fun _ => (Tx.keeps_ofExcept _).under_bind fun _ =>
    (Tx.keeps_ofExcept _).under_bind fun _ => (Tx.keeps_ofExcept _).under_bind fun _ =>
    (Tx.keeps_ofExcept _).under_bind fun _ => ?_
  refine Tx.under_bind (Tx.under_ofExcept fun _ made => made) fun goal made => ?_
  obtain ⟨_, rfl⟩ := guarded_eq_ok.mp made
  exact Tx.under_bind (addGoal_spares apart (free 0 .goal)) fun _ _ => remembered_spares apart

theorem activateGoal_spares (apart : ctx.tenantId ≠ t) (goalId : Uuid) (reason : String) :
    Spares t v (activateGoal env ctx goalId reason) := by
  refine (Tx.keeps_ofExcept _).under_bind fun _ =>
    Tx.under_bind (cachedGoal_under apart _ _) fun goal own =>
    Tx.under_ite (fun _ => remembered_spares apart) fun _ => ?_
  refine Tx.under_bind (Tx.under_ofExcept fun _ moved => moved) fun active moved => ?_
  refine Tx.under_bind (saveGoal_spares ?_) fun _ _ => remembered_spares apart
  rw [GoalContract.transitionTo_tenant moved, own]
  exact apart

theorem requestRun_spares (apart : ctx.tenantId ≠ t) (free : ∀ n, v.1.Free (env.uuid n))
    (goalId : Uuid) : Spares t v (requestRun ports env ctx goalId) := by
  refine (Tx.keeps_ofExcept _).under_bind fun _ => (loadIdempotency_spares _).under_bind fun
    | some _ => find_spares .run apart
    | none => ?_
  refine Tx.under_bind (find_spares .goal apart) fun _ _ => (Tx.keeps_read _).under_bind fun _ =>
    (Tx.keeps_ofExcept _).under_bind fun _ => (Tx.keeps_ofExcept _).under_bind fun _ =>
    (Tx.keeps_ofExcept _).under_bind fun _ => (Tx.keeps_ofExcept _).under_bind fun _ => ?_
  refine Tx.under_bind (Tx.under_ofExcept fun _ made => made) fun run made => ?_
  obtain ⟨_, rfl⟩ := guarded_eq_ok.mp made
  exact Tx.under_bind (addRun_spares apart (free 0 .run)) fun _ _ => remembered_spares apart

theorem prepareRunContext_spares (apart : ctx.tenantId ≠ t) {cmd : PrepareRunContext}
    (assembled : ∀ run memories snapshot, ports.assemble run ctx cmd memories = .ok snapshot →
      snapshot.tenantId = ctx.tenantId ∧ v.1.rows .snapshot snapshot.snapshotId = none) :
    Spares t v (prepareRunContext ports env ctx cmd) := by
  refine (Tx.keeps_ofExcept _).under_bind fun _ => (loadIdempotency_spares _).under_bind fun
    | some _ => (getContextSnapshot_keeps _ _ _).under
    | none => ?_
  refine Tx.under_bind (find_spares .run apart) fun run _ =>
    (Tx.keeps_mapM (fun _ => find_keeps _ _ _ _ _ _) _).under_bind fun memories => ?_
  refine Tx.under_bind (Tx.under_ofExcept fun _ made => assembled _ _ _ made) fun snapshot made => ?_
  refine Tx.under_bind (addContextSnapshot_spares ?_ ?_) fun _ _ => audited_spares apart
  · split
    · rw [made.1]
      exact apart
    · exact fun same => apart (made.1.symm.trans same)
  · split <;> exact made.2

theorem createValidatedPlan_spares (apart : ctx.tenantId ≠ t) (free : ∀ n, v.1.Free (env.uuid n))
    {cmd : CreateValidatedPlan}
    (named : ∀ item ∈ cmd.tasks, ∀ id, item.taskId = some id → v.1.rows .task id = none) :
    Spares t v (createValidatedPlan env ctx cmd) := by
  refine (Tx.keeps_ofExcept _).under_bind fun _ => (loadIdempotency_spares _).under_bind fun
    | some _ => (getPlan_keeps _ _ _).under
    | none => ?_
  refine Tx.under_bind (find_under .run apart) fun run own => (Tx.keeps_check _ _).under_bind fun _ =>
    (getContextSnapshot_keeps _ _ _).under_bind fun snapshot => ?_
  refine Tx.under_bind (Tx.under_ofExcept fun _ built => built) fun tasks built => ?_
  refine Tx.under_bind (Tx.under_ofExcept fun _ made => made) fun plan made => ?_
  obtain ⟨_, rfl⟩ := guarded_eq_ok.mp made
  refine Tx.under_bind (Tx.under_ofExcept fun _ started => started) fun bound started => ?_
  have tenant : bound.tenantId = ctx.tenantId :=
    (congrArg Prod.fst (startRun_ok started).1).trans own.1
  refine Tx.under_bind (addPlan_spares apart (free 0 .plan) (fun task there => ?_)
    fun task there => ?_) fun _ _ => Tx.under_bind (saveRun_spares ?_) fun _ _ =>
      remembered_spares apart
  · rw [(Plan.members _ there).1]
    exact apart
  · obtain ⟨⟨item, n⟩, listed, task_eq⟩ := mem_of_mapM_eq_ok built there
    obtain ⟨_, rfl⟩ := guarded_eq_ok.mp task_eq
    dsimp only
    cases chosen : item.taskId with
    | none => exact free (n + 2) .task
    | some id => exact named item (List.fst_mem_of_mem_zipIdx listed) id chosen
  · rw [tenant]
    exact apart

theorem transitionRun_spares (apart : ctx.tenantId ≠ t) {runId : Uuid} {target : RunStatus}
    {reason operation : String} :
    Spares t v (transitionRun env ctx runId target reason operation) := by
  refine (Tx.keeps_check _ _).under_bind fun _ =>
    Tx.under_bind (cachedRun_under apart _ _) fun run own =>
    Tx.under_ite (fun _ => remembered_spares apart) fun _ => ?_
  refine Tx.under_bind (Tx.under_ofExcept fun _ moved => moved) fun updated moved => ?_
  refine Tx.under_bind (saveRun_spares ?_) fun _ _ => remembered_spares apart
  rw [Run.transitionTo_tenant moved, own]
  exact apart

theorem cancelRun_spares (apart : ctx.tenantId ≠ t) (runId : Uuid) (reason : String) :
    Spares t v (cancelRun env ctx runId reason) :=
  (Tx.keeps_ofExcept _).under_bind fun _ => transitionRun_spares apart

theorem failRun_spares (apart : ctx.tenantId ≠ t) (runId : Uuid) (reason : String) :
    Spares t v (failRun env ctx runId reason) :=
  (Tx.keeps_ofExcept _).under_bind fun _ => transitionRun_spares apart

theorem takeOverRun_spares (apart : ctx.tenantId ≠ t) (runId : Uuid) (reason : String) :
    Spares t v (takeOverRun env ctx runId reason) :=
  (Tx.keeps_ofExcept _).under_bind fun _ => transitionRun_spares apart

theorem completeRun_spares (apart : ctx.tenantId ≠ t) (runId : Uuid) :
    Spares t v (completeRun env ctx runId) := by
  refine (Tx.keeps_ofExcept _).under_bind fun _ =>
    Tx.under_bind (cachedRun_under apart _ _) fun run own =>
    Tx.under_ite (fun _ => remembered_spares apart) fun _ => ?_
  refine (Tx.keeps_check _ _).under_bind fun _ => Tx.under_bind (find_spares .goal apart) fun _ _ =>
    (Tx.keeps_read _).under_bind fun _ => (Tx.keeps_read _).under_bind fun _ =>
    (Tx.keeps_read _).under_bind fun _ => (Tx.keeps_check _ _).under_bind fun _ =>
    Tx.under_ite (fun _ => remembered_spares apart) fun _ => ?_
  refine Tx.under_bind (Tx.under_ofExcept fun _ moved => moved) fun updated moved => ?_
  refine Tx.under_bind (saveRun_spares ?_) fun _ _ => remembered_spares apart
  rw [Run.transitionTo_tenant moved, own]
  exact apart

theorem satisfyOrFailGoal_spares (apart : ctx.tenantId ≠ t) (goalId : Uuid) (satisfied : Bool)
    (reason : String) : Spares t v (satisfyOrFailGoal env ctx goalId satisfied reason) := by
  refine (Tx.keeps_ofExcept _).under_bind fun _ => (Tx.keeps_check _ _).under_bind fun _ =>
    Tx.under_bind (cachedGoal_under apart _ _) fun goal own =>
    Tx.under_ite (fun _ => remembered_spares apart) fun _ => ?_
  have decides (runs : List Run) :
      Tx.Keeps (aside t) (finishTarget goal ctx.tenantId satisfied runs) :=
    ⟨fun ran => congrArg _ (finishTarget_ok ran).1⟩
  refine (Tx.keeps_read _).under_bind fun runs => (decides runs).under_bind fun target => ?_
  refine Tx.under_bind (Tx.under_ofExcept fun _ moved => moved) fun updated moved => ?_
  refine Tx.under_bind (saveGoal_spares ?_) fun _ _ => remembered_spares apart
  rw [GoalContract.transitionTo_tenant moved, own]
  exact apart

theorem startTask_spares (apart : ctx.tenantId ≠ t) (taskId : Uuid) :
    Spares t v (startTask env ctx taskId) := by
  refine (Tx.keeps_ofExcept _).under_bind fun _ =>
    Tx.under_bind (cachedTask_under apart _ _) fun task own =>
    Tx.under_ite (fun _ => remembered_spares apart) fun _ => ?_
  refine (Tx.keeps_mapM (fun _ => find_keeps _ _ _ _ _ _) _).under_bind fun _ =>
    (Tx.keeps_check _ _).under_bind fun _ => ?_
  refine Tx.under_bind (Tx.under_ofExcept fun _ moved => moved) fun started moved => ?_
  have tenant : started.tenantId = ctx.tenantId :=
    (congrArg Prod.fst (startedTask_ok moved).1).trans own
  refine Tx.under_bind (saveTask_spares ?_) fun _ _ => audited_spares apart
  rw [tenant]
  exact apart

theorem completeTask_spares (apart : ctx.tenantId ≠ t) (taskId : Uuid) (succeeded : Bool)
    (reason : String) : Spares t v (completeTask env ctx taskId succeeded reason) := by
  refine (Tx.keeps_ofExcept _).under_bind fun _ => (Tx.keeps_check _ _).under_bind fun _ =>
    Tx.under_bind (cachedTask_under apart _ _) fun task own =>
    Tx.under_ite (fun _ => remembered_spares apart) fun _ => ?_
  refine (Tx.keeps_check _ _).under_bind fun _ => ?_
  refine Tx.under_bind (Tx.under_ofExcept fun _ moved => moved) fun completed moved => ?_
  refine Tx.under_bind (saveTask_spares ?_) fun _ _ => audited_spares apart
  rw [Task.transitionTo_tenant moved, own]
  exact apart

theorem proposeAction_spares (apart : ctx.tenantId ≠ t) (free : ∀ n, v.1.Free (env.uuid n))
    (cmd : ProposeAction) : Spares t v (proposeAction env ctx cmd) := by
  refine (Tx.keeps_ofExcept _).under_bind fun _ => (loadIdempotency_spares _).under_bind fun
    | some _ => find_spares .action apart
    | none => ?_
  refine Tx.under_bind (find_spares .task apart) fun _ _ => (Tx.keeps_check _ _).under_bind fun _ =>
    Tx.under_bind (find_spares .run apart) fun _ _ => (Tx.keeps_check _ _).under_bind fun _ =>
    (Tx.keeps_ofExcept _).under_bind fun _ => ?_
  refine Tx.under_bind (Tx.under_ofExcept fun _ made => made) fun action made => ?_
  obtain ⟨_, rfl⟩ := guarded_eq_ok.mp made
  exact Tx.under_bind (addAction_spares apart (free 0 .action)) fun _ _ => audited_spares apart

theorem requestApproval_spares (apart : ctx.tenantId ≠ t) (free : ∀ n, v.1.Free (env.uuid n))
    (cmd : RequestApproval) : Spares t v (requestApproval env ctx cmd) := by
  refine (Tx.keeps_ofExcept _).under_bind fun _ => (loadIdempotency_spares _).under_bind fun
    | some _ => (getApproval_under apart).mono fun _ _ => trivial
    | none => ?_
  refine Tx.under_bind (find_under .action apart) fun action own =>
    (Tx.keeps_check _ _).under_bind fun _ => ?_
  have other : action.tenantId ≠ t := fun same => apart (own.1.symm.trans same)
  refine Tx.under_bind (Tx.under_ofExcept fun _ made => made) fun approval made => ?_
  obtain ⟨_, rfl⟩ := guarded_eq_ok.mp made
  refine Tx.under_bind (Tx.under_ofExcept fun _ moved => moved) fun awaiting moved => ?_
  refine Tx.under_bind (addApproval_spares other (free 0 .approval)) fun _ _ =>
    Tx.under_bind (saveAction_spares ?_) fun _ _ => audited_spares apart
  rw [Action.transitionTo_tenant moved]
  exact other

omit [Sha256] in
theorem denyByApproval_spares (apart : ctx.tenantId ≠ t) (approval decided : ApprovalRequest) :
    Spares t v (denyByApproval env ctx approval decided) := by
  refine Tx.under_bind (find_under .action apart) fun action own => ?_
  refine Tx.under_bind (Tx.under_ofExcept fun _ moved => moved) fun denied moved =>
    saveAction_spares ?_
  rw [Action.transitionTo_tenant moved]
  exact fun same => apart (own.1.symm.trans same)

theorem decideApproval_spares (apart : ctx.tenantId ≠ t) (cmd : DecideApproval) :
    Spares t v (decideApproval env ctx cmd) := by
  refine (loadIdempotency_spares _).under_bind fun
    | some _ => (getApproval_under apart).mono fun _ _ => trivial
    | none => ?_
  refine Tx.under_bind (getApproval_under apart) fun approval own =>
    (Tx.keeps_ofExcept _).under_bind fun _ => (Tx.keeps_check _ _).under_bind fun _ => ?_
  refine Tx.under_bind (Tx.under_ofExcept fun _ voted => voted) fun decided voted => ?_
  refine Tx.under_bind (saveApproval_spares ?_) fun _ _ => Tx.under_ite (fun _ => ?_) fun _ => ?_
  · rw [ApprovalRequest.decide_tenant voted, own.1]
    exact apart
  · exact Tx.under_bind (denyByApproval_spares apart _ _) fun _ _ => audited_spares apart
  · exact (Tx.keeps_pure _).under_bind fun _ => audited_spares apart

theorem legacyAuthorized_spares {action : Action} (other : action.tenantId ≠ t)
    (policyVersion : String) : Spares t v (legacyAuthorized env ctx policyVersion action) := by
  refine Tx.under_ite (fun _ => ?_) fun _ => Tx.under_pure trivial
  refine Tx.under_bind (Tx.under_ofExcept fun _ moved => moved) fun authorized moved => ?_
  refine Tx.under_bind (saveAction_spares ?_) fun _ _ =>
    Tx.under_bind (recordAudit_spares _ _) fun _ _ => Tx.under_pure trivial
  rw [Action.transitionTo_tenant moved]
  exact other

theorem authorizeActionAtExecutionTime_spares (apart : ctx.tenantId ≠ t)
    (cmd : AuthorizeActionAtExecutionTime) :
    Spares t v (authorizeActionAtExecutionTime ports env ctx cmd) := by
  refine (Tx.keeps_check _ _).under_bind fun _ => (Tx.keeps_ofExcept _).under_bind fun _ =>
    (Tx.keeps_check _ _).under_bind fun _ => (loadIdempotency_spares _).under_bind fun cached =>
    Tx.under_bind (find_under .action apart) fun action own =>
    (suppliedApproval_keeps _ _).under_bind fun approval => ?_
  have other : action.tenantId ≠ t := fun same => apart (own.1.symm.trans same)
  split
  · refine Tx.under_ite (fun _ => ?_) fun _ => Tx.under_pure trivial
    refine Tx.under_bind (Tx.under_ofExcept fun _ moved => moved) fun denied moved => ?_
    refine Tx.under_bind (saveAction_spares ?_) fun _ _ => audited_spares apart
    rw [Action.transitionTo_tenant moved]
    exact other
  · refine Tx.under_bind (legacyAuthorized_spares other _) fun _ _ =>
      (Tx.keeps_check _ _).under_bind fun _ => (Tx.keeps_ofExcept _).under_bind fun envelope => ?_
    split
    · exact Tx.under_pure trivial
    · exact remembered_spares apart

theorem recordActionAttempt_spares (apart : ctx.tenantId ≠ t) (free : ∀ n, v.1.Free (env.uuid n))
    (cmd : RecordActionAttempt) : Spares t v (recordActionAttempt env ctx cmd) := by
  refine (Tx.keeps_ofExcept _).under_bind fun _ => (loadIdempotency_spares _).under_bind fun
    | some _ => find_spares .action apart
    | none => ?_
  refine Tx.under_bind (find_under .action apart) fun action own =>
    (Tx.keeps_check _ _).under_bind fun _ => ?_
  have other : action.tenantId ≠ t := fun same => apart (own.1.symm.trans same)
  refine Tx.under_bind (Tx.under_ofExcept fun _ moved => moved) fun updated moved => ?_
  have same := congrArg ActionFields.tenantId (attemptedAction_core moved)
  have tenant : updated.tenantId = action.tenantId := same
  refine Tx.under_bind (Tx.under_ofExcept fun _ made => made) fun attempt made => ?_
  obtain ⟨_, rfl⟩ := guarded_eq_ok.mp made
  refine Tx.under_bind (addActionAttempt_spares other (free 0 .attempt)) fun _ _ =>
    Tx.under_bind (saveAction_spares ?_) fun _ _ => audited_spares apart
  rw [tenant]
  exact other

theorem reconcileUnknownAction_spares (apart : ctx.tenantId ≠ t)
    (free : ∀ n, v.1.Free (env.uuid n)) (cmd : ReconcileUnknownAction) :
    Spares t v (reconcileUnknownAction env ctx cmd) := by
  refine (Tx.keeps_ofExcept _).under_bind fun _ => (loadIdempotency_spares _).under_bind fun
    | some _ => find_spares .action apart
    | none => ?_
  refine Tx.under_bind (find_under .action apart) fun action own =>
    (Tx.keeps_check _ _).under_bind fun _ => ?_
  have other : action.tenantId ≠ t := fun same => apart (own.1.symm.trans same)
  refine Tx.under_bind (Tx.under_ofExcept fun _ moved => moved) fun updated moved => ?_
  refine Tx.under_bind (Tx.under_ofExcept fun _ made => made) fun attempt made => ?_
  obtain ⟨_, rfl⟩ := guarded_eq_ok.mp made
  refine Tx.under_bind (addActionAttempt_spares other (free 0 .attempt)) fun _ _ =>
    Tx.under_bind (saveAction_spares ?_) fun _ _ => audited_spares apart
  rw [Action.transitionTo_tenant moved]
  exact other

theorem recordEvidence_spares (apart : ctx.tenantId ≠ t) {item : Evidence}
    (named : v.1.rows .evidence item.evidenceId = none) :
    Spares t v (recordEvidence env ctx item) := by
  refine (Tx.keeps_ofExcept _).under_bind fun _ => (Tx.keeps_check _ _).under_bind fun _ => ?_
  by_cases own : item.tenantId = ctx.tenantId
  · refine (Tx.keeps_check _ _).under_bind fun _ => (loadIdempotency_spares _).under_bind fun
      | some _ => find_spares .evidence apart
      | none => ?_
    refine (find_keeps _ _ _ _ _ _).under_bind fun _ => (Tx.keeps_check _ _).under_bind fun _ =>
      Tx.under_bind (addEvidence_spares ?_ named) fun _ _ => audited_spares apart
    rw [own]
    exact apart
  · refine ⟨fun _ ran => ?_⟩
    obtain ⟨_, _, checked, _⟩ := Tx.bind_ok.mp ran
    exact absurd (Tx.check_ok.mp checked).1 (by simpa using own)

theorem verifyOutcome_spares (apart : ctx.tenantId ≠ t) (free : ∀ n, v.1.Free (env.uuid n))
    (runId : Uuid) (criterionId : String) (evidenceIds : List Uuid) :
    Spares t v (verifyOutcome ports env ctx runId criterionId evidenceIds) := by
  refine (Tx.keeps_ofExcept _).under_bind fun _ => (Tx.keeps_check _ _).under_bind fun _ =>
    (loadIdempotency_spares _).under_bind fun
    | some _ => find_spares .outcome apart
    | none => ?_
  refine Tx.under_bind (find_spares .run apart) fun run _ =>
    Tx.under_bind (find_spares .goal apart) fun goal _ => ?_
  split
  · exact Tx.under_raise _
  · refine (Tx.keeps_mapM (fun _ => find_keeps _ _ _ _ _ _) _).under_bind fun items =>
      (Tx.keeps_check _ _).under_bind fun _ => (Tx.keeps_ofExcept _).under_bind fun decision => ?_
    refine Tx.under_bind (Tx.under_ofExcept fun _ made => made) fun outcome made => ?_
    obtain ⟨_, rfl⟩ := guarded_eq_ok.mp made
    exact Tx.under_bind (addOutcome_spares apart (free 0 .outcome)) fun _ _ => audited_spares apart

/-! ## Captures -/

omit [Sha256] in
theorem Spares.beside {α : Type} {x : StoreTx α} {r : Records} (spares : ∀ d, Spares t (r, d) x) :
    Tx.Under (fun s => s.Beside t r) x fun _ => True := by
  constructor
  rintro s a s' ⟨records, keyed⟩ ran
  have same := ((spares s.evidenceCaptureSagas).run (congrArg (·, _) records) ran).1
  refine ⟨⟨congrArg Prod.fst same, ?_⟩, trivial⟩
  rw [SagasKeyed, show s'.evidenceCaptureSagas = s.evidenceCaptureSagas from congrArg Prod.snd same]
  exact keyed

omit [Sha256] in
/-- A saga is written under its own identifier. -/
theorem putSaga_beside {r : Records} {saga : EvidenceCaptureSaga} :
    Tx.Under (fun s => s.Beside t r) (Tx.write fun s =>
      { s with evidenceCaptureSagas := s.evidenceCaptureSagas.set saga.evidenceId saga } :
      StoreTx Unit) fun _ => True :=
  Tx.under_write (fun _ beside => ⟨beside.1, Dict.keys_set beside.2 saga⟩) trivial

/-- What a planned capture writes: under the tenant of the command and the identifier the
command derives. -/
def CapturePlan.Own (tenantId evidenceId : Uuid) : CapturePlan → Prop
  | .done _ => True
  | .resume saga => saga.tenantId = tenantId ∧ saga.evidenceId = evidenceId
  | .fresh saga _ _ => saga.tenantId = tenantId ∧ saga.evidenceId = evidenceId

theorem observeCapture_under {r : Records} (cmd : CaptureAuthoritativeEvidence) :
    Tx.Under (fun s => s.Beside t r) (observeCapture ports env ctx cmd)
      (CapturePlan.Own ctx.tenantId (captureEvidenceId env ctx)) := by
  refine (find_keeps _ _ _ _ _ _).skip fun _ => (find_keeps _ _ _ _ _ _).skip fun _ =>
    (find_keeps _ _ _ _ _ _).skip fun _ => (Tx.keeps_check _ _).skip fun _ => ?_
  split
  · exact Tx.under_raise _
  · refine (Tx.keeps_ofExcept _).skip fun _ => (Tx.keeps_ofExcept _).skip fun _ =>
      (Tx.keeps_ofExcept _).skip fun _ => ?_
    refine Tx.under_bind (Q := fun _ => True) ?_ fun _ _ => Tx.under_pure ⟨rfl, rfl⟩
    refine (Tx.keeps_read _).skip fun
      | some _ => Tx.under_check fun _ => trivial
      | none => putSaga_beside

omit [Sha256] in
theorem readSaga_under {r : Records} (id : Uuid) :
    Tx.Under (fun s => s.Beside t r) (Tx.read (·.evidenceCaptureSagas.get? id) : StoreTx _)
      fun found => ∀ saga, found = some saga → saga.evidenceId = id :=
  Tx.under_read fun _ beside => beside.2 id

theorem planCapture_under {r : Records} (cmd : CaptureAuthoritativeEvidence) :
    Tx.Under (fun s => s.Beside t r) (planCapture ports env ctx cmd)
      (CapturePlan.Own ctx.tenantId (captureEvidenceId env ctx)) := by
  refine (Tx.keeps_ofExcept _).skip fun _ => (Tx.keeps_check _ _).skip fun _ =>
    Tx.Keeps.skip ⟨fun ran => loadIdempotency_ok ran⟩ fun
    | some _ => (find_keeps _ _ _ _ _ _).skip fun _ => Tx.under_pure trivial
    | none => ?_
  refine Tx.under_bind (readSaga_under _) fun
    | none, _ => observeCapture_under cmd
    | some pending, keyed => ?_
  refine Tx.under_bind (Q := fun _ => ctx.tenantId = pending.tenantId)
    (Tx.under_check fun same => by simpa using same) fun _ tenant => ?_
  refine Tx.under_ite (fun _ => ?_) fun _ => ?_
  · exact (find_keeps _ _ _ _ _ _).skip fun _ => Tx.under_pure trivial
  · exact Tx.under_pure ⟨tenant.symm, keyed pending rfl⟩

omit [Sha256] in
theorem completeEvidenceCapture_under {r : Records} (tenantId evidenceId : Uuid) :
    Tx.Under (fun s => s.Beside t r) (completeEvidenceCapture tenantId evidenceId)
      fun _ => True := by
  constructor
  rintro s u s' ⟨records, keyed⟩ ran
  simp only [completeEvidenceCapture, getEvidenceCapture, Tx.bind_ok, find_ok, Tx.check_ok,
    Tx.write_ok] at ran
  obtain ⟨item, _, ⟨there, _, rfl⟩, _, _, ⟨_, rfl⟩, rfl⟩ := ran
  have own := keyed _ _ there
  refine ⟨⟨records, ?_⟩, trivial⟩
  exact own ▸ Dict.keys_set keyed { item with status := .committed }

theorem commitEvidenceCapture_under (apart : ctx.tenantId ≠ t) {r : Records}
    {saga : EvidenceCaptureSaga} (own : saga.tenantId = ctx.tenantId)
    (free : r.rows .evidence saga.evidenceId = none) (stored : EvidenceArtifactDescriptor) :
    Tx.Under (fun s => s.Beside t r) (commitEvidenceCapture env ctx saga stored)
      fun _ => True := by
  refine (Tx.keeps_ofExcept _).skip fun _ => ?_
  refine Tx.under_bind (Tx.under_ofExcept fun _ made => made) fun evidence made => ?_
  obtain ⟨_, rfl⟩ := guarded_eq_ok.mp made
  refine Tx.under_bind (Spares.beside fun d => addEvidence_spares (own ▸ apart) free) fun _ _ => ?_
  refine Tx.under_bind (completeEvidenceCapture_under _ _) fun _ _ => ?_
  exact Spares.beside fun d => audited_spares apart

omit [Sha256] in
theorem storeArtifact_own {tenantId evidenceId : Uuid} {plan : CapturePlan}
    (own : plan.Own tenantId evidenceId) {held : EvidenceCaptureSaga × EvidenceArtifactDescriptor}
    (put : storeArtifact ports plan = .ok (.inr held)) :
    held.1.tenantId = tenantId ∧ held.1.evidenceId = evidenceId := by
  cases plan with
  | done => cases put
  | resume saga =>
    obtain ⟨_, _, put⟩ := bind_eq_ok.mp put
    obtain ⟨_, _, put⟩ := bind_eq_ok.mp put
    cases put
    exact own
  | fresh saga =>
    obtain ⟨_, _, put⟩ := bind_eq_ok.mp put
    obtain ⟨_, _, put⟩ := bind_eq_ok.mp put
    cases put
    exact own

/-- A capture leaves the other tenant's records alone when the identifier it derives is not
theirs. -/
theorem captureAuthoritativeEvidence_beside (apart : ctx.tenantId ≠ t) {r : Records}
    (cmd : CaptureAuthoritativeEvidence)
    (derived : r.rows .evidence (captureEvidenceId env ctx) = none) {s : Store}
    (beside : s.Beside t r) : (captureAuthoritativeEvidence ports env ctx cmd s).2.Beside t r := by
  refine (planCapture_under cmd).andThen beside fun plan s' own beside => ?_
  cases put : storeArtifact ports plan with
  | error e => exact beside
  | ok held =>
    cases held with
    | inl evidence => exact beside
    | inr held =>
      obtain ⟨tenant, id⟩ := storeArtifact_own own put
      refine (commitEvidenceCapture_under apart tenant ?_ held.2).commit beside
      rw [id]
      exact derived

theorem requestEvidenceDeletion_beside (apart : ctx.tenantId ≠ t) {r : Records}
    (cmd : RequestEvidenceDeletion) {s : Store} (beside : s.Beside t r) :
    (requestEvidenceDeletion ports env ctx cmd s).2.Beside t r := by
  have requested : ∀ d, Spares t (r, d) (requestDeletion ports env ctx cmd) := fun d =>
    (Tx.keeps_ofExcept _).under_bind fun _ => (Tx.keeps_check _ _).under_bind fun _ =>
      (Tx.keeps_check _ _).under_bind fun _ => Tx.under_bind (find_spares .evidence apart)
      fun _ _ => Tx.under_bind (recordEvidenceDeletion_spares _) fun _ _ =>
      Tx.under_bind (recordAudit_spares _ _) fun _ _ => Tx.under_pure trivial
  refine (Spares.beside requested).andThen beside fun asked s' _ beside => ?_
  obtain ⟨evidence, record⟩ := asked
  dsimp only
  split
  · exact beside
  · refine (Spares.beside fun d => ?_).commit beside
    exact Tx.under_bind (recordEvidenceDeletion_spares _) fun _ _ =>
      Tx.under_bind (recordAudit_spares _ _) fun _ _ => Tx.under_pure trivial

/-! ## Governed execution -/

/-- Everything the second transaction writes is of one tenant. -/
structure OfTenant (tenantId : Uuid) (facts : ExecutionFacts) : Prop where
  context : facts.context.tenantId = tenantId
  action : facts.result.action.tenantId = tenantId
  attempt : facts.attempt.tenantId = tenantId
  evidence : facts.evidence.tenantId = tenantId

theorem recordExecution_spares {mine : Uuid} (apart : mine ≠ t) {facts : ExecutionFacts}
    (own : OfTenant mine facts) (attempt : v.1.rows .attempt facts.attempt.attemptId = none)
    (evidence : v.1.rows .evidence facts.evidence.evidenceId = none) :
    Spares t v (recordExecution env facts) := by
  refine (find_keeps _ _ _ _ _ _).under_bind fun _ => (Tx.keeps_check _ _).under_bind fun _ =>
    Tx.under_bind (saveAction_spares (own.action ▸ apart)) fun _ _ =>
    Tx.under_bind (addActionAttempt_spares (own.attempt ▸ apart) attempt) fun _ _ =>
    Tx.under_bind (addEvidence_spares (own.evidence ▸ apart) evidence) fun _ _ =>
    Tx.under_bind (recordAudit_spares _ _) fun _ _ =>
    Tx.under_bind (recordAudit_spares _ _) fun _ _ =>
    (remember_spares (own.context ▸ apart) _ _).under

end

end App

end Autonoesis
