import Autonoesis.Application.AuditChain
import Autonoesis.Application.Completion
import Autonoesis.Application.Tenants

/-!
# What the commands write

`Write` lists what a single statement of the store can do, part by part; each command is a
sequence of such statements on the parts it is listed with. An invariant of the store is
then shown once for the statements and holds through every command that only uses them.
-/

namespace Autonoesis
open Base

/-- The identifier a record is stored under. -/
def Table.idOf : (i : Table) → i.Row → Uuid
  | goal => fun row : GoalContract => row.goalId
  | run => fun row : Run => row.runId
  | snapshot => fun row : ContextSnapshot => row.snapshotId
  | plan => fun row : Plan => row.planId
  | task => fun row : Task => row.taskId
  | action => fun row : Action => row.actionId
  | attempt => fun row : ActionAttempt => row.attemptId
  | approval => fun row : ApprovalRequest => row.approvalId
  | evidence => fun row : Evidence => row.evidenceId
  | outcome => fun row : Outcome => row.outcomeId

/-- A record under its identifier. -/
def Store.assign (s : Store) (i : Table) (row : i.Row) : Store :=
  s.setTable i ((s.table i).set (i.idOf row) row)

/-- New records of the table are assigned to an identifier drawn by `uuid4`. -/
def Table.isDrawn : Table → Bool
  | goal | run | plan | action | attempt | approval | outcome => true
  | snapshot | task | evidence => false

/-- Records of the table are saved again after they were added. -/
def Table.isSaved : Table → Bool
  | goal | run | task | action | approval => true
  | snapshot | plan | attempt | evidence | outcome => false

/-- A part of the store. -/
inductive Part where
  | rows (i : Table)
  | sagas
  | deletions
  | audits
  | keys

/-- What a statement can do to a part of the store. -/
inductive Store.Write [Sha256] (drawn : Uuid → Prop) (s : Store) : Part → Store → Prop
  | add {i : Table} (fresh : i.isDrawn = true) (row : i.Row) (new : drawn (i.idOf row)) :
      Write drawn s (.rows i) (s.assign i row)
  | put {i : Table} (named : i.isDrawn = false) (row : i.Row) :
      Write drawn s (.rows i) (s.assign i row)
  | save {i : Table} (saved : i.isSaved = true) {current row : i.Row}
      (found : (s.table i).get? (i.idOf row) = some current)
      (own : i.tenantOf current = i.tenantOf row) :
      Write drawn s (.rows i) (s.assign i row)
  | saga (d : Dict Uuid EvidenceCaptureSaga) :
      Write drawn s .sagas { s with evidenceCaptureSagas := d }
  | deletion (d : Dict Uuid EvidenceDeletionRecord) :
      Write drawn s .deletions { s with evidenceDeletions := d }
  | audit {e : AuditEvent} {text : String} (sequence : 0 < e.sequence.getD 0)
      (digest : e.eventDigest = some (Sha256.hexdigest text)) :
      Write drawn s .audits { s with audits := s.audits ++ [e] }
  | remember {key : Uuid × String} {value : Uuid} {digest : String}
      (free : ∀ old, s.idempotency.get? key = some old →
        old = value ∧ s.idempotencyDigests.get? key = some digest) :
      Write drawn s .keys { s with
        idempotency := s.idempotency.set key value
        idempotencyDigests := s.idempotencyDigests.set key digest }

/-- The statements on a part keep the invariant. -/
structure Store.Kept [Sha256] (drawn : Uuid → Prop) (I : Store → Prop) (p : Part) : Prop where
  keep : ∀ {s s' : Store}, Store.Write drawn s p s' → I s → I s'

/-- A transaction that keeps the invariant. -/
abbrev Store.Holds {α : Type} (I : Store → Prop) (x : StoreTx α) : Prop :=
  Tx.Under I x fun _ => True

namespace Store

variable [Sha256] {I : Store → Prop} {drawn : Uuid → Prop}

/-! ## The statements -/

omit [Sha256] in
/-- A save over the record its own tenant has there. -/
theorem getApproval_found {tenantId id : Uuid} {s : Store} {r : ApprovalRequest × Store}
    (h : getApproval tenantId id s = .ok r) :
    s.approvals.get? id = some r.1 ∧ r.1.tenantId = tenantId ∧ r.2 = s := by
  simp only [getApproval, Tx.bind_ok, Tx.read_ok] at h
  obtain ⟨_, _, ⟨⟩, h⟩ := h
  cases found : s.approvals.get? id with
  | none =>
    rw [found] at h
    cases h
  | some item =>
    simp only [found, Tx.bind_ok, Tx.check_ok, Tx.pure_ok] at h
    obtain ⟨_, _, ⟨tenant, rfl⟩, rfl⟩ := h
    exact ⟨rfl, by simpa using tenant, rfl⟩

theorem recordAudit_holds (audits : Kept drawn I .audits) (audit : AuditEvent) (now : Instant) :
    Holds I (recordAudit audit now) := by
  refine Tx.Keeps.skip (Tx.keeps_read _) fun previous =>
    Tx.under_bind (Tx.under_ofExcept fun _ made => made) fun event made => ?_
  obtain ⟨⟨positive, _⟩, rfl⟩ := AuditEvent.chained_ok.mp made
  exact Tx.under_write (fun s inv => audits.keep (.audit positive rfl) inv) trivial

theorem add_holds (i : Table) (rows : Kept drawn I (.rows i)) (fresh : i.isDrawn = true)
    {row : i.Row} (new : drawn (i.idOf row)) {g : Store → Store}
    (assigns : ∀ s, g s = s.assign i row) : Holds I (Tx.write g) := by
  refine Tx.under_write (fun s inv => ?_) trivial
  rw [assigns]
  exact rows.keep (.add fresh row new) inv

theorem put_holds (i : Table) (rows : Kept drawn I (.rows i)) (named : i.isDrawn = false)
    {row : i.Row} {g : Store → Store} (assigns : ∀ s, g s = s.assign i row) :
    Holds I (Tx.write g) := by
  refine Tx.under_write (fun s inv => ?_) trivial
  rw [assigns]
  exact rows.keep (.put named row) inv

/-- Reading a record of the same tenant first and then saving over it. -/
theorem save_holds (i : Table) (rows : Kept drawn I (.rows i)) (saved : i.isSaved = true)
    {missing : String} {row : i.Row} {stale : i.Row → Bool} {e : Exc} {g : Store → Store}
    (assigns : ∀ s, g s = s.assign i row) :
    Holds I (do
      let current ← find (·.table i) i.tenantOf missing (i.tenantOf row) (i.idOf row)
      Tx.check (stale current) e
      Tx.write g) := by
  constructor
  intro s u s' inv ran
  simp only [Tx.bind_ok, find_ok, Tx.check_ok, Tx.write_ok] at ran
  obtain ⟨current, _, ⟨found, own, rfl⟩, _, _, ⟨_, rfl⟩, rfl⟩ := ran
  rw [assigns]
  exact ⟨rows.keep (.save saved found own) inv, trivial⟩

theorem saveApproval_holds (rows : Kept drawn I (.rows .approval)) (row : ApprovalRequest)
    (n : Int) : Holds I (saveApproval row n) := by
  constructor
  intro s u s' inv ran
  simp only [saveApproval, Tx.bind_ok, Tx.check_ok, Tx.write_ok] at ran
  obtain ⟨current, _, read, _, _, ⟨_, rfl⟩, rfl⟩ := ran
  obtain ⟨found, own, rfl⟩ := getApproval_found read
  exact ⟨rows.keep (.save rfl found own) inv, trivial⟩

theorem saveTask_holds (rows : Kept drawn I (.rows .task)) (row : Task) (n : Int) :
    Holds I (saveTask row n) :=
  save_holds .task rows rfl fun _ => rfl

theorem saveAction_holds (rows : Kept drawn I (.rows .action)) (row : Action) (n : Int) :
    Holds I (saveAction row n) :=
  save_holds .action rows rfl fun _ => rfl

/-- A save with its event. -/
theorem saveAudited_holds (i : Table) (rows : Kept drawn I (.rows i)) (saved : i.isSaved = true)
    (audits : Kept drawn I .audits) {missing : String} {row : i.Row} {stale : i.Row → Bool}
    {e : Exc} {g : Store → Store} {audit : AuditEvent} {now : Instant}
    (assigns : ∀ s, g s = s.assign i row) :
    Holds I (do
      let current ← find (·.table i) i.tenantOf missing (i.tenantOf row) (i.idOf row)
      Tx.check (stale current) e
      Tx.write g
      recordAudit audit now) := by
  constructor
  intro s u s' inv ran
  simp only [Tx.bind_ok, find_ok, Tx.check_ok, Tx.write_ok] at ran
  obtain ⟨current, _, ⟨found, own, rfl⟩, _, _, ⟨_, rfl⟩, _, _, rfl, audited⟩ := ran
  refine (recordAudit_holds audits audit now).run ?_ audited
  rw [assigns]
  exact rows.keep (.save saved found own) inv

theorem saveGoal_holds (rows : Kept drawn I (.rows .goal)) (audits : Kept drawn I .audits)
    (row : GoalContract) (n : Int) (audit : AuditEvent) (now : Instant) :
    Holds I (saveGoal row n audit now) :=
  saveAudited_holds .goal rows rfl audits fun _ => rfl

theorem saveRun_holds (rows : Kept drawn I (.rows .run)) (audits : Kept drawn I .audits)
    (row : Run) (n : Int) (audit : AuditEvent) (now : Instant) :
    Holds I (saveRun row n audit now) :=
  saveAudited_holds .run rows rfl audits fun _ => rfl

theorem addGoal_holds (rows : Kept drawn I (.rows .goal)) (audits : Kept drawn I .audits)
    {row : GoalContract} (new : drawn row.goalId) (audit : AuditEvent) (now : Instant) :
    Holds I (addGoal row audit now) :=
  Tx.under_bind (add_holds .goal rows rfl new fun _ => rfl) fun _ _ =>
    recordAudit_holds audits audit now

theorem addRun_holds (rows : Kept drawn I (.rows .run)) (audits : Kept drawn I .audits)
    {row : Run} (new : drawn row.runId) (audit : AuditEvent) (now : Instant) :
    Holds I (addRun row audit now) :=
  Tx.under_bind (add_holds .run rows rfl new fun _ => rfl) fun _ _ =>
    recordAudit_holds audits audit now

theorem addContextSnapshot_holds (rows : Kept drawn I (.rows .snapshot)) (row : ContextSnapshot) :
    Holds I (addContextSnapshot row) :=
  Tx.Keeps.skip (Tx.keeps_read _) fun _ => Tx.Keeps.skip (Tx.keeps_check _ _) fun _ =>
    put_holds .snapshot rows rfl fun _ => rfl

/-- The tasks of a plan are assigned one after the other. -/
theorem putTasks_keep (rows : Kept drawn I (.rows .task)) (tasks : List Task) {s : Store}
    (inv : I s) :
    I { s with tasks := tasks.foldl (fun d task => d.set task.taskId task) s.tasks } := by
  induction tasks generalizing s with
  | nil => exact inv
  | cons task rest ih =>
    exact ih (s := s.assign .task task) (rows.keep (.put (i := .task) rfl task) inv)

theorem addPlan_holds (plans : Kept drawn I (.rows .plan)) (tasks : Kept drawn I (.rows .task))
    {row : Plan} (new : drawn row.planId) : Holds I (addPlan row) := by
  refine Tx.under_write (fun s inv => ?_) trivial
  have added := plans.keep (.add (i := .plan) rfl row new) inv
  exact putTasks_keep tasks row.tasks added

theorem addAction_holds (rows : Kept drawn I (.rows .action)) {row : Action}
    (new : drawn row.actionId) : Holds I (addAction row) :=
  Tx.Keeps.skip (Tx.keeps_read _) fun _ => Tx.Keeps.skip (Tx.keeps_check _ _) fun _ =>
    add_holds .action rows rfl new fun _ => rfl

theorem addActionAttempt_holds (rows : Kept drawn I (.rows .attempt)) {row : ActionAttempt}
    (new : drawn row.attemptId) : Holds I (addActionAttempt row) :=
  Tx.Keeps.skip (Tx.keeps_read _) fun _ => Tx.Keeps.skip (Tx.keeps_check _ _) fun _ =>
    add_holds .attempt rows rfl new fun _ => rfl

theorem addApproval_holds (rows : Kept drawn I (.rows .approval)) {row : ApprovalRequest}
    (new : drawn row.approvalId) : Holds I (addApproval row) :=
  add_holds .approval rows rfl new fun _ => rfl

theorem addEvidence_holds (rows : Kept drawn I (.rows .evidence)) (row : Evidence) :
    Holds I (addEvidence row) :=
  Tx.Keeps.skip (find_keeps _ _ _ _ _ _) fun _ => Tx.Keeps.skip (Tx.keeps_check _ _) fun _ =>
    put_holds .evidence rows rfl fun _ => rfl

theorem addOutcome_holds (rows : Kept drawn I (.rows .outcome)) {row : Outcome}
    (new : drawn row.outcomeId) : Holds I (addOutcome row) := by
  refine Tx.Keeps.skip (Tx.keeps_forM (fun e => ?_) _) fun _ =>
    add_holds .outcome rows rfl new fun _ => rfl
  exact Tx.keeps_bind (find_keeps _ _ _ _ _ _) fun _ => Tx.keeps_check _ _

theorem startEvidenceCapture_holds (sagas : Kept drawn I .sagas) (saga : EvidenceCaptureSaga) :
    Holds I (startEvidenceCapture saga) := by
  refine Tx.Keeps.skip (Tx.keeps_read _) fun existing => ?_
  cases existing with
  | some existing => exact Tx.under_check fun _ => trivial
  | none => exact Tx.under_write (fun s inv => sagas.keep (.saga _) inv) trivial

theorem completeEvidenceCapture_holds (sagas : Kept drawn I .sagas) (tenantId id : Uuid) :
    Holds I (completeEvidenceCapture tenantId id) :=
  Tx.Keeps.skip (find_keeps _ _ _ _ _ _) fun _ => Tx.Keeps.skip (Tx.keeps_check _ _) fun _ =>
    Tx.under_write (fun _ inv => sagas.keep (.saga _) inv) trivial

theorem recordEvidenceDeletion_holds (deletions : Kept drawn I .deletions)
    (record : EvidenceDeletionRecord) : Holds I (recordEvidenceDeletion record) :=
  Tx.under_write (fun _ inv => deletions.keep (.deletion _) inv) trivial

omit [Sha256] in
/-- A key is bound once, to one result and one digest. -/
theorem putIdempotency_ok {tenantId : Uuid} {key : String} {value : Uuid} {digest : String}
    {s : Store} {r : Unit × Store} : putIdempotency tenantId key value digest s = .ok r ↔
      (∀ old, s.idempotency.get? (tenantId, key) = some old →
        old = value ∧ s.idempotencyDigests.get? (tenantId, key) = some digest) ∧
      r.2 = { s with
        idempotency := s.idempotency.set (tenantId, key) value
        idempotencyDigests := s.idempotencyDigests.set (tenantId, key) digest } := by
  simp only [putIdempotency, Tx.bind_ok, Tx.read_ok, Tx.check_ok, Tx.write_ok]
  constructor
  · rintro ⟨_, _, ⟨⟩, _, _, ⟨⟩, _, _, ⟨free, rfl⟩, written⟩
    refine ⟨fun old bound => ?_, written⟩
    simpa [bound] using free
  · rintro ⟨free, written⟩
    refine ⟨_, s, rfl, _, s, rfl, (), s, ⟨?_, rfl⟩, written⟩
    cases bound : s.idempotency.get? (tenantId, key) with
    | none => rfl
    | some old => simpa using free old bound

theorem putIdempotency_holds (keys : Kept drawn I .keys) (tenantId : Uuid) (key : String)
    (value : Uuid) (digest : String) : Holds I (putIdempotency tenantId key value digest) := by
  constructor
  intro s u s' inv ran
  obtain ⟨free, written⟩ := putIdempotency_ok.mp ran
  cases written
  exact ⟨keys.keep (.remember free) inv, trivial⟩

end Store

/-! ## The commands -/

/-- The parts of the store a command writes to. -/
def Command.parts : Command → List Part
  | createGoal .. => [.rows .goal, .audits, .keys]
  | activateGoal .. => [.rows .goal, .audits, .keys]
  | requestRun .. => [.rows .run, .audits, .keys]
  | prepareRunContext .. => [.rows .snapshot, .audits, .keys]
  | createValidatedPlan .. => [.rows .plan, .rows .task, .rows .run, .audits, .keys]
  | startTask .. => [.rows .task, .audits, .keys]
  | completeTask .. => [.rows .task, .audits, .keys]
  | proposeAction .. => [.rows .action, .audits, .keys]
  | requestApproval .. => [.rows .approval, .rows .action, .audits, .keys]
  | decideApproval .. => [.rows .approval, .rows .action, .audits, .keys]
  | authorizeAction .. => [.rows .action, .audits, .keys]
  | recordActionAttempt .. => [.rows .attempt, .rows .action, .audits, .keys]
  | reconcileUnknownAction .. => [.rows .attempt, .rows .action, .audits, .keys]
  | recordEvidence .. => [.rows .evidence, .audits, .keys]
  | captureEvidence .. => [.sagas, .rows .evidence, .audits, .keys]
  | deleteEvidence .. => [.deletions, .audits]
  | verifyOutcome .. => [.rows .outcome, .audits, .keys]
  | completeRun .. => [.rows .run, .audits, .keys]
  | satisfyOrFailGoal .. => [.rows .goal, .audits, .keys]
  | cancelRun .. => [.rows .run, .audits, .keys]
  | failRun .. => [.rows .run, .audits, .keys]
  | takeOverRun .. => [.rows .run, .audits, .keys]

namespace App
open Store

variable [Sha256] {I : Store → Prop} {drawn : Uuid → Prop} {ctx : CommandContext} {env : Env}
  {ports : Ports}

omit [Sha256] in
theorem loadIdempotency_reads (key : String) : Tx.Keeps (fun s => s) (loadIdempotency ctx key) :=
  ⟨fun ran => loadIdempotency_ok ran⟩

omit [Sha256] in
/-- What a key is bound to, unless it was used with another digest. -/
theorem loadIdempotency_returns {key : String} {s : Store} {r : Option Uuid × Store} :
    loadIdempotency ctx key s = .ok r ↔
      (∀ d, s.idempotencyDigests.get? (ctx.tenantId, key) = some d → d = ctx.requestDigest) ∧
        r = (s.idempotency.get? (ctx.tenantId, key), s) := by
  simp only [loadIdempotency, getIdempotency, Tx.bind_ok, Tx.read_ok, Tx.check_ok]
  constructor
  · rintro ⟨_, _, ⟨⟩, _, _, ⟨accepted, rfl⟩, rfl⟩
    refine ⟨fun d used => ?_, rfl⟩
    simpa [used] using accepted
  · rintro ⟨accepted, rfl⟩
    refine ⟨_, s, rfl, (), s, ⟨?_, rfl⟩, rfl⟩
    cases used : s.idempotencyDigests.get? (ctx.tenantId, key) with
    | none => rfl
    | some d => simp [accepted d used]

omit [Sha256] in
theorem cachedGoal_reads (key : String) (requested : Uuid) :
    Tx.Keeps (fun s => s) (cachedGoal ctx key requested) :=
  Tx.keeps_bind (loadIdempotency_reads _) fun _ => find_keeps _ _ _ _ _ _

omit [Sha256] in
theorem cachedRun_reads (key : String) (requested : Uuid) :
    Tx.Keeps (fun s => s) (cachedRun ctx key requested) :=
  Tx.keeps_bind (loadIdempotency_reads _) fun _ => find_keeps _ _ _ _ _ _

omit [Sha256] in
theorem cachedTask_reads (key : String) (requested : Uuid) :
    Tx.Keeps (fun s => s) (cachedTask ctx key requested) :=
  Tx.keeps_bind (loadIdempotency_reads _) fun _ => find_keeps _ _ _ _ _ _

omit [Sha256] in
/-- A transaction that only reads keeps every invariant. -/
theorem reads_holds {α : Type} {x : StoreTx α} (reads : Tx.Keeps (fun s => s) x) : Holds I x :=
  ⟨fun inv ran => ⟨(reads.eq ran).symm ▸ inv, trivial⟩⟩

theorem remember_holds (keys : Kept drawn I .keys) (key : String) (value : Uuid) :
    Holds I (remember ctx key value) :=
  putIdempotency_holds keys _ _ _ _

/-- The end of a command that changed nothing. -/
theorem remembered_holds {α : Type} (keys : Kept drawn I .keys) {key : String} {value : Uuid}
    {a : α} : Holds I (do remember ctx key value; return a) :=
  Tx.under_bind (remember_holds keys _ _) fun _ _ => Tx.under_pure trivial

/-- The end of a command that changed something. -/
theorem audited_holds {α : Type} (audits : Kept drawn I .audits) (keys : Kept drawn I .keys)
    {eventType key : String} {item : AuditItem} {eventId value : Uuid} {now : Instant} {a : α} :
    Holds I (do
      audit ctx eventType item eventId now
      remember ctx key value
      return a) :=
  Tx.under_bind (recordAudit_holds audits _ _) fun _ _ => remembered_holds keys

theorem createGoal_holds {cmd : CreateGoal}
    (kept : ∀ p ∈ (Command.createGoal ctx cmd).parts, Kept drawn I p)
    (new : ∀ n, drawn (env.uuid n)) : Holds I (createGoal ports env ctx cmd) := by
  have rows := kept (.rows .goal) (by simp [Command.parts])
  have audits := kept .audits (by simp [Command.parts])
  have keys := kept .keys (by simp [Command.parts])
  refine (Tx.keeps_ofExcept _).skip fun _ => (loadIdempotency_reads _).skip fun
    | some _ => reads_holds (find_keeps _ _ _ _ _ _)
    | none => ?_
  refine (Tx.keeps_ofExcept _).skip fun _ => (Tx.keeps_ofExcept _).skip fun _ =>
    (Tx.keeps_ofExcept _).skip fun _ => (Tx.keeps_ofExcept _).skip fun _ =>
    (Tx.keeps_ofExcept _).skip fun _ => ?_
  refine Tx.under_bind (Tx.under_ofExcept fun _ made => made) fun goal made => ?_
  obtain ⟨_, rfl⟩ := guarded_eq_ok.mp made
  exact Tx.under_bind (addGoal_holds rows audits (new 0) _ _) fun _ _ => remembered_holds keys

theorem activateGoal_holds {goalId : Uuid} {reason : String}
    (kept : ∀ p ∈ (Command.activateGoal ctx goalId reason).parts, Kept drawn I p) :
    Holds I (activateGoal env ctx goalId reason) := by
  have rows := kept (.rows .goal) (by simp [Command.parts])
  have audits := kept .audits (by simp [Command.parts])
  have keys := kept .keys (by simp [Command.parts])
  refine (Tx.keeps_ofExcept _).skip fun _ => (cachedGoal_reads _ _).skip fun goal =>
    Tx.under_ite (fun _ => remembered_holds keys) fun _ => ?_
  exact (Tx.keeps_ofExcept _).skip fun active =>
    Tx.under_bind (saveGoal_holds rows audits _ _ _ _) fun _ _ => remembered_holds keys

theorem requestRun_holds {goalId : Uuid}
    (kept : ∀ p ∈ (Command.requestRun ctx goalId).parts, Kept drawn I p)
    (new : ∀ n, drawn (env.uuid n)) : Holds I (requestRun ports env ctx goalId) := by
  have rows := kept (.rows .run) (by simp [Command.parts])
  have audits := kept .audits (by simp [Command.parts])
  have keys := kept .keys (by simp [Command.parts])
  refine (Tx.keeps_ofExcept _).skip fun _ => (loadIdempotency_reads _).skip fun
    | some _ => reads_holds (find_keeps _ _ _ _ _ _)
    | none => ?_
  refine (find_keeps _ _ _ _ _ _).skip fun _ => (Tx.keeps_read _).skip fun _ =>
    (Tx.keeps_ofExcept _).skip fun _ => (Tx.keeps_ofExcept _).skip fun _ =>
    (Tx.keeps_ofExcept _).skip fun _ => (Tx.keeps_ofExcept _).skip fun _ => ?_
  refine Tx.under_bind (Tx.under_ofExcept fun _ made => made) fun run made => ?_
  obtain ⟨_, rfl⟩ := guarded_eq_ok.mp made
  exact Tx.under_bind (addRun_holds rows audits (new 0) _ _) fun _ _ => remembered_holds keys

theorem prepareRunContext_holds {cmd : PrepareRunContext}
    (kept : ∀ p ∈ (Command.prepareRunContext ctx cmd).parts, Kept drawn I p) :
    Holds I (prepareRunContext ports env ctx cmd) := by
  have rows := kept (.rows .snapshot) (by simp [Command.parts])
  have audits := kept .audits (by simp [Command.parts])
  have keys := kept .keys (by simp [Command.parts])
  refine (Tx.keeps_ofExcept _).skip fun _ => (loadIdempotency_reads _).skip fun
    | some _ => reads_holds (getContextSnapshot_keeps _ _ _)
    | none => ?_
  exact (find_keeps _ _ _ _ _ _).skip fun run =>
    (Tx.keeps_mapM (fun _ => find_keeps _ _ _ _ _ _) _).skip fun memories =>
    (Tx.keeps_ofExcept _).skip fun _ => Tx.under_bind (addContextSnapshot_holds rows _) fun _ _ =>
    audited_holds audits keys

theorem createValidatedPlan_holds {cmd : CreateValidatedPlan}
    (kept : ∀ p ∈ (Command.createValidatedPlan ctx cmd).parts, Kept drawn I p)
    (new : ∀ n, drawn (env.uuid n)) : Holds I (createValidatedPlan env ctx cmd) := by
  have plans := kept (.rows .plan) (by simp [Command.parts])
  have tasks := kept (.rows .task) (by simp [Command.parts])
  have runs := kept (.rows .run) (by simp [Command.parts])
  have audits := kept .audits (by simp [Command.parts])
  have keys := kept .keys (by simp [Command.parts])
  refine (Tx.keeps_ofExcept _).skip fun _ => (loadIdempotency_reads _).skip fun
    | some _ => reads_holds (getPlan_keeps _ _ _)
    | none => ?_
  refine (find_keeps _ _ _ _ _ _).skip fun run => (Tx.keeps_check _ _).skip fun _ =>
    (getContextSnapshot_keeps _ _ _).skip fun snapshot => (Tx.keeps_ofExcept _).skip fun built => ?_
  refine Tx.under_bind (Tx.under_ofExcept fun _ made => made) fun plan made => ?_
  obtain ⟨_, rfl⟩ := guarded_eq_ok.mp made
  exact (Tx.keeps_ofExcept _).skip fun bound =>
    Tx.under_bind (addPlan_holds plans tasks (new 0)) fun _ _ =>
    Tx.under_bind (saveRun_holds runs audits _ _ _ _) fun _ _ => remembered_holds keys

theorem transitionRun_holds (runs : Kept drawn I (.rows .run)) (audits : Kept drawn I .audits)
    (keys : Kept drawn I .keys) (runId : Uuid) (target : RunStatus) (reason operation : String) :
    Holds I (transitionRun env ctx runId target reason operation) := by
  refine (Tx.keeps_check _ _).skip fun _ => (cachedRun_reads _ _).skip fun run =>
    Tx.under_ite (fun _ => remembered_holds keys) fun _ => ?_
  exact (Tx.keeps_ofExcept _).skip fun updated =>
    Tx.under_bind (saveRun_holds runs audits _ _ _ _) fun _ _ => remembered_holds keys

theorem completeRun_holds {runId : Uuid}
    (kept : ∀ p ∈ (Command.completeRun ctx runId).parts, Kept drawn I p) :
    Holds I (completeRun env ctx runId) := by
  have rows := kept (.rows .run) (by simp [Command.parts])
  have audits := kept .audits (by simp [Command.parts])
  have keys := kept .keys (by simp [Command.parts])
  refine (Tx.keeps_ofExcept _).skip fun _ => (cachedRun_reads _ _).skip fun run =>
    Tx.under_ite (fun _ => remembered_holds keys) fun _ => ?_
  refine (Tx.keeps_check _ _).skip fun _ => (find_keeps _ _ _ _ _ _).skip fun _ =>
    (Tx.keeps_read _).skip fun _ => (Tx.keeps_read _).skip fun _ =>
    (Tx.keeps_read _).skip fun _ => (Tx.keeps_check _ _).skip fun _ =>
    Tx.under_ite (fun _ => remembered_holds keys) fun _ => ?_
  exact (Tx.keeps_ofExcept _).skip fun updated =>
    Tx.under_bind (saveRun_holds rows audits _ _ _ _) fun _ _ => remembered_holds keys

theorem satisfyOrFailGoal_holds {goalId : Uuid} {satisfied : Bool} {reason : String}
    (kept : ∀ p ∈ (Command.satisfyOrFailGoal ctx goalId satisfied reason).parts, Kept drawn I p) :
    Holds I (satisfyOrFailGoal env ctx goalId satisfied reason) := by
  have rows := kept (.rows .goal) (by simp [Command.parts])
  have audits := kept .audits (by simp [Command.parts])
  have keys := kept .keys (by simp [Command.parts])
  refine (Tx.keeps_ofExcept _).skip fun _ => (Tx.keeps_check _ _).skip fun _ =>
    (cachedGoal_reads _ _).skip fun goal =>
    Tx.under_ite (fun _ => remembered_holds keys) fun _ => ?_
  have decides (runs : List Run) :
      Tx.Keeps (fun s => s) (finishTarget goal ctx.tenantId satisfied runs) :=
    ⟨fun ran => (finishTarget_ok ran).1⟩
  exact (Tx.keeps_read _).skip fun runs => (decides runs).skip fun target =>
    (Tx.keeps_ofExcept _).skip fun updated =>
    Tx.under_bind (saveGoal_holds rows audits _ _ _ _) fun _ _ => remembered_holds keys

theorem startTask_holds {taskId : Uuid}
    (kept : ∀ p ∈ (Command.startTask ctx taskId).parts, Kept drawn I p) :
    Holds I (startTask env ctx taskId) := by
  have rows := kept (.rows .task) (by simp [Command.parts])
  have audits := kept .audits (by simp [Command.parts])
  have keys := kept .keys (by simp [Command.parts])
  refine (Tx.keeps_ofExcept _).skip fun _ => (cachedTask_reads _ _).skip fun task =>
    Tx.under_ite (fun _ => remembered_holds keys) fun _ => ?_
  exact (Tx.keeps_mapM (fun _ => find_keeps _ _ _ _ _ _) _).skip fun _ =>
    (Tx.keeps_check _ _).skip fun _ => (Tx.keeps_ofExcept _).skip fun started =>
    Tx.under_bind (saveTask_holds rows _ _) fun _ _ => audited_holds audits keys

theorem completeTask_holds {taskId : Uuid} {succeeded : Bool} {reason : String}
    (kept : ∀ p ∈ (Command.completeTask ctx taskId succeeded reason).parts, Kept drawn I p) :
    Holds I (completeTask env ctx taskId succeeded reason) := by
  have rows := kept (.rows .task) (by simp [Command.parts])
  have audits := kept .audits (by simp [Command.parts])
  have keys := kept .keys (by simp [Command.parts])
  refine (Tx.keeps_ofExcept _).skip fun _ => (Tx.keeps_check _ _).skip fun _ =>
    (cachedTask_reads _ _).skip fun task =>
    Tx.under_ite (fun _ => remembered_holds keys) fun _ => ?_
  exact (Tx.keeps_check _ _).skip fun _ => (Tx.keeps_ofExcept _).skip fun completed =>
    Tx.under_bind (saveTask_holds rows _ _) fun _ _ => audited_holds audits keys

theorem proposeAction_holds {cmd : ProposeAction}
    (kept : ∀ p ∈ (Command.proposeAction ctx cmd).parts, Kept drawn I p)
    (new : ∀ n, drawn (env.uuid n)) : Holds I (proposeAction env ctx cmd) := by
  have rows := kept (.rows .action) (by simp [Command.parts])
  have audits := kept .audits (by simp [Command.parts])
  have keys := kept .keys (by simp [Command.parts])
  refine (Tx.keeps_ofExcept _).skip fun _ => (loadIdempotency_reads _).skip fun
    | some _ => reads_holds (find_keeps _ _ _ _ _ _)
    | none => ?_
  refine (find_keeps _ _ _ _ _ _).skip fun _ => (Tx.keeps_check _ _).skip fun _ =>
    (find_keeps _ _ _ _ _ _).skip fun _ => (Tx.keeps_check _ _).skip fun _ =>
    (Tx.keeps_ofExcept _).skip fun _ => ?_
  refine Tx.under_bind (Tx.under_ofExcept fun _ made => made) fun action made => ?_
  obtain ⟨_, rfl⟩ := guarded_eq_ok.mp made
  exact Tx.under_bind (addAction_holds rows (new 0)) fun _ _ => audited_holds audits keys

theorem requestApproval_holds {cmd : RequestApproval}
    (kept : ∀ p ∈ (Command.requestApproval ctx cmd).parts, Kept drawn I p)
    (new : ∀ n, drawn (env.uuid n)) : Holds I (requestApproval env ctx cmd) := by
  have approvals := kept (.rows .approval) (by simp [Command.parts])
  have actions := kept (.rows .action) (by simp [Command.parts])
  have audits := kept .audits (by simp [Command.parts])
  have keys := kept .keys (by simp [Command.parts])
  refine (Tx.keeps_ofExcept _).skip fun _ => (loadIdempotency_reads _).skip fun
    | some _ => reads_holds (getApproval_keeps _ _ _)
    | none => ?_
  refine (find_keeps _ _ _ _ _ _).skip fun action => (Tx.keeps_check _ _).skip fun _ => ?_
  refine Tx.under_bind (Tx.under_ofExcept fun _ made => made) fun approval made => ?_
  obtain ⟨_, rfl⟩ := guarded_eq_ok.mp made
  exact (Tx.keeps_ofExcept _).skip fun awaiting =>
    Tx.under_bind (addApproval_holds approvals (new 0)) fun _ _ =>
    Tx.under_bind (saveAction_holds actions _ _) fun _ _ => audited_holds audits keys

theorem decideApproval_holds {cmd : DecideApproval}
    (kept : ∀ p ∈ (Command.decideApproval ctx cmd).parts, Kept drawn I p) :
    Holds I (decideApproval env ctx cmd) := by
  have approvals := kept (.rows .approval) (by simp [Command.parts])
  have actions := kept (.rows .action) (by simp [Command.parts])
  have audits := kept .audits (by simp [Command.parts])
  have keys := kept .keys (by simp [Command.parts])
  refine (loadIdempotency_reads _).skip fun
    | some _ => reads_holds (getApproval_keeps _ _ _)
    | none => ?_
  refine (getApproval_keeps _ _ _).skip fun approval => (Tx.keeps_ofExcept _).skip fun _ =>
    (Tx.keeps_check _ _).skip fun _ => (Tx.keeps_ofExcept _).skip fun decided =>
    Tx.under_bind (saveApproval_holds approvals _ _) fun _ _ => Tx.under_ite (fun _ => ?_) fun _ => ?_
  · refine Tx.under_bind (Q := fun _ => True) ?_ fun _ _ => audited_holds audits keys
    exact (find_keeps _ _ _ _ _ _).skip fun action => (Tx.keeps_ofExcept _).skip fun denied =>
      saveAction_holds actions _ _
  · exact (Tx.keeps_pure _).skip fun _ => audited_holds audits keys

theorem legacyAuthorized_holds (actions : Kept drawn I (.rows .action))
    (audits : Kept drawn I .audits) (policyVersion : String) (action : Action) :
    Holds I (legacyAuthorized env ctx policyVersion action) := by
  refine Tx.under_ite (fun _ => ?_) fun _ => Tx.under_pure trivial
  exact (Tx.keeps_ofExcept _).skip fun authorized =>
    Tx.under_bind (saveAction_holds actions _ _) fun _ _ =>
    Tx.under_bind (recordAudit_holds audits _ _) fun _ _ => Tx.under_pure trivial

theorem authorizeActionAtExecutionTime_holds {cmd : AuthorizeActionAtExecutionTime}
    (kept : ∀ p ∈ (Command.authorizeAction ctx cmd).parts, Kept drawn I p) :
    Holds I (authorizeActionAtExecutionTime ports env ctx cmd) := by
  have actions := kept (.rows .action) (by simp [Command.parts])
  have audits := kept .audits (by simp [Command.parts])
  have keys := kept .keys (by simp [Command.parts])
  refine (Tx.keeps_check _ _).skip fun _ => (Tx.keeps_ofExcept _).skip fun _ =>
    (Tx.keeps_check _ _).skip fun _ => (loadIdempotency_reads _).skip fun cached =>
    (find_keeps _ _ _ _ _ _).skip fun action => (suppliedApproval_keeps _ _).skip fun approval => ?_
  split
  · refine Tx.under_ite (fun _ => ?_) fun _ => Tx.under_pure trivial
    exact (Tx.keeps_ofExcept _).skip fun denied =>
      Tx.under_bind (saveAction_holds actions _ _) fun _ _ => audited_holds audits keys
  · refine Tx.under_bind (legacyAuthorized_holds actions audits _ _) fun _ _ =>
      (Tx.keeps_check _ _).skip fun _ => (Tx.keeps_ofExcept _).skip fun envelope => ?_
    split
    · exact Tx.under_pure trivial
    · exact remembered_holds keys

theorem recordActionAttempt_holds {cmd : RecordActionAttempt}
    (kept : ∀ p ∈ (Command.recordActionAttempt ctx cmd).parts, Kept drawn I p)
    (new : ∀ n, drawn (env.uuid n)) : Holds I (recordActionAttempt env ctx cmd) := by
  have attempts := kept (.rows .attempt) (by simp [Command.parts])
  have actions := kept (.rows .action) (by simp [Command.parts])
  have audits := kept .audits (by simp [Command.parts])
  have keys := kept .keys (by simp [Command.parts])
  refine (Tx.keeps_ofExcept _).skip fun _ => (loadIdempotency_reads _).skip fun
    | some _ => reads_holds (find_keeps _ _ _ _ _ _)
    | none => ?_
  refine (find_keeps _ _ _ _ _ _).skip fun action => (Tx.keeps_check _ _).skip fun _ =>
    (Tx.keeps_ofExcept _).skip fun updated => ?_
  refine Tx.under_bind (Tx.under_ofExcept fun _ made => made) fun attempt made => ?_
  obtain ⟨_, rfl⟩ := guarded_eq_ok.mp made
  exact Tx.under_bind (addActionAttempt_holds attempts (new 0)) fun _ _ =>
    Tx.under_bind (saveAction_holds actions _ _) fun _ _ => audited_holds audits keys

theorem reconcileUnknownAction_holds {cmd : ReconcileUnknownAction}
    (kept : ∀ p ∈ (Command.reconcileUnknownAction ctx cmd).parts, Kept drawn I p)
    (new : ∀ n, drawn (env.uuid n)) : Holds I (reconcileUnknownAction env ctx cmd) := by
  have attempts := kept (.rows .attempt) (by simp [Command.parts])
  have actions := kept (.rows .action) (by simp [Command.parts])
  have audits := kept .audits (by simp [Command.parts])
  have keys := kept .keys (by simp [Command.parts])
  refine (Tx.keeps_ofExcept _).skip fun _ => (loadIdempotency_reads _).skip fun
    | some _ => reads_holds (find_keeps _ _ _ _ _ _)
    | none => ?_
  refine (find_keeps _ _ _ _ _ _).skip fun action => (Tx.keeps_check _ _).skip fun _ =>
    (Tx.keeps_ofExcept _).skip fun updated => ?_
  refine Tx.under_bind (Tx.under_ofExcept fun _ made => made) fun attempt made => ?_
  obtain ⟨_, rfl⟩ := guarded_eq_ok.mp made
  exact Tx.under_bind (addActionAttempt_holds attempts (new 0)) fun _ _ =>
    Tx.under_bind (saveAction_holds actions _ _) fun _ _ => audited_holds audits keys

theorem recordEvidence_holds {item : Evidence}
    (kept : ∀ p ∈ (Command.recordEvidence ctx item).parts, Kept drawn I p) :
    Holds I (recordEvidence env ctx item) := by
  have rows := kept (.rows .evidence) (by simp [Command.parts])
  have audits := kept .audits (by simp [Command.parts])
  have keys := kept .keys (by simp [Command.parts])
  refine (Tx.keeps_ofExcept _).skip fun _ => (Tx.keeps_check _ _).skip fun _ =>
    (Tx.keeps_check _ _).skip fun _ => (loadIdempotency_reads _).skip fun
    | some _ => reads_holds (find_keeps _ _ _ _ _ _)
    | none => ?_
  exact (find_keeps _ _ _ _ _ _).skip fun _ => (Tx.keeps_check _ _).skip fun _ =>
    Tx.under_bind (addEvidence_holds rows _) fun _ _ => audited_holds audits keys

theorem verifyOutcome_holds {runId : Uuid} {criterionId : String} {evidenceIds : List Uuid}
    (kept : ∀ p ∈ (Command.verifyOutcome ctx runId criterionId evidenceIds).parts, Kept drawn I p)
    (new : ∀ n, drawn (env.uuid n)) :
    Holds I (verifyOutcome ports env ctx runId criterionId evidenceIds) := by
  have rows := kept (.rows .outcome) (by simp [Command.parts])
  have audits := kept .audits (by simp [Command.parts])
  have keys := kept .keys (by simp [Command.parts])
  refine (Tx.keeps_ofExcept _).skip fun _ => (Tx.keeps_check _ _).skip fun _ =>
    (loadIdempotency_reads _).skip fun
    | some _ => reads_holds (find_keeps _ _ _ _ _ _)
    | none => ?_
  refine (find_keeps _ _ _ _ _ _).skip fun run => (find_keeps _ _ _ _ _ _).skip fun goal => ?_
  split
  · exact Tx.under_raise _
  · refine (Tx.keeps_mapM (fun _ => find_keeps _ _ _ _ _ _) _).skip fun items =>
      (Tx.keeps_check _ _).skip fun _ => (Tx.keeps_ofExcept _).skip fun decision => ?_
    refine Tx.under_bind (Tx.under_ofExcept fun _ made => made) fun outcome made => ?_
    obtain ⟨_, rfl⟩ := guarded_eq_ok.mp made
    exact Tx.under_bind (addOutcome_holds rows (new 0)) fun _ _ => audited_holds audits keys

theorem planCapture_holds (sagas : Kept drawn I .sagas) (cmd : CaptureAuthoritativeEvidence) :
    Holds I (planCapture ports env ctx cmd) := by
  refine (Tx.keeps_ofExcept _).skip fun _ => (Tx.keeps_check _ _).skip fun _ =>
    (loadIdempotency_reads _).skip fun
    | some _ => (find_keeps _ _ _ _ _ _).skip fun _ => Tx.under_pure trivial
    | none => (Tx.keeps_read _).skip fun
      | none => ?_
      | some pending => (Tx.keeps_check _ _).skip fun _ => Tx.under_ite (fun _ => ?_) fun _ => ?_
  · refine (find_keeps _ _ _ _ _ _).skip fun _ => (find_keeps _ _ _ _ _ _).skip fun _ =>
      (find_keeps _ _ _ _ _ _).skip fun _ => (Tx.keeps_check _ _).skip fun _ => ?_
    split
    · exact Tx.under_raise _
    · exact (Tx.keeps_ofExcept _).skip fun _ => (Tx.keeps_ofExcept _).skip fun _ =>
        (Tx.keeps_ofExcept _).skip fun _ =>
        Tx.under_bind (startEvidenceCapture_holds sagas _) fun _ _ => Tx.under_pure trivial
  · exact (find_keeps _ _ _ _ _ _).skip fun _ => Tx.under_pure trivial
  · exact Tx.under_pure trivial

theorem commitEvidenceCapture_holds (sagas : Kept drawn I .sagas)
    (rows : Kept drawn I (.rows .evidence)) (audits : Kept drawn I .audits)
    (keys : Kept drawn I .keys) (saga : EvidenceCaptureSaga) (stored : EvidenceArtifactDescriptor) :
    Holds I (commitEvidenceCapture env ctx saga stored) :=
  (Tx.keeps_ofExcept _).skip fun _ => (Tx.keeps_ofExcept _).skip fun _ =>
    Tx.under_bind (addEvidence_holds rows _) fun _ _ =>
    Tx.under_bind (completeEvidenceCapture_holds sagas _ _) fun _ _ => audited_holds audits keys

theorem captureAuthoritativeEvidence_holds {cmd : CaptureAuthoritativeEvidence}
    (kept : ∀ p ∈ (Command.captureEvidence ctx cmd).parts, Kept drawn I p) {s : Store}
    (inv : I s) : I (captureAuthoritativeEvidence ports env ctx cmd s).2 := by
  have sagas := kept .sagas (by simp [Command.parts])
  have rows := kept (.rows .evidence) (by simp [Command.parts])
  have audits := kept .audits (by simp [Command.parts])
  have keys := kept .keys (by simp [Command.parts])
  refine (planCapture_holds sagas cmd).andThen inv fun plan s' _ inv => ?_
  split
  · exact inv
  · exact inv
  · exact (commitEvidenceCapture_holds sagas rows audits keys _ _).commit inv

theorem requestDeletion_holds (deletions : Kept drawn I .deletions) (audits : Kept drawn I .audits)
    (cmd : RequestEvidenceDeletion) : Holds I (requestDeletion ports env ctx cmd) :=
  (Tx.keeps_ofExcept _).skip fun _ => (Tx.keeps_check _ _).skip fun _ =>
    (Tx.keeps_check _ _).skip fun _ => (find_keeps _ _ _ _ _ _).skip fun _ =>
    Tx.under_bind (recordEvidenceDeletion_holds deletions _) fun _ _ =>
    Tx.under_bind (recordAudit_holds audits _ _) fun _ _ => Tx.under_pure trivial

theorem finishDeletion_holds (deletions : Kept drawn I .deletions) (audits : Kept drawn I .audits)
    (evidence : Evidence) (final : EvidenceDeletionRecord) :
    Holds I (finishDeletion env ctx evidence final) :=
  Tx.under_bind (recordEvidenceDeletion_holds deletions _) fun _ _ =>
    Tx.under_bind (recordAudit_holds audits _ _) fun _ _ => Tx.under_pure trivial

theorem requestEvidenceDeletion_holds {cmd : RequestEvidenceDeletion}
    (kept : ∀ p ∈ (Command.deleteEvidence ctx cmd).parts, Kept drawn I p) {s : Store}
    (inv : I s) : I (requestEvidenceDeletion ports env ctx cmd s).2 := by
  have deletions := kept .deletions (by simp [Command.parts])
  have audits := kept .audits (by simp [Command.parts])
  refine (requestDeletion_holds deletions audits cmd).andThen inv fun asked s' _ inv => ?_
  obtain ⟨evidence, record⟩ := asked
  dsimp only
  split
  · exact inv
  · exact (finishDeletion_holds deletions audits evidence _).commit inv

/-- The parts the second transaction of `execute_governed_action` writes to. -/
def recordParts : List Part := [.rows .action, .rows .attempt, .rows .evidence, .audits, .keys]

theorem recordExecution_holds {facts : ExecutionFacts} (kept : ∀ p ∈ recordParts, Kept drawn I p)
    (new : drawn facts.attempt.attemptId) : Holds I (recordExecution env facts) := by
  have actions := kept (.rows .action) (by simp [recordParts])
  have attempts := kept (.rows .attempt) (by simp [recordParts])
  have rows := kept (.rows .evidence) (by simp [recordParts])
  have audits := kept .audits (by simp [recordParts])
  have keys := kept .keys (by simp [recordParts])
  exact (find_keeps _ _ _ _ _ _).skip fun _ => (Tx.keeps_check _ _).skip fun _ =>
    Tx.under_bind (saveAction_holds actions _ _) fun _ _ =>
    Tx.under_bind (addActionAttempt_holds attempts new) fun _ _ =>
    Tx.under_bind (addEvidence_holds rows _) fun _ _ =>
    Tx.under_bind (recordAudit_holds audits _ _) fun _ _ =>
    Tx.under_bind (recordAudit_holds audits _ _) fun _ _ => remember_holds keys _ _

end App

/-- A command keeps what the statements on its parts keep. -/
theorem Command.run_holds [Sha256] {I : Store → Prop} {drawn : Uuid → Prop} {ports : Ports}
    {env : Env} {s : Store} (command : Command) (kept : ∀ p ∈ command.parts, Store.Kept drawn I p)
    (new : ∀ n, drawn (env.uuid n)) (inv : I s) : I (command.run ports env s) := by
  cases command with
  | createGoal => exact (App.createGoal_holds kept new).commit inv
  | activateGoal => exact (App.activateGoal_holds kept).commit inv
  | requestRun => exact (App.requestRun_holds kept new).commit inv
  | prepareRunContext => exact (App.prepareRunContext_holds kept).commit inv
  | createValidatedPlan => exact (App.createValidatedPlan_holds kept new).commit inv
  | startTask => exact (App.startTask_holds kept).commit inv
  | completeTask => exact (App.completeTask_holds kept).commit inv
  | proposeAction => exact (App.proposeAction_holds kept new).commit inv
  | requestApproval => exact (App.requestApproval_holds kept new).commit inv
  | decideApproval => exact (App.decideApproval_holds kept).commit inv
  | authorizeAction => exact (App.authorizeActionAtExecutionTime_holds kept).commit inv
  | recordActionAttempt => exact (App.recordActionAttempt_holds kept new).commit inv
  | reconcileUnknownAction => exact (App.reconcileUnknownAction_holds kept new).commit inv
  | recordEvidence => exact (App.recordEvidence_holds kept).commit inv
  | captureEvidence => exact App.captureAuthoritativeEvidence_holds kept inv
  | deleteEvidence => exact App.requestEvidenceDeletion_holds kept inv
  | verifyOutcome => exact (App.verifyOutcome_holds kept new).commit inv
  | completeRun => exact (App.completeRun_holds kept).commit inv
  | satisfyOrFailGoal => exact (App.satisfyOrFailGoal_holds kept).commit inv
  | cancelRun ctx runId reason | failRun ctx runId reason | takeOverRun ctx runId reason =>
    have runs := kept (.rows .run) (by simp [Command.parts])
    have audits := kept .audits (by simp [Command.parts])
    have keys := kept .keys (by simp [Command.parts])
    exact ((Tx.keeps_ofExcept _).skip fun _ =>
      App.transitionRun_holds runs audits keys _ _ _ _).commit inv

/-! ## What every statement keeps -/

namespace Store

theorem table_setTable (s : Store) (i : Table) (d : Dict Uuid i.Row) :
    (s.setTable i d).table i = d := by
  cases i <;> rfl

theorem table_setTable_ne (s : Store) {i j : Table} (other : j ≠ i) (d : Dict Uuid i.Row) :
    (s.setTable i d).table j = s.table j := by
  cases i <;> cases j <;> first | rfl | exact absurd rfl other

theorem setTable_keys (s : Store) (i : Table) (d : Dict Uuid i.Row) :
    (s.setTable i d).idempotency = s.idempotency ∧
      (s.setTable i d).idempotencyDigests = s.idempotencyDigests := by
  cases i <;> exact ⟨rfl, rfl⟩

theorem setTable_audits (s : Store) (i : Table) (d : Dict Uuid i.Row) :
    (s.setTable i d).audits = s.audits := by
  cases i <;> rfl

/-- A result remembered under a key, with the digest of its request. -/
def Remembers (key : Uuid × String) (value : Uuid) (digest : String) (s : Store) : Prop :=
  s.idempotency.get? key = some value ∧ s.idempotencyDigests.get? key = some digest

/-- The record under an identifier is the tenant's. -/
def Owns (i : Table) (id tenantId : Uuid) (s : Store) : Prop :=
  ∃ row, (s.table i).get? id = some row ∧ i.tenantOf row = tenantId

/-- Another event can be chained to every event of the log. -/
def Audited (s : Store) : Prop :=
  ∀ e ∈ s.audits, 0 ≤ e.sequence.getD 0 ∧ ∀ d, e.eventDigest = some d → d.length = 64

variable [Sha256] {drawn : Uuid → Prop}

/-- Only the statements on keys change what is remembered. -/
theorem unkeyed_kept {bound : Dict (Uuid × String) Uuid} {digests : Dict (Uuid × String) String}
    {p : Part} (other : p ≠ .keys) :
    Kept drawn (fun s => s.idempotency = bound ∧ s.idempotencyDigests = digests) p := by
  constructor
  rintro s s' wrote ⟨same, same'⟩
  cases wrote with
  | add | put | save => simpa only [assign, setTable_keys] using ⟨same, same'⟩
  | saga | deletion | audit => exact ⟨same, same'⟩
  | remember => exact absurd rfl other

/-- What was remembered stays so. -/
theorem remembers_kept (key : Uuid × String) (value : Uuid) (digest : String) (p : Part) :
    Kept drawn (Remembers key value digest) p := by
  constructor
  rintro s s' wrote ⟨bound, digested⟩
  cases wrote with
  | add | put | save => simpa only [Remembers, assign, setTable_keys] using ⟨bound, digested⟩
  | saga | deletion | audit => exact ⟨bound, digested⟩
  | @remember key' value' digest' free =>
    simp only [Remembers, Dict.get?_set]
    by_cases same : key = key'
    · obtain ⟨rfl, agreed⟩ := free value (same ▸ bound)
      rw [← same, digested] at agreed
      simp [same, Option.some.inj agreed]
    · rw [if_neg same, if_neg same]
      exact ⟨bound, digested⟩

/-- What is stored under an identifier that is not drawn again stays the tenant's, except in
the tables whose identifiers the callers name. -/
theorem owns_kept {i : Table} (fresh : i.isDrawn = true) {id : Uuid} (tenantId : Uuid)
    (old : ¬ drawn id) (p : Part) : Kept drawn (Owns i id tenantId) p := by
  constructor
  rintro s s' wrote ⟨row, there, own⟩
  have others (s' : Store) (same : s'.table = s.table) : Owns i id tenantId s' :=
    ⟨row, same ▸ there, own⟩
  cases wrote with
  | @add j _ row' new =>
    by_cases here : i = j
    · subst here
      refine ⟨row, ?_, own⟩
      rw [assign, table_setTable, Dict.get?_set_ne]
      · exact there
      · rintro rfl
        exact old new
    · exact ⟨row, by rw [assign, table_setTable_ne s here]; exact there, own⟩
  | @put j named row' =>
    have here : i ≠ j := by
      rintro rfl
      rw [named] at fresh
      cases fresh
    exact ⟨row, by rw [assign, table_setTable_ne s here]; exact there, own⟩
  | @save j _ current row' found same =>
    by_cases here : i = j
    · subst here
      rw [Owns, assign, table_setTable, Dict.get?_set]
      split
      · rename_i this
        cases this
        cases there.symm.trans found
        exact ⟨row', rfl, same.symm.trans own⟩
      · exact ⟨row, there, own⟩
    · exact ⟨row, by rw [assign, table_setTable_ne s here]; exact there, own⟩
  | saga | deletion | audit | remember =>
    refine others _ ?_
    funext j
    cases j <;> rfl

/-- An attempt is never written again. -/
theorem attempt_kept {id : Uuid} (attempt : ActionAttempt) (old : ¬ drawn id) (p : Part) :
    Kept drawn (fun s => s.actionAttempts.get? id = some attempt) p := by
  constructor
  intro s s' wrote there
  cases wrote with
  | @add j _ row' new =>
    by_cases here : j = .attempt
    · subst here
      refine (Dict.get?_set_ne _ _ ?_).trans there
      rintro rfl
      exact old new
    · exact (congrArg (Dict.get? · id) (table_setTable_ne s (Ne.symm here) _)).trans there
  | @put j named row' =>
    have here : .attempt ≠ j := by
      rintro rfl
      cases named
    exact (congrArg (Dict.get? · id) (table_setTable_ne s here _)).trans there
  | @save j saved current row' =>
    have here : .attempt ≠ j := by
      rintro rfl
      cases saved
    exact (congrArg (Dict.get? · id) (table_setTable_ne s here _)).trans there
  | saga | deletion | audit | remember => exact there

theorem audited_kept (digests : ∀ text, (Sha256.hexdigest text).length = 64) (p : Part) :
    Kept drawn Audited p := by
  constructor
  intro s s' wrote audited
  cases wrote with
  | add | put | save => simpa only [Audited, assign, setTable_audits] using audited
  | saga | deletion | remember => exact audited
  | @audit event text sequence digest =>
    intro e there
    rcases List.mem_append.mp there with before | added
    · exact audited e before
    · cases List.mem_singleton.mp added
      refine ⟨Int.le_of_lt sequence, fun d written => ?_⟩
      cases digest.symm.trans written
      exact digests text

/-- Every record is stored under its own identifier. -/
def Keyed (s : Store) : Prop :=
  ∀ i id (row : i.Row), (s.table i).get? id = some row → i.idOf row = id

theorem keyed_kept (p : Part) : Kept drawn Keyed p := by
  constructor
  intro s s' wrote keyed
  have assigned (i : Table) (row : i.Row) : (s.assign i row).Keyed := by
    intro j id row' found
    by_cases here : j = i
    · subst here
      rw [assign, table_setTable, Dict.get?_set] at found
      split at found
      · rename_i this
        cases found
        exact this.symm
      · exact keyed j id row' found
    · rw [assign, table_setTable_ne s here] at found
      exact keyed j id row' found
  cases wrote with
  | @add i _ row => exact assigned i row
  | @put i _ row => exact assigned i row
  | @save i _ _ row => exact assigned i row
  | saga | deletion | audit | remember =>
    intro i id row found
    cases i <;> exact keyed _ id row found

/-- Each key is bound together with the digest of its request. -/
def Digested (s : Store) : Prop :=
  ∀ key, (s.idempotency.get? key).isSome = (s.idempotencyDigests.get? key).isSome

theorem digested_kept (p : Part) : Kept drawn Digested p := by
  constructor
  intro s s' wrote digested
  cases wrote with
  | add | put | save => simpa only [Digested, assign, setTable_keys] using digested
  | saga | deletion | audit => exact digested
  | remember =>
    intro key
    simp only [Dict.get?_set]
    split
    · rfl
    · exact digested key

/-- The log of an audited store accepts every event. -/
theorem recordAudit_returns {s : Store} (audited : s.Audited) (audit : AuditEvent) (now : Instant) :
    ∃ events, recordAudit audit now s = .ok ((), { s with audits := events }) := by
  have earlier : ∀ e, s.audits.reverse.find? (·.tenantId = audit.tenantId) = some e →
      e ∈ s.audits := fun e found => List.mem_reverse.mp (List.mem_of_find?_eq_some found)
  refine ⟨_, Tx.bind_ok.mpr ⟨_, _, Tx.read_ok.mpr rfl, Tx.bind_ok.mpr ⟨_, _,
    Tx.ofExcept_ok.mpr ⟨AuditEvent.chained_ok.mpr ⟨⟨?_, ?_⟩, rfl⟩, rfl⟩, Tx.write_ok.mpr rfl⟩⟩⟩
  · split
    · rename_i e found
      have := (audited e (earlier e found)).1
      omega
    · decide
  · split
    · rename_i d found
      obtain ⟨e, there, written⟩ := Option.bind_eq_some_iff.mp found
      split
      · rfl
      · exact (audited e (earlier e there)).2 d written
    · rfl

end Store

/-! ## Histories of a store -/

namespace Store

/-- Nothing is stored under the identifier. -/
def Unused (s : Store) (id : Uuid) : Prop := ∀ i, (s.table i).get? id = none

instance (s : Store) (id : Uuid) : Decidable (s.Unused id) :=
  decidable_of_iff (∀ i ∈ Table.all, (s.table i).get? id = none)
    ⟨fun each i => each i (by cases i <;> decide), fun each i _ => each i⟩

/-- A command of its own, or the recording transaction of a governed execution; what `uuid4`
draws is not in use. -/
inductive Next [Sha256] (s : Store) : Store → Prop
  | command (ports : Ports) {env : Env} (c : Command) (fresh : ∀ n, s.Unused (env.uuid n)) :
      Next s (c.run ports env s)
  | record (env : Env) {facts : ExecutionFacts} (fresh : s.Unused facts.attempt.attemptId) :
      Next s ((App.recordExecution env facts).commit s).2

/-- The stores that any commands reach. -/
abbrev Later [Sha256] : Store → Store → Prop := Relation.ReflTransGen Next

variable [Sha256] {s s' : Store}

/-- What every statement keeps, whatever was drawn for it, holds on. -/
theorem Next.holds {I : Store → Prop} (next : Next s s') (inv : I s)
    (kept : ∀ {drawn : Uuid → Prop}, (∀ id, drawn id → s.Unused id) → ∀ p, Kept drawn I p) :
    I s' := by
  cases next with
  | @command ports env c fresh =>
    have each (p : Part) : Kept (fun id => ∃ n, env.uuid n = id) I p := by
      refine kept ?_ p
      rintro id ⟨n, rfl⟩
      exact fresh n
    exact c.run_holds (fun p _ => each p) (fun n => ⟨n, rfl⟩) inv
  | @record env facts fresh =>
    have each (p : Part) : Kept (fun id => id = facts.attempt.attemptId) I p := by
      refine kept ?_ p
      rintro id rfl
      exact fresh
    exact (App.recordExecution_holds (fun p _ => each p) rfl).commit inv

theorem Later.holds {I : Store → Prop} (later : Later s s') (inv : I s)
    (kept : ∀ {drawn : Uuid → Prop} p, Kept drawn I p) : I s' := by
  induction later with
  | refl => exact inv
  | tail _ next ih => exact next.holds ih fun _ p => kept p

/-- A session of commands, each with the collaborators it sees and what it draws. -/
def after (s : Store) : List (Ports × Env × Command) → Store
  | [] => s
  | (ports, env, c) :: rest => (c.run ports env s).after rest

/-- A session whose calls draw identifiers that are not in use when they are drawn. -/
def Draws (s : Store) : List (Ports × Env × Command) → Prop
  | [] => True
  | (ports, env, c) :: rest => (∀ n, s.Unused (env.uuid n)) ∧ (c.run ports env s).Draws rest

theorem later_after {session : List (Ports × Env × Command)} (draws : s.Draws session) :
    Later s (s.after session) := by
  induction session generalizing s with
  | nil => exact .refl
  | cons step rest ih => exact .head (.command step.1 step.2.2 draws.1) (ih draws.2)

theorem Later.remembers {key : Uuid × String} {value : Uuid} {digest : String}
    (later : Later s s') (bound : s.Remembers key value digest) : s'.Remembers key value digest :=
  later.holds bound fun p => remembers_kept key value digest p

omit [Sha256] in
theorem Owns.used {i : Table} {id tenantId : Uuid} (owns : s.Owns i id tenantId) :
    ¬ s.Unused id := by
  obtain ⟨row, there, _⟩ := owns
  intro unused
  rw [unused i] at there
  cases there

theorem Later.owns {i : Table} (fresh : i.isDrawn = true) {id tenantId : Uuid}
    (later : Later s s') (owns : s.Owns i id tenantId) : s'.Owns i id tenantId := by
  induction later with
  | refl => exact owns
  | tail _ next ih =>
    exact next.holds ih fun unused p => owns_kept fresh tenantId (fun new => ih.used (unused _ new)) p

theorem Later.attempt {id : Uuid} {attempt : ActionAttempt} (later : Later s s')
    (there : s.actionAttempts.get? id = some attempt) :
    s'.actionAttempts.get? id = some attempt := by
  induction later with
  | refl => exact there
  | @tail s₁ _ _ next ih =>
    refine next.holds ih fun unused p => attempt_kept attempt (fun new => ?_) p
    have none : s₁.actionAttempts.get? id = none := unused id new .attempt
    rw [ih] at none
    cases none

theorem Later.keyed (later : Later s s') (keyed : s.Keyed) : s'.Keyed :=
  later.holds keyed fun p => keyed_kept p

theorem Later.digested (later : Later s s') (digested : s.Digested) : s'.Digested :=
  later.holds digested fun p => digested_kept p

theorem Later.audited (digests : ∀ text, (Sha256.hexdigest text).length = 64)
    (later : Later s s') (audited : s.Audited) : s'.Audited :=
  later.holds audited fun p => audited_kept digests p

end Store

namespace Sample
open Store

theorem hexdigest_length (text : String) : (sha256.hexdigest text).length = 64 := by
  change "373e0712c83cffe15ff427b60e788b549f82496fe5fd5391f7921832b04c6b20".length = 64
  decide +kernel

/-- The sample ports of an application that still authorizes by itself. -/
def legacyPorts : Ports := { ports with legacyAuthorizationEnabled := true }

/-- A succeeded Action without a gateway: read, authorized and reported by the operator. -/
def acted : List (Uuid × Command) := preparation.take 6 ++ [
  (64, .proposeAction (context "mail-1" mail_named)
    { proposal with operation := "read", riskLevel := .l1Read }),
  (80, .authorizeAction (context "allow-1" (by decide))
    ⟨64, "p1", true, "allowed", none, "mailer", "none", "budget", 900, "trace"⟩),
  (84, .recordActionAttempt (context "attempt-1" (by decide))
    ⟨64, 81, .succeeded, "receipt-1", "mailer", none⟩)]

/-- The capture of what the Action did. -/
def capture : CaptureAuthoritativeEvidence :=
  { runId := 32, actionId := 64, criterionId := "delivered", source := "mailserver" }

theorem env_unused {s : Store} {id : Uuid} (draws : s.Unused id ∧ s.Unused (id + 1)) :
    ∀ n, s.Unused ((env id).uuid n)
  | 0 => draws.1
  | _ + 1 => draws.2

/-- The calls as the application sees them, each with the first identifier it draws. -/
def session (steps : List (Uuid × Command)) : List (Ports × Env × Command) :=
  steps.map fun step => (legacyPorts, env step.1, step.2)

section
variable [Sha256]

def drawsUnused : List (Uuid × Command) → Store → Bool
  | [], _ => true
  | (id, c) :: rest, s =>
    s.Unused id && s.Unused (id + 1) && drawsUnused rest (c.run legacyPorts (env id) s)

theorem later_session {steps : List (Uuid × Command)} {s : Store}
    (draws : drawsUnused steps s = true) : Later s (s.after (session steps)) := by
  apply later_after
  induction steps generalizing s with
  | nil => trivial
  | cons step rest ih =>
    simp only [drawsUnused, Bool.and_eq_true, decide_eq_true_eq] at draws
    exact ⟨env_unused draws.1, ih draws.2⟩

/-- The store after a session, as `drawsUnused` walks through it: one evaluation serves both. -/
def replay : List (Uuid × Command) → Store → Store
  | [], s => s
  | (id, c) :: rest, s => replay rest (c.run legacyPorts (env id) s)

theorem after_session (steps : List (Uuid × Command)) (s : Store) :
    s.after (session steps) = replay steps s := by
  induction steps generalizing s with
  | nil => rfl
  | cons step rest ih => exact ih _

end

end Sample

end Autonoesis
