import Autonoesis.Application.Writes
import Autonoesis.Base.Logged

/-!
# What the commands leave in the audit log

Every command appends events in the name of its caller, and changes a record only in a
transaction that appends one. Only the sagas of captures and the idempotency keys change
without an event.
-/

namespace Autonoesis
open Base

/-- The event names the caller, and the correlation and idempotency key of its call. -/
structure AuditEvent.By (ctx : CommandContext) (e : AuditEvent) : Prop where
  tenant : e.tenantId = ctx.tenantId
  actor : e.actorId = ctx.identity.actorId
  principal : e.principalId = ctx.identity.principalId
  correlation : e.correlationId = ctx.correlationId
  key : ("idempotency_key", .str ctx.idempotencyKey) ∈ e.details

/-- The records of every table and the tombstones of deleted evidence. -/
def Store.recorded (s : Store) : (∀ i : Table, Dict Uuid i.Row) × Dict Uuid EvidenceDeletionRecord :=
  (s.table, s.evidenceDeletions)

/-- What a caller did to the store is in its log. -/
abbrev Store.Accounts (ctx : CommandContext) (s s' : Store) : Prop :=
  Base.Accounts (·.audits) Store.recorded (AuditEvent.By ctx) s s'

/-- The transaction appends that many events of the caller. -/
abbrev Store.Logs {α : Type} (ctx : CommandContext) (least : Nat) (x : StoreTx α) : Prop :=
  Tx.Logs (·.audits) (AuditEvent.By ctx) least x

abbrev Store.Accountable {α : Type} (ctx : CommandContext) (x : StoreTx α) : Prop :=
  Tx.Accounted (·.audits) Store.recorded (AuditEvent.By ctx) x

namespace Store

variable [Sha256] {drawn : Uuid → Prop} {ctx : CommandContext} {α : Type} {x : StoreTx α}

/-! ## The statements -/

/-- Only the statement on the log changes it. -/
theorem unlogged_kept {log : List AuditEvent} {p : Part} (other : p ≠ .audits) :
    Kept (fun _ => True) (fun s => s.audits = log) p := by
  constructor
  intro s s' wrote same
  cases wrote with
  | add | put | save => simpa only [assign, setTable_audits] using same
  | saga | deletion | remember => exact same
  | audit => exact absurd rfl other

/-- A part of a command that uses the other statements only. -/
theorem beside_log (holds : ∀ {I : Store → Prop},
    (∀ p, p ≠ .audits → Kept (fun _ => True) I p) → Holds I x) : Tx.Keeps (·.audits) x :=
  ⟨fun ran => ((holds fun _ => unlogged_kept).run rfl ran).1⟩

/-- A saga or a key is not a record. -/
theorem unrecorded_kept {log : List AuditEvent} {p : Part} (aside : p = .sagas ∨ p = .keys)
    {v : (∀ i : Table, Dict Uuid i.Row) × Dict Uuid EvidenceDeletionRecord} :
    Kept (fun _ => True) (fun s => s.audits = log ∧ s.recorded = v) p := by
  constructor
  rintro s s' wrote ⟨same, records⟩
  have others (s' : Store) (table : s'.table = s.table)
      (deletions : s'.evidenceDeletions = s.evidenceDeletions) : s'.recorded = v := by
    rw [recorded, table, deletions]
    exact records
  cases wrote with
  | saga | remember =>
    refine ⟨same, others _ ?_ rfl⟩
    funext i
    cases i <;> rfl
  | add | put | save | deletion | audit => simp at aside

theorem beside_records (holds : ∀ {I : Store → Prop}, Kept (fun _ => True) I .sagas →
    Kept (fun _ => True) I .keys → Holds I x) : Accountable ctx x := by
  constructor
  intro s a s' ran
  have kept := (holds (unrecorded_kept (.inl rfl)) (unrecorded_kept (.inr rfl))).run ⟨rfl, rfl⟩ ran
  exact .of_eq kept.1.1 kept.1.2

/-- An event of the caller is one when it is chained. -/
theorem recordAudit_logs (eventType : String) (item : AuditItem) (eventId : Uuid) (now : Instant) :
    Logs ctx 1 (recordAudit (ctx.audit eventType item eventId) now) := by
  constructor
  intro s u s' ran
  simp only [recordAudit, Tx.bind_ok, Tx.read_ok, Tx.ofExcept_ok, Tx.write_ok] at ran
  obtain ⟨_, _, ⟨⟩, _, _, ⟨made, rfl⟩, rfl⟩ := ran
  obtain ⟨_, chained⟩ := AuditEvent.chained_ok.mp made
  refine ⟨[_], rfl, fun e there => ?_, Nat.le_refl 1⟩
  rw [List.mem_singleton.mp there, chained]
  exact ⟨rfl, rfl, rfl, rfl, by simp [CommandContext.audit]⟩

theorem saveGoal_logs (row : GoalContract) (n : Int) (eventType : String) (item : AuditItem)
    (eventId : Uuid) (now : Instant) :
    Logs ctx 1 (saveGoal row n (ctx.audit eventType item eventId) now) := by
  refine (find_keeps _ _ _ _ _ _).ahead fun _ => (Tx.keeps_check _ _).ahead fun _ =>
    (Tx.keeps_write ?_).ahead fun _ => recordAudit_logs _ _ _ _
  exact fun _ => rfl

theorem saveRun_logs (row : Run) (n : Int) (eventType : String) (item : AuditItem)
    (eventId : Uuid) (now : Instant) :
    Logs ctx 1 (saveRun row n (ctx.audit eventType item eventId) now) := by
  refine (find_keeps _ _ _ _ _ _).ahead fun _ => (Tx.keeps_check _ _).ahead fun _ =>
    (Tx.keeps_write ?_).ahead fun _ => recordAudit_logs _ _ _ _
  exact fun _ => rfl

theorem addGoal_logs (row : GoalContract) (eventType : String) (item : AuditItem)
    (eventId : Uuid) (now : Instant) :
    Logs ctx 1 (addGoal row (ctx.audit eventType item eventId) now) := by
  refine (Tx.keeps_write ?_).ahead fun _ => recordAudit_logs _ _ _ _
  exact fun _ => rfl

theorem addRun_logs (row : Run) (eventType : String) (item : AuditItem) (eventId : Uuid)
    (now : Instant) : Logs ctx 1 (addRun row (ctx.audit eventType item eventId) now) := by
  refine (Tx.keeps_write ?_).ahead fun _ => recordAudit_logs _ _ _ _
  exact fun _ => rfl

end Store

/-! ## The commands -/

namespace App
open Store

variable [Sha256] {ctx : CommandContext} {env : Env} {ports : Ports}

/-- The end of a command that changed nothing. -/
theorem remembered_accounted {α : Type} {key : String} {value : Uuid} {a : α} :
    Accountable ctx (do remember ctx key value; return a) :=
  beside_records fun _ keys => remembered_holds keys

theorem remembered_logs {α : Type} {key : String} {value : Uuid} {a : α} :
    Logs ctx 0 (do remember ctx key value; return a) :=
  (beside_log fun kept => remembered_holds (kept .keys (by simp))).logs

/-- The end of a command that changed something. -/
theorem audited_logs {α : Type} {eventType key : String} {item : AuditItem}
    {eventId value : Uuid} {now : Instant} {a : α} :
    Logs ctx 1 (do
      audit ctx eventType item eventId now
      remember ctx key value
      return a) :=
  (recordAudit_logs _ _ _ _).append fun _ => remembered_logs

theorem createGoal_accounted {cmd : CreateGoal} : Accountable ctx (createGoal ports env ctx cmd) := by
  refine (Tx.keeps_ofExcept _).before fun _ => (loadIdempotency_reads _).before fun
    | some _ => (find_keeps _ _ _ _ _ _).accounted
    | none => ?_
  refine (Tx.keeps_ofExcept _).before fun _ => (Tx.keeps_ofExcept _).before fun _ =>
    (Tx.keeps_ofExcept _).before fun _ => (Tx.keeps_ofExcept _).before fun _ =>
    (Tx.keeps_ofExcept _).before fun _ => (Tx.keeps_ofExcept _).before fun goal => ?_
  exact ((addGoal_logs _ _ _ _ _).append fun _ => remembered_logs).accounted (by decide)

theorem activateGoal_accounted {goalId : Uuid} {reason : String} :
    Accountable ctx (activateGoal env ctx goalId reason) := by
  refine (Tx.keeps_ofExcept _).before fun _ => (cachedGoal_reads _ _).before fun goal =>
    Tx.accounted_ite remembered_accounted ((Tx.keeps_ofExcept _).before fun active => ?_)
  exact ((saveGoal_logs _ _ _ _ _ _).append fun _ => remembered_logs).accounted (by decide)

theorem requestRun_accounted {goalId : Uuid} :
    Accountable ctx (requestRun ports env ctx goalId) := by
  refine (Tx.keeps_ofExcept _).before fun _ => (loadIdempotency_reads _).before fun
    | some _ => (find_keeps _ _ _ _ _ _).accounted
    | none => ?_
  refine (find_keeps _ _ _ _ _ _).before fun _ => (Tx.keeps_read _).before fun _ =>
    (Tx.keeps_ofExcept _).before fun _ => (Tx.keeps_ofExcept _).before fun _ =>
    (Tx.keeps_ofExcept _).before fun _ => (Tx.keeps_ofExcept _).before fun _ =>
    (Tx.keeps_ofExcept _).before fun run => ?_
  exact ((addRun_logs _ _ _ _ _).append fun _ => remembered_logs).accounted (by decide)

theorem prepareRunContext_accounted {cmd : PrepareRunContext} :
    Accountable ctx (prepareRunContext ports env ctx cmd) := by
  refine (Tx.keeps_ofExcept _).before fun _ => (loadIdempotency_reads _).before fun
    | some _ => (getContextSnapshot_keeps _ _ _).accounted
    | none => ?_
  refine (find_keeps _ _ _ _ _ _).before fun run =>
    (Tx.keeps_mapM (fun _ => find_keeps _ _ _ _ _ _) _).before fun memories =>
    (Tx.keeps_ofExcept _).before fun snapshot => Tx.Logs.accounted ?_ Nat.zero_lt_one
  exact (beside_log fun kept => addContextSnapshot_holds (kept _ (by simp)) _).ahead fun _ =>
    audited_logs

theorem createValidatedPlan_accounted {cmd : CreateValidatedPlan} :
    Accountable ctx (createValidatedPlan env ctx cmd) := by
  refine (Tx.keeps_ofExcept _).before fun _ => (loadIdempotency_reads _).before fun
    | some _ => (getPlan_keeps _ _ _).accounted
    | none => ?_
  refine (find_keeps _ _ _ _ _ _).before fun run => (Tx.keeps_check _ _).before fun _ =>
    (getContextSnapshot_keeps _ _ _).before fun snapshot => (Tx.keeps_ofExcept _).before fun tasks =>
    (Tx.keeps_ofExcept _).before fun plan => (Tx.keeps_ofExcept _).before fun bound =>
    Tx.Logs.accounted ?_ Nat.zero_lt_one
  refine (beside_log fun kept => addPlan_holds (kept _ (by simp)) (kept _ (by simp)) trivial).ahead
    fun _ => (saveRun_logs _ _ _ _ _ _).append fun _ => remembered_logs

theorem transitionRun_accounted {runId : Uuid} {target : RunStatus} {reason operation : String} :
    Accountable ctx (transitionRun env ctx runId target reason operation) := by
  refine (Tx.keeps_check _ _).before fun _ => (cachedRun_reads _ _).before fun run =>
    Tx.accounted_ite remembered_accounted ((Tx.keeps_ofExcept _).before fun updated => ?_)
  exact ((saveRun_logs _ _ _ _ _ _).append fun _ => remembered_logs).accounted (by decide)

theorem completeRun_accounted {runId : Uuid} : Accountable ctx (completeRun env ctx runId) := by
  refine (Tx.keeps_ofExcept _).before fun _ => (cachedRun_reads _ _).before fun run =>
    Tx.accounted_ite remembered_accounted ?_
  refine (Tx.keeps_check _ _).before fun _ => (find_keeps _ _ _ _ _ _).before fun _ =>
    (Tx.keeps_read _).before fun _ => (Tx.keeps_read _).before fun _ =>
    (Tx.keeps_read _).before fun _ => (Tx.keeps_check _ _).before fun _ =>
    Tx.accounted_ite remembered_accounted ((Tx.keeps_ofExcept _).before fun updated => ?_)
  exact ((saveRun_logs _ _ _ _ _ _).append fun _ => remembered_logs).accounted (by decide)

theorem satisfyOrFailGoal_accounted {goalId : Uuid} {satisfied : Bool} {reason : String} :
    Accountable ctx (satisfyOrFailGoal env ctx goalId satisfied reason) := by
  have decides (goal : GoalContract) (runs : List Run) :
      Tx.Keeps (fun s => s) (finishTarget goal ctx.tenantId satisfied runs) :=
    ⟨fun ran => (finishTarget_ok ran).1⟩
  refine (Tx.keeps_ofExcept _).before fun _ => (Tx.keeps_check _ _).before fun _ =>
    (cachedGoal_reads _ _).before fun goal => Tx.accounted_ite remembered_accounted ?_
  refine (Tx.keeps_read _).before fun runs => (decides goal runs).before fun target =>
    (Tx.keeps_ofExcept _).before fun updated => ?_
  exact ((saveGoal_logs _ _ _ _ _ _).append fun _ => remembered_logs).accounted (by decide)

theorem startTask_accounted {taskId : Uuid} : Accountable ctx (startTask env ctx taskId) := by
  refine (Tx.keeps_ofExcept _).before fun _ => (cachedTask_reads _ _).before fun task =>
    Tx.accounted_ite remembered_accounted ?_
  refine (Tx.keeps_mapM (fun _ => find_keeps _ _ _ _ _ _) _).before fun _ =>
    (Tx.keeps_check _ _).before fun _ => (Tx.keeps_ofExcept _).before fun started =>
    Tx.Logs.accounted ?_ Nat.zero_lt_one
  exact (beside_log fun kept => saveTask_holds (kept _ (by simp)) _ _).ahead fun _ => audited_logs

theorem completeTask_accounted {taskId : Uuid} {succeeded : Bool} {reason : String} :
    Accountable ctx (completeTask env ctx taskId succeeded reason) := by
  refine (Tx.keeps_ofExcept _).before fun _ => (Tx.keeps_check _ _).before fun _ =>
    (cachedTask_reads _ _).before fun task => Tx.accounted_ite remembered_accounted ?_
  refine (Tx.keeps_check _ _).before fun _ => (Tx.keeps_ofExcept _).before fun completed =>
    Tx.Logs.accounted ?_ Nat.zero_lt_one
  exact (beside_log fun kept => saveTask_holds (kept _ (by simp)) _ _).ahead fun _ => audited_logs

theorem proposeAction_accounted {cmd : ProposeAction} :
    Accountable ctx (proposeAction env ctx cmd) := by
  refine (Tx.keeps_ofExcept _).before fun _ => (loadIdempotency_reads _).before fun
    | some _ => (find_keeps _ _ _ _ _ _).accounted
    | none => ?_
  refine (find_keeps _ _ _ _ _ _).before fun _ => (Tx.keeps_check _ _).before fun _ =>
    (find_keeps _ _ _ _ _ _).before fun _ => (Tx.keeps_check _ _).before fun _ =>
    (Tx.keeps_ofExcept _).before fun _ => (Tx.keeps_ofExcept _).before fun action =>
    Tx.Logs.accounted ?_ Nat.zero_lt_one
  exact (beside_log fun kept => addAction_holds (kept _ (by simp)) trivial).ahead fun _ =>
    audited_logs

theorem requestApproval_accounted {cmd : RequestApproval} :
    Accountable ctx (requestApproval env ctx cmd) := by
  refine (Tx.keeps_ofExcept _).before fun _ => (loadIdempotency_reads _).before fun
    | some _ => (getApproval_keeps _ _ _).accounted
    | none => ?_
  refine (find_keeps _ _ _ _ _ _).before fun action => (Tx.keeps_check _ _).before fun _ =>
    (Tx.keeps_ofExcept _).before fun approval => (Tx.keeps_ofExcept _).before fun awaiting =>
    Tx.Logs.accounted ?_ Nat.zero_lt_one
  exact (beside_log fun kept => addApproval_holds (kept _ (by simp)) trivial).ahead fun _ =>
    (beside_log fun kept => saveAction_holds (kept _ (by simp)) _ _).ahead fun _ => audited_logs

theorem decideApproval_accounted {cmd : DecideApproval} :
    Accountable ctx (decideApproval env ctx cmd) := by
  refine (loadIdempotency_reads _).before fun
    | some _ => (getApproval_keeps _ _ _).accounted
    | none => ?_
  refine (getApproval_keeps _ _ _).before fun approval => (Tx.keeps_ofExcept _).before fun _ =>
    (Tx.keeps_check _ _).before fun _ => (Tx.keeps_ofExcept _).before fun decided =>
    Tx.Logs.accounted ?_ Nat.zero_lt_one
  have denied : Tx.Keeps (·.audits) (denyByApproval env ctx approval decided) :=
    beside_log fun kept => (find_keeps _ _ _ _ _ _).skip fun action =>
      (Tx.keeps_ofExcept _).skip fun denied => saveAction_holds (kept _ (by simp)) _ _
  refine (beside_log fun kept => saveApproval_holds (kept _ (by simp)) _ _).ahead fun _ =>
    Tx.logs_ite (denied.ahead fun _ => audited_logs) ((Tx.keeps_pure _).ahead fun _ => audited_logs)

/-- An Action that is already authorized is authorized again without an event. -/
theorem legacyAuthorized_accounted {policyVersion : String} {action : Action} :
    Accountable ctx (legacyAuthorized env ctx policyVersion action) := by
  refine Tx.accounted_ite ((Tx.keeps_ofExcept _).before fun authorized => ?_)
    (Tx.keeps_pure _).accounted
  refine Tx.Logs.accounted ((beside_log fun kept => saveAction_holds (kept _ (by simp)) _ _).ahead
    fun _ => (recordAudit_logs _ _ _ _).append fun _ => (Tx.keeps_pure _).logs) Nat.zero_lt_one

theorem authorizeActionAtExecutionTime_accounted {cmd : AuthorizeActionAtExecutionTime} :
    Accountable ctx (authorizeActionAtExecutionTime ports env ctx cmd) := by
  refine (Tx.keeps_check _ _).before fun _ => (Tx.keeps_ofExcept _).before fun _ =>
    (Tx.keeps_check _ _).before fun _ => (loadIdempotency_reads _).before fun cached =>
    (find_keeps _ _ _ _ _ _).before fun action => (suppliedApproval_keeps _ _).before fun approval => ?_
  split
  · refine Tx.accounted_ite ((Tx.keeps_ofExcept _).before fun denied => ?_)
      (Tx.keeps_pure _).accounted
    refine Tx.Logs.accounted ?_ Nat.zero_lt_one
    exact (beside_log fun kept => saveAction_holds (kept _ (by simp)) _ _).ahead fun _ =>
      audited_logs
  · refine Tx.accounted_bind legacyAuthorized_accounted fun current =>
      (Tx.keeps_check _ _).before fun _ => (Tx.keeps_ofExcept _).before fun envelope => ?_
    split
    · exact (Tx.keeps_pure _).accounted
    · exact remembered_accounted

theorem recordActionAttempt_accounted {cmd : RecordActionAttempt} :
    Accountable ctx (recordActionAttempt env ctx cmd) := by
  refine (Tx.keeps_ofExcept _).before fun _ => (loadIdempotency_reads _).before fun
    | some _ => (find_keeps _ _ _ _ _ _).accounted
    | none => ?_
  refine (find_keeps _ _ _ _ _ _).before fun action => (Tx.keeps_check _ _).before fun _ =>
    (Tx.keeps_ofExcept _).before fun updated => (Tx.keeps_ofExcept _).before fun attempt =>
    Tx.Logs.accounted ?_ Nat.zero_lt_one
  exact (beside_log fun kept => addActionAttempt_holds (kept _ (by simp)) trivial).ahead fun _ =>
    (beside_log fun kept => saveAction_holds (kept _ (by simp)) _ _).ahead fun _ => audited_logs

theorem reconcileUnknownAction_accounted {cmd : ReconcileUnknownAction} :
    Accountable ctx (reconcileUnknownAction env ctx cmd) := by
  refine (Tx.keeps_ofExcept _).before fun _ => (loadIdempotency_reads _).before fun
    | some _ => (find_keeps _ _ _ _ _ _).accounted
    | none => ?_
  refine (find_keeps _ _ _ _ _ _).before fun action => (Tx.keeps_check _ _).before fun _ =>
    (Tx.keeps_ofExcept _).before fun updated => (Tx.keeps_ofExcept _).before fun attempt =>
    Tx.Logs.accounted ?_ Nat.zero_lt_one
  exact (beside_log fun kept => addActionAttempt_holds (kept _ (by simp)) trivial).ahead fun _ =>
    (beside_log fun kept => saveAction_holds (kept _ (by simp)) _ _).ahead fun _ => audited_logs

theorem recordEvidence_accounted {item : Evidence} :
    Accountable ctx (recordEvidence env ctx item) := by
  refine (Tx.keeps_ofExcept _).before fun _ => (Tx.keeps_check _ _).before fun _ =>
    (Tx.keeps_check _ _).before fun _ => (loadIdempotency_reads _).before fun
    | some _ => (find_keeps _ _ _ _ _ _).accounted
    | none => ?_
  refine (find_keeps _ _ _ _ _ _).before fun _ => (Tx.keeps_check _ _).before fun _ =>
    Tx.Logs.accounted ?_ Nat.zero_lt_one
  exact (beside_log fun kept => addEvidence_holds (kept _ (by simp)) _).ahead fun _ => audited_logs

theorem verifyOutcome_accounted {runId : Uuid} {criterionId : String} {evidenceIds : List Uuid} :
    Accountable ctx (verifyOutcome ports env ctx runId criterionId evidenceIds) := by
  refine (Tx.keeps_ofExcept _).before fun _ => (Tx.keeps_check _ _).before fun _ =>
    (loadIdempotency_reads _).before fun
    | some _ => (find_keeps _ _ _ _ _ _).accounted
    | none => ?_
  refine (find_keeps _ _ _ _ _ _).before fun run => (find_keeps _ _ _ _ _ _).before fun goal => ?_
  split
  · exact (Tx.keeps_raise _).accounted
  · refine (Tx.keeps_mapM (fun _ => find_keeps _ _ _ _ _ _) _).before fun items =>
      (Tx.keeps_check _ _).before fun _ => (Tx.keeps_ofExcept _).before fun decision =>
      (Tx.keeps_ofExcept _).before fun outcome => Tx.Logs.accounted ?_ Nat.zero_lt_one
    exact (beside_log fun kept => addOutcome_holds (kept _ (by simp)) trivial).ahead fun _ =>
      audited_logs

/-! ## Captures and deletions -/

theorem commitEvidenceCapture_accounted {saga : EvidenceCaptureSaga}
    {stored : EvidenceArtifactDescriptor} :
    Accountable ctx (commitEvidenceCapture env ctx saga stored) := by
  refine (Tx.keeps_ofExcept _).before fun _ => (Tx.keeps_ofExcept _).before fun _ =>
    Tx.Logs.accounted ?_ Nat.zero_lt_one
  exact (beside_log fun kept => addEvidence_holds (kept _ (by simp)) _).ahead fun _ =>
    (beside_log fun kept => completeEvidenceCapture_holds (kept _ (by simp)) _ _).ahead fun _ =>
    audited_logs

theorem captureAuthoritativeEvidence_accounts (cmd : CaptureAuthoritativeEvidence) (s : Store) :
    Accounts ctx s (captureAuthoritativeEvidence ports env ctx cmd s).2 := by
  have planned : Accountable ctx (planCapture ports env ctx cmd) :=
    beside_records fun sagas _ => planCapture_holds sagas cmd
  refine planned.andThen (fun plan s' => ?_) s
  split
  · exact .refl s'
  · exact .refl s'
  · exact commitEvidenceCapture_accounted.commit s'

/-- Both transactions of a deletion record a tombstone and its event. -/
theorem tombstone_accounted {α : Type} {record : EvidenceDeletionRecord} {eventType : String}
    {item : AuditItem} {eventId : Uuid} {now : Instant} {a : α} :
    Accountable ctx (do
      recordEvidenceDeletion record
      audit ctx eventType item eventId now
      return a) :=
  Tx.Logs.accounted ((beside_log fun kept => recordEvidenceDeletion_holds (kept _ (by simp)) _).ahead
    fun _ => (recordAudit_logs _ _ _ _).append fun _ => (Tx.keeps_pure _).logs) Nat.zero_lt_one

theorem requestEvidenceDeletion_accounts (cmd : RequestEvidenceDeletion) (s : Store) :
    Accounts ctx s (requestEvidenceDeletion ports env ctx cmd s).2 := by
  have requested : Accountable ctx (requestDeletion ports env ctx cmd) :=
    (Tx.keeps_ofExcept _).before fun _ => (Tx.keeps_check _ _).before fun _ =>
      (Tx.keeps_check _ _).before fun _ => (find_keeps _ _ _ _ _ _).before fun _ =>
      tombstone_accounted
  refine requested.andThen (fun asked s' => ?_) s
  obtain ⟨evidence, record⟩ := asked
  dsimp only
  split
  · exact .refl s'
  · exact (tombstone_accounted : Accountable ctx _).commit s'

/-- The second transaction of `execute_governed_action` is its caller's. -/
theorem recordExecution_accounted {facts : ExecutionFacts} :
    Accountable facts.context (recordExecution env facts) := by
  refine (find_keeps _ _ _ _ _ _).before fun _ => (Tx.keeps_check _ _).before fun _ =>
    Tx.Logs.accounted (n := 1 + (1 + 0)) ?_ (by decide)
  exact (beside_log fun kept => saveAction_holds (kept _ (by simp)) _ _).ahead fun _ =>
    (beside_log fun kept => addActionAttempt_holds (kept _ (by simp)) trivial).ahead fun _ =>
    (beside_log fun kept => addEvidence_holds (kept _ (by simp)) _).ahead fun _ =>
    (recordAudit_logs _ _ _ _).append fun _ => (recordAudit_logs _ _ _ _).append fun _ =>
    (beside_log fun kept => remember_holds (kept .keys (by simp)) _ _).logs

end App

/-! ## Histories -/

/-- Who a command is run for. -/
def Command.caller : Command → CommandContext
  | createGoal ctx .. | activateGoal ctx .. | requestRun ctx .. | prepareRunContext ctx ..
  | createValidatedPlan ctx .. | startTask ctx .. | completeTask ctx .. | proposeAction ctx ..
  | requestApproval ctx .. | decideApproval ctx .. | authorizeAction ctx ..
  | recordActionAttempt ctx .. | reconcileUnknownAction ctx .. | recordEvidence ctx ..
  | captureEvidence ctx .. | deleteEvidence ctx .. | verifyOutcome ctx .. | completeRun ctx ..
  | satisfyOrFailGoal ctx .. | cancelRun ctx .. | failRun ctx .. | takeOverRun ctx .. => ctx

section

variable [Sha256]

theorem Command.run_accounts {ports : Ports} {env : Env} (c : Command) (s : Store) :
    s.Accounts c.caller (c.run ports env s) := by
  cases c with
  | createGoal => exact App.createGoal_accounted.commit s
  | activateGoal => exact App.activateGoal_accounted.commit s
  | requestRun => exact App.requestRun_accounted.commit s
  | prepareRunContext => exact App.prepareRunContext_accounted.commit s
  | createValidatedPlan => exact App.createValidatedPlan_accounted.commit s
  | startTask => exact App.startTask_accounted.commit s
  | completeTask => exact App.completeTask_accounted.commit s
  | proposeAction => exact App.proposeAction_accounted.commit s
  | requestApproval => exact App.requestApproval_accounted.commit s
  | decideApproval => exact App.decideApproval_accounted.commit s
  | authorizeAction => exact App.authorizeActionAtExecutionTime_accounted.commit s
  | recordActionAttempt => exact App.recordActionAttempt_accounted.commit s
  | reconcileUnknownAction => exact App.reconcileUnknownAction_accounted.commit s
  | recordEvidence => exact App.recordEvidence_accounted.commit s
  | captureEvidence ctx cmd => exact App.captureAuthoritativeEvidence_accounts cmd s
  | deleteEvidence ctx cmd => exact App.requestEvidenceDeletion_accounts cmd s
  | verifyOutcome => exact App.verifyOutcome_accounted.commit s
  | completeRun => exact App.completeRun_accounted.commit s
  | satisfyOrFailGoal => exact App.satisfyOrFailGoal_accounted.commit s
  | cancelRun | failRun | takeOverRun =>
    exact ((Tx.keeps_ofExcept _).before fun _ => App.transitionRun_accounted).commit s

namespace Store

/-- The transactions that these callers run, one after the other, lead from the first store to
the second: their commands, and the recordings of their governed executions. -/
inductive Ran : List CommandContext → Store → Store → Prop
  | done (s : Store) : Ran [] s s
  | command (ports : Ports) (env : Env) (c : Command) {s s' : Store}
      {callers : List CommandContext} (rest : Ran callers (c.run ports env s) s') :
      Ran (c.caller :: callers) s s'
  | record (env : Env) (facts : ExecutionFacts) {s s' : Store} {callers : List CommandContext}
      (rest : Ran callers ((App.recordExecution env facts).commit s).2 s') :
      Ran (facts.context :: callers) s s'

/-- Each caller's part of the log, in the order of the calls, and no change without an entry. -/
def Told (callers : List CommandContext) (s s' : Store) : Prop :=
  ∃ logs : List (List AuditEvent), List.Forall₂ (fun ctx log => ∀ e ∈ log, e.By ctx) callers logs ∧
    s'.audits = s.audits ++ logs.flatten ∧ (logs.flatten = [] → s'.recorded = s.recorded)

omit [Sha256] in
theorem Accounts.told {ctx : CommandContext} {callers : List CommandContext} {s s₁ s' : Store}
    (accounts : s.Accounts ctx s₁) (told : Told callers s₁ s') : Told (ctx :: callers) s s' := by
  obtain ⟨⟨log, grown, own⟩, silent⟩ := accounts
  obtain ⟨logs, parts, all, quiet⟩ := told
  refine ⟨log :: logs, .cons own parts, ?_, fun none => ?_⟩
  · rw [List.flatten_cons, all, grown, List.append_assoc]
  · rw [List.flatten_cons, List.append_eq_nil_iff] at none
    rw [quiet none.2, silent (by rw [grown, none.1, List.append_nil])]

/-- Whatever commands run, the log only grows, by the events of each caller in the order of the
calls; and where it is the same after them, so is every record of every table. -/
theorem changes_told {callers : List CommandContext} {s s' : Store} (ran : Ran callers s s') :
    Told callers s s' := by
  induction ran with
  | done s => exact ⟨[], .nil, by simp, fun _ => rfl⟩
  | command ports env c _ ih => exact (c.run_accounts _).told ih
  | record env facts _ ih => exact Accounts.told (App.recordExecution_accounted.commit _) ih

theorem ran_after (session : List (Ports × Env × Command)) (s : Store) :
    Ran (session.map fun step => step.2.2.caller) s (s.after session) := by
  induction session generalizing s with
  | nil => exact .done s
  | cons step rest ih => exact .command step.1 step.2.1 step.2.2 (ih _)

end Store

end

namespace Sample
open Store

attribute [local instance] sha256

theorem changes_told_acted : Told ((session acted).map fun step => step.2.2.caller) {}
    (Store.after {} (session acted)) :=
  changes_told (ran_after (session acted) {})

end Sample

end Autonoesis
