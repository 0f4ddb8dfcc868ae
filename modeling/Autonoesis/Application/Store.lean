import Autonoesis.Application.Platform
import Autonoesis.Application.Verification
import Autonoesis.Base.Dict
import Autonoesis.Base.Tx
import Autonoesis.Domain.Manifest

/-! `InMemoryPlatformStore`, as far as the execution commands and the pack registry use it.
A method is a transaction; one that raises inside `transaction()` leaves the store as it was. -/

namespace Autonoesis
open Base

/-- A tenant, a pack and a version. -/
abbrev PackKey := Uuid × String × String

/-- The dictionary of flags of an installed pack. -/
structure PackState where
  enabled : Option Bool := none
  revoked : Option Bool := none

structure Store where
  goals : Dict Uuid GoalContract := .empty
  runs : Dict Uuid Run := .empty
  contextSnapshots : Dict Uuid ContextSnapshot := .empty
  memories : Dict Uuid MemoryRecord := .empty
  plans : Dict Uuid Plan := .empty
  tasks : Dict Uuid Task := .empty
  actions : Dict Uuid Action := .empty
  actionAttempts : Dict Uuid ActionAttempt := .empty
  tenantGoalTypes : Dict (Uuid × String) GoalTypeManifest := .empty
  tenantPacks : Dict PackKey CapabilityPackManifest := .empty
  packStates : Dict PackKey PackState := .empty
  packChannels : Dict (Uuid × String) String := .empty
  approvals : Dict Uuid ApprovalRequest := .empty
  evidence : Dict Uuid Evidence := .empty
  evidenceCaptureSagas : Dict Uuid EvidenceCaptureSaga := .empty
  evidenceDeletions : Dict Uuid EvidenceDeletionRecord := .empty
  outcomes : Dict Uuid Outcome := .empty
  audits : List AuditEvent := []
  idempotency : Dict (Uuid × String) Uuid := .empty
  idempotencyDigests : Dict (Uuid × String) String := .empty

abbrev StoreTx := Tx Store Exc

namespace Store

/-- A keyed read that checks the tenant: every `get_*` method with its own table and text. -/
def find {α : Type} (table : Store → Dict Uuid α) (tenantOf : α → Uuid) (missing : String)
    (tenantId id : Uuid) : StoreTx α := do
  match ← Tx.read (fun s => (table s).get? id) with
  | none => Tx.raise (.recordNotFound missing)
  | some item =>
    Tx.check (tenantId ≠ tenantOf item)
      (.tenantBoundaryViolation "record belongs to a different tenant")
    return item

theorem find_ok {α : Type} {table : Store → Dict Uuid α} {tenantOf : α → Uuid}
    {missing : String} {tenantId id : Uuid} {s : Store} {r : α × Store} :
    find table tenantOf missing tenantId id s = .ok r ↔
      (table s).get? id = some r.1 ∧ tenantOf r.1 = tenantId ∧ r.2 = s := by
  obtain ⟨a, s'⟩ := r
  simp only [find, Tx.bind_ok, Tx.read_ok]
  constructor
  · rintro ⟨found, s₁, same, h⟩
    cases same
    cases hf : (table s).get? id with
    | none =>
      rw [hf] at h
      cases h
    | some item =>
      simp only [hf, Tx.bind_ok, Tx.check_ok, Tx.pure_ok] at h
      obtain ⟨_, _, ⟨tenant, rfl⟩, done⟩ := h
      cases done
      simp only [ne_eq, decide_eq_false_iff_not, not_not] at tenant
      exact ⟨rfl, tenant.symm, rfl⟩
  · rintro ⟨found, tenant, same⟩
    refine ⟨some a, s, by rw [found], ?_⟩
    simp only [Tx.bind_ok, Tx.check_ok, Tx.pure_ok]
    exact ⟨(), s, ⟨by simp [tenant], rfl⟩, by rw [← same]⟩

theorem find_keeps {α : Type} (table : Store → Dict Uuid α) (tenantOf : α → Uuid)
    (missing : String) (tenantId id : Uuid) {γ : Type} (f : Store → γ) :
    Tx.Keeps f (find table tenantOf missing tenantId id) :=
  ⟨fun h => congrArg f (find_ok.mp h).2.2⟩

section
variable [Sha256]

/-- `record_audit`, with its clock reading. -/
def recordAudit (audit : AuditEvent) (now : Instant) : StoreTx Unit := do
  let previous ← Tx.read fun s => s.audits.reverse.find? (·.tenantId = audit.tenantId)
  let sequence := match previous with
    | some p => p.sequence.getD 0 + 1
    | none => 1
  let previousDigest := match previous.bind (·.eventDigest) with
    | some digest => if digest = "" then genesisDigest else digest
    | none => genesisDigest
  let chained ← Tx.ofExcept (audit.chained sequence previousDigest now)
  Tx.write fun s => { s with audits := s.audits ++ [chained] }

end

/-! ## Goals and Runs -/

def getGoal (tenantId goalId : Uuid) : StoreTx GoalContract :=
  find (·.goals) (·.tenantId) ("goal " ++ goalId.str ++ " was not found") tenantId goalId

def getRun (tenantId runId : Uuid) : StoreTx Run :=
  find (·.runs) (·.tenantId) ("run " ++ runId.str ++ " was not found") tenantId runId

def listRuns (tenantId : Uuid) (goalId : Option Uuid) : StoreTx (List Run) :=
  Tx.read fun s => s.runs.values.filter fun r => r.tenantId = tenantId && goalId.all (r.goalId = ·)

section
variable [Sha256]

def addGoal (goal : GoalContract) (audit : AuditEvent) (now : Instant) : StoreTx Unit := do
  Tx.write fun s => { s with goals := s.goals.set goal.goalId goal }
  recordAudit audit now

def saveGoal (goal : GoalContract) (expectedVersion : Int) (audit : AuditEvent) (now : Instant) :
    StoreTx Unit := do
  let current ← getGoal goal.tenantId goal.goalId
  Tx.check (current.version ≠ expectedVersion)
    (.concurrencyConflict "goal optimistic version changed")
  Tx.write fun s => { s with goals := s.goals.set goal.goalId goal }
  recordAudit audit now

def addRun (run : Run) (audit : AuditEvent) (now : Instant) : StoreTx Unit := do
  Tx.write fun s => { s with runs := s.runs.set run.runId run }
  recordAudit audit now

def saveRun (run : Run) (expectedVersion : Int) (audit : AuditEvent) (now : Instant) :
    StoreTx Unit := do
  let current ← getRun run.tenantId run.runId
  Tx.check (current.optimisticVersion ≠ expectedVersion)
    (.concurrencyConflict "run optimistic version changed")
  Tx.write fun s => { s with runs := s.runs.set run.runId run }
  recordAudit audit now

end

/-! ## Context, plans and tasks -/

def addContextSnapshot (snapshot : ContextSnapshot) : StoreTx Unit := do
  let items ← Tx.read (·.contextSnapshots.values)
  Tx.check (items.any fun i => i.tenantId = snapshot.tenantId && i.runId = snapshot.runId)
    (.concurrencyConflict "run context snapshot already exists")
  Tx.write fun s =>
    { s with contextSnapshots := s.contextSnapshots.set snapshot.snapshotId snapshot }

def getContextSnapshot (tenantId runId : Uuid) : StoreTx ContextSnapshot := do
  match ← Tx.read fun s =>
      s.contextSnapshots.values.find? fun i => i.tenantId = tenantId && i.runId = runId with
  | some item => return item
  | none => Tx.raise (.recordNotFound ("context for run " ++ runId.str ++ " was not found"))

def getMemory (tenantId memoryId : Uuid) : StoreTx MemoryRecord :=
  find (·.memories) (·.tenantId) ("memory " ++ memoryId.str ++ " was not found") tenantId memoryId

def addPlan (plan : Plan) : StoreTx Unit :=
  Tx.write fun s => { s with
    plans := s.plans.set plan.planId plan
    tasks := plan.tasks.foldl (fun d t => d.set t.taskId t) s.tasks }

/-- `get_plan`: the plan with its tasks as they are stored now. -/
def getPlan (tenantId planId : Uuid) : StoreTx Plan := do
  let plan ← find (·.plans) (·.tenantId) ("plan " ++ planId.str ++ " was not found") tenantId planId
  let tasks ← plan.tasks.mapM fun t => do
    match ← Tx.read fun s => s.tasks.get? t.taskId with
    | some task => return task
    | none => Tx.raise (.keyError t.taskId.str)
  Tx.ofExcept (Plan.make { plan.toPlanFields with tasks := tasks })

def getTask (tenantId taskId : Uuid) : StoreTx Task :=
  find (·.tasks) (·.tenantId) ("task " ++ taskId.str ++ " was not found") tenantId taskId

def listTasks (tenantId runId : Uuid) : StoreTx (List Task) :=
  Tx.read fun s => s.tasks.values.filter fun t => t.tenantId = tenantId && t.runId = runId

def saveTask (task : Task) (expectedVersion : Int) : StoreTx Unit := do
  let current ← getTask task.tenantId task.taskId
  Tx.check (current.optimisticVersion ≠ expectedVersion)
    (.concurrencyConflict "task optimistic version changed")
  Tx.write fun s => { s with tasks := s.tasks.set task.taskId task }

/-! ## Actions, attempts and approvals -/

def addAction (action : Action) : StoreTx Unit := do
  let items ← Tx.read (·.actions.values)
  Tx.check (items.any fun i =>
      i.tenantId = action.tenantId && i.idempotencyKey = action.idempotencyKey)
    (.concurrencyConflict "action idempotency key already exists")
  Tx.write fun s => { s with actions := s.actions.set action.actionId action }

def getAction (tenantId actionId : Uuid) : StoreTx Action :=
  find (·.actions) (·.tenantId) ("action " ++ actionId.str ++ " was not found") tenantId actionId

def saveAction (action : Action) (expectedVersion : Int) : StoreTx Unit := do
  let current ← getAction action.tenantId action.actionId
  Tx.check (current.optimisticVersion ≠ expectedVersion)
    (.concurrencyConflict "action optimistic version changed")
  Tx.write fun s => { s with actions := s.actions.set action.actionId action }

def listActions (tenantId runId : Uuid) : StoreTx (List Action) :=
  Tx.read fun s => s.actions.values.filter fun a => a.tenantId = tenantId && a.runId = runId

def addActionAttempt (attempt : ActionAttempt) : StoreTx Unit := do
  let items ← Tx.read (·.actionAttempts.values)
  Tx.check (items.any fun i => i.tenantId = attempt.tenantId &&
      (i.invocationId = attempt.invocationId && i.status = attempt.status ||
        i.idempotencyKey = attempt.idempotencyKey))
    (.concurrencyConflict "action attempt already recorded")
  Tx.write fun s => { s with actionAttempts := s.actionAttempts.set attempt.attemptId attempt }

def listActionAttempts (tenantId actionId : Uuid) : StoreTx (List ActionAttempt) :=
  Tx.read fun s =>
    s.actionAttempts.values.filter fun a => a.tenantId = tenantId && a.actionId = actionId

/-- `get_approval`, which answers another tenant's approval as missing. -/
def getApproval (tenantId approvalId : Uuid) : StoreTx ApprovalRequest := do
  match ← Tx.read (·.approvals.get? approvalId) with
  | none => Tx.raise (.recordNotFound "approval was not found")
  | some item =>
    Tx.check (item.tenantId ≠ tenantId) (.recordNotFound "approval was not found")
    return item

def addApproval (approval : ApprovalRequest) : StoreTx Unit :=
  Tx.write fun s => { s with approvals := s.approvals.set approval.approvalId approval }

def saveApproval (approval : ApprovalRequest) (expectedVersion : Int) : StoreTx Unit := do
  let current ← getApproval approval.tenantId approval.approvalId
  Tx.check (current.optimisticVersion ≠ expectedVersion)
    (.concurrencyConflict "approval optimistic version changed")
  Tx.write fun s => { s with approvals := s.approvals.set approval.approvalId approval }

/-! ## Evidence and outcomes -/

def addEvidence (item : Evidence) : StoreTx Unit := do
  let action ← getAction item.tenantId item.actionId
  Tx.check (action.runId ≠ item.runId)
    (.valueError "evidence must bind the authoritative Action and Run")
  Tx.write fun s => { s with evidence := s.evidence.set item.evidenceId item }

def getEvidence (tenantId evidenceId : Uuid) : StoreTx Evidence :=
  find (·.evidence) (·.tenantId) ("evidence " ++ evidenceId.str ++ " was not found") tenantId
    evidenceId

def listEvidence (tenantId : Uuid) : StoreTx (List Evidence) :=
  Tx.read fun s => s.evidence.values.filter fun e => e.tenantId = tenantId

def startEvidenceCapture (saga : EvidenceCaptureSaga) : StoreTx Unit := do
  match ← Tx.read (·.evidenceCaptureSagas.get? saga.evidenceId) with
  | some existing =>
    Tx.check (existing ≠ saga)
      (.concurrencyConflict "Evidence capture id was reused with different immutable content")
  | none =>
    Tx.write fun s =>
      { s with evidenceCaptureSagas := s.evidenceCaptureSagas.set saga.evidenceId saga }

def getEvidenceCapture (tenantId evidenceId : Uuid) : StoreTx EvidenceCaptureSaga :=
  find (·.evidenceCaptureSagas) (·.tenantId) "Evidence capture Saga was not found" tenantId
    evidenceId

def completeEvidenceCapture (tenantId evidenceId : Uuid) : StoreTx Unit := do
  let item ← getEvidenceCapture tenantId evidenceId
  Tx.check (item.status ≠ .pending && item.status ≠ .committed)
    (.concurrencyConflict "Evidence capture Saga is not pending")
  Tx.write fun s => { s with
    evidenceCaptureSagas := s.evidenceCaptureSagas.set evidenceId { item with status := .committed } }

def recordEvidenceDeletion (record : EvidenceDeletionRecord) : StoreTx Unit :=
  Tx.write fun s => { s with evidenceDeletions := s.evidenceDeletions.set record.evidenceId record }

def addOutcome (item : Outcome) : StoreTx Unit := do
  item.evidence.forM fun submitted => do
    let persisted ← getEvidence item.tenantId submitted.evidenceId
    Tx.check (persisted ≠ submitted)
      (.valueError "outcome evidence must exactly match the authoritative persisted record")
  Tx.write fun s => { s with outcomes := s.outcomes.set item.outcomeId item }

def getOutcome (tenantId outcomeId : Uuid) : StoreTx Outcome :=
  find (·.outcomes) (·.tenantId) ("outcome " ++ outcomeId.str ++ " was not found") tenantId
    outcomeId

def listOutcomes (tenantId runId : Uuid) : StoreTx (List Outcome) :=
  Tx.read fun s => s.outcomes.values.filter fun o => o.tenantId = tenantId && o.runId = runId

/-! ## Idempotency -/

def getIdempotency (tenantId : Uuid) (key requestDigest : String) : StoreTx (Option Uuid) := do
  let accepted ← Tx.read (·.idempotencyDigests.get? (tenantId, key))
  Tx.check (accepted.any (· ≠ requestDigest))
    (.concurrencyConflict "idempotency key was reused with a different request")
  Tx.read (·.idempotency.get? (tenantId, key))

def putIdempotency (tenantId : Uuid) (key : String) (externalId : Uuid) (requestDigest : String) :
    StoreTx Unit := do
  let current ← Tx.read (·.idempotency.get? (tenantId, key))
  let digest ← Tx.read (·.idempotencyDigests.get? (tenantId, key))
  Tx.check (current.any fun c => c ≠ externalId || digest ≠ some requestDigest)
    (.concurrencyConflict "idempotency key is already bound to a different result")
  Tx.write fun s => { s with
    idempotency := s.idempotency.set (tenantId, key) externalId
    idempotencyDigests := s.idempotencyDigests.set (tenantId, key) requestDigest }

end Store

end Autonoesis
