import Autonoesis.Persistence.Facts
import Autonoesis.Persistence.Outcomes

/-!
# Approvals in the SQL repository

`request_approval` and `decide_approval` over a repository, and what the two leave in the tables
and in the log of the SQL repository: beside the audit of the command there is a fact of the
repository for every row it writes.
-/

namespace Autonoesis.Approvals
open Base AuditLog

/-- What the two commands call on their repository. -/
structure Repository where
  getApproval : Uuid → Uuid → StoreTx ApprovalRequest
  getAction : Uuid → Uuid → StoreTx Action
  addApproval : ApprovalRequest → StoreTx Unit
  saveApproval : ApprovalRequest → Int → StoreTx Unit
  saveAction : Action → Int → StoreTx Unit
  putIdempotency : Uuid → String → Uuid → String → StoreTx Unit

section
variable [Sha256]

def requestApproval (repository : Repository) (env : Env) (ctx : CommandContext)
    (cmd : RequestApproval) : StoreTx ApprovalRequest := do
  App.requireAny ctx App.operators
  let key := ctx.key "request_approval"
  match ← App.loadIdempotency ctx key with
  | some cached => repository.getApproval ctx.tenantId cached
  | none =>
    let action ← repository.getAction ctx.tenantId cmd.actionId
    Tx.check (action.status ≠ .proposed)
      (.valueError "approval can only be requested for a proposed Action")
    let approval ← Tx.ofExcept
      (ApprovalRequest.make (App.approvalFor cmd action (env.uuid 0) (env.now 0)))
    let awaiting ← Tx.ofExcept (action.transitionTo .awaitingApproval ctx.identity.actorId
      "approval required before execution" (env.now 1))
    repository.addApproval approval
    repository.saveAction awaiting action.optimisticVersion
    App.audit ctx "approval.requested" approval.auditItem (env.uuid 1) (env.now 2)
    repository.putIdempotency ctx.tenantId key approval.approvalId ctx.requestDigest
    return approval

/-- The Action a rejected or expired approval denies, with the approval's status as reason. -/
def denyByApproval (repository : Repository) (env : Env) (ctx : CommandContext)
    (approval decided : ApprovalRequest) : StoreTx Unit := do
  let action ← repository.getAction ctx.tenantId approval.actionId
  let denied ← Tx.ofExcept (action.transitionTo .denied ctx.identity.actorId
    ("approval " ++ decided.status.value) (env.now 1))
  repository.saveAction denied action.optimisticVersion

def decideApproval (repository : Repository) (env : Env) (ctx : CommandContext)
    (cmd : DecideApproval) : StoreTx ApprovalRequest := do
  let key := ctx.key "decide_approval"
  match ← App.loadIdempotency ctx key with
  | some cached => repository.getApproval ctx.tenantId cached
  | none =>
    let approval ← repository.getApproval ctx.tenantId cmd.approvalId
    App.requireAny ctx [approval.requiredRole, "tenant_admin", "platform_admin"]
    Tx.check (approval.actionDigest ≠ cmd.actionDigest)
      (.permissionError "approval digest does not match the persisted request")
    let decided ← Tx.ofExcept (approval.decide ctx.identity.actorId cmd.approved cmd.reason
      (some ctx.identity.principalId) (env.now 0))
    repository.saveApproval decided approval.optimisticVersion
    if decided.status = .rejected || decided.status = .expired then
      denyByApproval repository env ctx approval decided
    else pure ()
    App.audit ctx ("approval." ++ decided.status.value) decided.auditItem (env.uuid 0) (env.now 2)
    repository.putIdempotency ctx.tenantId key decided.approvalId ctx.requestDigest
    return decided

def inMemory : Repository := ⟨Store.getApproval, Store.getAction, Store.addApproval,
  Store.saveApproval, Store.saveAction, Store.putIdempotency⟩

/-- Over the in-memory store they are the commands of the application. -/
theorem inMemory_commands (env : Env) (ctx : CommandContext) :
    requestApproval inMemory env ctx = App.requestApproval env ctx ∧
      decideApproval inMemory env ctx = App.decideApproval env ctx :=
  ⟨rfl, rfl⟩

end

namespace Sql

/-- `_get_row`, read as the row's aggregate. -/
def getRow (i : Table) (name : String) (tenantId id : Uuid) : StoreTx i.Row := do
  let row ← Tx.read fun s => ((s.table i).get? id).filter fun row => i.tenantOf row = tenantId
  match row with
  | none => Tx.raise (.recordNotFound (name ++ " " ++ id.str ++ " was not found"))
  | some row => return row

def getApproval (tenantId id : Uuid) : StoreTx ApprovalRequest :=
  getRow .approval "approvals" tenantId id

def getAction (tenantId id : Uuid) : StoreTx Action := getRow .action "actions" tenantId id

section
variable [Sha256]

/-- Whether the approval binds the Action as it is stored. -/
def binds (approval : ApprovalRequest) (action : Action) : Bool :=
  action.runId = approval.runId && action.canonicalDigest = approval.actionDigest &&
    action.toolVersion = approval.toolVersion && action.operation = approval.operation &&
    action.resourceScope = approval.resourceScope &&
    action.parameterDigest = approval.argumentDigest

/-- `add_approval`, with its own reading of the clock and the identifiers of the fact. -/
def addApproval (env : Env) (approval : ApprovalRequest) : StoreTx Unit := do
  let action ← getAction approval.tenantId approval.actionId
  Tx.check (!binds approval action)
    (.valueError "approval must exactly bind the authoritative persisted Action")
  let stored ← Tx.read (·.approvals)
  Tx.check (stored.get? approval.approvalId).isSome (.integrityError "id")
  let runs ← Tx.read (·.runs)
  Tx.check (!(runs.get? approval.runId).any (·.tenantId = approval.tenantId))
    (.integrityError "run_id")
  Tx.write fun s => { s with approvals := s.approvals.set approval.approvalId approval }
  Store.recordAudit (fact approval.tenantId "approval.requested" "approval" approval.approvalId
    approval.optimisticVersion (env.uuid 2) (env.uuid 3)) (env.now 3)

/-- `_save_versioned`, with its own reading of the clock and the identifiers of the fact. -/
def saveVersioned (i : Table) (objectType : String) (versionOf : i.Row → Int) (now : Instant)
    (correlationId eventId : Uuid) (row : i.Row) (expectedVersion : Int) : StoreTx Unit := do
  let stored ← Tx.read fun s => (s.table i).get? (i.idOf row)
  Tx.check (!stored.any fun old => i.tenantOf old = i.tenantOf row && versionOf old = expectedVersion)
    (.concurrencyConflict (objectType ++ " optimistic version changed"))
  Tx.write fun s => s.assign i row
  Store.recordAudit (fact (i.tenantOf row) (objectType ++ ".updated") objectType (i.idOf row)
    (versionOf row) correlationId eventId) now

def saveApproval (env : Env) : ApprovalRequest → Int → StoreTx Unit :=
  saveVersioned .approval "approval" (fun a : ApprovalRequest => a.optimisticVersion) (env.now 3)
    (env.uuid 2) (env.uuid 3)

def saveAction (env : Env) : Action → Int → StoreTx Unit :=
  saveVersioned .action "action" (fun a : Action => a.optimisticVersion) (env.now 4)
    (env.uuid 4) (env.uuid 5)

def repository (env : Env) : Repository := ⟨getApproval, getAction, addApproval env,
  saveApproval env, saveAction env, Outcomes.Sql.putIdempotency⟩

end

end Sql

/-! ## What the commands leave -/

section
variable [Sha256] {s s' s'' : Store}

/-- The log has grown by these events, numbered on. -/
structure Adds (s s' : Store) (more : List AuditEvent) : Prop where
  audits : s'.audits = s.audits ++ more
  numbered : ∀ t, Numbered t s.audits → Numbered t s'.audits

omit [Sha256] in
theorem Adds.trans {more more' : List AuditEvent} (first : Adds s s' more)
    (second : Adds s' s'' more') : Adds s s'' (more ++ more') where
  audits := by rw [second.audits, first.audits, List.append_assoc]
  numbered t numbered := second.numbered t (first.numbered t numbered)

/-- The Actions are the same but for one at most, which has kept its identifier and its Run. -/
def Resaved (actions actions' : Dict Uuid Action) : Prop :=
  actions' = actions ∨ ∃ id old new, actions.get? id = some old ∧ new.actionId = old.actionId ∧
    new.runId = old.runId ∧ actions' = actions.set old.actionId new

/-- What an accepted request leaves. -/
structure Requested (env : Env) (ctx : CommandContext) (cmd : RequestApproval) (s s' : Store)
    (action : Action) (approval : ApprovalRequest) : Prop where
  aim : s.actions.get? cmd.actionId = some action
  owned : action.tenantId = ctx.tenantId
  made : approval.toApprovalFields = App.approvalFor cmd action (env.uuid 0) (env.now 0)
  unused : s.approvals.get? (env.uuid 0) = none
  approvals : s'.approvals = s.approvals.set (env.uuid 0) approval
  actions : Resaved s.actions s'.actions
  audits : ∃ first saved event, Adds s s' [first, saved, event] ∧
    Logs (fact approval.tenantId "approval.requested" "approval" approval.approvalId
      approval.optimisticVersion (env.uuid 2) (env.uuid 3)) (env.now 3) first ∧
    saved.eventType = "action.updated" ∧
    Logs (ctx.audit "approval.requested" approval.auditItem (env.uuid 1)) (env.now 2) event

/-- What an accepted decision leaves. -/
structure Decided (env : Env) (ctx : CommandContext) (cmd : DecideApproval) (s s' : Store)
    (approval decided : ApprovalRequest) : Prop where
  there : s.approvals.get? cmd.approvalId = some approval
  owned : approval.tenantId = ctx.tenantId
  pending : approval.status = .pending
  same : decided.approvalId = approval.approvalId ∧ decided.tenantId = approval.tenantId ∧
    decided.runId = approval.runId
  approvals : s'.approvals = s.approvals.set approval.approvalId decided
  actions : Resaved s.actions s'.actions
  audits : ∃ saved event, Adds s s' (saved ++ [event]) ∧
    (∀ row ∈ saved, row.eventType = "approval.updated" ∨ row.eventType = "action.updated") ∧
    Logs (ctx.audit ("approval." ++ decided.status.value) decided.auditItem (env.uuid 0))
      (env.now 2) event

omit [Sha256] in
theorem getRow_ok {i : Table} {name : String} {tenantId id : Uuid} {r : i.Row × Store} :
    Sql.getRow i name tenantId id s = .ok r ↔
      (s.table i).get? id = some r.1 ∧ i.tenantOf r.1 = tenantId ∧ r.2 = s := by
  obtain ⟨row, s'⟩ := r
  simp only [Sql.getRow, Tx.bind_ok, Tx.read_ok]
  constructor
  · rintro ⟨found, _, ⟨rfl, rfl⟩, ran⟩
    cases known : ((s.table i).get? id).filter fun row => i.tenantOf row = tenantId with
    | none =>
      rw [known] at ran
      cases ran
    | some item =>
      rw [known] at ran
      cases ran
      obtain ⟨there, own⟩ := Option.filter_eq_some_iff.mp known
      exact ⟨there, by simpa using own, rfl⟩
  · rintro ⟨there, own, rfl⟩
    refine ⟨_, _, rfl, ?_⟩
    rw [there, Option.filter_some, if_pos (by simpa using own)]
    rfl

omit [Sha256] in
theorem getAction_ok {tenantId id : Uuid} {r : Action × Store} :
    Sql.getAction tenantId id s = .ok r ↔
      s.actions.get? id = some r.1 ∧ r.1.tenantId = tenantId ∧ r.2 = s :=
  getRow_ok (i := .action)

omit [Sha256] in
theorem getApproval_ok {tenantId id : Uuid} {r : ApprovalRequest × Store} :
    Sql.getApproval tenantId id s = .ok r ↔
      s.approvals.get? id = some r.1 ∧ r.1.tenantId = tenantId ∧ r.2 = s :=
  getRow_ok (i := .approval)

theorem recordAudit_adds {e : AuditEvent} {now : Instant} {r : Unit × Store}
    (ran : Store.recordAudit e now s = .ok r) : ∃ row, Logs e now row ∧ Adds s r.2 [row] ∧
      { r.2 with audits := [] } = { s with audits := [] } := by
  obtain ⟨row, logs, numbered, same⟩ := recordAudit_appends ran
  rw [same]
  exact ⟨row, logs, ⟨rfl, numbered⟩, rfl⟩

theorem saveVersioned_ok {i : Table} {objectType : String} {versionOf : i.Row → Int}
    {now : Instant} {correlationId eventId : Uuid} {row : i.Row} {expectedVersion : Int}
    {r : Unit × Store}
    (ran : Sql.saveVersioned i objectType versionOf now correlationId eventId row expectedVersion s =
      .ok r) :
    ∃ saved, saved.eventType = objectType ++ ".updated" ∧ Adds s r.2 [saved] ∧
      { r.2 with audits := [] } = { s.assign i row with audits := [] } := by
  simp only [Sql.saveVersioned, Tx.bind_ok, Tx.read_ok, Tx.check_ok, Tx.write_ok] at ran
  obtain ⟨_, _, ⟨rfl, rfl⟩, _, _, ⟨_, rfl⟩, _, s₁, wrote, logged⟩ := ran
  subst wrote
  obtain ⟨saved, logs, adds, same⟩ := recordAudit_adds logged
  have kept (s : Store) : (s.assign i row).audits = s.audits := by cases i <;> rfl
  refine ⟨saved, logs.eventType, ⟨?_, ?_⟩, same⟩
  · rw [adds.audits, kept]
  · intro t numbered
    exact adds.numbered t (by rwa [kept])

theorem addApproval_ok {env : Env} {approval : ApprovalRequest} {r : Unit × Store}
    (ran : Sql.addApproval env approval s = .ok r) :
    s.approvals.get? approval.approvalId = none ∧ ∃ row,
      Logs (fact approval.tenantId "approval.requested" "approval" approval.approvalId
        approval.optimisticVersion (env.uuid 2) (env.uuid 3)) (env.now 3) row ∧ Adds s r.2 [row] ∧
      { r.2 with audits := [] } =
        { s with approvals := s.approvals.set approval.approvalId approval, audits := [] } := by
  simp only [Sql.addApproval, Tx.bind_ok, Tx.read_ok, Tx.check_ok, Tx.write_ok, getAction_ok] at ran
  obtain ⟨_, _, ⟨_, _, rfl⟩, _, _, ⟨_, rfl⟩, _, _, ⟨rfl, rfl⟩, _, _, ⟨unused, rfl⟩, _, _, ⟨rfl, rfl⟩,
    _, _, ⟨_, rfl⟩, _, s₁, wrote, logged⟩ := ran
  subst wrote
  obtain ⟨row, logs, adds, same⟩ := recordAudit_adds logged
  refine ⟨by simpa using unused, row, logs, ⟨adds.audits, fun t numbered => ?_⟩, same⟩
  exact adds.numbered t numbered

omit [Sha256] in
/-- A saved Action that kept its identifier and its Run. -/
theorem resaved {actions actions' : Dict Uuid Action} {id : Uuid} {old new : Action}
    {target : ActionStatus} {actorId : Uuid} {reason : String} {at_ : Instant}
    (there : actions.get? id = some old)
    (moved : old.transitionTo target actorId reason at_ = .ok new)
    (same : actions' = actions.set new.actionId new) : Resaved actions actions' := by
  obtain ⟨_, fields⟩ := Action.transitionTo_ok moved
  have own : new.actionId = old.actionId := congrArg (·.actionId) fields
  refine .inr ⟨id, old, new, there, own, congrArg (·.runId) fields, ?_⟩
  rw [same, own]

omit [Sha256] in
theorem decide_keeps {a decided : ApprovalRequest} {approverId : Uuid} {approved : Bool}
    {reason : String} {principalId : Option Uuid} {now : Instant}
    (ran : a.decide approverId approved reason principalId now = .ok decided) :
    a.status = .pending ∧ decided.approvalId = a.approvalId ∧ decided.tenantId = a.tenantId ∧
      decided.runId = a.runId := by
  simp only [ApprovalRequest.decide, bind_eq_ok, raiseIf_eq_ok, decide_eq_false_iff_not, not_not,
    exists_and_left, exists_const] at ran
  obtain ⟨pending, _, _, rest⟩ := ran
  refine ⟨pending, ?_⟩
  split at rest
  next =>
    obtain ⟨_, _, made⟩ := bind_eq_ok.mp rest
    rw [ApprovalRequest.make_ok made]
    exact ⟨rfl, rfl, rfl⟩
  next =>
    split at rest
    next =>
      rw [ApprovalRequest.make_ok rest]
      exact ⟨rfl, rfl, rfl⟩
    next =>
      obtain ⟨_, _, made⟩ := bind_eq_ok.mp rest
      rw [ApprovalRequest.make_ok made]
      exact ⟨rfl, rfl, rfl⟩

omit [Sha256] in
/-- The keys of a command are apart from its rows and its events. -/
theorem putIdempotency_keeps (tenantId : Uuid) (key : String) (value : Uuid) (digest : String) :
    Tx.Keeps (fun s : Store => (s.approvals, s.actions, s.audits))
      (Outcomes.Sql.putIdempotency tenantId key value digest) :=
  Tx.keeps_bind (Tx.keeps_check _ _) fun _ => Tx.keeps_bind (Tx.keeps_read _) fun _ =>
    Tx.keeps_bind (Tx.keeps_read _) fun _ => Tx.keeps_bind (Tx.keeps_check _ _) fun _ =>
      Tx.keeps_write fun _ => rfl

/-- A request that returns replays an approval under a key it knows, or makes one. -/
theorem requestApproval_cases {env : Env} {ctx : CommandContext} {cmd : RequestApproval}
    {r : ApprovalRequest × Store}
    (ran : requestApproval (Sql.repository env) env ctx cmd s = .ok r) :
    (s.idempotency.get? (ctx.tenantId, ctx.key "request_approval")).isSome ∧ r.2 = s ∨
      s.idempotency.get? (ctx.tenantId, ctx.key "request_approval") = none ∧
        ∃ action approval, Requested env ctx cmd s r.2 action approval := by
  simp only [requestApproval, Tx.bind_ok, App.requireAny, Tx.ofExcept_ok] at ran
  obtain ⟨_, s, ⟨_, rfl⟩, cached, _, loaded, ran⟩ := ran
  obtain ⟨_, same⟩ := App.loadIdempotency_returns.mp loaded
  cases same
  cases bound : s.idempotency.get? (ctx.tenantId, ctx.key "request_approval") with
  | some value =>
    rw [bound] at ran
    obtain ⟨_, _, same⟩ := getApproval_ok.mp ran
    exact .inl ⟨rfl, same⟩
  | none =>
    refine .inr ⟨rfl, ?_⟩
    simp only [bound, Tx.bind_ok, Tx.check_ok, Tx.ofExcept_ok] at ran
    obtain ⟨action, s₀, read, _, _, ⟨_, rfl⟩, approval, _, ⟨made, rfl⟩, awaiting, _, ⟨moved, rfl⟩,
      _, s₁, added, _, s₂, saved, _, s₃, audited, _, s₄, remembered, done⟩ := ran
    cases done
    obtain ⟨aim, owned, same⟩ := getAction_ok.mp read
    dsimp only at aim owned same
    rw [same] at added
    have fields := ApprovalRequest.make_ok made
    have drawn : approval.approvalId = env.uuid 0 := congrArg (·.approvalId) fields
    obtain ⟨unused, first, fact, adds, inserted⟩ := addApproval_ok added
    obtain ⟨row, updated, adds', replaced⟩ := saveVersioned_ok saved
    obtain ⟨event, logs, adds'', kept⟩ := recordAudit_adds audited
    obtain ⟨approvals, actions, audits⟩ := Prod.mk.inj ((putIdempotency_keeps _ _ _ _).eq remembered)
      |>.imp_right Prod.mk.inj
    have rows : s₄.approvals = s₁.approvals := approvals.trans
      ((congrArg (·.approvals) kept).trans (congrArg (·.approvals) replaced))
    have saves : s₄.actions = s₁.actions.set awaiting.actionId awaiting := actions.trans
      ((congrArg (·.actions) kept).trans (congrArg (·.actions) replaced))
    refine ⟨action, approval, aim, owned, fields, drawn ▸ unused, ?_, ?_, first, row, event,
      ⟨?_, ?_⟩, fact, updated, logs⟩
    · rw [rows, congrArg (·.approvals) inserted, drawn]
    · refine resaved aim moved ?_
      rw [saves, congrArg (·.actions) inserted]
    · have grown := ((adds.trans adds').trans adds'').audits
      rw [audits, grown]
      rfl
    · intro t numbered
      rw [audits]
      exact ((adds.trans adds').trans adds'').numbered t numbered

/-- What a denial by the approval leaves. -/
theorem denyByApproval_ok {env : Env} {ctx : CommandContext} {approval decided : ApprovalRequest}
    {r : Unit × Store}
    (ran : denyByApproval (Sql.repository env) env ctx approval decided s = .ok r) :
    r.2.approvals = s.approvals ∧ Resaved s.actions r.2.actions ∧
      ∃ saved, saved.eventType = "action.updated" ∧ Adds s r.2 [saved] := by
  simp only [denyByApproval, Tx.bind_ok, Tx.ofExcept_ok] at ran
  obtain ⟨action, s₀, read, denied, _, ⟨moved, rfl⟩, ran⟩ := ran
  obtain ⟨aim, _, same⟩ := getAction_ok.mp read
  dsimp only at aim same
  rw [same] at ran
  obtain ⟨saved, updated, adds, replaced⟩ := saveVersioned_ok ran
  have approvals : r.2.approvals = s.approvals := congrArg (·.approvals) replaced
  have actions : r.2.actions = s.actions.set denied.actionId denied :=
    congrArg (·.actions) replaced
  exact ⟨approvals, resaved aim moved actions, saved, updated, adds⟩

/-- A decision that returns replays an approval under a key it knows, or decides one. -/
theorem decideApproval_cases {env : Env} {ctx : CommandContext} {cmd : DecideApproval}
    {r : ApprovalRequest × Store}
    (ran : decideApproval (Sql.repository env) env ctx cmd s = .ok r) :
    (s.idempotency.get? (ctx.tenantId, ctx.key "decide_approval")).isSome ∧ r.2 = s ∨
      s.idempotency.get? (ctx.tenantId, ctx.key "decide_approval") = none ∧
        ∃ approval decided, Decided env ctx cmd s r.2 approval decided := by
  simp only [decideApproval, Tx.bind_ok] at ran
  obtain ⟨cached, _, loaded, ran⟩ := ran
  obtain ⟨_, same⟩ := App.loadIdempotency_returns.mp loaded
  cases same
  cases bound : s.idempotency.get? (ctx.tenantId, ctx.key "decide_approval") with
  | some value =>
    rw [bound] at ran
    obtain ⟨_, _, same⟩ := getApproval_ok.mp ran
    exact .inl ⟨rfl, same⟩
  | none =>
    refine .inr ⟨rfl, ?_⟩
    simp only [bound, Tx.bind_ok, App.requireAny, Tx.check_ok, Tx.ofExcept_ok] at ran
    obtain ⟨approval, s₀, read, _, _, ⟨_, rfl⟩, _, _, ⟨_, rfl⟩, decided, _, ⟨decides, rfl⟩,
      _, s₁, saved, ran⟩ := ran
    obtain ⟨there, owned, same⟩ := getApproval_ok.mp read
    dsimp only at there owned same
    rw [same] at saved
    obtain ⟨pending, own, tenant, run⟩ := decide_keeps decides
    obtain ⟨row, updated, adds, replaced⟩ := saveVersioned_ok saved
    obtain ⟨s₂, more, ⟨same, resaved, adds', quiet⟩, ran⟩ : ∃ s₂ more,
        (s₂.approvals = s₁.approvals ∧ Resaved s₁.actions s₂.actions ∧ Adds s₁ s₂ more ∧
          ∀ row ∈ more, row.eventType = "action.updated") ∧
        (do
          App.audit ctx ("approval." ++ decided.status.value) decided.auditItem (env.uuid 0)
            (env.now 2)
          (Sql.repository env).putIdempotency ctx.tenantId (ctx.key "decide_approval")
            decided.approvalId ctx.requestDigest
          return decided : StoreTx ApprovalRequest) s₂ = .ok r := by
      obtain ⟨_, ran⟩ | ⟨_, ran⟩ := Tx.ite_ok.mp ran
      · obtain ⟨_, s₂, denied, ran⟩ := Tx.bind_ok.mp ran
        obtain ⟨same, resaved, saved, updated, adds⟩ := denyByApproval_ok denied
        refine ⟨s₂, [saved], ⟨same, resaved, adds, fun row there => ?_⟩, ran⟩
        rw [List.mem_singleton.mp there]
        exact updated
      · exact ⟨s₁, [], ⟨rfl, .inl rfl, ⟨(List.append_nil _).symm, fun _ numbered => numbered⟩,
          fun row there => by cases there⟩, ran⟩
    simp only [Tx.bind_ok] at ran
    obtain ⟨_, s₃, audited, _, s₄, remembered, done⟩ := ran
    cases done
    obtain ⟨event, logs, adds'', kept⟩ := recordAudit_adds audited
    obtain ⟨approvals, actions, audits⟩ := Prod.mk.inj ((putIdempotency_keeps _ _ _ _).eq remembered)
      |>.imp_right Prod.mk.inj
    refine ⟨approval, decided, there, owned, pending, ⟨own, tenant, run⟩, ?_, ?_, row :: more, event,
      ⟨?_, ?_⟩, fun e there => ?_, logs⟩
    · have inserted : s₁.approvals = s.approvals.set decided.approvalId decided :=
        congrArg (·.approvals) replaced
      rw [approvals, congrArg (·.approvals) kept, same, inserted, own]
    · have unchanged : s₁.actions = s.actions := congrArg (·.actions) replaced
      rw [unchanged] at resaved
      rw [actions, congrArg (·.actions) kept]
      exact resaved
    · have grown := ((adds.trans adds').trans adds'').audits
      rw [audits, grown]
      rfl
    · intro t numbered
      rw [audits]
      exact ((adds.trans adds').trans adds'').numbered t numbered
    · obtain rfl | there := List.mem_cons.mp there
      · exact .inl updated
      · exact .inr (quiet e there)

end

end Autonoesis.Approvals
