import Autonoesis.Base.History
import Autonoesis.Observability.Projector
import Autonoesis.Persistence.Approvals

/-!
# The latency of approvals

The events of the two approval commands name the Run of the approval, and the fact of the
repository names the approval itself. The projector pairs requests with decisions by that name, so
a decision is timed from the last request of its Run. That is its own request as long as no
approval is requested while another one of its Run is undecided.
-/

namespace Autonoesis.Observability
open Base Approvals AuditLog

inductive ApprovalCall
  | request (env : Env) (ctx : CommandContext) (cmd : RequestApproval)
  | decide (env : Env) (ctx : CommandContext) (cmd : DecideApproval)

/-- The SQL repository, with the time each approval was requested at, and the approvals approved or
rejected with the time of that. The times are those of the audits of the commands. -/
structure ApprovalHistory where
  store : Store
  requests : Dict Uuid Instant
  decisions : List (Uuid × Instant)

/-- The approval is approved or rejected. -/
def settled (s : Store) (id : Uuid) : Bool :=
  (s.approvals.get? id).any fun a => a.status = .approved || a.status = .rejected

namespace ApprovalHistory

section
variable [Sha256]

def step (s : ApprovalHistory) : ApprovalCall → ApprovalHistory
  | .request env ctx cmd =>
    let store := ((requestApproval (Sql.repository env) env ctx cmd).commit s.store).2
    { s with
      store := store
      requests :=
        if (s.store.approvals.get? (env.uuid 0)).isNone &&
            (store.approvals.get? (env.uuid 0)).isSome then
          s.requests.set (env.uuid 0) (env.now 2)
        else s.requests }
  | .decide env ctx cmd =>
    let store := ((decideApproval (Sql.repository env) env ctx cmd).commit s.store).2
    { s with
      store := store
      decisions :=
        if !settled s.store cmd.approvalId && settled store cmd.approvalId then
          s.decisions ++ [(cmd.approvalId, env.now 2)]
        else s.decisions }

/-- The command is accepted under a new key. -/
def Accepts (s : Store) : ApprovalCall → Prop
  | .request env ctx cmd =>
    s.idempotency.get? (ctx.tenantId, ctx.key "request_approval") = none ∧
      ∃ r, requestApproval (Sql.repository env) env ctx cmd s = .ok r
  | .decide env ctx cmd =>
    s.idempotency.get? (ctx.tenantId, ctx.key "decide_approval") = none ∧
      ∃ r, decideApproval (Sql.repository env) env ctx cmd s = .ok r

end

variable (tenantId : Uuid) (windowStart now : Instant)

/-- The time from the request of an approval of the tenant to its decision, with both in the
window. -/
def latency (s : ApprovalHistory) (decision : Uuid × Instant) : Option Int :=
  (s.requests.get? decision.1).bind fun requested =>
    if (s.store.approvals.get? decision.1).any (·.tenantId = tenantId) &&
        windowStart ≤ requested && windowStart ≤ decision.2 then some (decision.2 - requested)
    else none

def latencies (s : ApprovalHistory) : List Int :=
  s.decisions.filterMap (s.latency tenantId windowStart)

/-- The latencies collected are those of the approvals decided, each decided once. -/
structure Exact (s : ApprovalHistory) : Prop where
  collected : (approvalLatencies
    (inWindow windowStart now (listAuditEvents s.store.audits tenantId))).Perm
      (s.latencies tenantId windowStart)
  once : (s.decisions.map Prod.fst).Nodup

/-- No approval of the Run was requested later than `at_`. -/
def RequestedBy (s : ApprovalHistory) (runId : Uuid) (at_ : Instant) : Prop :=
  ∀ id a requested, s.store.approvals.get? id = some a → a.tenantId = tenantId → a.runId = runId →
    s.requests.get? id = some requested → requested ≤ at_

/-- A request accepted in the window comes while no approval of its Run is undecided, and no clock
is behind: a request does not come before one of its Run, nor a decision before its request. -/
def Clear [Sha256] (s : ApprovalHistory) (c : ApprovalCall) : Prop :=
  Accepts s.store c → match c with
  | .request env ctx cmd => ctx.tenantId = tenantId →
    ∀ action, s.store.actions.get? cmd.actionId = some action →
      s.RequestedBy tenantId action.runId (env.now 2) ∧
        (windowStart ≤ env.now 2 → ∀ id a, s.store.approvals.get? id = some a →
          a.tenantId = tenantId → a.runId = action.runId → a.status ≠ .pending)
  | .decide env ctx cmd => ctx.tenantId = tenantId →
    ∀ requested, s.requests.get? cmd.approvalId = some requested → requested ≤ env.now 2

/-- What `uuid4` draws for an approval is the identifier of no Run. -/
def Legal (s : ApprovalHistory) : ApprovalCall → Prop
  | .request env _ _ => ∀ id action, s.store.actions.get? id = some action →
    env.uuid 0 ≠ action.runId
  | .decide _ _ _ => True

/-- The events that the projector pairs. -/
def paired : List String := ["approval.requested", "approval.approved", "approval.rejected"]

/-- No approval was requested yet. -/
structure Fresh (s : ApprovalHistory) : Prop where
  approvals : s.store.approvals.entries = []
  requests : s.requests.entries = []
  decisions : s.decisions = []
  keyed : ∀ id action, s.store.actions.get? id = some action → action.actionId = id
  numbered : Numbered tenantId s.store.audits
  silent : ∀ e ∈ s.store.audits, e.eventType ∉ paired

/-! ## The pairing of a log -/

/-- How the projector pairs the events of the tenant in the window. -/
def pairing (audits : List AuditEvent) : Pairing :=
  (inWindow windowStart now (ofTenant tenantId audits)).foldl Pairing.next {}

/-- The pairing after a decision under the key. -/
def closing (p : Pairing) (key : String) (at_ : Instant) : Pairing :=
  match p.requested.get? key with
  | none => p
  | some started =>
    { requested := p.requested.filterKeys (· ≠ key)
      latencies := p.latencies ++ [max (at_ - started) 0] }

section
variable {tenantId : Uuid} {windowStart now : Instant} {audits : List AuditEvent}

theorem next_quiet {p : Pairing} {row : AuditEvent} (quiet : row.eventType ∉ paired) :
    p.next row = p := by
  simp only [paired, List.mem_cons, List.not_mem_nil, or_false, not_or] at quiet
  unfold Pairing.next
  split
  · rfl
  · rw [if_neg quiet.1, if_neg (not_or.mpr ⟨quiet.2.1, quiet.2.2⟩)]

theorem pairing_quiet {more : List AuditEvent} (quiet : ∀ row ∈ more, row.eventType ∉ paired) :
    pairing tenantId windowStart now (audits ++ more) = pairing tenantId windowStart now audits := by
  have steady (l : List AuditEvent) (each : ∀ row ∈ l, row.eventType ∉ paired) (p : Pairing) :
      l.foldl Pairing.next p = p := by
    induction l with
    | nil => rfl
    | cons row rest ih =>
      rw [List.foldl_cons, next_quiet (each row (List.mem_cons_self ..))]
      exact ih fun row' there => each row' (List.mem_cons_of_mem _ there)
  rw [pairing, ofTenant, List.filter_append, inWindow, List.filter_append, List.foldl_append]
  refine steady _ (fun row there => quiet row ?_) _
  exact (List.mem_filter.mp (List.mem_filter.mp there).1).1

theorem pairing_concat {row : AuditEvent} {at_ : Instant} (timed : row.createdAt = some at_) :
    pairing tenantId windowStart now (audits ++ [row]) =
      if row.tenantId = tenantId ∧ windowStart ≤ at_ then
        (pairing tenantId windowStart now audits).next row
      else pairing tenantId windowStart now audits := by
  by_cases own : row.tenantId = tenantId
  · rw [pairing, ofTenant_concat_of_eq own, inWindow, List.filter_append, List.foldl_append]
    by_cases within : windowStart ≤ at_
    · rw [List.filter_cons_of_pos (by simpa [timed] using within), if_pos ⟨own, within⟩]
      rfl
    · rw [List.filter_cons_of_neg (by simpa [timed] using within), if_neg fun both => within both.2]
      rfl
  · rw [pairing, ofTenant_concat_of_ne own, if_neg fun both => own both.1]
    rfl

theorem next_requested {p : Pairing} {row : AuditEvent} {at_ : Instant}
    (timed : row.createdAt = some at_) (request : row.eventType = "approval.requested") :
    p.next row = { p with requested := p.requested.set row.objectId at_ } := by
  simp only [Pairing.next, timed, request, if_true]

theorem next_decided {p : Pairing} {row : AuditEvent} {at_ : Instant}
    (timed : row.createdAt = some at_)
    (decision : row.eventType = "approval.approved" ∨ row.eventType = "approval.rejected") :
    p.next row = closing p row.objectId at_ := by
  have other : row.eventType ≠ "approval.requested" := by
    obtain same | same := decision <;> rw [same] <;> decide
  simp only [Pairing.next, timed, if_neg other, if_pos decision]
  rfl

/-- The audit of an approval names its Run. -/
theorem audit_objectId (ctx : CommandContext) (eventType : String) (approval : ApprovalRequest)
    (eventId : Uuid) :
    (ctx.audit eventType approval.auditItem eventId).objectId = approval.runId.str := rfl

/-- A request adds itself under its Run, and under its own identifier. -/
theorem pairing_requested [Sha256] (tenantId : Uuid) (windowStart now : Instant) {env : Env}
    {ctx : CommandContext} {cmd : RequestApproval} {s s' : Store} {action : Action}
    {approval : ApprovalRequest} (requested : Requested env ctx cmd s s' action approval) :
    (pairing tenantId windowStart now s'.audits).latencies =
      (pairing tenantId windowStart now s.audits).latencies ∧
    ∀ key, key ≠ (env.uuid 0).str →
      (pairing tenantId windowStart now s'.audits).requested.get? key =
        if ctx.tenantId = tenantId ∧ windowStart ≤ env.now 2 ∧ key = action.runId.str then
          some (env.now 2)
        else (pairing tenantId windowStart now s.audits).requested.get? key := by
  obtain ⟨first, saved, event, adds, fact, updated, audit⟩ := requested.audits
  have drawn : first.objectId = (env.uuid 0).str := by
    have same : approval.approvalId = env.uuid 0 := congrArg (·.approvalId) requested.made
    rw [fact.objectId, ← same]
    rfl
  have run : event.objectId = action.runId.str := by
    have same : approval.runId = action.runId := congrArg (·.runId) requested.made
    rw [audit.objectId, audit_objectId, same]
  have own : event.tenantId = ctx.tenantId := audit.tenantId
  have split : s'.audits = ((s.audits ++ [first]) ++ [saved]) ++ [event] := by
    rw [adds.audits]
    simp
  have quiet : ∀ row ∈ [saved], row.eventType ∉ paired := by
    intro row there
    rw [List.mem_singleton.mp there, updated]
    decide
  have unmoved : (pairing tenantId windowStart now (s.audits ++ [first])).latencies =
      (pairing tenantId windowStart now s.audits).latencies := by
    rw [pairing_concat fact.createdAt, next_requested fact.createdAt fact.eventType]
    split <;> rfl
  have apart (key : String) (other : key ≠ (env.uuid 0).str) :
      (pairing tenantId windowStart now (s.audits ++ [first])).requested.get? key =
        (pairing tenantId windowStart now s.audits).requested.get? key := by
    rw [pairing_concat fact.createdAt, next_requested fact.createdAt fact.eventType, drawn]
    split
    · exact Dict.get?_set_ne _ _ other
    · rfl
  rw [split, pairing_concat audit.createdAt, pairing_quiet quiet,
    next_requested audit.createdAt audit.eventType, run, own]
  by_cases inside : ctx.tenantId = tenantId ∧ windowStart ≤ env.now 2
  · rw [if_pos inside]
    refine ⟨unmoved, fun key other => ?_⟩
    rw [Dict.get?_set, apart key other]
    simp only [inside.1, inside.2, true_and]
  · rw [if_neg inside]
    refine ⟨unmoved, fun key other => ?_⟩
    rw [apart key other, if_neg fun all => inside ⟨all.1, all.2.1⟩]

theorem closing_get? (p : Pairing) (key key' : String) (at_ : Instant) :
    (closing p key at_).requested.get? key' =
      if key' = key then none else p.requested.get? key' := by
  unfold closing
  cases known : p.requested.get? key with
  | none =>
    by_cases same : key' = key
    · rw [if_pos same, same]
      exact known
    · rw [if_neg same]
  | some started =>
    dsimp only
    rw [Dict.get?_filterKeys]
    by_cases same : key' = key <;> simp [same]

/-- A decision closes its Run, if it approves or rejects. -/
theorem pairing_decided (tenantId : Uuid) (windowStart now : Instant) {env : Env}
    {ctx : CommandContext} {cmd : DecideApproval} {s s' : Store} {approval decided : ApprovalRequest}
    (decision : Decided env ctx cmd s s' approval decided) :
    pairing tenantId windowStart now s'.audits =
      if ctx.tenantId = tenantId ∧ windowStart ≤ env.now 2 ∧
          (decided.status = .approved ∨ decided.status = .rejected) then
        closing (pairing tenantId windowStart now s.audits) approval.runId.str (env.now 2)
      else pairing tenantId windowStart now s.audits := by
  obtain ⟨saved, event, adds, updated, audit⟩ := decision.audits
  have run : event.objectId = approval.runId.str := by
    rw [audit.objectId, audit_objectId, decision.same.2.2]
  have own : event.tenantId = ctx.tenantId := audit.tenantId
  have type : event.eventType = "approval." ++ decided.status.value := audit.eventType
  have quiet : ∀ row ∈ saved, row.eventType ∉ paired := by
    intro row there
    obtain same | same := updated row there <;> rw [same] <;> decide
  rw [adds.audits, ← List.append_assoc, pairing_concat audit.createdAt, pairing_quiet quiet, own]
  cases status : decided.status with
  | approved | rejected =>
    rw [next_decided audit.createdAt (by rw [type, status]; decide), run]
    simp
  | pending | expired =>
    rw [next_quiet (by rw [type, status]; decide)]
    simp

end

/-! ## What holds along a history -/

/-- The identifier of the Run of a stored Action. -/
def RunOf (s : Store) (runId : Uuid) : Prop :=
  ∃ id action, s.actions.get? id = some action ∧ action.runId = runId

/-- An approval of the tenant that is undecided, and the time of its request. -/
structure Undecided (tenantId : Uuid) (s : ApprovalHistory) (id : Uuid) (a : ApprovalRequest)
    (requested : Instant) : Prop where
  there : s.store.approvals.get? id = some a
  own : a.tenantId = tenantId
  pending : a.status = .pending
  requested : s.requests.get? id = some requested

/-- Rows under their identifiers, approvals with the Run of an Action and a time, and decisions of
approvals that are decided. -/
structure Stored (tenantId : Uuid) (s : ApprovalHistory) : Prop where
  keyed : ∀ id a, s.store.approvals.get? id = some a → a.approvalId = id
  actions : ∀ id action, s.store.actions.get? id = some action → action.actionId = id
  placed : ∀ id a, s.store.approvals.get? id = some a → RunOf s.store a.runId
  apart : ∀ id a, s.store.approvals.get? id = some a → ¬RunOf s.store id
  timed : ∀ id a, s.store.approvals.get? id = some a → ∃ requested, s.requests.get? id = some requested
  decided : ∀ d ∈ s.decisions, ∃ a, s.store.approvals.get? d.1 = some a ∧ a.status ≠ .pending
  once : (s.decisions.map Prod.fst).Nodup
  numbered : Numbered tenantId s.store.audits

/-- An undecided approval requested in the window is the only one of its Run, and what waits under
its Run is its own request. -/
structure Told (tenantId : Uuid) (windowStart now : Instant) (s : ApprovalHistory) : Prop where
  alone : ∀ {id a requested id' a' requested'}, Undecided tenantId s id a requested →
    Undecided tenantId s id' a' requested' → a'.runId = a.runId → windowStart ≤ requested → id' = id
  waits : ∀ {id a requested}, Undecided tenantId s id a requested →
    (pairing tenantId windowStart now s.store.audits).requested.get? a.runId.str =
      if windowStart ≤ requested then some requested else none
  held : ∀ runId requested, RunOf s.store runId →
    (pairing tenantId windowStart now s.store.audits).requested.get? runId.str = some requested →
      windowStart ≤ requested ∧ ∃ id a, s.store.approvals.get? id = some a ∧
        a.tenantId = tenantId ∧ a.runId = runId ∧ s.requests.get? id = some requested
  latencies : (pairing tenantId windowStart now s.store.audits).latencies =
    s.latencies tenantId windowStart

section
variable {tenantId : Uuid} {windowStart now : Instant} {s : ApprovalHistory}

theorem runOf_resaved {s s' : Store} (resaved : Resaved s.actions s'.actions)
    (keyed : ∀ id action, s.actions.get? id = some action → action.actionId = id) (runId : Uuid) :
    RunOf s' runId ↔ RunOf s runId := by
  obtain same | ⟨id, old, new, there, own, run, same⟩ := resaved
  · rw [RunOf, RunOf, same]
  · rw [keyed id old there] at same
    constructor
    · rintro ⟨k, action, found, placed⟩
      rw [same, Dict.get?_set] at found
      split at found
      next =>
        cases found
        exact ⟨id, old, there, run.symm.trans placed⟩
      next => exact ⟨k, action, found, placed⟩
    · rintro ⟨k, action, found, placed⟩
      by_cases other : k = id
      · subst other
        cases there.symm.trans found
        exact ⟨k, new, by rw [same, Dict.get?_set_self], run.trans placed⟩
      · exact ⟨k, action, by rwa [same, Dict.get?_set_ne _ _ other], placed⟩

theorem keyed_resaved {actions actions' : Dict Uuid Action} (resaved : Resaved actions actions')
    (keyed : ∀ id action, actions.get? id = some action → action.actionId = id) :
    ∀ id action, actions'.get? id = some action → action.actionId = id := by
  obtain same | ⟨id, old, new, there, own, run, same⟩ := resaved
  · rwa [same]
  · rw [same]
    intro k action found
    rw [Dict.get?_set] at found
    split at found
    next here =>
      cases found
      exact own.trans here.symm
    next => exact keyed k action found

theorem Fresh.empty (fresh : s.Fresh tenantId) (id : Uuid) (a : ApprovalRequest) :
    s.store.approvals.get? id ≠ some a := by
  rw [Dict.get?, fresh.approvals]
  rintro ⟨⟩

theorem Fresh.stored (fresh : s.Fresh tenantId) : Stored tenantId s where
  keyed id a there := absurd there (fresh.empty id a)
  actions := fresh.keyed
  placed id a there := absurd there (fresh.empty id a)
  apart id a there := absurd there (fresh.empty id a)
  timed id a there := absurd there (fresh.empty id a)
  decided := by
    rw [fresh.decisions]
    intro d there
    cases there
  once := by
    rw [fresh.decisions]
    exact .nil
  numbered := fresh.numbered

theorem Fresh.told (fresh : s.Fresh tenantId) : Told tenantId windowStart now s := by
  have nothing {id a requested} (undecided : Undecided tenantId s id a requested) : False :=
    fresh.empty id a undecided.there
  have empty : pairing tenantId windowStart now ([] ++ s.store.audits) = _ :=
    pairing_quiet fresh.silent
  rw [List.nil_append] at empty
  refine ⟨fun here => (nothing here).elim, fun here => (nothing here).elim,
    fun runId requested _ waits => ?_, ?_⟩
  · rw [empty] at waits
    cases waits
  · rw [empty, latencies, fresh.decisions]
    rfl

/-! ## A request -/

variable {env : Env} {ctx : CommandContext} {store : Store}

section
variable [Sha256] {cmd : RequestApproval} {action : Action} {approval : ApprovalRequest}

/-- The history after an accepted request. -/
def withRequest (s : ApprovalHistory) (env : Env) (store : Store) : ApprovalHistory :=
  { s with store := store, requests := s.requests.set (env.uuid 0) (env.now 2) }

theorem stored_request (stored : Stored tenantId s)
    (requested : Requested env ctx cmd s.store store action approval)
    (drawn : ∀ id action, s.store.actions.get? id = some action → env.uuid 0 ≠ action.runId) :
    Stored tenantId (withRequest s env store) := by
  have runs := runOf_resaved requested.actions stored.actions
  have id : approval.approvalId = env.uuid 0 := congrArg (·.approvalId) requested.made
  have run : approval.runId = action.runId := congrArg (·.runId) requested.made
  have there {k : Uuid} {a : ApprovalRequest} (found : store.approvals.get? k = some a) :
      k = env.uuid 0 ∧ a = approval ∨ k ≠ env.uuid 0 ∧ s.store.approvals.get? k = some a := by
    rw [requested.approvals, Dict.get?_set] at found
    split at found
    next here => exact .inl ⟨here, (Option.some.inj found).symm⟩
    next other => exact .inr ⟨other, found⟩
  constructor
  · intro k a found
    obtain ⟨rfl, rfl⟩ | ⟨_, found⟩ := there found
    · exact id
    · exact stored.keyed k a found
  · exact keyed_resaved requested.actions stored.actions
  · intro k a found
    refine (runs a.runId).mpr ?_
    obtain ⟨_, rfl⟩ | ⟨_, found⟩ := there found
    · exact ⟨_, action, requested.aim, run.symm⟩
    · exact stored.placed k a found
  · intro k a found placed
    have placed := (runs k).mp placed
    obtain ⟨rfl, _⟩ | ⟨_, found⟩ := there found
    · obtain ⟨id, action, known, same⟩ := placed
      exact drawn id action known same.symm
    · exact stored.apart k a found placed
  · intro k a found
    obtain ⟨rfl, _⟩ | ⟨other, found⟩ := there found
    · exact ⟨_, Dict.get?_set_self ..⟩
    · obtain ⟨at_, known⟩ := stored.timed k a found
      exact ⟨at_, (Dict.get?_set_ne _ _ other).trans known⟩
  · intro d listed
    obtain ⟨a, found, settled⟩ := stored.decided d listed
    refine ⟨a, ?_, settled⟩
    have other : d.1 ≠ env.uuid 0 := by
      intro same
      rw [same, requested.unused] at found
      cases found
    exact (congrArg (·.get? d.1) requested.approvals).trans
      ((Dict.get?_set_ne _ _ other).trans found)
  · exact stored.once
  · obtain ⟨_, _, _, adds, _⟩ := requested.audits
    exact adds.numbered tenantId stored.numbered

/-- An approval undecided after a request is the new one, or was undecided before. -/
theorem undecided_request (requested : Requested env ctx cmd s.store store action approval)
    {id : Uuid} {a : ApprovalRequest} {at_ : Instant}
    (undecided : Undecided tenantId (withRequest s env store) id a at_) :
    (id = env.uuid 0 ∧ a.runId = action.runId ∧ at_ = env.now 2 ∧ ctx.tenantId = tenantId) ∨
      id ≠ env.uuid 0 ∧ Undecided tenantId s id a at_ := by
  have found := undecided.there
  have timed := undecided.requested
  change store.approvals.get? id = some a at found
  change (s.requests.set (env.uuid 0) (env.now 2)).get? id = some at_ at timed
  rw [requested.approvals, Dict.get?_set] at found
  rw [Dict.get?_set] at timed
  by_cases here : id = env.uuid 0
  · rw [if_pos here] at found timed
    cases found
    have run : approval.runId = action.runId := congrArg (·.runId) requested.made
    have tenant : approval.tenantId = action.tenantId := congrArg (·.tenantId) requested.made
    exact .inl ⟨here, run, (Option.some.inj timed).symm,
      requested.owned.symm.trans (tenant.symm.trans undecided.own)⟩
  · rw [if_neg here] at found timed
    exact .inr ⟨here, found, undecided.own, undecided.pending, timed⟩

/-- What was stored is stored after the request, and was requested when it was. -/
theorem kept_request (requested : Requested env ctx cmd s.store store action approval) {id : Uuid}
    {a : ApprovalRequest} (found : s.store.approvals.get? id = some a) :
    store.approvals.get? id = some a ∧
      (withRequest s env store).requests.get? id = s.requests.get? id := by
  have other : id ≠ env.uuid 0 := by
    intro same
    rw [same, requested.unused] at found
    cases found
  rw [requested.approvals, Dict.get?_set_ne _ _ other]
  exact ⟨found, Dict.get?_set_ne _ _ other⟩

theorem latencies_request (stored : Stored tenantId s)
    (requested : Requested env ctx cmd s.store store action approval) :
    (withRequest s env store).latencies tenantId windowStart = s.latencies tenantId windowStart := by
  refine List.filterMap_congr fun d listed => ?_
  obtain ⟨a, found, _⟩ := stored.decided d listed
  obtain ⟨kept, timed⟩ := kept_request requested found
  rw [latency, latency, timed, found]
  change ((s.requests.get? d.1).bind fun _ => if (store.approvals.get? d.1).any _ && _ && _ then _
    else _) = _
  rw [kept]

theorem told_request (stored : Stored tenantId s) (told : Told tenantId windowStart now s)
    (requested : Requested env ctx cmd s.store store action approval)
    (drawn : ∀ id action, s.store.actions.get? id = some action → env.uuid 0 ≠ action.runId)
    (earlier : ctx.tenantId = tenantId → s.RequestedBy tenantId action.runId (env.now 2))
    (free : ctx.tenantId = tenantId → windowStart ≤ env.now 2 →
      ∀ id a, s.store.approvals.get? id = some a → a.tenantId = tenantId →
        a.runId = action.runId → a.status ≠ .pending) :
    Told tenantId windowStart now (withRequest s env store) := by
  have runs := runOf_resaved requested.actions stored.actions
  obtain ⟨unmoved, lookup⟩ := pairing_requested tenantId windowStart now requested
  have waiting (runId : Uuid) (placed : RunOf s.store runId) :
      (pairing tenantId windowStart now store.audits).requested.get? runId.str =
        if ctx.tenantId = tenantId ∧ windowStart ≤ env.now 2 ∧ runId = action.runId then
          some (env.now 2)
        else (pairing tenantId windowStart now s.store.audits).requested.get? runId.str := by
    have other : runId.str ≠ (env.uuid 0).str := by
      intro same
      obtain ⟨id, action, known, rfl⟩ := placed
      exact drawn id action known (Uuid.str_injective same).symm
    have named : runId.str = action.runId.str ↔ runId = action.runId :=
      ⟨Uuid.str_injective, congrArg Uuid.str⟩
    rw [lookup _ other]
    simp only [named]
  constructor
  · intro id a at_ id' a' at_' undecided undecided' same within
    obtain ⟨rfl, run, rfl, tenant⟩ | ⟨_, before⟩ := undecided_request requested undecided
    · obtain ⟨rfl, _⟩ | ⟨_, before'⟩ := undecided_request requested undecided'
      · rfl
      · exact absurd before'.pending
          (free tenant within _ _ before'.there before'.own (same.trans run))
    · obtain ⟨_, run', _, tenant⟩ | ⟨_, before'⟩ := undecided_request requested undecided'
      · have run : a.runId = action.runId := same.symm.trans run'
        have order := earlier tenant id a at_ before.there before.own run before.requested
        exact absurd before.pending
          (free tenant (within.trans order) _ _ before.there before.own run)
      · exact told.alone before before' same within
  · intro id a at_ undecided
    obtain ⟨rfl, run, rfl, tenant⟩ | ⟨_, before⟩ := undecided_request requested undecided
    · change (pairing tenantId windowStart now store.audits).requested.get? _ = _
      have placed : RunOf s.store action.runId := ⟨_, action, requested.aim, rfl⟩
      rw [run, waiting _ placed]
      by_cases within : windowStart ≤ env.now 2
      · rw [if_pos ⟨tenant, within, rfl⟩, if_pos within]
      · rw [if_neg fun all => within all.2.1, if_neg within]
        cases waits : (pairing tenantId windowStart now s.store.audits).requested.get?
            action.runId.str with
        | none => rfl
        | some before =>
          obtain ⟨inside, id, a, found, own, run, known⟩ := told.held _ _ placed waits
          have order := earlier tenant id a before found own run known
          exact absurd (inside.trans order) within
    · change (pairing tenantId windowStart now store.audits).requested.get? _ = _
      rw [waiting _ (stored.placed id a before.there), if_neg, told.waits before]
      rintro ⟨tenant, within, run⟩
      exact free tenant within id a before.there before.own run before.pending
  · intro runId at_ placed waits
    change (pairing tenantId windowStart now store.audits).requested.get? _ = _ at waits
    have placed := (runs runId).mp placed
    rw [waiting runId placed] at waits
    split at waits
    next all =>
      cases waits
      refine ⟨all.2.1, env.uuid 0, approval, ?_, ?_, ?_, Dict.get?_set_self ..⟩
      · change store.approvals.get? _ = _
        rw [requested.approvals, Dict.get?_set_self]
      · have tenant : approval.tenantId = action.tenantId := congrArg (·.tenantId) requested.made
        rw [tenant, requested.owned, all.1]
      · have run : approval.runId = action.runId := congrArg (·.runId) requested.made
        rw [run, all.2.2]
    next =>
      obtain ⟨inside, id, a, found, own, run, known⟩ := told.held _ _ placed waits
      obtain ⟨kept, timed⟩ := kept_request requested found
      exact ⟨inside, id, a, kept, own, run, timed.trans known⟩
  · change (pairing tenantId windowStart now store.audits).latencies = _
    rw [unmoved, told.latencies, latencies_request stored requested]

end

/-! ## A decision -/

section
variable {cmd : DecideApproval} {approval decided : ApprovalRequest}

/-- The history after an accepted decision. -/
def withDecision (s : ApprovalHistory) (env : Env) (cmd : DecideApproval) (store : Store) :
    ApprovalHistory :=
  { s with
    store := store
    decisions :=
      if !settled s.store cmd.approvalId && settled store cmd.approvalId then
        s.decisions ++ [(cmd.approvalId, env.now 2)]
      else s.decisions }

theorem approvals_decide (stored : Stored tenantId s)
    (decision : Decided env ctx cmd s.store store approval decided) :
    store.approvals = s.store.approvals.set cmd.approvalId decided := by
  rw [decision.approvals, stored.keyed _ _ decision.there]

theorem decisions_decide (stored : Stored tenantId s)
    (decision : Decided env ctx cmd s.store store approval decided) :
    (withDecision s env cmd store).decisions =
      if decided.status = .approved ∨ decided.status = .rejected then
        s.decisions ++ [(cmd.approvalId, env.now 2)]
      else s.decisions := by
  have before : settled s.store cmd.approvalId = false := by
    rw [settled, decision.there, Option.any_some, decision.pending]
    rfl
  have after : settled store cmd.approvalId =
      decide (decided.status = .approved ∨ decided.status = .rejected) := by
    rw [settled, approvals_decide stored decision, Dict.get?_set_self, Option.any_some,
      Bool.decide_or]
  simp only [withDecision, before, after, Bool.not_false, Bool.true_and, decide_eq_true_eq]

/-- Each approval is stored as before, but for the one decided. -/
theorem stored_origin (stored : Stored tenantId s)
    (decision : Decided env ctx cmd s.store store approval decided) {id : Uuid}
    {a : ApprovalRequest} (found : store.approvals.get? id = some a) :
    (id = cmd.approvalId ∧ a = decided) ∨
      id ≠ cmd.approvalId ∧ s.store.approvals.get? id = some a := by
  rw [approvals_decide stored decision, Dict.get?_set] at found
  by_cases here : id = cmd.approvalId
  · rw [if_pos here] at found
    exact .inl ⟨here, (Option.some.inj found).symm⟩
  · rw [if_neg here] at found
    exact .inr ⟨here, found⟩

theorem stored_kept (stored : Stored tenantId s)
    (decision : Decided env ctx cmd s.store store approval decided) {id : Uuid}
    {a : ApprovalRequest} (found : s.store.approvals.get? id = some a) :
    ∃ a', store.approvals.get? id = some a' ∧ a'.tenantId = a.tenantId ∧ a'.runId = a.runId ∧
      (a.status ≠ .pending → a' = a) := by
  rw [approvals_decide stored decision, Dict.get?_set]
  by_cases here : id = cmd.approvalId
  · rw [if_pos here]
    rw [here, decision.there] at found
    cases found
    exact ⟨decided, rfl, decision.same.2.1, decision.same.2.2,
      fun done => absurd decision.pending done⟩
  · rw [if_neg here]
    exact ⟨a, found, rfl, rfl, fun _ => rfl⟩

theorem stored_decide (stored : Stored tenantId s)
    (decision : Decided env ctx cmd s.store store approval decided) :
    Stored tenantId (withDecision s env cmd store) := by
  have runs := runOf_resaved decision.actions stored.actions
  have named := stored.keyed _ _ decision.there
  have undecided : ∀ d ∈ s.decisions, d.1 ≠ cmd.approvalId := by
    intro d listed same
    obtain ⟨a, found, done⟩ := stored.decided d listed
    rw [same, decision.there] at found
    cases found
    exact done decision.pending
  constructor
  · intro id a found
    obtain ⟨rfl, rfl⟩ | ⟨_, found⟩ := stored_origin stored decision found
    · exact decision.same.1.trans named
    · exact stored.keyed id a found
  · exact keyed_resaved decision.actions stored.actions
  · intro id a found
    refine (runs a.runId).mpr ?_
    obtain ⟨_, rfl⟩ | ⟨_, found⟩ := stored_origin stored decision found
    · rw [decision.same.2.2]
      exact stored.placed _ _ decision.there
    · exact stored.placed id a found
  · intro id a found placed
    have placed := (runs id).mp placed
    obtain ⟨rfl, _⟩ | ⟨_, found⟩ := stored_origin stored decision found
    · exact stored.apart _ _ decision.there placed
    · exact stored.apart id a found placed
  · intro id a found
    obtain ⟨rfl, _⟩ | ⟨_, found⟩ := stored_origin stored decision found
    · exact stored.timed _ _ decision.there
    · exact stored.timed id a found
  · rw [decisions_decide stored decision]
    intro d listed
    have before (listed : d ∈ s.decisions) :
        ∃ a, store.approvals.get? d.1 = some a ∧ a.status ≠ .pending := by
      obtain ⟨a, found, done⟩ := stored.decided d listed
      obtain ⟨a', kept, _, _, same⟩ := stored_kept stored decision found
      exact ⟨a', kept, same done ▸ done⟩
    split at listed
    next settles =>
      obtain listed | added := List.mem_append.mp listed
      · exact before listed
      · cases List.mem_singleton.mp added
        refine ⟨decided, ?_, ?_⟩
        · change store.approvals.get? _ = _
          rw [approvals_decide stored decision, Dict.get?_set_self]
        · obtain done | done := settles <;> rw [done] <;> decide
    next => exact before listed
  · rw [decisions_decide stored decision]
    split
    next =>
      rw [List.map_append, List.map_singleton]
      refine List.nodup_append.mpr ⟨stored.once, List.nodup_singleton _, ?_⟩
      intro id earlier id' there same
      obtain ⟨d, listed, rfl⟩ := List.mem_map.mp earlier
      exact undecided d listed (same.trans (List.mem_singleton.mp there))
    next => exact stored.once
  · obtain ⟨_, _, adds, _⟩ := decision.audits
    exact adds.numbered tenantId stored.numbered

/-- An approval undecided after a decision was undecided before, of the same Run. -/
theorem undecided_decide (stored : Stored tenantId s)
    (decision : Decided env ctx cmd s.store store approval decided) {id : Uuid}
    {a : ApprovalRequest} {at_ : Instant}
    (undecided : Undecided tenantId (withDecision s env cmd store) id a at_) :
    ∃ a₀, Undecided tenantId s id a₀ at_ ∧ a.runId = a₀.runId ∧ (id = cmd.approvalId → a = decided) := by
  obtain ⟨found, own, pending, timed⟩ := undecided
  obtain ⟨rfl, rfl⟩ | ⟨other, found⟩ := stored_origin stored decision found
  · exact ⟨approval, ⟨decision.there, decision.same.2.1.symm.trans own, decision.pending, timed⟩,
      decision.same.2.2, fun _ => rfl⟩
  · exact ⟨a, ⟨found, own, pending, timed⟩, rfl, fun here => absurd here other⟩

theorem latency_decide (stored : Stored tenantId s)
    (decision : Decided env ctx cmd s.store store approval decided) (d : Uuid × Instant) :
    (withDecision s env cmd store).latency tenantId windowStart d =
      s.latency tenantId windowStart d := by
  have owner : (store.approvals.get? d.1).any (·.tenantId = tenantId) =
      (s.store.approvals.get? d.1).any (·.tenantId = tenantId) := by
    rw [approvals_decide stored decision, Dict.get?_set]
    split
    next here => rw [here, decision.there, Option.any_some, Option.any_some, decision.same.2.1]
    next => rfl
  simp only [latency, withDecision, owner]

/-- The latency of the approval decided. -/
theorem latency_decided {requested : Instant}
    (decision : Decided env ctx cmd s.store store approval decided)
    (timed : s.requests.get? cmd.approvalId = some requested) :
    s.latency tenantId windowStart (cmd.approvalId, env.now 2) =
      if ctx.tenantId = tenantId ∧ windowStart ≤ requested ∧ windowStart ≤ env.now 2 then
        some (env.now 2 - requested)
      else none := by
  simp only [latency, timed, decision.there, Option.bind_some, Option.any_some, decision.owned,
    Bool.and_eq_true, decide_eq_true_eq, and_assoc]

theorem told_decide (stored : Stored tenantId s) (told : Told tenantId windowStart now s)
    (decision : Decided env ctx cmd s.store store approval decided)
    (later : ctx.tenantId = tenantId → ∀ requested,
      s.requests.get? cmd.approvalId = some requested → requested ≤ env.now 2) :
    Told tenantId windowStart now (withDecision s env cmd store) := by
  have runs := runOf_resaved decision.actions stored.actions
  have effect := pairing_decided tenantId windowStart now decision
  obtain ⟨requested, timed⟩ := stored.timed _ _ decision.there
  have here (own : ctx.tenantId = tenantId) :
      Undecided tenantId s cmd.approvalId approval requested :=
    ⟨decision.there, decision.owned.trans own, decision.pending, timed⟩
  constructor
  · intro id a at_ id' a' at_' undecided undecided' same within
    obtain ⟨_, before, run, _⟩ := undecided_decide stored decision undecided
    obtain ⟨_, before', run', _⟩ := undecided_decide stored decision undecided'
    exact told.alone before before' (run'.symm.trans (same.trans run)) within
  · intro id a at_ undecided
    obtain ⟨_, before, run, only⟩ := undecided_decide stored decision undecided
    change (pairing tenantId windowStart now store.audits).requested.get? _ = _
    rw [effect, run]
    split
    next all =>
      obtain ⟨own, within, settles⟩ := all
      rw [closing_get?]
      split
      next same =>
        -- Another undecided approval of the Run, so neither was requested in the window.
        rw [if_neg]
        intro inside
        have single := told.alone before (here own) (Uuid.str_injective same).symm inside
        have pending := undecided.pending
        rw [only single.symm] at pending
        obtain done | done := settles <;> rw [done] at pending <;> cases pending
      next => exact told.waits before
    next => exact told.waits before
  · intro runId at_ placed waits
    have placed := (runs runId).mp placed
    have waited : (pairing tenantId windowStart now s.store.audits).requested.get? runId.str =
        some at_ := by
      change (pairing tenantId windowStart now store.audits).requested.get? _ = _ at waits
      rw [effect] at waits
      split at waits
      next =>
        rw [closing_get?] at waits
        split at waits
        next => cases waits
        next => exact waits
      next => exact waits
    obtain ⟨inside, id, a, found, own, run, known⟩ := told.held runId at_ placed waited
    obtain ⟨a', kept, tenant, same, _⟩ := stored_kept stored decision found
    exact ⟨inside, id, a', kept, tenant.trans own, same.trans run, known⟩
  · change (pairing tenantId windowStart now store.audits).latencies = _
    rw [effect, latencies, decisions_decide stored decision]
    have same (decisions : List (Uuid × Instant)) :
        decisions.filterMap ((withDecision s env cmd store).latency tenantId windowStart) =
          decisions.filterMap (s.latency tenantId windowStart) :=
      List.filterMap_congr fun d _ => latency_decide stored decision d
    rw [same]
    by_cases settles : decided.status = .approved ∨ decided.status = .rejected
    · rw [if_pos settles, List.filterMap_append, List.filterMap_cons, latency_decided decision timed]
      by_cases inside : ctx.tenantId = tenantId ∧ windowStart ≤ env.now 2
      · have waits := told.waits (here inside.1)
        rw [if_pos ⟨inside.1, inside.2, settles⟩, closing, waits]
        by_cases within : windowStart ≤ requested
        · rw [if_pos within, if_pos ⟨inside.1, within, inside.2⟩]
          have order := later inside.1 requested timed
          have positive : max (env.now 2 - requested) 0 = env.now 2 - requested :=
            max_eq_left (Int.sub_nonneg.mpr order)
          dsimp only
          rw [positive, told.latencies]
          rfl
        · rw [if_neg within, if_neg fun all => within all.2.1, told.latencies]
          exact (List.append_nil _).symm
      · rw [if_neg fun all => inside ⟨all.1, all.2.1⟩, if_neg fun all => inside ⟨all.1, all.2.2⟩,
          told.latencies]
        exact (List.append_nil _).symm
    · rw [if_neg settles, if_neg fun all => settles all.2.2]
      exact told.latencies

end

/-! ## Histories of commands -/

theorem exact_of (stored : Stored tenantId s) (told : Told tenantId windowStart now s) :
    Exact tenantId windowStart now s where
  collected := by
    rw [stored.numbered.listed]
    exact .of_eq told.latencies
  once := stored.once

variable [Sha256]

/-- A request changes nothing, or is accepted and recorded. -/
theorem step_request (s : ApprovalHistory) (env : Env) (ctx : CommandContext)
    (cmd : RequestApproval) : step s (.request env ctx cmd) = s ∨
      Accepts s.store (.request env ctx cmd) ∧ ∃ store action approval,
        Requested env ctx cmd s.store store action approval ∧
          step s (.request env ctx cmd) = withRequest s env store := by
  have unchanged (same : ((requestApproval (Sql.repository env) env ctx cmd).commit s.store).2 =
      s.store) : step s (.request env ctx cmd) = s := by
    simp only [step, same]
    cases s.store.approvals.get? (env.uuid 0) <;> rfl
  obtain ⟨e, refused⟩ | ⟨a, store, ran, done⟩ :=
    Tx.commit_cases (requestApproval (Sql.repository env) env ctx cmd) s.store
  · exact .inl (unchanged (congrArg Prod.snd refused))
  · obtain ⟨_, same⟩ | ⟨new, action, approval, requested⟩ := requestApproval_cases ran
    · exact .inl (unchanged (by rw [done, ← same]))
    · refine .inr ⟨⟨new, _, ran⟩, store, action, approval, requested, ?_⟩
      have stored : store.approvals.get? (env.uuid 0) = some approval := by
        rw [requested.approvals, Dict.get?_set_self]
      simp only [step, withRequest, done, requested.unused, stored, Option.isNone_none,
        Option.isSome_some, Bool.and_self, if_true]

/-- A decision changes nothing, or is accepted and recorded. -/
theorem step_decide (s : ApprovalHistory) (env : Env) (ctx : CommandContext)
    (cmd : DecideApproval) : step s (.decide env ctx cmd) = s ∨
      Accepts s.store (.decide env ctx cmd) ∧ ∃ store approval decided,
        Decided env ctx cmd s.store store approval decided ∧
          step s (.decide env ctx cmd) = withDecision s env cmd store := by
  have unchanged (same : ((decideApproval (Sql.repository env) env ctx cmd).commit s.store).2 =
      s.store) : step s (.decide env ctx cmd) = s := by
    simp only [step, same]
    cases settled s.store cmd.approvalId <;> rfl
  obtain ⟨e, refused⟩ | ⟨a, store, ran, done⟩ :=
    Tx.commit_cases (decideApproval (Sql.repository env) env ctx cmd) s.store
  · exact .inl (unchanged (congrArg Prod.snd refused))
  · obtain ⟨_, same⟩ | ⟨new, approval, decided, decision⟩ := decideApproval_cases ran
    · exact .inl (unchanged (by rw [done, ← same]))
    · refine .inr ⟨⟨new, _, ran⟩, store, approval, decided, decision, ?_⟩
      simp only [step, withDecision, done]

theorem sound_step {c : ApprovalCall} (stored : Stored tenantId s)
    (told : Told tenantId windowStart now s) (legal : Legal s c)
    (clear : Clear tenantId windowStart s c) :
    Stored tenantId (step s c) ∧ Told tenantId windowStart now (step s c) := by
  cases c with
  | request env ctx cmd =>
    obtain same | ⟨accepted, store, action, approval, requested, same⟩ := step_request s env ctx cmd
    · rw [same]
      exact ⟨stored, told⟩
    · rw [same]
      have clear := clear accepted
      exact ⟨stored_request stored requested legal, told_request stored told requested legal
        (fun own => (clear own action requested.aim).1)
        fun own => (clear own action requested.aim).2⟩
  | decide env ctx cmd =>
    obtain same | ⟨accepted, store, approval, decided, decision, same⟩ := step_decide s env ctx cmd
    · rw [same]
      exact ⟨stored, told⟩
    · rw [same]
      exact ⟨stored_decide stored decision, told_decide stored told decision (clear accepted)⟩

/-- In a history in which no approval is requested in the window while another one of its Run is
undecided, and no clock is behind, the latencies collected are those of the approvals decided. -/
theorem approval_latencies (tenantId : Uuid) (windowStart now : Instant) (s : ApprovalHistory)
    (calls : List ApprovalCall) (fresh : s.Fresh tenantId) (legal : Along step Legal s calls)
    (clear : Along step (Clear tenantId windowStart) s calls) :
    Along step (fun s c => Exact tenantId windowStart now (step s c)) s calls := by
  have both := (along_and step).mpr ⟨legal, clear⟩
  refine along_of_inv (fun (s : ApprovalHistory) (c : ApprovalCall)
    (inv : Stored tenantId s ∧ Told tenantId windowStart now s)
    (allowed : Legal s c ∧ Clear tenantId windowStart s c) => ?_) ⟨fresh.stored, fresh.told⟩ both
  have next := sound_step inv.1 inv.2 allowed.1 allowed.2
  exact ⟨exact_of next.1 next.2, next⟩

end

namespace Sample
open Autonoesis.Sample

attribute [local instance] Autonoesis.Sample.sha256

def running : Run where
  tenantId := 1
  goalId := 16
  agentVersionId := 7
  runId := 32
  createdAt := 0
  status := .running
  valid := rfl

/-- A proposed mail of the Run. -/
def mail (id : Uuid) : ActionFields where
  tenantId := 1
  runId := 32
  taskId := 49
  toolName := "mail"
  toolVersion := "1.0.0"
  operation := "send"
  resourceScope := "mailbox/ops"
  parameters := ⟨"\x7b\x7d", JsonObject.empty_valid⟩
  riskLevel := .l2ReversibleWrite
  idempotencyKey := "mail"
  expectedEffect := "mail sent"
  actionId := id

def first : Action := ⟨mail 64, by decide +kernel⟩

def second : Action := ⟨mail 66, by decide +kernel⟩

/-- A Run with two proposed Actions. -/
def history : ApprovalHistory where
  store := {
    runs := Dict.empty.set 32 running
    actions := (Dict.empty.set 64 first).set 66 second }
  requests := .empty
  decisions := []

/-- A call that draws identifiers from `id` on, at an instant. -/
def at_ (id : Uuid) (now : Instant) : Env where
  uuid n := id + n
  now _ := now
  uuid5 _ := 0

def request (key : String) (named : (isBlank key || decide (300 < key.length)) = false)
    (actionId approvalId : Uuid) (now : Instant) : ApprovalCall :=
  .request (at_ approvalId now) (context key named)
    { actionId, policyVersion := "p1", impactSummary := "one mail", requiredRole := "operator",
      expiresAt := 900 }

def approve (key : String) (named : (isBlank key || decide (300 < key.length)) = false)
    (approvalId eventId : Uuid) (now : Instant) : ApprovalCall :=
  .decide (at_ eventId now) (context key named)
    { approvalId, actionDigest := Sha256.hexdigest "", approved := true, reason := "fine" }

theorem history_fresh : history.Fresh 1 where
  approvals := rfl
  requests := rfl
  decisions := rfl
  keyed id action there := by
    have all : ∀ e ∈ history.store.actions.entries, e.2.actionId = e.1 := by decide +kernel
    exact all (id, action) ((Dict.get?_eq_some _ _ _).mp there)
  numbered := rfl
  silent e there := by cases there

theorem legal_of {s : ApprovalHistory} {env : Env} {ctx : CommandContext} {cmd : RequestApproval}
    (drawn : ∀ e ∈ s.store.actions.entries, env.uuid 0 ≠ e.2.runId) :
    Legal s (.request env ctx cmd) :=
  fun id action there => drawn (id, action) ((Dict.get?_eq_some _ _ _).mp there)

/-- The approvals of two Actions of a Run, both requested before either is decided. -/
def overlapping : List ApprovalCall := [request "ask-1" (by decide) 64 100 1,
  request "ask-2" (by decide) 66 200 2, approve "yes-1" (by decide) 100 300 10,
  approve "yes-2" (by decide) 200 400 20]

/-- The first decision is timed from the second request. -/
theorem overlap_mistimed : ¬∀ (tenantId : Uuid) (windowStart now : Instant) (s : ApprovalHistory)
    (calls : List ApprovalCall), s.Fresh tenantId → Along step Legal s calls →
      Along step (fun s c => Exact tenantId windowStart now (step s c)) s calls := by
  intro exact
  have drawn : ∀ e ∈ history.store.actions.entries, (100 : Uuid) ≠ e.2.runId := by decide +kernel
  have drawn' : ∀ e ∈ (step history (request "ask-1" (by decide) 64 100 1)).store.actions.entries,
      (200 : Uuid) ≠ e.2.runId := by decide +kernel
  have along := exact 1 0 50 history overlapping history_fresh
    ⟨legal_of drawn, legal_of drawn', trivial, trivial, trivial⟩
  have last := along.2.2.1.collected
  revert last
  decide +kernel

/-- The approvals of two Actions of a Run, one after the other. -/
def consecutive : List ApprovalCall := [request "ask-1" (by decide) 64 100 1,
  approve "yes-1" (by decide) 100 300 10, request "ask-2" (by decide) 66 200 20,
  approve "yes-2" (by decide) 200 400 30]

/-- The first of them is decided. -/
def decided : ApprovalHistory :=
  step (step history (request "ask-1" (by decide) 64 100 1))
    (approve "yes-1" (by decide) 100 300 10)

theorem consecutive_timed :
    Along step (fun s c => Exact 1 0 50 (step s c)) history consecutive := by
  have drawn : ∀ e ∈ history.store.actions.entries, (100 : Uuid) ≠ e.2.runId := by decide +kernel
  have timed : (step history (request "ask-1" (by decide) 64 100 1)).requests.get? 100 = some 1 := by
    decide +kernel
  have quiet : (∀ e ∈ decided.store.actions.entries, (200 : Uuid) ≠ e.2.runId) ∧
      (∀ e ∈ decided.store.approvals.entries, e.2.status ≠ .pending) ∧
      (∀ e ∈ decided.requests.entries, e.2 ≤ 20) ∧
      (step decided (request "ask-2" (by decide) 66 200 20)).requests.get? 200 = some 20 := by
    decide +kernel
  obtain ⟨drawn', settled, earlier, timed'⟩ := quiet
  refine approval_latencies 1 0 50 history _ history_fresh
    ⟨legal_of drawn, trivial, legal_of drawn', trivial, trivial⟩
    ⟨fun _ _ action _ => ⟨?_, ?_⟩, fun _ _ requested known => ?_,
      fun _ _ action _ => ⟨?_, ?_⟩, fun _ _ requested known => ?_, trivial⟩
  · intro id a requested there
    exact absurd there (history_fresh.empty id a)
  · intro _ id a there
    exact absurd there (history_fresh.empty id a)
  · cases timed.symm.trans known
    decide
  · intro id a requested _ _ _ known
    exact earlier (id, requested) ((Dict.get?_eq_some _ _ _).mp known)
  · intro _ id a there _ _
    exact settled (id, a) ((Dict.get?_eq_some _ _ _).mp there)
  · cases timed'.symm.trans known
    decide

end Sample

end ApprovalHistory

end Autonoesis.Observability
