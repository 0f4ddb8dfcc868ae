import Autonoesis.Base.History
import Autonoesis.Observability.Projector
import Autonoesis.Persistence.Facts
import Autonoesis.Persistence.Outcomes

/-!
# The success rate of Outcomes

An Outcome that `verify_outcome` records leaves two events in the log: the fact of the repository,
and the audit of the command, `outcome.verified` whatever the verifier decided. The success rate
divides the number of the second by the number of the first.
-/

namespace Autonoesis.Observability
open Base Outcomes AuditLog

/-- A row of the table `outcomes`, with the time its command was audited at. -/
structure OutcomeRow where
  outcome : Outcome
  createdAt : Instant
  auditedAt : Instant

/-- The SQL repository, with the rows of `outcomes` in the order of their inserts. -/
structure OutcomeTable where
  store : Store
  rows : List OutcomeRow

namespace OutcomeTable

section
variable [Sha256]

/-- What the trusted verifier decides on a call. -/
def verdict (c : Call) : StoreTx OutcomeStatus := do
  let run ← Store.getRun c.ctx.tenantId c.runId
  let goal ← Store.getGoal c.ctx.tenantId run.goalId
  match goal.successCriteria.find? (·.criterionId = c.criterionId) with
  | none => Tx.raise (.valueError "Outcome criterion is not part of the Goal contract")
  | some criterion =>
    let items ← c.evidenceIds.mapM (Store.getEvidence c.ctx.tenantId)
    let decision ← Tx.ofExcept (TrustedOutcomeVerifier.verify c.ports.evidence c.ctx.tenantId
      goal.subjectRefs criterion items (c.env.now 0))
    return decision.status

/-- A call of `verify_outcome`, and the row it inserts, if it inserts one. -/
def step (s : OutcomeTable) (c : Call) : OutcomeTable :=
  let store := ((verifyOutcome (Sql.repository c.env) c).commit s.store).2
  match s.store.outcomes.get? (c.env.uuid 0), store.outcomes.get? (c.env.uuid 0) with
  | none, some item => ⟨store, s.rows ++ [⟨item, c.env.now 2, c.env.now 1⟩]⟩
  | _, _ => ⟨store, s.rows⟩

end

variable (tenantId : Uuid) (window : Int) (now : Instant)

/-- The Outcomes of the tenant recorded in the window. -/
def recorded (s : OutcomeTable) : List OutcomeRow :=
  s.rows.filter fun row => row.outcome.tenantId = tenantId && now - window ≤ row.createdAt

/-- The success rate measured is the share of the Outcomes recorded in the window that are
verified. -/
def Accurate (s : OutcomeTable) : Prop :=
  ((project (listAuditEvents s.store.audits tenantId) window now).measurements
      .outcomeSuccessRate).map (·.value) =
    if 0 < (s.recorded tenantId window now).length then
      [((s.recorded tenantId window now).countP (·.outcome.status = .verified) : Rat) /
        (s.recorded tenantId window now).length]
    else []

/-- The window does not begin between the two events of the call. -/
def Together (_ : OutcomeTable) (c : Call) : Prop :=
  c.ctx.tenantId = tenantId → (now - window ≤ c.env.now 2 ↔ now - window ≤ c.env.now 1)

/-- A call that is accepted in the window under a new key is one on which the verifier decides
`verified`. -/
def Verifies [Sha256] (s : OutcomeTable) (c : Call) : Prop :=
  c.ctx.tenantId = tenantId → now - window ≤ c.env.now 2 →
    s.store.idempotency.get? (c.ctx.tenantId, c.ctx.key "verify_outcome") = none →
    (∃ r, verifyOutcome (Sql.repository c.env) c s.store = .ok r) →
      ∃ s', verdict c s.store = .ok (.verified, s')

/-- No Outcome was recorded yet. -/
structure Fresh (s : OutcomeTable) : Prop where
  rows : s.rows = []
  stored : s.store.outcomes.entries = []
  silent : ∀ e ∈ s.store.audits, e.eventType ≠ "outcome.recorded" ∧ e.eventType ≠ "outcome.verified"

/-! ## One call -/

theorem sql_putIdempotency_keeps (tenantId : Uuid) (key : String) (value : Uuid) (digest : String) :
    Tx.Keeps (fun s : Store => (s.outcomes, s.audits))
      (Sql.putIdempotency tenantId key value digest) :=
  Tx.keeps_bind (Tx.keeps_check _ _) fun _ => Tx.keeps_bind (Tx.keeps_read _) fun _ =>
    Tx.keeps_bind (Tx.keeps_read _) fun _ => Tx.keeps_bind (Tx.keeps_check _ _) fun _ =>
      Tx.keeps_write fun _ => rfl

section
variable [Sha256]

/-- What a call does that records an Outcome. -/
structure Records (c : Call) (s s' : Store) (item : Outcome) : Prop where
  decided : verdict c s = .ok (item.status, s)
  drawn : item.outcomeId = c.env.uuid 0
  tenant : item.tenantId = c.ctx.tenantId
  unused : s.outcomes.get? (c.env.uuid 0) = none
  outcomes : s'.outcomes = s.outcomes.set (c.env.uuid 0) item
  audits : ∃ fact event, s'.audits = s.audits ++ [fact, event] ∧
    Logs (Sql.outcomeRecorded item (c.env.uuid 2) (c.env.uuid 3)) (c.env.now 2) fact ∧
    Logs (c.ctx.audit "outcome.verified" item.auditItem (c.env.uuid 1)) (c.env.now 1) event

theorem sql_addOutcome_ok {env : Env} {item : Outcome} {s : Store} {r : Unit × Store}
    (ran : Sql.addOutcome env item s = .ok r) : s.outcomes.get? item.outcomeId = none ∧
      ∃ row, Logs (Sql.outcomeRecorded item (env.uuid 2) (env.uuid 3)) (env.now 2) row ∧
        r.2 = { s with
          outcomes := s.outcomes.set item.outcomeId item
          audits := s.audits ++ [row] } := by
  simp only [Sql.addOutcome, Tx.bind_ok, Tx.read_ok, Tx.check_ok, Tx.write_ok] at ran
  obtain ⟨_, _, ⟨⟩, _, _, ⟨_, rfl⟩, _, s₁, compared, _, _, ⟨_, rfl⟩, _, _, ⟨⟩, _, _,
    ⟨unused, rfl⟩, _, _, ⟨_, rfl⟩, _, s₂, rfl, logged⟩ := ran
  have same := (Tx.keeps_forM (f := fun s : Store => s) (fun e => Tx.keeps_bind
    (Store.find_keeps _ _ _ _ _ _) fun _ => Tx.keeps_check _ _) _).eq compared
  cases same
  obtain ⟨row, logs, _, wrote⟩ := recordAudit_appends logged
  exact ⟨by simpa using unused, row, logs, wrote⟩

/-- A call that returns leaves the store as it is, under a key it knows, or records an Outcome with
the status decided. -/
theorem verifyOutcome_cases {c : Call} {s : Store} {r : Outcome × Store}
    (ran : verifyOutcome (Sql.repository c.env) c s = .ok r) :
    (s.idempotency.get? (c.ctx.tenantId, c.ctx.key "verify_outcome")).isSome ∧ r.2 = s ∨
      s.idempotency.get? (c.ctx.tenantId, c.ctx.key "verify_outcome") = none ∧
        ∃ item, Records c s r.2 item := by
  simp only [verifyOutcome, Tx.bind_ok, App.requireAny, Tx.ofExcept_ok, Tx.check_ok] at ran
  obtain ⟨_, _, ⟨_, rfl⟩, _, s, ⟨_, rfl⟩, cached, _, loaded, ran⟩ := ran
  obtain ⟨_, same⟩ := App.loadIdempotency_returns.mp loaded
  cases same
  cases bound : s.idempotency.get? (c.ctx.tenantId, c.ctx.key "verify_outcome") with
  | some value =>
    rw [bound] at ran
    refine .inl ⟨rfl, ?_⟩
    simp only [Sql.repository, Sql.getOutcome, Tx.bind_ok, Tx.ofExcept_ok] at ran
    obtain ⟨_, _, found, _, _, read, _, rfl⟩ := ran
    obtain ⟨_, _, rfl⟩ := Store.find_ok.mp found
    exact (Tx.keeps_mapM (fun _ => Store.find_keeps _ _ _ _ _ (fun s => s)) _).eq read
  | none =>
    refine .inr ⟨rfl, ?_⟩
    simp only [bound, Tx.bind_ok, Store.getRun, Store.getGoal, Store.find_ok] at ran
    obtain ⟨run, _, ⟨known, owned, rfl⟩, goal, s, ⟨aimed, held, rfl⟩, ran⟩ := ran
    cases listed : goal.successCriteria.find? (·.criterionId = c.criterionId) with
    | none =>
      rw [listed] at ran
      cases ran
    | some criterion =>
      simp only [listed, Tx.bind_ok, Tx.check_ok, Tx.ofExcept_ok] at ran
      obtain ⟨items, _, found, _, _, ⟨_, rfl⟩, decision, _, ⟨decides, rfl⟩, made, _, ⟨built, rfl⟩,
        _, s₁, added, _, s₂, audited, _, s₃, remembered, done⟩ := ran
      cases done
      cases (Tx.keeps_mapM (fun _ => Store.find_keeps _ _ _ _ _ (fun s => s)) _).eq found
      obtain ⟨valid, rfl⟩ := guarded_eq_ok.mp built
      obtain ⟨unused, fact, first, same⟩ := sql_addOutcome_ok added
      obtain ⟨event, second, _, wrote⟩ := recordAudit_appends audited
      dsimp only at same wrote
      have kept : (s₃.outcomes, s₃.audits) = (s₂.outcomes, s₂.audits) :=
        (sql_putIdempotency_keeps _ _ _ _).eq remembered
      obtain ⟨outcomes, audits⟩ := Prod.mk.inj kept
      refine ⟨⟨_, valid⟩, ?_, rfl, rfl, unused, ?_, fact, event, ?_, first, second⟩
      · have there : Store.getRun c.ctx.tenantId c.runId s = .ok (run, s) :=
          Store.find_ok.mpr ⟨known, owned, rfl⟩
        have aim : Store.getGoal c.ctx.tenantId run.goalId s = .ok (goal, s) :=
          Store.find_ok.mpr ⟨aimed, held, rfl⟩
        rw [verdict, Tx.bind_run there, Tx.bind_run aim, listed]
        exact Tx.bind_ok.mpr ⟨items, s, found, Tx.bind_ok.mpr
          ⟨decision, s, Tx.ofExcept_ok.mpr ⟨decides, rfl⟩, rfl⟩⟩
      · rw [outcomes, wrote, same]
      · rw [audits, wrote, same, List.append_assoc]
        rfl

/-- A call changes nothing and inserts no row under a new key, or inserts the row of the Outcome it
records. -/
theorem step_cases (s : OutcomeTable) (c : Call) :
    step s c = s ∧ ¬(s.store.idempotency.get? (c.ctx.tenantId, c.ctx.key "verify_outcome") = none ∧
      ∃ r, verifyOutcome (Sql.repository c.env) c s.store = .ok r) ∨
    ∃ item store, s.store.idempotency.get? (c.ctx.tenantId, c.ctx.key "verify_outcome") = none ∧
      (∃ r, verifyOutcome (Sql.repository c.env) c s.store = .ok r) ∧
      Records c s.store store item ∧
      step s c = ⟨store, s.rows ++ [⟨item, c.env.now 2, c.env.now 1⟩]⟩ := by
  have unchanged (same : ((verifyOutcome (Sql.repository c.env) c).commit s.store).2 = s.store) :
      step s c = s := by
    simp only [step, same]
    cases s.store.outcomes.get? (c.env.uuid 0) <;> rfl
  obtain ⟨e, refused⟩ | ⟨item, store, ran, done⟩ :=
    Tx.commit_cases (verifyOutcome (Sql.repository c.env) c) s.store
  · refine .inl ⟨unchanged (congrArg Prod.snd refused), ?_⟩
    rintro ⟨_, r, ran⟩
    simp only [Tx.commit, ran] at refused
    cases refused
  · obtain ⟨known, same⟩ | ⟨new, item, records⟩ := verifyOutcome_cases ran
    · refine .inl ⟨unchanged (by rw [done, ← same]), ?_⟩
      rintro ⟨new, _⟩
      rw [new] at known
      cases known
    · refine .inr ⟨item, store, new, ⟨_, ran⟩, records, ?_⟩
      have stored : store.outcomes.get? (c.env.uuid 0) = some item := by
        rw [records.outcomes, Dict.get?_set_self]
      simp only [step, done, records.unused, stored]

end

/-! ## Histories -/

section
variable {tenantId : Uuid} {window : Int} {now : Instant} {s : OutcomeTable}

/-- The events of the tenant in the window, by type. -/
def seen (tenantId : Uuid) (window : Int) (now : Instant) (audits : List AuditEvent)
    (eventType : String) : Nat :=
  counted eventType (inWindow (now - window) now (listAuditEvents audits tenantId))

theorem seen_append (audits more : List AuditEvent) (eventType : String) :
    seen tenantId window now (audits ++ more) eventType =
      seen tenantId window now audits eventType + more.countP fun e =>
        decide (e.eventType = eventType) && decide (now - window ≤ e.createdAt.getD now) &&
          decide (e.tenantId = tenantId) := by
  simp only [seen, counted, inWindow, List.countP_filter, counted_filter, List.countP_append]

theorem seen_eq_zero {audits : List AuditEvent} {eventType : String}
    (silent : ∀ e ∈ audits, e.eventType ≠ eventType) :
    seen tenantId window now audits eventType = 0 := by
  have counts : seen tenantId window now ([] ++ audits) eventType = _ := seen_append [] audits eventType
  rw [List.nil_append, List.countP_eq_zero.mpr fun e there => by simp [silent e there]] at counts
  exact counts

/-- The rows are the table, and each has its two events in the log. -/
structure Sound (tenantId : Uuid) (window : Int) (now : Instant) (s : OutcomeTable) : Prop where
  stored : s.store.outcomes.entries = s.rows.map fun row => (row.outcome.outcomeId, row.outcome)
  facts : seen tenantId window now s.store.audits "outcome.recorded" =
    (s.recorded tenantId window now).length
  audits : seen tenantId window now s.store.audits "outcome.verified" =
    s.rows.countP fun row => row.outcome.tenantId = tenantId && now - window ≤ row.auditedAt
  together : ∀ row ∈ s.rows, row.outcome.tenantId = tenantId →
    (now - window ≤ row.createdAt ↔ now - window ≤ row.auditedAt)

theorem Fresh.sound (fresh : s.Fresh) : Sound tenantId window now s where
  stored := by rw [fresh.stored, fresh.rows]; rfl
  facts := by
    rw [seen_eq_zero fun e there => (fresh.silent e there).1, recorded, fresh.rows]
    rfl
  audits := by
    rw [seen_eq_zero fun e there => (fresh.silent e there).2, fresh.rows]
    rfl
  together := by
    rw [fresh.rows]
    intro row there
    cases there

/-- The rate measured is right exactly when all Outcomes recorded in the window are verified. -/
theorem accurate_iff (sound : Sound tenantId window now s) : Accurate tenantId window now s ↔
    ∀ row ∈ s.recorded tenantId window now, row.outcome.status = .verified := by
  have both : (s.rows.countP fun row => row.outcome.tenantId = tenantId &&
      now - window ≤ row.auditedAt) = (s.recorded tenantId window now).length := by
    rw [recorded, ← List.countP_eq_length_filter]
    refine List.countP_congr fun row there => ?_
    simp only [Bool.and_eq_true, decide_eq_true_eq]
    exact and_congr_right fun own => (sound.together row there own).symm
  have facts := sound.facts
  have audits := sound.audits.trans both
  rw [seen] at facts audits
  rw [Accurate, measured_success_rate, facts, audits]
  have all : (∀ row ∈ s.recorded tenantId window now, row.outcome.status = .verified) ↔
      (s.recorded tenantId window now).countP (·.outcome.status = .verified) =
        (s.recorded tenantId window now).length := by
    rw [List.countP_eq_length]
    simp only [decide_eq_true_eq]
  rw [all]
  split
  next positive =>
    have divisor : ((s.recorded tenantId window now).length : Rat) ≠ 0 := by
      exact_mod_cast positive.ne'
    rw [List.cons.injEq, and_iff_left rfl, div_left_inj' divisor, Nat.cast_inj, eq_comm]
  next none =>
    refine iff_of_true rfl ?_
    have empty := List.length_eq_zero_iff.mp (by omega : (s.recorded tenantId window now).length = 0)
    rw [empty]
    rfl

theorem recorded_append (s : OutcomeTable) (store : Store) (row : OutcomeRow) :
    recorded tenantId window now ⟨store, s.rows ++ [row]⟩ = s.recorded tenantId window now ++
      if row.outcome.tenantId = tenantId ∧ now - window ≤ row.createdAt then [row] else [] := by
  simp only [recorded, List.filter_append, List.filter_cons, List.filter_nil, Bool.and_eq_true,
    decide_eq_true_eq]

variable [Sha256] {c : Call} {item : Outcome} {store : Store}

/-- Of the two events of an Outcome, each counts under its own type, if it is in the window. -/
theorem Records.seen (records : Records c s.store store item) (tenantId : Uuid) (window : Int)
    (now : Instant) :
    seen tenantId window now store.audits "outcome.recorded" =
      seen tenantId window now s.store.audits "outcome.recorded" +
        (if item.tenantId = tenantId ∧ now - window ≤ c.env.now 2 then 1 else 0) ∧
    seen tenantId window now store.audits "outcome.verified" =
      seen tenantId window now s.store.audits "outcome.verified" +
        (if item.tenantId = tenantId ∧ now - window ≤ c.env.now 1 then 1 else 0) := by
  obtain ⟨fact, event, audits, first, second⟩ := records.audits
  have facts : fact.eventType = "outcome.recorded" := first.eventType
  have verified : event.eventType = "outcome.verified" := second.eventType
  have own : fact.tenantId = item.tenantId := first.tenantId
  have own' : event.tenantId = item.tenantId := second.tenantId.trans records.tenant.symm
  rw [audits, seen_append, seen_append]
  simp [List.countP_cons, facts, verified, own, own', first.createdAt, second.createdAt,
    and_comm]

theorem Sound.records (sound : Sound tenantId window now s)
    (together : Together tenantId window now s c) (records : Records c s.store store item) :
    Sound tenantId window now ⟨store, s.rows ++ [⟨item, c.env.now 2, c.env.now 1⟩]⟩ := by
  have ⟨facts, audits⟩ := records.seen tenantId window now
  constructor
  · rw [records.outcomes, Dict.entries_set records.unused, sound.stored, List.map_append,
      ← records.drawn]
    rfl
  · rw [facts, sound.facts, recorded_append s store, List.length_append]
    split <;> rfl
  · rw [audits, sound.audits, List.countP_append]
    simp [List.countP_cons]
  · intro row there own
    obtain before | rfl := List.mem_append.mp there |>.imp_right List.mem_singleton.mp
    · exact sound.together row before own
    · exact together (records.tenant ▸ own)

/-- All Outcomes recorded in the window are verified. -/
def AllVerified (tenantId : Uuid) (window : Int) (now : Instant) (s : OutcomeTable) : Prop :=
  ∀ row ∈ s.recorded tenantId window now, row.outcome.status = .verified

theorem Sound.step (sound : Sound tenantId window now s)
    (together : Together tenantId window now s c) : Sound tenantId window now (step s c) := by
  obtain ⟨same, _⟩ | ⟨item, store, _, _, records, same⟩ := step_cases s c
  · rwa [same]
  · rw [same]
    exact sound.records together records

/-- The Outcomes recorded stay verified exactly through the calls on which the verifier decides so. -/
theorem allVerified_step (verified : AllVerified tenantId window now s) :
    AllVerified tenantId window now (step s c) ↔ Verifies tenantId window now s c := by
  obtain ⟨same, nothing⟩ | ⟨item, store, new, accepted, records, same⟩ := step_cases s c
  · rw [same]
    exact iff_of_true verified fun _ _ new accepted => absurd ⟨new, accepted⟩ nothing
  · have decides : (∃ s', verdict c s.store = .ok (.verified, s')) ↔ item.status = .verified := by
      simp only [records.decided, Except.ok.injEq, Prod.mk.injEq, exists_and_left, exists_eq', and_true]
    rw [same, AllVerified, recorded_append s store]
    constructor
    · intro all own within _ _
      rw [decides]
      have inside : item.tenantId = tenantId ∧ now - window ≤ c.env.now 2 :=
        ⟨records.tenant.trans own, within⟩
      exact all ⟨item, c.env.now 2, c.env.now 1⟩
        (List.mem_append_right _ (by rw [if_pos inside]; exact List.mem_singleton_self _))
    · intro verifies row there
      obtain before | added := List.mem_append.mp there
      · exact verified row before
      · split at added
        next inside =>
          cases List.mem_singleton.mp added
          exact decides.mp (verifies (records.tenant.symm.trans inside.1) inside.2 new accepted)
        next => cases added

/-- Where no window begins between the two events of a call, the success rate is right after every
call exactly when the verifier decides `verified` on each call accepted in the window. -/
theorem outcome_success_rate (tenantId : Uuid) (window : Int) (now : Instant) (s : OutcomeTable)
    (calls : List Call) (fresh : s.Fresh)
    (together : Along step (Together tenantId window now) s calls) :
    Along step (fun s c => Accurate tenantId window now (step s c)) s calls ↔
      Along step (Verifies tenantId window now) s calls := by
  refine along_congr (fun (s : OutcomeTable) (c : Call)
      (inv : Sound tenantId window now s ∧ AllVerified tenantId window now s)
      (together : Together tenantId window now s c) => ?_)
    (fun (s : OutcomeTable) (c : Call)
      (inv : Sound tenantId window now s ∧ AllVerified tenantId window now s)
      (together : Together tenantId window now s c) verifies => ?_)
    ⟨fresh.sound, fun row there => ?_⟩ together
  · rw [accurate_iff (inv.1.step together)]
    exact allVerified_step inv.2
  · exact ⟨inv.1.step together, (allVerified_step inv.2).mpr verifies⟩
  · rw [recorded, fresh.rows] at there
    cases there

end

namespace Sample
open Autonoesis.Sample Outcomes.Sample

attribute [local instance] Autonoesis.Sample.sha256

theorem captured_facts :
    (captured.outcomes.entries = [] ∧ ∀ e ∈ captured.audits,
      e.eventType ≠ "outcome.recorded" ∧ e.eventType ≠ "outcome.verified") ∧
    captured.idempotency.get? (early.ctx.tenantId, early.ctx.key "verify_outcome") = none ∧
    (verifyOutcome (Sql.repository early.env) early captured).isOk ∧
    (verdict early captured).toOption.map (·.1) = some .unknown ∧
    (verdict verification captured).toOption.map (·.1) = some .verified := by
  decide +kernel

theorem fresh_of {store : Store} (none : store.outcomes.entries = [])
    (silent : ∀ e ∈ store.audits, e.eventType ≠ "outcome.recorded" ∧
      e.eventType ≠ "outcome.verified") : Fresh ⟨store, []⟩ := ⟨rfl, none, silent⟩

theorem verdict_of {store : Store} {c : Call} {status : OutcomeStatus}
    (decided : (verdict c store).toOption.map (·.1) = some status) :
    ∃ s', verdict c store = .ok (status, s') := by
  cases result : verdict c store with
  | error e =>
    rw [result] at decided
    cases decided
  | ok r =>
    rw [result] at decided
    cases Option.some.inj decided
    exact ⟨r.2, rfl⟩

theorem verifies_of {store : Store} {c : Call}
    (decided : (verdict c store).toOption.map (·.1) = some .verified) :
    Verifies 1 100 10 ⟨store, []⟩ c :=
  fun _ _ _ _ => verdict_of decided

/-- A first Outcome that is not verified makes the rate wrong. -/
theorem wrong_of {store : Store} {c : Call} (fresh : Fresh ⟨store, []⟩)
    (together : Together 1 100 10 ⟨store, []⟩ c) (own : c.ctx.tenantId = 1)
    (within : (10 - 100 : Int) ≤ c.env.now 2)
    (new : store.idempotency.get? (c.ctx.tenantId, c.ctx.key "verify_outcome") = none)
    (accepted : (verifyOutcome (Sql.repository c.env) c store).isOk)
    (unknown : (verdict c store).toOption.map (·.1) = some .unknown) :
    ¬Accurate 1 100 10 (step ⟨store, []⟩ c) := by
  intro accurate
  have sound : Sound 1 100 10 ⟨store, []⟩ := fresh.sound
  have verifies := (allVerified_step fun row there => by cases there).mp
    ((accurate_iff (sound.step together)).mp accurate)
  have ran : ∃ r, verifyOutcome (Sql.repository c.env) c store = .ok r := by
    cases result : verifyOutcome (Sql.repository c.env) c store with
    | ok r => exact ⟨r, rfl⟩
    | error e =>
      rw [result] at accepted
      cases accepted
  obtain ⟨_, decided⟩ := verifies own within new ran
  obtain ⟨_, decided'⟩ := verdict_of unknown
  cases decided.symm.trans decided'

/-- A verification without evidence, decided as unknown. -/
theorem unknown_counted : ¬∀ (tenantId : Uuid) (window : Int) (now : Instant) (s : OutcomeTable)
    (calls : List Call), s.Fresh → Along step (Together tenantId window now) s calls →
      Along step (fun s c => Accurate tenantId window now (step s c)) s calls := by
  intro right
  obtain ⟨⟨none, silent⟩, new, accepted, unknown, _⟩ := captured_facts
  have fresh := fresh_of none silent
  have together : Together 1 100 10 ⟨captured, []⟩ early := fun _ => Iff.rfl
  have accurate := (right 1 100 10 ⟨captured, []⟩ [early] fresh ⟨together, trivial⟩).1
  exact wrong_of fresh together rfl (by decide) new accepted unknown accurate

theorem verified_counted :
    Along step (fun s c => Accurate 1 100 10 (step s c)) ⟨captured, []⟩ [verification] := by
  obtain ⟨⟨none, silent⟩, _, _, _, verified⟩ := captured_facts
  have together : Together 1 100 10 ⟨captured, []⟩ verification := fun _ => Iff.rfl
  exact (outcome_success_rate 1 100 10 ⟨captured, []⟩ [verification] (fresh_of none silent)
    ⟨together, trivial⟩).mpr ⟨verifies_of verified, trivial⟩

end Sample

end OutcomeTable

end Autonoesis.Observability
