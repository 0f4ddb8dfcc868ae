import Autonoesis.Application.Writes

/-!
# What becomes of a Run that is done

`complete_run` counts criteria in three sets and then takes any outcome that was not met for a
failure, whatever criterion it belongs to and whether the criterion was verified since.
-/

namespace Autonoesis
open Base

namespace App

/-- Some outcome of the list says so about the criterion. -/
def Says (outcomes : List Outcome) (status : OutcomeStatus) (c : SuccessCriterion) : Prop :=
  ∃ o ∈ outcomes, o.status = status ∧ o.criterionId = c.criterionId

/-- What a Run is to become by its outcomes: it succeeds exactly when each criterion is verified,
it fails only for a criterion that was not met and is not verified, and else it waits. -/
structure Verdict (goal : GoalContract) (outcomes : List Outcome) (status : RunStatus) : Prop where
  succeeds : status = .succeeded ↔ ∀ c ∈ goal.successCriteria, Says outcomes .verified c
  fails : status = .failed → ∃ c ∈ goal.successCriteria, Says outcomes .notMet c ∧
    ¬Says outcomes .verified c
  waits : status = .succeeded ∨ status = .failed ∨ status = .awaitingEvidence

/-- Every criterion has an outcome, but one has none that is verified, and all that was not met is
verified or about no criterion. -/
def Overruled (goal : GoalContract) (outcomes : List Outcome) : Prop :=
  (∀ c ∈ goal.successCriteria, ∃ o ∈ outcomes, o.criterionId = c.criterionId) ∧
  (∃ c ∈ goal.successCriteria, ¬Says outcomes .verified c) ∧
  (∃ o ∈ outcomes, o.status = .notMet) ∧
  ∀ c ∈ goal.successCriteria, Says outcomes .notMet c → Says outcomes .verified c

variable {goal : GoalContract} {outcomes : List Outcome}

theorem completionTarget_cases (goal : GoalContract) (outcomes : List Outcome) :
    (completionTarget goal outcomes).1 = .succeeded ∧
      (∀ c ∈ goal.successCriteria, Says outcomes .verified c) ∨
    (completionTarget goal outcomes).1 = .failed ∧
      (∃ c ∈ goal.successCriteria, ¬Says outcomes .verified c) ∧
      (∀ c ∈ goal.successCriteria, ∃ o ∈ outcomes, o.criterionId = c.criterionId) ∧
      (∃ o ∈ outcomes, o.status = .notMet) ∨
    (completionTarget goal outcomes).1 = .awaitingEvidence ∧
      (∃ c ∈ goal.successCriteria, ¬Says outcomes .verified c) ∧
      ¬((∀ c ∈ goal.successCriteria, ∃ o ∈ outcomes, o.criterionId = c.criterionId) ∧
        ∃ o ∈ outcomes, o.status = .notMet) := by
  have verified : ((goal.successCriteria.map (·.criterionId)).all fun c =>
      decide (c ∈ criteriaOf outcomes (fun o => o.status = .verified))) = true ↔
      ∀ c ∈ goal.successCriteria, Says outcomes .verified c := by
    simp only [List.all_map, List.all_eq_true, Function.comp_apply, decide_eq_true_eq,
      mem_criteriaOf, Says]
  have observed : ((goal.successCriteria.map (·.criterionId)).all fun c =>
      decide (c ∈ criteriaOf outcomes (fun _ => true))) = true ↔
      ∀ c ∈ goal.successCriteria, ∃ o ∈ outcomes, o.criterionId = c.criterionId := by
    simp only [List.all_map, List.all_eq_true, Function.comp_apply, decide_eq_true_eq,
      mem_criteriaOf, true_and]
  have unmet : (outcomes.any fun o => o.status = .notMet) = true ↔
      ∃ o ∈ outcomes, o.status = .notMet := by
    simp only [List.any_eq_true, decide_eq_true_eq]
  unfold completionTarget
  by_cases all : ∀ c ∈ goal.successCriteria, Says outcomes .verified c
  · exact .inl ⟨by rw [if_pos (verified.mpr all)], all⟩
  · have missing : ∃ c ∈ goal.successCriteria, ¬Says outcomes .verified c := by
      simpa using all
    rw [if_neg fun h => all (verified.mp h)]
    by_cases failing : (∀ c ∈ goal.successCriteria, ∃ o ∈ outcomes,
        o.criterionId = c.criterionId) ∧ ∃ o ∈ outcomes, o.status = .notMet
    · refine .inr (.inl ⟨?_, missing, failing⟩)
      rw [if_pos (Bool.and_eq_true_iff.mpr ⟨observed.mpr failing.1, unmet.mpr failing.2⟩)]
    · refine .inr (.inr ⟨?_, missing, failing⟩)
      rw [if_neg fun h => failing ?_]
      have both := Bool.and_eq_true_iff.mp h
      exact ⟨observed.mp both.1, unmet.mp both.2⟩

/-- The decision is the right one unless all that was not met is overruled. -/
theorem verdict_iff (goal : GoalContract) (outcomes : List Outcome) :
    Verdict goal outcomes (completionTarget goal outcomes).1 ↔ ¬Overruled goal outcomes := by
  obtain ⟨target, all⟩ | ⟨target, ⟨c, there, missing⟩, failing⟩ |
    ⟨target, ⟨c, there, missing⟩, open_⟩ := completionTarget_cases goal outcomes
  · rw [target]
    refine iff_of_true ⟨iff_of_true rfl all, nofun, .inl rfl⟩ ?_
    rintro ⟨_, ⟨c, there, missing⟩, _⟩
    exact missing (all c there)
  · rw [target]
    have unfinished : ¬∀ c ∈ goal.successCriteria, Says outcomes .verified c :=
      fun all => missing (all c there)
    constructor
    · rintro ⟨_, fails, _⟩ ⟨_, _, _, overruled⟩
      obtain ⟨c, there, unmet, unverified⟩ := fails rfl
      exact unverified (overruled c there unmet)
    · intro standing
      refine ⟨iff_of_false nofun unfinished, fun _ => ?_, .inr (.inl rfl)⟩
      by_contra none
      refine standing ⟨failing.1, ⟨c, there, missing⟩, failing.2, fun c there unmet => ?_⟩
      by_contra unverified
      exact none ⟨c, there, unmet, unverified⟩
  · rw [target]
    have unfinished : ¬∀ c ∈ goal.successCriteria, Says outcomes .verified c :=
      fun all => missing (all c there)
    refine iff_of_true ⟨iff_of_false nofun unfinished, nofun, .inr (.inr rfl)⟩ ?_
    rintro ⟨observed, _, unmet, _⟩
    exact open_ ⟨observed, unmet⟩

/-! ## The command -/

/-- The outcomes that are stored for a Run of the tenant. -/
def outcomesOf (s : Store) (tenantId runId : Uuid) : List Outcome :=
  s.outcomes.values.filter fun o => o.tenantId = tenantId && o.runId = runId

/-- A Run in the store that runs or awaits evidence, with its Goal; all it had to do has succeeded,
and an operator asks for its completion, under a key that is new or was used for just that. -/
structure Completable (s : Store) (ctx : CommandContext) (run : Run) (goal : GoalContract) :
    Prop where
  role : roleCheck ctx operators = .ok ()
  bound : ∀ old, s.idempotency.get? (ctx.tenantId, ctx.key "complete_run") = some old →
    old = run.runId ∧
      s.idempotencyDigests.get? (ctx.tenantId, ctx.key "complete_run") = some ctx.requestDigest
  digested : ∀ d, s.idempotencyDigests.get? (ctx.tenantId, ctx.key "complete_run") = some d →
    d = ctx.requestDigest
  audited : s.Audited
  there : s.runs.get? run.runId = some run
  tenant : run.tenantId = ctx.tenantId
  ready : run.status = .running ∨ run.status = .awaitingEvidence
  aim : s.goals.get? run.goalId = some goal
  owned : goal.tenantId = ctx.tenantId
  tasks : ∀ t ∈ s.tasks.values, t.tenantId = ctx.tenantId → t.runId = run.runId →
    t.status = .succeeded
  actions : ∀ a ∈ s.actions.values, a.tenantId = ctx.tenantId → a.runId = run.runId →
    a.status = .succeeded

/-- The Run the command returns and leaves in the store, as the outcomes decide. -/
def Completes [Sha256] (s : Store) (ctx : CommandContext) (run : Run) (env : Env)
    (status : RunStatus) : Prop :=
  ∃ run' s', completeRun env ctx run.runId s = .ok (run', s') ∧
    s'.runs.get? run.runId = some run' ∧ run'.status = status

section
variable {s : Store} {ctx : CommandContext} {run : Run}

theorem completedRun_moves {target : RunStatus} {reason : String} (actorId : Uuid) (now : Instant)
    (legal : target ∈ runTransitions run.status) (halts : target ≠ .running)
    (shown : isBlank reason = false) :
    ∃ run', run.transitionTo target actorId reason now = .ok run' ∧ run'.status = target ∧
      run'.runId = run.runId ∧ run'.tenantId = run.tenantId := by
  refine ⟨_, bind_eq_ok.mpr ⟨(), requireTransition_ok.mpr legal, bind_eq_ok.mpr ⟨(), ?_,
    bind_eq_ok.mpr ⟨_, transitionRecord_ok.mpr ⟨shown, rfl⟩, rfl⟩⟩⟩, rfl, rfl, rfl⟩
  simp [halts]

theorem completionTarget_shown (goal : GoalContract) (outcomes : List Outcome) :
    isBlank (completionTarget goal outcomes).2 = false := by
  simp only [completionTarget]
  split
  · decide
  · split <;> decide

theorem completionTarget_legal (run : Run) (goal : GoalContract) (outcomes : List Outcome)
    (ready : run.status = .running ∨ run.status = .awaitingEvidence)
    (moves : run.status ≠ (completionTarget goal outcomes).1) :
    (completionTarget goal outcomes).1 ∈ runTransitions run.status := by
  obtain ⟨target, _⟩ | ⟨target, _⟩ | ⟨target, _⟩ := completionTarget_cases goal outcomes
  all_goals
    rw [target] at moves ⊢
    obtain status | status := ready
    all_goals
      rw [status] at moves ⊢
      first
        | decide
        | exact absurd rfl moves

namespace Completable

theorem cached (completable : Completable s ctx run goal) :
    cachedRun ctx (ctx.key "complete_run") run.runId s = .ok (run, s) := by
  refine Tx.bind_ok.mpr ⟨s.idempotency.get? (ctx.tenantId, ctx.key "complete_run"), s, ?_, ?_⟩
  · exact loadIdempotency_returns.mpr ⟨completable.digested, rfl⟩
  · cases used : s.idempotency.get? (ctx.tenantId, ctx.key "complete_run") with
    | none => exact Store.find_ok.mpr ⟨completable.there, completable.tenant, rfl⟩
    | some old =>
      obtain ⟨rfl, _⟩ := completable.bound old used
      exact Store.find_ok.mpr ⟨completable.there, completable.tenant, rfl⟩

theorem remembers (completable : Completable s ctx run goal) (s' : Store)
    (same : s'.idempotency = s.idempotency)
    (digests : s'.idempotencyDigests = s.idempotencyDigests) :
    remember ctx (ctx.key "complete_run") run.runId s' = .ok ((), { s' with
      idempotency := s'.idempotency.set (ctx.tenantId, ctx.key "complete_run") run.runId
      idempotencyDigests := s'.idempotencyDigests.set (ctx.tenantId, ctx.key "complete_run")
        ctx.requestDigest }) := by
  refine Store.putIdempotency_ok.mpr ⟨fun old used => ?_, rfl⟩
  rw [same] at used
  rw [digests]
  exact completable.bound old used

theorem settled (completable : Completable s ctx run goal) :
    ((s.tasks.values.filter fun t => t.tenantId = ctx.tenantId &&
        t.runId = run.runId).any (fun t => t.status ≠ .succeeded) ||
      (s.actions.values.filter fun a => a.tenantId = ctx.tenantId &&
        a.runId = run.runId).any (fun a => a.status ≠ .succeeded)) = false := by
  simp only [Bool.or_eq_false_iff, List.any_eq_false, List.mem_filter, Bool.and_eq_true,
    decide_eq_true_eq, not_not, and_imp]
  exact ⟨completable.tasks, completable.actions⟩

/-- The command comes to act on what the outcomes decide. -/
theorem decides [Sha256] (completable : Completable s ctx run goal) (env : Env) :
    completeRun env ctx run.runId s =
      (let decided := completionTarget goal (outcomesOf s ctx.tenantId run.runId)
      if run.status = decided.1 then do
        remember ctx (ctx.key "complete_run") run.runId
        return run
      else do
        let updated ← Tx.ofExcept
          (run.transitionTo decided.1 ctx.identity.actorId decided.2 (env.now 0))
        Store.saveRun updated run.optimisticVersion
          (ctx.audit ("run." ++ decided.1.value) updated.auditItem (env.uuid 0)) (env.now 1)
        remember ctx (ctx.key "complete_run") updated.runId
        return updated) s := by
  have open_ : ¬(run.status = .succeeded || run.status = .failed : Bool) = true := by
    obtain status | status := completable.ready <;> simp [status]
  have live : (run.status ≠ .running && run.status ≠ .awaitingEvidence : Bool) = false := by
    obtain status | status := completable.ready <;> simp [status]
  have allowed : requireAny ctx operators s = .ok ((), s) :=
    Tx.ofExcept_ok.mpr ⟨completable.role, rfl⟩
  have ready : Tx.check (run.status ≠ .running && run.status ≠ .awaitingEvidence)
      (Exc.valueError "Run is not ready for completion evaluation") s = .ok ((), s) :=
    Tx.check_ok.mpr ⟨live, rfl⟩
  have aim : Store.getGoal ctx.tenantId run.goalId s = .ok (goal, s) :=
    Store.find_ok.mpr ⟨completable.aim, completable.owned, rfl⟩
  have succeeded : Tx.check _ (Exc.valueError
      "Run tasks and Actions must succeed before completion") s = .ok ((), s) :=
    Tx.check_ok.mpr ⟨completable.settled, rfl⟩
  have tasks : Store.listTasks ctx.tenantId run.runId s = .ok (_, s) := rfl
  have actions : Store.listActions ctx.tenantId run.runId s = .ok (_, s) := rfl
  have outcomes : Store.listOutcomes ctx.tenantId run.runId s =
      .ok (outcomesOf s ctx.tenantId run.runId, s) := rfl
  rw [completeRun, Tx.bind_run allowed, Tx.bind_run completable.cached, if_neg open_,
    Tx.bind_run ready, Tx.bind_run aim, Tx.bind_run tasks, Tx.bind_run actions,
    Tx.bind_run outcomes, Tx.bind_run succeeded]

end Completable

/-- The command returns what the outcomes decide. -/
theorem completeRun_returns [Sha256] (completable : Completable s ctx run goal) (env : Env) :
    Completes s ctx run env
      (completionTarget goal (outcomesOf s ctx.tenantId run.runId)).1 := by
  unfold Completes
  rw [completable.decides env]
  generalize names : completionTarget goal (outcomesOf s ctx.tenantId run.runId) = decided
  by_cases same : run.status = decided.1
  · refine ⟨run, { s with
      idempotency := s.idempotency.set (ctx.tenantId, ctx.key "complete_run") run.runId
      idempotencyDigests := s.idempotencyDigests.set (ctx.tenantId, ctx.key "complete_run")
        ctx.requestDigest }, ?_, completable.there, same⟩
    simp only [if_pos same]
    rw [Tx.bind_run (completable.remembers _ rfl rfl)]
    rfl
  · obtain ⟨run', moved, status, named, tenant⟩ := completedRun_moves ctx.identity.actorId
      (env.now 0) (names ▸ completionTarget_legal run goal _ completable.ready (names ▸ same))
      (names ▸ completionTarget_halts goal _) (names ▸ completionTarget_shown goal _)
    obtain ⟨events, logged⟩ := Store.recordAudit_returns (s := { s with
      runs := s.runs.set run'.runId run' }) completable.audited
      (ctx.audit ("run." ++ decided.1.value) run'.auditItem (env.uuid 0)) (env.now 1)
    have saved : Store.saveRun run' run.optimisticVersion
        (ctx.audit ("run." ++ decided.1.value) run'.auditItem (env.uuid 0)) (env.now 1) s =
        .ok ((), { s with runs := s.runs.set run'.runId run', audits := events }) := by
      have stored : Store.getRun run'.tenantId run'.runId s = .ok (run, s) :=
        Store.find_ok.mpr ⟨named ▸ completable.there, tenant.symm, rfl⟩
      have version : Tx.check (run.optimisticVersion ≠ run.optimisticVersion)
          (Exc.concurrencyConflict "run optimistic version changed") s = .ok ((), s) :=
        Tx.check_ok.mpr ⟨by simp, rfl⟩
      rw [Store.saveRun, Tx.bind_run stored, Tx.bind_run version]
      exact logged
    have transition : Tx.ofExcept (run.transitionTo decided.1 ctx.identity.actorId decided.2
        (env.now 0)) s = .ok (run', s) :=
      Tx.ofExcept_ok.mpr ⟨moved, rfl⟩
    refine ⟨run', { s with
      runs := s.runs.set run'.runId run'
      audits := events
      idempotency := s.idempotency.set (ctx.tenantId, ctx.key "complete_run") run.runId
      idempotencyDigests := s.idempotencyDigests.set (ctx.tenantId, ctx.key "complete_run")
        ctx.requestDigest }, ?_, ?_, status⟩
    · have remembered := completable.remembers { s with
        runs := s.runs.set run.runId run'
        audits := events } rfl rfl
      simp only [if_neg same]
      rw [Tx.bind_run transition, Tx.bind_run saved, named, Tx.bind_run remembered]
      rfl
    · rw [named]
      exact Dict.get?_set_self _ _ _

theorem Completes.unique [Sha256] {env : Env} {status status' : RunStatus}
    (one : Completes s ctx run env status) (other : Completes s ctx run env status') :
    status = status' := by
  obtain ⟨run', s', returned, _, rfl⟩ := one
  obtain ⟨run'', s'', same, _, rfl⟩ := other
  rw [returned] at same
  cases same
  rfl

/-- The command settles the Run as it should unless all that was not met is overruled. -/
theorem completeRun_verdict_iff [Sha256] (completable : Completable s ctx run goal) (env : Env) :
    (∃ status, Completes s ctx run env status ∧
      Verdict goal (outcomesOf s ctx.tenantId run.runId) status) ↔
    ¬Overruled goal (outcomesOf s ctx.tenantId run.runId) := by
  have returns := completeRun_returns completable env
  rw [← verdict_iff]
  constructor
  · rintro ⟨status, completes, verdict⟩
    rwa [returns.unique completes]
  · intro verdict
    exact ⟨_, returns, verdict⟩

end

namespace Sample
open Autonoesis.Sample (sha256 context env)

/-- A Goal with two criteria. -/
def twofold : GoalContract where
  tenantId := 1
  goalType := "notify"
  statement := "notify ops"
  desiredOutcome := "ops are notified"
  subjectRefs := [⟨"mail", "mailbox", "ops", none⟩]
  successCriteria := [⟨"delivered", "the mail is delivered", "readback"⟩,
    ⟨"read", "the mail is read", "readback"⟩]
  constraints := []
  ownerId := 5
  riskTier := .low
  budgetLimit := ⟨10, .costUnits⟩
  deadline := 1000
  inputPayload := ⟨"\x7b\x7d", JsonObject.empty_valid⟩
  goalId := 16
  createdAt := 10
  valid := by decide

def running : Run where
  tenantId := 1
  goalId := 16
  agentVersionId := 7
  runId := 32
  createdAt := 10
  status := .running
  valid := by decide

def readback : Evidence where
  tenantId := 1
  runId := 32
  actionId := 64
  source := "mailserver"
  sourceIdentity := "imap"
  captureMethod := .authoritativeReadback
  reference := "msg-7"
  observedState := "delivered"
  contentDigest := "373e0712c83cffe15ff427b60e788b549f82496fe5fd5391f7921832b04c6b20"
  classification := .internal
  validFrom := 10
  validUntil := 500
  integrity := .verified
  evidenceId := 80
  capturedAt := 10
  valid := by decide +kernel

/-- The mail was not delivered at first. -/
def undelivered : Outcome where
  tenantId := 1
  goalId := 16
  runId := 32
  criterionId := "delivered"
  verifierVersion := "trusted-v1"
  status := .notMet
  evidence := [readback]
  outcomeId := 101
  verifiedAt := some 20
  valid := by decide

def delivered : Outcome where
  toOutcomeFields := { undelivered.toOutcomeFields with status := .verified, outcomeId := 102 }
  valid := by decide

/-- Nothing can be said of whether it was read. -/
def unread : Outcome where
  toOutcomeFields := { undelivered.toOutcomeFields with
    criterionId := "read", status := .unknown, evidence := [], outcomeId := 103 }
  valid := by decide

def seen : Outcome where
  toOutcomeFields := { delivered.toOutcomeFields with criterionId := "read", outcomeId := 104 }
  valid := by decide

/-- The store in which the Run has these outcomes. -/
def site (outcomes : List Outcome) : Store where
  goals := Dict.empty.set 16 twofold
  runs := Dict.empty.set 32 running
  outcomes := outcomes.foldl (fun stored o => stored.set o.outcomeId o) Dict.empty

theorem site_completable (outcomes : List Outcome) :
    Completable (site outcomes) (context "finish-1" (by decide)) running twofold where
  role := by decide
  bound := fun _ used => by cases used
  digested := fun _ used => by cases used
  audited := fun _ listed => by cases listed
  there := rfl
  tenant := rfl
  ready := .inl rfl
  aim := rfl
  owned := rfl
  tasks := fun _ listed => by cases listed
  actions := fun _ listed => by cases listed

theorem completeRun_verified : let _ := sha256
    ∃ status, Completes (site [undelivered, delivered, seen]) (context "finish-1" (by decide))
      running (env 114) status ∧
    Verdict twofold (outcomesOf (site [undelivered, delivered, seen]) 1 32) status := by
  let _ := sha256
  refine (completeRun_verdict_iff (site_completable _) (env 114)).mpr ?_
  rintro ⟨_, ⟨c, there, missing⟩, _⟩
  refine missing ?_
  have each : ∀ c ∈ twofold.successCriteria,
      ∃ o ∈ outcomesOf (site [undelivered, delivered, seen]) 1 32,
        o.status = .verified ∧ o.criterionId = c.criterionId := by
    decide
  exact each c there

/-- The Run fails for a delivery that was verified since. -/
theorem completeRun_overruled : let _ := sha256
    Completable (site [undelivered, delivered, unread]) (context "finish-1" (by decide)) running
      twofold ∧
    ¬∃ status, Completes (site [undelivered, delivered, unread])
      (context "finish-1" (by decide)) running (env 114) status ∧
      Verdict twofold (outcomesOf (site [undelivered, delivered, unread]) 1 32) status := by
  let _ := sha256
  have completable := site_completable [undelivered, delivered, unread]
  refine ⟨completable, ?_⟩
  rintro ⟨status, completes, verdict⟩
  have failed : (completionTarget twofold
      (outcomesOf (site [undelivered, delivered, unread]) 1 32)).1 = .failed := by
    decide
  have returns := completeRun_returns completable (env 114)
  obtain ⟨c, there, ⟨o, listed, unmet, about⟩, unverified⟩ :=
    verdict.fails ((completes.unique returns).trans failed)
  have superseded : ∀ o ∈ outcomesOf (site [undelivered, delivered, unread]) 1 32,
      o.status = .notMet → ∃ o' ∈ outcomesOf (site [undelivered, delivered, unread]) 1 32,
        o'.status = .verified ∧ o'.criterionId = o.criterionId := by
    decide
  obtain ⟨o', later, verified, same⟩ := superseded o listed unmet
  exact unverified ⟨o', later, verified, same.trans about⟩

end Sample

end App

end Autonoesis
