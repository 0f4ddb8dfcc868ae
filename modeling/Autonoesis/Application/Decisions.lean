import Autonoesis.Application.Writes

/-!
# What is recorded of a verified criterion

`verify_outcome` submits all the evidence of a command to the verifier and to the Outcome. The
verifier passes over what is not a verified and current readback; a verified Outcome does not.
-/

namespace Autonoesis
open Base

namespace App

/-- Evidence that a verified Outcome can be built on at this time. -/
def Current (at_ : Instant) (e : Evidence) : Prop :=
  e.integrity = .verified ∧ e.validFrom ≤ at_ ∧ at_ ≤ e.validUntil

/-- The Outcome that is built of what the verifier decided on the evidence. -/
def decidedOutcome (ctx : CommandContext) (goal : GoalContract) (run : Run)
    (criterion : SuccessCriterion) (items : List Evidence) (outcomeId : Uuid)
    (decision : OutcomeVerificationDecision) : OutcomeFields where
  tenantId := ctx.tenantId
  goalId := goal.goalId
  runId := run.runId
  criterionId := criterion.criterionId
  verifierVersion := decision.verifierVersion
  status := decision.status
  evidence := items
  outcomeId := outcomeId
  verifiedAt := some decision.verifiedAt

/-- Distinct evidence of a Run in the store, which an operator submits under a new key for a
criterion of the Goal, where a verifier is configured. -/
structure Submitted (s : Store) (ports : Ports) (ctx : CommandContext) (run : Run)
    (goal : GoalContract) (criterion : SuccessCriterion) (items : List Evidence) : Prop where
  role : roleCheck ctx operators = .ok ()
  readback : ports.authoritativeReadbackConfigured = true
  artifacts : ports.evidenceArtifactsConfigured = true
  unbound : s.idempotency.get? (ctx.tenantId, ctx.key "verify_outcome") = none
  digested : ∀ d, s.idempotencyDigests.get? (ctx.tenantId, ctx.key "verify_outcome") = some d →
    d = ctx.requestDigest
  audited : s.Audited
  there : s.runs.get? run.runId = some run
  tenant : run.tenantId = ctx.tenantId
  aim : s.goals.get? run.goalId = some goal
  owned : goal.tenantId = ctx.tenantId
  listed : goal.successCriteria.find? (·.criterionId = criterion.criterionId) = some criterion
  named : isBlank criterion.criterionId = false
  stored : ∀ e ∈ items, s.evidence.get? e.evidenceId = some e ∧ e.tenantId = ctx.tenantId ∧
    e.runId = run.runId
  distinct : (items.map (·.evidenceId)).Nodup

section
variable {s : Store} {ports : Ports} {ctx : CommandContext} {run : Run}
  {goal : GoalContract} {criterion : SuccessCriterion} {items : List Evidence}

/-- The Outcome can be built exactly when all that was submitted is current. -/
theorem decidedOutcome_check (submitted : Submitted s ports ctx run goal criterion items)
    (some_ : items ≠ []) (outcomeId : Uuid) (at_ : Instant) :
    (decidedOutcome ctx goal run criterion items outcomeId
      ⟨.verified, TrustedOutcomeVerifier.version, at_⟩).check = .ok () ↔
    ∀ e ∈ items, Current at_ e := by
  have version : isBlank TrustedOutcomeVerifier.version = false := by decide +kernel
  simp only [OutcomeFields.check, decidedOutcome, bind_eq_ok, checks_cons, checks_nil, if_true]
  constructor
  · rintro ⟨_, _, each⟩ e there
    have item := forM_eq_ok.mp each e there
    simp only [OutcomeFields.checkEvidence, checks_cons, checks_nil, Bool.or_eq_false_iff,
      decide_eq_false_iff_not, not_not, Bool.not_eq_false', Bool.and_eq_true,
      decide_eq_true_eq] at item
    obtain ⟨_, integrity, ⟨since, until_⟩, _⟩ := item
    exact ⟨integrity, since, until_⟩
  · intro current
    refine ⟨(), ⟨by simp [submitted.named, version], by simp [submitted.distinct],
      by simp [some_], by simp, trivial⟩, forM_eq_ok.mpr fun e there => ?_⟩
    obtain ⟨integrity, since, until_⟩ := current e there
    obtain ⟨_, tenant, own⟩ := submitted.stored e there
    simp [OutcomeFields.checkEvidence, integrity, since, until_, tenant, own]

namespace Submitted

theorem loads (submitted : Submitted s ports ctx run goal criterion items) :
    loadIdempotency ctx (ctx.key "verify_outcome") s = .ok (none, s) := by
  refine loadIdempotency_returns.mpr ⟨submitted.digested, ?_⟩
  rw [submitted.unbound]

theorem fetches (submitted : Submitted s ports ctx run goal criterion items) :
    (items.map (·.evidenceId)).mapM (Store.getEvidence ctx.tenantId) s = .ok (items, s) := by
  refine Tx.mapM_keys_returns fun e listed => ?_
  obtain ⟨stored, tenant, _⟩ := submitted.stored e listed
  exact Store.find_ok.mpr ⟨stored, tenant, rfl⟩

end Submitted

variable [Sha256]

/-- What the trusted verifier decides of the evidence now. -/
def decision (ports : Ports) (ctx : CommandContext) (goal : GoalContract)
    (criterion : SuccessCriterion) (items : List Evidence) (now : Instant) :
    Except Exc OutcomeVerificationDecision :=
  TrustedOutcomeVerifier.verify ports.evidence ctx.tenantId goal.subjectRefs criterion items now

/-- The command returns a verified Outcome and leaves it in the store. -/
def RecordsVerified (s : Store) (ports : Ports) (ctx : CommandContext) (run : Run)
    (criterion : SuccessCriterion) (items : List Evidence) (env : Env) : Prop :=
  ∃ outcome s', verifyOutcome ports env ctx run.runId criterion.criterionId
      (items.map (·.evidenceId)) s = .ok (outcome, s') ∧
    s'.outcomes.get? outcome.outcomeId = some outcome ∧ outcome.status = .verified

theorem decision_nonempty {now : Instant} {version : String} {at_ : Instant}
    (verified : decision ports ctx goal criterion items now = .ok ⟨.verified, version, at_⟩) :
    items ≠ [] ∧ version = TrustedOutcomeVerifier.version ∧ at_ = now := by
  obtain ⟨status, decided, made⟩ := bind_eq_ok.mp verified
  cases made
  refine ⟨?_, rfl, rfl⟩
  rintro rfl
  cases decided

namespace Submitted

/-- The command comes to build the Outcome of what the verifier decided. -/
theorem decides (submitted : Submitted s ports ctx run goal criterion items) (env : Env)
    {decided : OutcomeVerificationDecision}
    (verified : decision ports ctx goal criterion items (env.now 0) = .ok decided) :
    verifyOutcome ports env ctx run.runId criterion.criterionId (items.map (·.evidenceId)) s =
      (do
        let outcome ← Tx.ofExcept (Outcome.make
          (decidedOutcome ctx goal run criterion items (env.uuid 0) decided))
        Store.addOutcome outcome
        audit ctx "outcome.verified" outcome.auditItem (env.uuid 1) (env.now 1)
        remember ctx (ctx.key "verify_outcome") outcome.outcomeId
        return outcome) s := by
  have allowed : requireAny ctx operators s = .ok ((), s) :=
    Tx.ofExcept_ok.mpr ⟨submitted.role, rfl⟩
  have configured : Tx.check
      (!(ports.authoritativeReadbackConfigured && ports.evidenceArtifactsConfigured))
      (Exc.runtimeError "trusted Outcome verification is not configured") s = .ok ((), s) :=
    Tx.check_ok.mpr ⟨by simp [submitted.readback, submitted.artifacts], rfl⟩
  have there : Store.getRun ctx.tenantId run.runId s = .ok (run, s) :=
    Store.find_ok.mpr ⟨submitted.there, submitted.tenant, rfl⟩
  have aim : Store.getGoal ctx.tenantId run.goalId s = .ok (goal, s) :=
    Store.find_ok.mpr ⟨submitted.aim, submitted.owned, rfl⟩
  have own : Tx.check (items.any fun e => e.runId ≠ run.runId)
      (Exc.valueError "Outcome Evidence must belong to the verified Run") s = .ok ((), s) := by
    refine Tx.check_ok.mpr ⟨?_, rfl⟩
    simp only [List.any_eq_false, decide_eq_true_eq, not_not]
    exact fun e listed => (submitted.stored e listed).2.2
  have decided : Tx.ofExcept (TrustedOutcomeVerifier.verify ports.evidence ctx.tenantId
      goal.subjectRefs criterion items (env.now 0)) s = .ok (decided, s) :=
    Tx.ofExcept_ok.mpr ⟨verified, rfl⟩
  rw [verifyOutcome, Tx.bind_run allowed, Tx.bind_run configured, Tx.bind_run submitted.loads]
  dsimp only
  rw [Tx.bind_run there, Tx.bind_run aim, submitted.listed]
  dsimp only
  rw [Tx.bind_run submitted.fetches, Tx.bind_run own, Tx.bind_run decided]
  rfl

end Submitted

/-- What the verifier decides is recorded, if the Outcome can be built. -/
theorem decided_returns (submitted : Submitted s ports ctx run goal criterion items) {env : Env}
    {decided : OutcomeVerificationDecision}
    (verified : decision ports ctx goal criterion items (env.now 0) = .ok decided)
    (valid : (decidedOutcome ctx goal run criterion items (env.uuid 0) decided).check = .ok ()) :
    ∃ s', verifyOutcome ports env ctx run.runId criterion.criterionId
        (items.map (·.evidenceId)) s = .ok (⟨_, valid⟩, s') ∧
      s'.outcomes.get? (env.uuid 0) = some ⟨_, valid⟩ := by
  let outcome : Outcome := ⟨_, valid⟩
  let added : Store := { s with outcomes := s.outcomes.set (env.uuid 0) outcome }
  have builds : Tx.ofExcept (Outcome.make (decidedOutcome ctx goal run criterion items
      (env.uuid 0) decided)) s = .ok (outcome, s) :=
    Tx.ofExcept_ok.mpr ⟨guarded_eq_ok.mpr ⟨valid, rfl⟩, rfl⟩
  have adds : Store.addOutcome outcome s = .ok ((), added) := by
    refine Tx.bind_ok.mpr ⟨⟨⟩, s, Tx.forM_returns fun e listed => ?_, rfl⟩
    obtain ⟨stored, tenant, _⟩ := submitted.stored e listed
    exact Tx.bind_ok.mpr ⟨e, s, Store.find_ok.mpr ⟨stored, tenant, rfl⟩,
      Tx.check_ok.mpr ⟨by simp, rfl⟩⟩
  obtain ⟨events, audits⟩ := Store.recordAudit_returns (s := added) submitted.audited
    (ctx.audit "outcome.verified" outcome.auditItem (env.uuid 1)) (env.now 1)
  have logged : audit ctx "outcome.verified" outcome.auditItem (env.uuid 1) (env.now 1) added =
      .ok ((), { added with audits := events }) := audits
  let final : Store := { added with
    audits := events
    idempotency := s.idempotency.set (ctx.tenantId, ctx.key "verify_outcome") (env.uuid 0)
    idempotencyDigests := s.idempotencyDigests.set (ctx.tenantId, ctx.key "verify_outcome")
      ctx.requestDigest }
  have remembered : remember ctx (ctx.key "verify_outcome") outcome.outcomeId
      { added with audits := events } = .ok ((), final) := by
    refine Store.putIdempotency_ok.mpr ⟨fun old used => ?_, rfl⟩
    cases submitted.unbound.symm.trans used
  refine ⟨final, ?_, Dict.get?_set_self _ _ _⟩
  rw [submitted.decides _ verified, Tx.bind_run builds, Tx.bind_run adds, Tx.bind_run logged,
    Tx.bind_run remembered]
  rfl

/-- A decision that the criterion is verified is recorded exactly when all that was submitted is
current, be it for the verifier to consider or not. -/
theorem verified_recorded_iff (submitted : Submitted s ports ctx run goal criterion items)
    {env : Env} {version : String} {at_ : Instant}
    (verified : decision ports ctx goal criterion items (env.now 0) =
      .ok ⟨.verified, version, at_⟩) :
    RecordsVerified s ports ctx run criterion items env ↔ ∀ e ∈ items, Current (env.now 0) e := by
  obtain ⟨some_, rfl, rfl⟩ := decision_nonempty verified
  rw [← decidedOutcome_check submitted some_ (env.uuid 0)]
  constructor
  · rintro ⟨outcome, s', recorded, _⟩
    rw [submitted.decides _ verified] at recorded
    obtain ⟨built, _, made, _⟩ := Tx.bind_ok.mp recorded
    obtain ⟨valid, _⟩ := guarded_eq_ok.mp (Tx.ofExcept_ok.mp made).1
    exact valid
  · intro valid
    obtain ⟨s', returned, stored⟩ := decided_returns submitted verified valid
    exact ⟨_, s', returned, stored, rfl⟩

end

namespace Sample
open Autonoesis.Sample (sha256 context env ports)

def mailed : GoalContract where
  tenantId := 1
  goalType := "notify"
  statement := "notify ops"
  desiredOutcome := "ops are notified"
  subjectRefs := [⟨"mail", "mailbox", "ops", none⟩]
  successCriteria := [⟨"delivered", "the mail is delivered", "readback"⟩]
  constraints := []
  ownerId := 5
  riskTier := .low
  budgetLimit := ⟨10, .costUnits⟩
  deadline := 1000
  inputPayload := ⟨"\x7b\x7d", JsonObject.empty_valid⟩
  goalId := 16
  createdAt := 10
  valid := by decide

def mailing : Run where
  tenantId := 1
  goalId := 16
  agentVersionId := 7
  runId := 32
  createdAt := 10
  status := .running
  valid := rfl

/-- What the mail server was found to hold. -/
def observed : Evidence where
  tenantId := 1
  runId := 32
  actionId := 64
  source := "mailserver"
  sourceIdentity := "imap"
  captureMethod := .authoritativeReadback
  reference := "s3://evidence/1"
  observedState := "delivered"
  contentDigest := "373e0712c83cffe15ff427b60e788b549f82496fe5fd5391f7921832b04c6b20"
  classification := .internal
  validFrom := 10
  validUntil := 500
  integrity := .verified
  sourceReference := "msg-7"
  evidenceId := 80
  capturedAt := 10
  valid := by decide +kernel

/-- What the gateway says itself of the call. -/
def receipt : Evidence where
  tenantId := 1
  runId := 32
  actionId := 64
  source := "governed-tool-gateway"
  sourceIdentity := "mail@1.0.0"
  captureMethod := .systemQuery
  reference := "receipt-1"
  observedState := "succeeded"
  contentDigest := "373e0712c83cffe15ff427b60e788b549f82496fe5fd5391f7921832b04c6b20"
  classification := .internal
  validFrom := 10
  validUntil := 500
  integrity := .unverified
  evidenceId := 81
  capturedAt := 10
  valid := by decide +kernel

def evidenced : Store where
  goals := Dict.empty.set 16 mailed
  runs := Dict.empty.set 32 mailing
  evidence := (Dict.empty.set 80 observed).set 81 receipt

def criterion : SuccessCriterion := ⟨"delivered", "the mail is delivered", "readback"⟩

theorem submitted {items : List Evidence} (some_ : items = [observed] ∨ items = [observed, receipt]) :
    Submitted evidenced ports (context "verify-1" (by decide)) mailing mailed criterion items where
  role := by decide
  readback := rfl
  artifacts := rfl
  unbound := rfl
  digested := fun _ used => by cases used
  audited := fun _ listed => by cases listed
  there := rfl
  tenant := rfl
  aim := rfl
  owned := rfl
  listed := by decide
  named := by decide
  stored := by
    obtain rfl | rfl := some_ <;> decide
  distinct := by
    obtain rfl | rfl := some_ <;> decide

theorem verified_recorded : let _ := sha256
    decision ports (context "verify-1" (by decide)) mailed criterion [observed] 10 =
      .ok ⟨.verified, TrustedOutcomeVerifier.version, 10⟩ ∧
    RecordsVerified evidenced ports (context "verify-1" (by decide)) mailing criterion [observed]
      (env 112) := by
  let _ := sha256
  have verified : decision ports (context "verify-1" (by decide)) mailed criterion [observed] 10 =
      .ok ⟨.verified, TrustedOutcomeVerifier.version, 10⟩ := by
    decide +kernel
  refine ⟨verified, (verified_recorded_iff (submitted (.inl rfl)) verified).mpr ?_⟩
  intro e listed
  cases List.mem_singleton.mp listed
  exact ⟨rfl, by decide, by decide⟩

/-- With the gateway's receipt beside it, the same readback is verified but not recorded. -/
theorem verified_unrecorded : let _ := sha256
    Submitted evidenced ports (context "verify-1" (by decide)) mailing mailed criterion
      [observed, receipt] ∧
    decision ports (context "verify-1" (by decide)) mailed criterion [observed, receipt] 10 =
      .ok ⟨.verified, TrustedOutcomeVerifier.version, 10⟩ ∧
    ¬RecordsVerified evidenced ports (context "verify-1" (by decide)) mailing criterion
      [observed, receipt] (env 112) := by
  let _ := sha256
  have verified : decision ports (context "verify-1" (by decide)) mailed criterion
      [observed, receipt] 10 = .ok ⟨.verified, TrustedOutcomeVerifier.version, 10⟩ := by
    decide +kernel
  refine ⟨submitted (.inr rfl), verified, ?_⟩
  rintro ⟨outcome, s', recorded, _⟩
  rw [(submitted (.inr rfl)).decides (env 112) verified] at recorded
  obtain ⟨built, _, made, _⟩ := Tx.bind_ok.mp recorded
  obtain ⟨valid, _⟩ := guarded_eq_ok.mp (Tx.ofExcept_ok.mp made).1
  have current := (decidedOutcome_check (submitted (.inr rfl)) (by decide) _ _).mp valid receipt
    (by decide)
  exact absurd current.1 (by decide)

end Sample

end App

end Autonoesis
