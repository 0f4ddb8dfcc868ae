import Autonoesis.Application.Candidates

/-!
# Evaluations that are not completed

`complete_evaluation` writes its record before the candidate is asked whether the verdict may be
recorded. Over either repository, a refusal of the candidate then leaves the record behind.
-/

namespace Autonoesis
open Base

namespace Evolution

open EvolutionDb

/-- What `complete_evaluation` calls of a repository. -/
structure EvaluationRepository where
  getCandidate : (tenantId candidateId : Uuid) → EvolutionTx CandidateVersion
  listTrialsForCandidate : (tenantId candidateId : Uuid) → EvolutionTx (List Trial)
  addEvaluationRecord : CandidateEvaluation → EvolutionTx Unit
  saveCandidate : CandidateVersion → EvolutionTx Unit

namespace InMemoryPlatformStore

def getCandidate (tenantId candidateId : Uuid) : EvolutionTx CandidateVersion := do
  match ← Tx.read fun db => db.candidates.get? candidateId with
  | none => Tx.raise (.recordNotFound ("candidate " ++ candidateId.str ++ " was not found"))
  | some candidate =>
    Tx.check (tenantId ≠ candidate.tenantId)
      (.tenantBoundaryViolation "record belongs to a different tenant")
    return candidate

def listTrialsForCandidate (tenantId candidateId : Uuid) : EvolutionTx (List Trial) :=
  Tx.read fun db => db.trials.values.filter fun t =>
    t.tenantId = tenantId && t.candidateId = some candidateId

def addEvaluationRecord (record : CandidateEvaluation) : EvolutionTx Unit :=
  Tx.write fun db => { db with evaluations := db.evaluations.set record.evaluationId record }

def saveCandidate (candidate : CandidateVersion) : EvolutionTx Unit :=
  Tx.write fun db => { db with candidates := db.candidates.set candidate.candidateId candidate }

end InMemoryPlatformStore

/-- The repositories the service runs on. -/
inductive Repository where
  | memory | sql

def Repository.methods : Repository → EvaluationRepository
  | memory => ⟨InMemoryPlatformStore.getCandidate, InMemoryPlatformStore.listTrialsForCandidate,
      InMemoryPlatformStore.addEvaluationRecord, InMemoryPlatformStore.saveCandidate⟩
  | sql => ⟨EvolutionDb.getCandidate, EvolutionDb.listTrialsForCandidate,
      EvolutionDb.addEvaluationRecord, EvolutionDb.saveCandidate⟩

/-- The status the assessment decides on, unless it is inconclusive. -/
def decidedTarget (assessment : TrialConfidenceAssessment) : Option CandidateStatus :=
  if assessment.met then some .awaitingApproval
  else if assessment.decision = .notMet then some .rejected
  else none

section
variable [TrialStatistics]

/-- `complete_evaluation` over a repository. -/
def completeEvaluationOn (repository : EvaluationRepository) (identity : IdentityContext)
    (candidateId : Uuid) (policy : RepeatedTrialPolicy) (evaluationId : Uuid) (now : Instant) :
    Method (CandidateVersion × CandidateEvaluation) := do
  let candidate ← Calls.tx (repository.getCandidate identity.tenantId candidateId)
  let trials ← Calls.tx (repository.listTrialsForCandidate identity.tenantId candidateId)
  Calls.ofExcept (trials.forM (requireOwnTrial candidate candidateId))
  let assessment ← Calls.ofExcept (TrialConfidenceGate.assess policy trials)
  let record ← Calls.ofExcept (CandidateEvaluation.make {
    tenantId := identity.tenantId
    candidateId := candidateId
    decision := assessment.decision.value
    trialIds := trials.map (·.trialId)
    assessment := assessment
    graderPrincipalId := identity.principalId.str
    evaluationId := evaluationId })
  Calls.tx (repository.addEvaluationRecord record)
  let target ← Calls.ofExcept (
    if assessment.met then .ok CandidateStatus.awaitingApproval
    else if assessment.decision = .notMet then .ok .rejected
    else .error (.valueError
      ("candidate evaluation evidence is incomplete: " ++ assessment.rationale)))
  let graded ← Calls.ofExcept (candidate.recordEvaluation target identity.principalId now)
  Calls.tx (repository.saveCandidate graded)
  return (graded, record)

theorem completeEvaluationOn_sql :
    completeEvaluationOn Repository.sql.methods = completeEvaluation :=
  rfl

/-- What the assessment of a stored candidate's own trials is. -/
structure Assessed (db : EvolutionDb) (identity : IdentityContext) (candidateId : Uuid)
    (policy : RepeatedTrialPolicy) (c : CandidateVersion) (a : TrialConfidenceAssessment) :
    Prop where
  there : db.candidates.get? candidateId = some c
  tenant : c.tenantId = identity.tenantId
  own : (db.trialsOf identity.tenantId candidateId).forM (requireOwnTrial c candidateId) = .ok ()
  assessed : TrialConfidenceGate.assess policy (db.trialsOf identity.tenantId candidateId) = .ok a

/-- The method raises for an inconclusive assessment. -/
def Inconclusive (db : EvolutionDb) (identity : IdentityContext) (candidateId : Uuid)
    (policy : RepeatedTrialPolicy) : Prop :=
  ∃ c a, Assessed db identity candidateId policy c a ∧ decidedTarget a = none

/-- A candidate whose trials are decided may be graded so: by another than its generator, and
from the status it has. -/
def Gradable (db : EvolutionDb) (identity : IdentityContext) (candidateId : Uuid)
    (policy : RepeatedTrialPolicy) : Prop :=
  ∀ c a target, Assessed db identity candidateId policy c a → decidedTarget a = some target →
    identity.principalId.str ≠ c.generatorId ∧ target ∈ candidateTransitions c.status

end

/-! ## The repositories -/

/-- Each candidate is stored under its id. -/
def CandidatesKeyed (db : EvolutionDb) : Prop :=
  ∀ id c, db.candidates.get? id = some c → c.candidateId = id

section
variable {db db' : EvolutionDb} {identity : IdentityContext} {candidateId : Uuid}

theorem getCandidate_ok (repository : Repository) {tenantId : Uuid}
    {r : CandidateVersion × EvolutionDb} :
    repository.methods.getCandidate tenantId candidateId db = .ok r ↔
      db.candidates.get? candidateId = some r.1 ∧ r.1.tenantId = tenantId ∧ r.2 = db := by
  cases repository with
  | sql => exact getRow_ok
  | memory =>
    obtain ⟨c, db'⟩ := r
    simp only [Repository.methods, InMemoryPlatformStore.getCandidate, Tx.bind_ok, Tx.read_ok]
    constructor
    · rintro ⟨_, _, ⟨⟩, rest⟩
      cases found : db.candidates.get? candidateId with
      | none =>
        rw [found] at rest
        cases rest
      | some c =>
        rw [found] at rest
        obtain ⟨_, _, checked, returned⟩ := Tx.bind_ok.mp rest
        obtain ⟨own, rfl⟩ := Tx.check_ok.mp checked
        cases Tx.pure_ok.mp returned
        exact ⟨rfl, (by simpa using own : tenantId = c.tenantId).symm, rfl⟩
    · rintro ⟨there, tenant, rfl⟩
      refine ⟨_, _, rfl, ?_⟩
      rw [there]
      exact Tx.bind_ok.mpr ⟨(), _, Tx.check_ok.mpr ⟨by simp [tenant], rfl⟩, rfl⟩

theorem getCandidate_reads (repository : Repository) (tenantId : Uuid) :
    Calls.Reads (Calls.tx (repository.methods.getCandidate tenantId candidateId)) :=
  Calls.reads_tx fun _ _ _ ran => ((getCandidate_ok repository).mp ran).2.2

theorem listTrials_eq (repository : Repository) (tenantId : Uuid) :
    repository.methods.listTrialsForCandidate tenantId candidateId =
      Tx.read fun db => db.trialsOf tenantId candidateId := by
  cases repository <;> rfl

theorem addEvaluationRecord_returns (repository : Repository) {record : CandidateEvaluation}
    (fresh : db.evaluations.get? record.evaluationId = none) :
    repository.methods.addEvaluationRecord record db =
      .ok ((), { db with evaluations := db.evaluations.set record.evaluationId record }) := by
  cases repository with
  | memory => rfl
  | sql =>
    change insertRow (·.evaluations) (fun db rows => { db with evaluations := rows })
      record.evaluationId record db = _
    exact insertRow_ok.mpr ⟨fresh, rfl⟩

theorem saveCandidate_returns (repository : Repository) {c c' : CandidateVersion}
    (there : db.candidates.get? c'.candidateId = some c) (tenant : c.tenantId = c'.tenantId)
    (version : c.optimisticVersion = c'.optimisticVersion - 1) :
    repository.methods.saveCandidate c' db =
      .ok ((), { db with candidates := db.candidates.set c'.candidateId c' }) := by
  cases repository with
  | memory => rfl
  | sql =>
    change saveVersioned "candidate" (·.candidates)
      (fun db rows => { db with candidates := rows }) (·.tenantId) (·.optimisticVersion)
      c'.candidateId c' db = _
    exact saveVersioned_ok.mpr ⟨⟨c, there, tenant, version⟩, rfl⟩

/-! ## The verdict -/

theorem recordEvaluation_returns {c : CandidateVersion} {target : CandidateStatus} {grader : Uuid}
    (now : Instant) (other : grader.str ≠ c.generatorId)
    (legal : target ∈ candidateTransitions c.status) :
    ∃ c', c.recordEvaluation target grader now = .ok c' ∧ c'.candidateId = c.candidateId ∧
      c'.tenantId = c.tenantId ∧ c.optimisticVersion = c'.optimisticVersion - 1 := by
  refine ⟨_, bind_eq_ok.mpr ⟨(), raiseIf_eq_ok.mpr (by simp [other]), bind_eq_ok.mpr ⟨_,
    bind_eq_ok.mpr ⟨(), requireTransition_ok.mpr legal, bind_eq_ok.mpr ⟨_,
      transitionRecord_ok.mpr ⟨by decide, rfl⟩, rfl⟩⟩, rfl⟩⟩, rfl, rfl, ?_⟩
  simp [CandidateFields.moved]

theorem target_ok {a : TrialConfidenceAssessment} {target : CandidateStatus}
    (decided : decidedTarget a = some target) :
    (if a.met then .ok CandidateStatus.awaitingApproval
      else if a.decision = .notMet then .ok .rejected
      else .error (.valueError
        ("candidate evaluation evidence is incomplete: " ++ a.rationale))) =
      (.ok target : Except Exc CandidateStatus) := by
  unfold decidedTarget at decided
  by_cases met : a.met = true
  · rw [if_pos met] at decided ⊢
    cases decided
    rfl
  · rw [if_neg met] at decided ⊢
    by_cases missed : a.decision = .notMet
    · rw [if_pos missed] at decided ⊢
      cases decided
      rfl
    · rw [if_neg missed] at decided
      cases decided

variable [TrialStatistics] {policy : RepeatedTrialPolicy}

/-- No trial decides nothing. -/
theorem assess_nil {a : TrialConfidenceAssessment}
    (assessed : TrialConfidenceGate.assess policy [] = .ok a) : decidedTarget a = none := by
  have positive : 1 ≤ policy.minValidTrials := by
    have valid := policy.valid
    simp only [RepeatedTrialPolicyFields.check, checks_cons, decide_eq_false_iff_not] at valid
    omega
  obtain ⟨_, _, decided⟩ := bind_eq_ok.mp assessed
  simp only [List.countP_nil] at decided
  rw [if_pos (by omega)] at decided
  cases decided
  rfl

variable {id : Uuid} {now : Instant}

/-- What is left of the method once the record is written. -/
def verdict (repository : Repository) (identity : IdentityContext) (c : CandidateVersion)
    (a : TrialConfidenceAssessment) (record : CandidateEvaluation) (now : Instant) :
    Method (CandidateVersion × CandidateEvaluation) := do
  let target ← Calls.ofExcept (
    if a.met then .ok CandidateStatus.awaitingApproval
    else if a.decision = .notMet then .ok .rejected
    else .error (.valueError
      ("candidate evaluation evidence is incomplete: " ++ a.rationale)))
  let graded ← Calls.ofExcept (c.recordEvaluation target identity.principalId now)
  Calls.tx (repository.methods.saveCandidate graded)
  return (graded, record)

/-- The method raises before it has written, or it writes a record of the assessment and goes on
to the verdict. -/
theorem completeEvaluationOn_ran (repository : Repository)
    (fresh : db.evaluations.get? id = none)
    {r : Except Exc (CandidateVersion × CandidateEvaluation)}
    (whole : Calls.ran (completeEvaluationOn repository.methods identity candidateId policy id now)
      db = (r, db')) :
    Raised db db' r ∨ ∃ c a record, Assessed db identity candidateId policy c a ∧
      Calls.ran (verdict repository identity c a record now)
        { db with evaluations := db.evaluations.set id record } = (r, db') := by
  obtain raised | ⟨c, found, whole⟩ := Calls.bind_reads (getCandidate_reads repository _) whole
  · exact .inl raised
  rw [listTrials_eq] at whole
  obtain raised | ⟨trials, listed, whole⟩ := Calls.bind_reads (read_reads _) whole
  · exact .inl raised
  obtain raised | ⟨_, own, whole⟩ := Calls.bind_reads (Calls.reads_ofExcept _) whole
  · exact .inl raised
  obtain raised | ⟨a, assessed, whole⟩ := Calls.bind_reads (Calls.reads_ofExcept _) whole
  · exact .inl raised
  obtain raised | ⟨record, made, rest⟩ := Calls.bind_reads (Calls.reads_ofExcept _) whole
  · exact .inl raised
  obtain ⟨there, tenant, _⟩ := (getCandidate_ok repository).mp (Calls.tx_ok found)
  have listed : trials = db.trialsOf identity.tenantId candidateId :=
    congrArg Prod.fst (Tx.read_ok.mp (Calls.tx_ok listed))
  subst listed
  have named : record.evaluationId = id := by
    obtain ⟨_, rfl⟩ := guarded_eq_ok.mp (Calls.ofExcept_ok made)
    rfl
  refine .inr ⟨c, a, record, ⟨there, tenant, Calls.ofExcept_ok own, Calls.ofExcept_ok assessed⟩, ?_⟩
  have written := addEvaluationRecord_returns repository (named ▸ fresh)
  rw [named] at written
  obtain ⟨_, raised, _⟩ | ⟨_, _, first, rest⟩ := Calls.bind_ran.mp rest
  · rw [Calls.tx_of_ok written] at raised
    cases raised
  · rw [Calls.tx_of_ok written] at first
    cases first
    exact rest

/-- An assessment that is decided comes to the verdict. -/
theorem completeEvaluationOn_writes (repository : Repository)
    (fresh : db.evaluations.get? id = none) {c : CandidateVersion}
    {a : TrialConfidenceAssessment} {target : CandidateStatus}
    (assessed : Assessed db identity candidateId policy c a)
    (decided : decidedTarget a = some target) (now : Instant) :
    ∃ record, Calls.ran (completeEvaluationOn repository.methods identity candidateId policy id now)
      db = Calls.ran (verdict repository identity c a record now)
        { db with evaluations := db.evaluations.set id record } := by
  have some_ : db.trialsOf identity.tenantId candidateId ≠ [] := by
    intro none
    have undecided := assess_nil (none ▸ assessed.assessed)
    rw [decided] at undecided
    cases undecided
  let fields : EvaluationFields := {
    tenantId := identity.tenantId
    candidateId := candidateId
    decision := a.decision.value
    trialIds := (db.trialsOf identity.tenantId candidateId).map (·.trialId)
    assessment := a
    graderPrincipalId := identity.principalId.str
    evaluationId := id }
  have valid : fields.check = .ok () := by
    have known : a.decision.value ∈ ["met", "not_met", "insufficient_sample"] := by
      cases a.decision <;> decide
    simp only [EvaluationFields.check, checks_cons, checks_nil, fields, known, not_true,
      decide_false, List.isEmpty_map, identity.principalId.isBlank_str, and_true, true_and]
    simpa using some_
  let record : CandidateEvaluation := ⟨fields, valid⟩
  refine ⟨record, ?_⟩
  have found : repository.methods.getCandidate identity.tenantId candidateId db = .ok (c, db) :=
    (getCandidate_ok repository).mpr ⟨assessed.there, assessed.tenant, rfl⟩
  have listed : repository.methods.listTrialsForCandidate identity.tenantId candidateId db =
      .ok (db.trialsOf identity.tenantId candidateId, db) := by
    rw [listTrials_eq]
    rfl
  have made : CandidateEvaluation.make fields = .ok record := guarded_eq_ok.mpr ⟨valid, rfl⟩
  refine Calls.bind_of_ok (Calls.tx_of_ok found) (Calls.bind_of_ok (Calls.tx_of_ok listed) ?_)
  refine Calls.bind_of_ok (Calls.ofExcept_ran.mpr ⟨assessed.own.symm, rfl⟩) ?_
  refine Calls.bind_of_ok (Calls.ofExcept_ran.mpr ⟨assessed.assessed.symm, rfl⟩) ?_
  refine Calls.bind_of_ok (Calls.ofExcept_ran.mpr ⟨made.symm, rfl⟩) ?_
  exact Calls.bind_of_ok (Calls.tx_of_ok (addEvaluationRecord_returns repository fresh)) rfl

omit [TrialStatistics] in
/-- A candidate that refuses the verdict changes nothing more. -/
theorem verdict_refused (repository : Repository) {c : CandidateVersion}
    {a : TrialConfidenceAssessment} {target : CandidateStatus} {record : CandidateEvaluation}
    {e : Exc} (decided : decidedTarget a = some target)
    (refused : c.recordEvaluation target identity.principalId now = .error e) :
    Calls.ran (verdict repository identity c a record now) db = (.error e, db) := by
  refine Calls.bind_of_ok (Calls.ofExcept_ran.mpr ⟨(target_ok decided).symm, rfl⟩) ?_
  exact Calls.bind_ran.mpr (.inl ⟨e, Calls.ofExcept_ran.mpr ⟨refused.symm, rfl⟩, rfl⟩)

variable (db identity now) in
omit [TrialStatistics] in
theorem verdict_returns (repository : Repository) {c : CandidateVersion}
    {a : TrialConfidenceAssessment} {target : CandidateStatus} (record : CandidateEvaluation)
    (decided : decidedTarget a = some target) (there : db.candidates.get? c.candidateId = some c)
    (other : identity.principalId.str ≠ c.generatorId)
    (legal : target ∈ candidateTransitions c.status) :
    ∃ graded db', Calls.ran (verdict repository identity c a record now) db =
      (.ok (graded, record), db') := by
  obtain ⟨c', graded, named, tenant, version⟩ := recordEvaluation_returns now other legal
  refine ⟨c', { db with candidates := db.candidates.set c'.candidateId c' }, ?_⟩
  refine Calls.bind_of_ok (Calls.ofExcept_ran.mpr ⟨(target_ok decided).symm, rfl⟩) ?_
  refine Calls.bind_of_ok (Calls.ofExcept_ran.mpr ⟨graded.symm, rfl⟩) ?_
  exact Calls.bind_of_ok (Calls.tx_of_ok (saveCandidate_returns repository (named ▸ there)
    tenant.symm version)) rfl

/-- The method raises, but not for an inconclusive assessment, and the tables are what they
were. -/
def LeavesOnRaise (repository : Repository) (db : EvolutionDb) (identity : IdentityContext)
    (candidateId : Uuid) (policy : RepeatedTrialPolicy) (id : Uuid) (now : Instant) : Prop :=
  ∀ e db', Calls.ran (completeEvaluationOn repository.methods identity candidateId policy id now)
      db = (.error e, db') →
    ¬Inconclusive db identity candidateId policy → db' = db

/-- Nothing is written by a call that raises exactly when a decided assessment may be recorded of
the candidate. -/
theorem completeEvaluation_leaves_iff (repository : Repository) (keyed : CandidatesKeyed db)
    (fresh : db.evaluations.get? id = none) :
    LeavesOnRaise repository db identity candidateId policy id now ↔
      Gradable db identity candidateId policy := by
  constructor
  · intro leaves c a target assessed decided
    obtain ⟨record, ran⟩ :=
      completeEvaluationOn_writes repository fresh assessed decided now
    have conclusive : ¬Inconclusive db identity candidateId policy := by
      rintro ⟨c', a', assessed', undecided⟩
      cases assessed.there.symm.trans assessed'.there
      cases assessed.assessed.symm.trans assessed'.assessed
      rw [decided] at undecided
      cases undecided
    cases graded : c.recordEvaluation target identity.principalId now with
    | ok c' =>
      obtain ⟨other, legal, _⟩ := recordEvaluation_ok graded
      exact ⟨other, legal⟩
    | error e =>
      rw [verdict_refused repository decided graded] at ran
      have same := congrArg (fun db => db.evaluations.get? id) (leaves e _ ran conclusive)
      simp only [Dict.get?_set_self, fresh] at same
      cases same
  · intro gradable e db' raised conclusive
    obtain ⟨same, _⟩ | ⟨c, a, record, assessed, rest⟩ :=
      completeEvaluationOn_ran repository fresh raised
    · exact same
    cases decided : decidedTarget a with
    | none => exact absurd ⟨c, a, assessed, decided⟩ conclusive
    | some target =>
      obtain ⟨other, legal⟩ := gradable c a target assessed decided
      have named := keyed candidateId c assessed.there
      obtain ⟨graded, db'', returned⟩ := verdict_returns
        { db with evaluations := db.evaluations.set id record } identity now repository record
        decided (named ▸ assessed.there) other legal
      rw [returned] at rest
      cases rest

end

namespace Sample

/-- A candidate of the principal 11 with one passed trial, submitted for evaluation. -/
def submitted : EvolutionDb := Script.leaves allowAll ((approving 100).take 4) {}

theorem submitted_keyed : CandidatesKeyed submitted := by
  have legal : Script.Legal allowAll (fun _ _ => True) ((approving 100).take 4) {} := by
    decide +kernel
  exact (Runs.sound (Script.runs legal) Sound.empty).candidate_id

theorem submitted_fresh : submitted.evaluations.get? 105 = none :=
  Option.isNone_iff_eq_none.mp (by decide +kernel)

theorem submitted_conclusive (principalId : Uuid) :
    ¬Inconclusive submitted (identity principalId) 101 gate := by
  have decided : ∀ a, TrialConfidenceGate.assess gate (submitted.trialsOf 1 101) = .ok a →
      decidedTarget a ≠ none := by
    intro a assessed
    have every : (TrialConfidenceGate.assess gate (submitted.trialsOf 1 101)).toOption.all
        (fun a => (decidedTarget a).isSome) = true := by
      clear assessed
      decide +kernel
    rw [assessed] at every
    exact Option.isSome_iff_ne_none.mp every
  rintro ⟨c, a, assessed, undecided⟩
  exact decided a assessed.assessed undecided

theorem independent_leaves :
    LeavesOnRaise .memory submitted (identity 12) 101 gate 105 5 := by
  refine (completeEvaluation_leaves_iff .memory submitted_keyed submitted_fresh).mpr ?_
  intro c a target assessed decided
  have every : (submitted.candidates.get? 101).all (fun c =>
      c.generatorId = (identity 11).principalId.str ∧ c.status = .evaluating) = true := by
    decide +kernel
  rw [assessed.there] at every
  obtain ⟨generator, status⟩ := of_decide_eq_true every
  refine ⟨?_, ?_⟩
  · rw [generator]
    decide +kernel
  · rw [status]
    unfold decidedTarget at decided
    split at decided
    · cases decided
      decide
    · split at decided <;> cases decided
      decide

/-- The generator may not grade its candidate, but a record of its evaluation is left. -/
theorem generator_recorded_in (repository : Repository) :
    ¬LeavesOnRaise repository submitted (identity 11) 101 gate 105 5 := by
  intro leaves
  have raised : (Calls.ran (completeEvaluationOn repository.methods (identity 11) 101 gate 105 5)
      submitted).1.toOption.isNone = true := by
    cases repository <;> decide +kernel
  have written : ((Calls.ran (completeEvaluationOn repository.methods (identity 11) 101 gate 105 5)
      submitted).2.evaluations.get? 105).isSome = true := by
    cases repository <;> decide +kernel
  cases whole : Calls.ran (completeEvaluationOn repository.methods (identity 11) 101 gate 105 5)
      submitted with
  | mk r db' =>
    rw [whole] at raised written
    cases r with
    | ok done => cases raised
    | error e =>
      rw [leaves e db' whole (submitted_conclusive 11), submitted_fresh] at written
      cases written

theorem generator_recorded :
    ¬LeavesOnRaise .memory submitted (identity 11) 101 gate 105 5 ∧
    ¬LeavesOnRaise .sql submitted (identity 11) 101 gate 105 5 :=
  ⟨generator_recorded_in .memory, generator_recorded_in .sql⟩

end Sample

end Evolution

end Autonoesis
