import Autonoesis.Application.Evaluations
import Autonoesis.Base.Allowance
import Autonoesis.Base.Ranked
import Autonoesis.Worker.ReleaseExecution

/-!
# Evaluating a candidate

The `evaluate_candidate` activity submits a candidate, then runs trials of it until its evidence is
conclusive, and Temporal may run the activity a second time. Nothing but the statuses of the
candidate and the versions its saves name keeps a second execution from running the trials again.
-/

namespace Autonoesis.Evolution
open Base

/-! ## The activity -/

/-- What grading a candidate asks: its tables, and the evaluator that executes a trial. -/
inductive EvaluationReq where
  | getCandidate (tenantId candidateId : Uuid)
  | saveCandidate (c : CandidateVersion)
  | listTrialsForCandidate (tenantId candidateId : Uuid)
  | addEvaluationRecord (e : CandidateEvaluation)
  | addTrial (t : Trial)
  | evaluate (tenantId candidateId : Uuid)

abbrev EvaluationResp : EvaluationReq → Type
  | .getCandidate .. => CandidateVersion
  | .listTrialsForCandidate .. => List Trial
  | .evaluate .. => Trial
  | .saveCandidate _ => Unit
  | .addEvaluationRecord _ => Unit
  | .addTrial _ => Unit

abbrev EvaluationProgram (α : Type) := Prog EvaluationReq EvaluationResp Exc α

/-- The tables answer as they do; a trial executes elsewhere, and comes out as it may. -/
def EvaluationReq.perform (executed : Except Exc Trial) :
    (r : EvaluationReq) → EvolutionTx (EvaluationResp r)
  | .getCandidate tenantId candidateId => EvolutionDb.getCandidate tenantId candidateId
  | .saveCandidate c => EvolutionDb.saveCandidate c
  | .listTrialsForCandidate tenantId candidateId =>
    EvolutionDb.listTrialsForCandidate tenantId candidateId
  | .addEvaluationRecord e => EvolutionDb.addEvaluationRecord e
  | .addTrial t => EvolutionDb.addTrial t
  | .evaluate _ _ => fun db => executed.map fun trial => (trial, db)

namespace CandidateEvaluations

abbrev getCandidate (tenantId candidateId : Uuid) : EvaluationProgram CandidateVersion :=
  Prog.request (EvaluationReq.getCandidate tenantId candidateId)
abbrev saveCandidate (c : CandidateVersion) : EvaluationProgram Unit :=
  Prog.request (EvaluationReq.saveCandidate c)
abbrev listTrialsForCandidate (tenantId candidateId : Uuid) : EvaluationProgram (List Trial) :=
  Prog.request (EvaluationReq.listTrialsForCandidate tenantId candidateId)
abbrev addEvaluationRecord (e : CandidateEvaluation) : EvaluationProgram Unit :=
  Prog.request (EvaluationReq.addEvaluationRecord e)
abbrev addTrial (t : Trial) : EvaluationProgram Unit := Prog.request (EvaluationReq.addTrial t)
abbrev evaluate (tenantId candidateId : Uuid) : EvaluationProgram Trial :=
  Prog.request (EvaluationReq.evaluate tenantId candidateId)

/-- `submit_for_evaluation`, as a program of calls. -/
def submitForEvaluation (tenantId candidateId : Uuid) (now : Instant) :
    EvaluationProgram CandidateVersion := do
  let candidate ← getCandidate tenantId candidateId
  let submitted ← Prog.ofExcept
    (candidate.transitionTo .evaluating systemActorId "system transition" now)
  saveCandidate submitted
  return submitted

/-- `decide`. -/
def decide (identity : IdentityContext) (candidateId : Uuid) (approved : Bool) (reason : String)
    (now : Instant) : EvaluationProgram CandidateVersion := do
  let candidate ← getCandidate identity.tenantId candidateId
  let target := if approved then CandidateStatus.approved else .rejected
  let decided ← Prog.ofExcept (candidate.recordApproval target identity.principalId reason now)
  saveCandidate decided
  return decided

theorem submitForEvaluation_calls (executed : Except Exc Trial) (tenantId candidateId : Uuid)
    (now : Instant) : (submitForEvaluation tenantId candidateId now).calls
      (EvaluationReq.perform executed) =
        Evolution.submitForEvaluation tenantId candidateId now := by
  simp [submitForEvaluation, Evolution.submitForEvaluation, EvaluationReq.perform]

theorem decide_calls (executed : Except Exc Trial) (identity : IdentityContext)
    (candidateId : Uuid) (approved : Bool) (reason : String) (now : Instant) :
    (decide identity candidateId approved reason now).calls (EvaluationReq.perform executed) =
      Evolution.decide identity candidateId approved reason now := by
  simp [decide, Evolution.decide, EvaluationReq.perform]

/-- The record of an assessment. -/
def evaluationRecord (identity : IdentityContext) (candidateId : Uuid) (trials : List Trial)
    (assessment : TrialConfidenceAssessment) (evaluationId : Uuid) :
    Except Exc CandidateEvaluation :=
  CandidateEvaluation.make {
    tenantId := identity.tenantId
    candidateId := candidateId
    decision := assessment.decision.value
    trialIds := trials.map (·.trialId)
    assessment := assessment
    graderPrincipalId := identity.principalId.str
    evaluationId := evaluationId }

/-- The status an assessment leads to; short or straddling evidence leads nowhere. -/
def evaluationTarget (assessment : TrialConfidenceAssessment) : Except Exc CandidateStatus :=
  if assessment.met then .ok CandidateStatus.awaitingApproval
  else if assessment.decision = .notMet then .ok .rejected
  else .error (.valueError
    ("candidate evaluation evidence is incomplete: " ++ assessment.rationale))

structure EvaluateCandidateInput where
  tenantId : String
  candidateId : String

/-- The identity the activity grades under. -/
def grader (uuid5 : String → Uuid) (input : EvaluateCandidateInput) (tenantId : Uuid) :
    IdentityContext where
  tenantId := tenantId
  actorId := 0
  principalId := workerPrincipal uuid5 "grader" input.tenantId
  roles := ["grader"]
  agentId := some "temporal-worker"

/-- What the `k`-th attempt draws: the id of its record, and its clock reading. -/
abbrev Draws := Nat → Uuid × Instant

def maxAttempts (policy : RepeatedTrialPolicy) : Nat := (policy.minValidTrials * 2).toNat

section
variable [TrialStatistics]

/-- `complete_evaluation`. -/
def completeEvaluation (identity : IdentityContext) (candidateId : Uuid)
    (policy : RepeatedTrialPolicy) (evaluationId : Uuid) (now : Instant) :
    EvaluationProgram (CandidateVersion × CandidateEvaluation) := do
  let candidate ← getCandidate identity.tenantId candidateId
  let trials ← listTrialsForCandidate identity.tenantId candidateId
  Prog.ofExcept (trials.forM (requireOwnTrial candidate candidateId))
  let assessment ← Prog.ofExcept (TrialConfidenceGate.assess policy trials)
  let record ← Prog.ofExcept
    (evaluationRecord identity candidateId trials assessment evaluationId)
  addEvaluationRecord record
  let target ← Prog.ofExcept (evaluationTarget assessment)
  let graded ← Prog.ofExcept (candidate.recordEvaluation target identity.principalId now)
  saveCandidate graded
  return (graded, record)

theorem completeEvaluation_calls (executed : Except Exc Trial) (identity : IdentityContext)
    (candidateId : Uuid) (policy : RepeatedTrialPolicy) (evaluationId : Uuid) (now : Instant) :
    (completeEvaluation identity candidateId policy evaluationId now).calls
      (EvaluationReq.perform executed) =
        Evolution.completeEvaluation identity candidateId policy evaluationId now := by
  simp [completeEvaluation, Evolution.completeEvaluation, EvaluationReq.perform,
    evaluationRecord, evaluationTarget]

/-- The attempts that are left, numbered downwards. An inconclusive evaluation is followed by
another trial. -/
def attempts (grader : IdentityContext) (candidateId : Uuid) (policy : RepeatedTrialPolicy)
    (draws : Draws) (maxAttempts : Nat) : Nat → String → EvaluationProgram Bool
  | 0, lastIncompleteness => Prog.ofExcept (.error (.applicationError
      ("candidate evaluation evidence is incomplete after " ++ toString maxAttempts ++
        " attempts: " ++ lastIncompleteness)))
  | left + 1, _ => do
    let trial ← evaluate grader.tenantId candidateId
    addTrial { trial with candidateId := some candidateId }
    match ←
      (completeEvaluation grader candidateId policy (draws left).1 (draws left).2).attempt with
    | .ok (candidate, _) => return (candidate.status = .awaitingApproval : Bool)
    | .error e =>
      if e.isA .valueError then attempts grader candidateId policy draws maxAttempts left e.message
      else Prog.ofExcept (.error e)

/-- `evaluate_candidate`. -/
def evaluateCandidate (uuid5 : String → Uuid) (policy : RepeatedTrialPolicy)
    (input : EvaluateCandidateInput) (draws : Draws) (now : Instant) :
    EvaluationProgram Bool := do
  let tenantId ← Prog.ofExcept (Uuid.parse input.tenantId)
  let candidateId ← Prog.ofExcept (Uuid.parse input.candidateId)
  let _ ← submitForEvaluation tenantId candidateId now
  attempts (grader uuid5 input tenantId) candidateId policy draws (maxAttempts policy)
    (maxAttempts policy) "no trial executed"

/-- The services that move candidates: the activity, the evaluation that is asked of the API, and
decisions. -/
inductive Work where
  | activity (input : EvaluateCandidateInput)
  | evaluation (identity : IdentityContext) (candidateId : Uuid) (policy : RepeatedTrialPolicy)
  | decision (identity : IdentityContext) (candidateId : Uuid) (approved : Bool) (reason : String)

/-- The verdict of an activity is its outcome. -/
def Work.program (uuid5 : String → Uuid) (policy : RepeatedTrialPolicy) (draws : Draws)
    (now : Instant) : Work → EvaluationProgram (Option Bool)
  | activity input => do
    let passed ← evaluateCandidate uuid5 policy input draws now
    return some passed
  | evaluation identity candidateId own => do
    let _ ← submitForEvaluation identity.tenantId candidateId now
    let _ ← completeEvaluation identity candidateId own (draws 0).1 (draws 0).2
    return none
  | decision identity candidateId approved reason => do
    let _ ← decide identity candidateId approved reason now
    return none

end

/-! ## What the programs save -/

abbrev EvaluationEvent := Event EvaluationReq EvaluationResp Exc

/-- `c'` is `c` after one legal transition. -/
structure Advances (c c' : CandidateVersion) : Prop where
  legal : c'.status ∈ candidateTransitions c.status
  id : c'.candidateId = c.candidateId
  version : c'.optimisticVersion = c.optimisticVersion + 1
  suite : (c'.suiteId, c'.suiteVersion) = (c.suiteId, c.suiteVersion)

theorem advances_of_transitionTo {c c' : CandidateVersion} {target : CandidateStatus}
    {actorId : Uuid} {reason : String} {now : Instant}
    (moved : c.transitionTo target actorId reason now = .ok c') :
    c'.status = target ∧ Advances c c' := by
  obtain ⟨legal, fields⟩ := CandidateVersion.transitionTo_ok moved
  have status : c'.status = target := congrArg (·.status) fields
  exact ⟨status, status ▸ legal, congrArg (·.candidateId) fields,
    congrArg (·.optimisticVersion) fields, congrArg (fun c => (c.suiteId, c.suiteVersion)) fields⟩

theorem advances_of_recordEvaluation {c c' : CandidateVersion} {target : CandidateStatus}
    {grader : Uuid} {now : Instant} (graded : c.recordEvaluation target grader now = .ok c') :
    c'.status = target ∧ Advances c c' := by
  obtain ⟨_, legal, fields⟩ := recordEvaluation_ok graded
  have status : c'.status = target := congrArg (·.status) fields
  exact ⟨status, status ▸ legal, congrArg (·.candidateId) fields,
    congrArg (·.optimisticVersion) fields, congrArg (fun c => (c.suiteId, c.suiteVersion)) fields⟩

theorem advances_of_recordApproval {c c' : CandidateVersion} {target : CandidateStatus}
    {approver : Uuid} {reason : String} {now : Instant}
    (decided : c.recordApproval target approver reason now = .ok c') : Advances c c' := by
  obtain ⟨_, _, legal, fields⟩ := recordApproval_ok decided
  have status : c'.status = target := congrArg (·.status) fields
  exact ⟨status ▸ legal, congrArg (·.candidateId) fields,
    congrArg (·.optimisticVersion) fields, congrArg (fun c => (c.suiteId, c.suiteVersion)) fields⟩

/-- A program that has read this candidate. -/
def Has (h : List EvaluationEvent) (tenantId id : Uuid) (c : CandidateVersion) : Prop :=
  (⟨.getCandidate tenantId id, .ok c⟩ : EvaluationEvent) ∈ h

/-- A program whose submission of the candidate has been accepted. -/
def Submitted (h : List EvaluationEvent) (id : Uuid) : Prop :=
  ∃ tenantId c c', Has h tenantId id c ∧ Advances c c' ∧ c'.status = .evaluating ∧
    (⟨.saveCandidate c', .ok ()⟩ : EvaluationEvent) ∈ h

/-- A program saves what follows a candidate it has read, and executes trials of one that it has
submitted. -/
def Sourced (h : List EvaluationEvent) : EvaluationReq → Prop
  | .saveCandidate c' => ∃ tenantId id c, Has h tenantId id c ∧ Advances c c'
  | .evaluate _ id => Submitted h id
  | _ => True

theorem Submitted.later {h h' : List EvaluationEvent} {id : Uuid} (submitted : Submitted h id)
    (later : h <+: h') : Submitted h' id := by
  obtain ⟨tenantId, c, c', has, advances, status, saved⟩ := submitted
  exact ⟨tenantId, c, c', later.subset has, advances, status, later.subset saved⟩

/-- What has been done where an evaluation was concluded: the candidate's own trials were listed,
their assessment was recorded, and the candidate was saved as the assessment says. -/
structure Concluded [TrialStatistics] (identity : IdentityContext) (id : Uuid)
    (policy : RepeatedTrialPolicy) (h : List EvaluationEvent) (c graded : CandidateVersion)
    (trials : List Trial) (record : CandidateEvaluation) : Prop where
  has : Has h identity.tenantId id c
  listed : (⟨.listTrialsForCandidate identity.tenantId id, .ok trials⟩ : EvaluationEvent) ∈ h
  own : trials.forM (requireOwnTrial c id) = .ok ()
  assessed : TrialConfidenceGate.assess policy trials = .ok record.assessment
  made : evaluationRecord identity id trials record.assessment record.evaluationId = .ok record
  recorded : (⟨.addEvaluationRecord record, .ok ()⟩ : EvaluationEvent) ∈ h
  target : evaluationTarget record.assessment = .ok graded.status
  advances : Advances c graded
  saved : (⟨.saveCandidate graded, .ok ()⟩ : EvaluationEvent) ∈ h

section
variable {h : List EvaluationEvent} {identity : IdentityContext} {id : Uuid} {now : Instant}
  {policy : RepeatedTrialPolicy}

theorem ensures_submitForEvaluation {tenantId : Uuid} :
    Prog.Ensures Sourced (fun h' _ => Submitted h' id) h
      (submitForEvaluation tenantId id now) := by
  refine Prog.ensures_request_bind trivial fun c => ?_
  refine Prog.ensures_ofExcept_bind fun c' moved => ?_
  obtain ⟨status, advances⟩ := advances_of_transitionTo moved
  have has : Has (h ++ [⟨_, .ok c⟩]) tenantId id c := List.mem_concat_self
  refine Prog.ensures_request_bind ⟨_, _, c, has, advances⟩ fun _ => Prog.ensures_ret ?_
  exact ⟨tenantId, c, c', List.mem_append_left _ has, advances, status, List.mem_concat_self⟩

theorem ensures_decide {approved : Bool} {reason : String} :
    Prog.Ensures Sourced (fun _ _ => True) h (decide identity id approved reason now) := by
  refine Prog.ensures_request_bind trivial fun c => ?_
  refine Prog.ensures_ofExcept_bind fun c' decided => ?_
  have has : Has (h ++ [⟨_, .ok c⟩]) identity.tenantId id c := List.mem_concat_self
  exact Prog.ensures_request_bind ⟨_, _, c, has, advances_of_recordApproval decided⟩
    fun _ => Prog.ensures_ret trivial

variable [TrialStatistics]

theorem ensures_completeEvaluation {evaluationId : Uuid} :
    Prog.Ensures Sourced
      (fun h' made => ∃ c trials, Concluded identity id policy h' c made.1 trials made.2) h
      (completeEvaluation identity id policy evaluationId now) := by
  refine Prog.ensures_request_bind trivial fun c => ?_
  refine Prog.ensures_request_bind trivial fun trials => ?_
  refine Prog.ensures_ofExcept_bind fun _ own => ?_
  refine Prog.ensures_ofExcept_bind fun assessment assessed => ?_
  refine Prog.ensures_ofExcept_bind fun record made => ?_
  refine Prog.ensures_request_bind trivial fun _ => ?_
  refine Prog.ensures_ofExcept_bind fun target leads => ?_
  refine Prog.ensures_ofExcept_bind fun graded moved => ?_
  obtain ⟨status, advances⟩ := advances_of_recordEvaluation moved
  refine Prog.ensures_request_bind ⟨identity.tenantId, id, c, ?_, advances⟩
    fun _ => Prog.ensures_ret ⟨c, trials, ?_⟩
  · simp [Has]
  · obtain ⟨_, rfl⟩ := guarded_eq_ok.mp made
    subst status
    exact {
      has := by simp [Has]
      listed := by simp
      own := own
      assessed := assessed
      made := made
      recorded := by simp
      target := leads
      advances := advances
      saved := by simp }

/-- The outcome of the attempts. -/
theorem ensures_attempts {draws : Draws} {most left : Nat} {last : String}
    (submitted : Submitted h id) :
    Prog.Ensures Sourced (fun h' passed => Submitted h' id ∧ ∃ c graded trials record,
      Concluded identity id policy h' c graded trials record ∧
        passed = Decidable.decide (graded.status = .awaitingApproval)) h
      (attempts identity id policy draws most left last) := by
  induction left generalizing h last with
  | zero => exact Prog.ensures_ofExcept fun _ => nofun
  | succ left ih =>
    refine Prog.ensures_request_bind submitted fun trial => ?_
    refine Prog.ensures_request_bind trivial fun _ => ?_
    refine Prog.ensures_attempt_bind (ensures_completeEvaluation.conforms.extends.mono
      (fun _ _ holds => holds) ?_)
    rintro h' res ⟨later, done⟩
    have still := (submitted.later ((List.prefix_append _ _).trans (List.prefix_append _ _))).later
      later
    cases res with
    | ok made =>
      obtain ⟨c, trials, concluded⟩ := done made rfl
      exact Prog.ensures_ret ⟨still, c, made.1, trials, made.2, concluded, rfl⟩
    | error e =>
      exact Prog.ensures_ite (fun _ => ih still) fun _ => Prog.ensures_ofExcept fun _ => nofun

end

/-! ## How many trials are executed -/

/-- The execution of a trial of the candidate. -/
def executes (id : Uuid) : EvaluationReq → Bool
  | .evaluate _ other => other = id
  | _ => false

section
open Prog

theorem callsAtMost_submitForEvaluation (id : Uuid) {tenantId candidateId : Uuid}
    {now : Instant} :
    CallsAtMost (executes id) 0 (submitForEvaluation tenantId candidateId now) := by
  unfold submitForEvaluation
  refine CallsAtMost.after rfl fun c => ?_
  refine CallsAtMost.afterExcept fun c' => ?_
  exact CallsAtMost.after rfl fun _ => callsAtMost_pure

theorem callsAtMost_decide (id : Uuid) {identity : IdentityContext} {candidateId : Uuid}
    {approved : Bool} {reason : String} {now : Instant} :
    CallsAtMost (executes id) 0 (decide identity candidateId approved reason now) := by
  unfold decide
  refine CallsAtMost.after rfl fun c => ?_
  refine CallsAtMost.afterExcept fun c' => ?_
  exact CallsAtMost.after rfl fun _ => callsAtMost_pure

variable [TrialStatistics]

theorem callsAtMost_completeEvaluation (id : Uuid) {identity : IdentityContext}
    {candidateId : Uuid} {policy : RepeatedTrialPolicy} {evaluationId : Uuid} {now : Instant} :
    CallsAtMost (executes id) 0
      (completeEvaluation identity candidateId policy evaluationId now) := by
  unfold completeEvaluation
  refine CallsAtMost.after rfl fun c => ?_
  refine CallsAtMost.after rfl fun trials => ?_
  refine CallsAtMost.afterExcept fun _ => ?_
  refine CallsAtMost.afterExcept fun assessment => ?_
  refine CallsAtMost.afterExcept fun record => ?_
  refine CallsAtMost.after rfl fun _ => ?_
  refine CallsAtMost.afterExcept fun target => ?_
  refine CallsAtMost.afterExcept fun graded => ?_
  exact CallsAtMost.after rfl fun _ => callsAtMost_pure

/-- Each attempt executes one trial. -/
theorem callsAtMost_attempts (id : Uuid) {identity : IdentityContext} {candidateId : Uuid}
    {policy : RepeatedTrialPolicy} {draws : Draws} {most left : Nat} {last : String} :
    CallsAtMost (executes id) left
      (attempts identity candidateId policy draws most left last) := by
  induction left generalizing last with
  | zero => exact callsAtMost_ofExcept
  | succ left ih =>
    have one : CallsAtMost (executes id) 1
        (evaluate identity.tenantId candidateId) :=
      callsAtMost_request.mono (Bool.toNat_le _)
    refine (one.bind (m := left) fun trial => CallsAtMost.after rfl fun _ => ?_).mono (by omega)
    refine ((callsAtMost_completeEvaluation id).attempt.bind (m := left) fun made => ?_).mono
      (by omega)
    cases made with
    | ok made => exact callsAtMost_pure
    | error e =>
      dsimp only
      split
      · exact ih
      · exact callsAtMost_ofExcept

theorem callsAtMost_work (id : Uuid) {uuid5 : String → Uuid} {policy : RepeatedTrialPolicy}
    {draws : Draws} {now : Instant} (work : Work) :
    CallsAtMost (executes id) (maxAttempts policy) (work.program uuid5 policy draws now) := by
  cases work with
  | activity input =>
    refine (CallsAtMost.bind (n := maxAttempts policy) (m := 0) ?_ fun _ =>
      callsAtMost_pure).mono (by omega)
    refine CallsAtMost.afterExcept fun tenantId => ?_
    refine CallsAtMost.afterExcept fun candidateId => ?_
    exact ((callsAtMost_submitForEvaluation id).bind fun _ => callsAtMost_attempts id).mono
      (by omega)
  | evaluation identity candidateId own =>
    refine ((callsAtMost_submitForEvaluation id).bind (m := 0) fun _ => ?_).mono (Nat.zero_le _)
    exact (callsAtMost_completeEvaluation id).bind (m := 0) fun _ => callsAtMost_pure
  | decision identity candidateId approved reason =>
    exact ((callsAtMost_decide id).bind (m := 0) fun _ => callsAtMost_pure).mono (Nat.zero_le _)

end

/-! ## What an answer tells -/

/-- How far a candidate has come: no transition leads back. -/
def rank : CandidateStatus → Nat
  | .draft => 0
  | .evaluating => 1
  | .awaitingApproval => 2
  | .approved => 3
  | .rejected => 3

theorem rank_lt {old new : CandidateStatus} (legal : new ∈ candidateTransitions old) :
    rank old < rank new := by
  cases old <;> cases new <;> first | decide | simp [candidateTransitions] at legal

abbrev ranking : Versioned.Ranking CandidateVersion (String × String) :=
  ⟨(·.optimisticVersion), fun c => rank c.status, fun c => (c.suiteId, c.suiteVersion)⟩

/-- Rows stand under their ids. -/
structure Keyed (db : EvolutionDb) : Prop where
  candidates : Versioned.Keyed (·.candidateId) db.candidates
  trials : Versioned.Keyed (·.trialId) db.trials

/-- Candidates move on, and what is recorded of them is kept. -/
structure Grows (db db' : EvolutionDb) : Prop where
  candidates : ranking.MovesOn db.candidates db'.candidates
  trials : Versioned.Keeps db.trials db'.trials
  evaluations : Versioned.Keeps db.evaluations db'.evaluations

/-- What an answered call tells of the tables: a candidate that was read or saved has been there,
and a trial that was listed and a record that was added are. -/
def Tells (db : EvolutionDb) : EvaluationEvent → Prop
  | ⟨.getCandidate _ id, .ok c⟩ => c.candidateId = id ∧ ranking.Came db.candidates id c
  | ⟨.saveCandidate c, .ok _⟩ => ranking.Came db.candidates c.candidateId c
  | ⟨.listTrialsForCandidate tenantId id, .ok trials⟩ => ∀ t ∈ (trials : List Trial),
    t.tenantId = tenantId ∧ t.candidateId = some id ∧ db.trials.get? t.trialId = some t
  | ⟨.addEvaluationRecord e, .ok _⟩ => db.evaluations.get? e.evaluationId = some e
  | _ => True

/-- What the rest of the service does to the tables: candidates are registered and trials are
added. -/
inductive Elsewhere (db : EvolutionDb) : EvolutionDb → Prop
  | registered {c : CandidateVersion} {db' : EvolutionDb}
      (added : EvolutionDb.addCandidate c db = .ok ((), db')) : Elsewhere db db'
  | tried {t : Trial} {db' : EvolutionDb} (added : EvolutionDb.addTrial t db = .ok ((), db')) :
    Elsewhere db db'
  | beside {db' : EvolutionDb} (candidates : db'.candidates = db.candidates)
      (trials : db'.trials = db.trials) (evaluations : db'.evaluations = db.evaluations) :
    Elsewhere db db'

/-- Activities and the service side by side, over the tables. -/
def system [TrialStatistics] (uuid5 : String → Uuid) (policy : RepeatedTrialPolicy) :
    System EvolutionDb Unit EvaluationReq EvaluationResp Exc (Option Bool) where
  starts p := ∃ work draws now, p = Work.program uuid5 policy draws now work
  answers db r ans db' := ∃ executed, (r.perform executed).commit db = (ans, db')
  outside db _ db' := Elsewhere db db'

section
variable {db db' : EvolutionDb}

theorem Grows.of_eq (candidates : db'.candidates = db.candidates)
    (trials : db'.trials = db.trials) (evaluations : db'.evaluations = db.evaluations) :
    Grows db db' := by
  refine ⟨?_, ?_, ?_⟩
  · rw [candidates]
    exact .refl _
  · rw [trials]
    exact .refl _
  · rw [evaluations]
    exact .refl _

theorem Keyed.of_eq (keyed : Keyed db) (candidates : db'.candidates = db.candidates)
    (trials : db'.trials = db.trials) : Keyed db' :=
  ⟨candidates ▸ keyed.candidates, trials ▸ keyed.trials⟩

/-- What was told stays true. -/
theorem Tells.grow {e : EvaluationEvent} (tells : Tells db e) (grows : Grows db db') :
    Tells db' e := by
  obtain ⟨r, ans⟩ := e
  cases ans with
  | error => cases r <;> trivial
  | ok answer =>
    cases r with
    | getCandidate _ id => exact ⟨tells.1, tells.2.movesOn grows.candidates⟩
    | saveCandidate c => exact Versioned.Ranking.Came.movesOn tells grows.candidates
    | listTrialsForCandidate tenantId id =>
      intro t listed
      obtain ⟨tenant, candidate, there⟩ := tells t listed
      exact ⟨tenant, candidate, grows.trials _ _ there⟩
    | addEvaluationRecord e => exact grows.evaluations _ _ tells
    | _ => trivial

theorem Advances.onward {c c' : CandidateVersion} (advances : Advances c c') :
    ranking.Onward c c' := by
  refine .inr ⟨?_, rank_lt advances.legal, advances.suite⟩
  dsimp only
  rw [advances.version]
  omega

/-- A save that was accepted found the candidate its own thread had read. -/
theorem saved_of_sourced {h : List EvaluationEvent} {c' row : CandidateVersion}
    (told : ∀ e ∈ h, Tells db e) (sourced : Sourced h (.saveCandidate c'))
    (there : db.candidates.get? c'.candidateId = some row)
    (version : row.optimisticVersion = c'.optimisticVersion - 1) : Advances row c' := by
  obtain ⟨tenantId, id, c, has, advances⟩ := sourced
  obtain ⟨named, came⟩ := told _ has
  rw [advances.id, named] at there
  have same : row = c := came.eq there (by dsimp only; rw [version, advances.version]; omega)
  rw [same]
  exact advances

theorem addTrial_grows {t : Trial} {r : Unit × EvolutionDb} (keyed : Keyed db)
    (ran : EvolutionDb.addTrial t db = .ok r) : Keyed r.2 ∧ Grows db r.2 := by
  obtain ⟨absent, wrote⟩ := addTrial_ok ran
  rw [wrote]
  exact ⟨⟨keyed.candidates, keyed.trials.set t⟩, .refl _, .insert absent t, .refl _⟩

/-- One answered call of a thread. -/
theorem answered_kept {h : List EvaluationEvent} {r : EvaluationReq} {executed : Except Exc Trial}
    {ans : Except Exc (EvaluationResp r)} (keyed : Keyed db) (told : ∀ e ∈ h, Tells db e)
    (sourced : Sourced h r) (answered : (r.perform executed).commit db = (ans, db')) :
    Keyed db' ∧ Tells db' ⟨r, ans⟩ ∧ Grows db db' := by
  rcases Tx.commit_cases (r.perform executed) db with ⟨e, raised⟩ | ⟨a, db₁, ran, returned⟩
  · cases raised.symm.trans answered
    exact ⟨keyed, by cases r <;> trivial, .of_eq rfl rfl rfl⟩
  cases returned.symm.trans answered
  cases r with
  | getCandidate tenantId id =>
    obtain ⟨there, _, same⟩ := EvolutionDb.getRow_ok.mp ran
    cases same
    exact ⟨keyed, ⟨keyed.candidates id _ there, .of_get? there⟩, .of_eq rfl rfl rfl⟩
  | saveCandidate c' =>
    have ran' : EvolutionDb.saveCandidate c' db = .ok (a, db') := ran
    obtain ⟨⟨row, there, _, version⟩, wrote⟩ := EvolutionDb.saveVersioned_ok.mp ran'
    cases wrote
    have advances := saved_of_sourced told sourced there version
    refine ⟨⟨keyed.candidates.set c', keyed.trials⟩, .set _ _ _, .set ?_, .refl _, .refl _⟩
    intro old here
    cases there.symm.trans here
    exact advances.onward
  | listTrialsForCandidate tenantId id =>
    have ran' : EvolutionDb.listTrialsForCandidate tenantId id db = .ok (a, db') := ran
    cases Tx.read_ok.mp ran'
    refine ⟨keyed, fun t listed => ?_, .of_eq rfl rfl rfl⟩
    obtain ⟨stored, owned⟩ := List.mem_filter.mp listed
    obtain ⟨id, there⟩ := (Dict.mem_values _ _).mp stored
    simp only [Bool.and_eq_true, decide_eq_true_eq] at owned
    have named : t.trialId = id := keyed.trials id t there
    rw [named]
    exact ⟨owned.1, owned.2, there⟩
  | addEvaluationRecord e =>
    have ran' : EvolutionDb.addEvaluationRecord e db = .ok (a, db') := ran
    obtain ⟨absent, wrote⟩ := EvolutionDb.insertRow_ok.mp ran'
    cases wrote
    exact ⟨⟨keyed.candidates, keyed.trials⟩, Dict.get?_set_self _ _ _, .refl _, .refl _,
      .insert absent e⟩
  | addTrial t =>
    have ran' : EvolutionDb.addTrial t db = .ok (a, db') := ran
    obtain ⟨keyed', grows⟩ := addTrial_grows keyed ran'
    exact ⟨keyed', trivial, grows⟩
  | evaluate tenantId id =>
    have same : db' = db := by
      cases executed with
      | error e => cases ran
      | ok trial =>
        cases ran
        rfl
    subst same
    exact ⟨keyed, trivial, .of_eq rfl rfl rfl⟩

theorem elsewhere_kept (keyed : Keyed db) (moved : Elsewhere db db') :
    Keyed db' ∧ Grows db db' := by
  cases moved with
  | @registered c _ added =>
    obtain ⟨absent, wrote⟩ := addCandidate_ok added
    cases wrote
    refine ⟨⟨keyed.candidates.set c, keyed.trials⟩, .set fun row there => ?_, .refl _, .refl _⟩
    cases absent.symm.trans there
  | tried added => exact addTrial_grows keyed added
  | beside candidates trials evaluations =>
    exact ⟨keyed.of_eq candidates trials, .of_eq candidates trials evaluations⟩

end

/-! ## One evaluation of a candidate -/

section
variable [TrialStatistics]

/-- Whatever is asked of the service, it saves what follows a candidate that it has read. -/
theorem ensures_work (uuid5 : String → Uuid) (policy : RepeatedTrialPolicy) (draws : Draws)
    (now : Instant) (work : Work) :
    Prog.Ensures Sourced (fun _ _ => True) [] (work.program uuid5 policy draws now) := by
  cases work with
  | activity input =>
    refine Prog.ensures_bind (S := fun _ _ => True) ?_ fun _ _ _ => Prog.ensures_ret trivial
    refine Prog.ensures_ofExcept_bind fun tenantId _ => ?_
    refine Prog.ensures_ofExcept_bind fun candidateId _ => ?_
    refine Prog.ensures_bind ensures_submitForEvaluation fun h' _ submitted => ?_
    exact (ensures_attempts submitted).mono fun _ _ _ => trivial
  | evaluation identity candidateId own =>
    refine Prog.ensures_bind ensures_submitForEvaluation fun _ _ _ => ?_
    exact Prog.ensures_bind ensures_completeEvaluation fun _ _ _ => Prog.ensures_ret trivial
  | decision identity candidateId approved reason =>
    exact Prog.ensures_bind ensures_decide fun _ _ _ => Prog.ensures_ret trivial

variable {uuid5 : String → Uuid} {policy : RepeatedTrialPolicy} {db : EvolutionDb}
  {w : Pool EvolutionDb EvaluationReq EvaluationResp Exc (Option Bool)}

theorem relies : Pool.Rely (system uuid5 policy) Sourced Keyed Tells where
  starts := by
    rintro _ ⟨work, draws, now, rfl⟩
    exact (ensures_work uuid5 policy draws now work).conforms.mono (fun _ _ => id)
      fun _ _ _ => trivial
  answered := by
    rintro _ _ _ _ _ keyed told sourced ⟨executed, answered⟩
    obtain ⟨keyed', new, grows⟩ := answered_kept keyed told sourced answered
    exact ⟨keyed', new, fun _ tells => tells.grow grows⟩
  outside keyed moved := by
    obtain ⟨keyed', grows⟩ := elsewhere_kept keyed moved
    exact ⟨keyed', fun _ tells => tells.grow grows⟩

/-- The accepted save that submits a candidate. -/
def submits (id : Uuid) : EvaluationEvent → Bool
  | ⟨.saveCandidate c, .ok _⟩ => c.candidateId = id && c.status = .evaluating
  | _ => false

omit [TrialStatistics] in
theorem submits_eq_true {id : Uuid} {e : EvaluationEvent} :
    submits id e = true ↔ ∃ c : CandidateVersion,
      e = ⟨.saveCandidate c, .ok ()⟩ ∧ c.candidateId = id ∧ c.status = .evaluating := by
  constructor
  · intro submitted
    obtain ⟨r, ans⟩ := e
    cases ans with
    | error => cases r <;> cases submitted
    | ok a =>
      cases r with
      | saveCandidate c =>
        simp only [submits, Bool.and_eq_true, decide_eq_true_eq] at submitted
        exact ⟨c, rfl, submitted⟩
      | _ => cases submitted
  · rintro ⟨c, rfl, rfl, status⟩
    simp [submits, status]

/-- No schedule submits a candidate twice. -/
theorem submitted_once (keyed : Keyed db)
    (reach : Pool.Reach (system uuid5 policy) (fun _ _ _ => True) db w) (id : Uuid) :
    w.events.countP (submits id) ≤ 1 := by
  refine relies.once keyed ?_ reach
  rintro s s' h r ans e _ told sourced ⟨executed, answered⟩ again before tells
  obtain ⟨c, rfl, same, status⟩ := submits_eq_true.mp before
  obtain ⟨c', made, same', status'⟩ := submits_eq_true.mp again
  cases made
  rcases Tx.commit_cases ((EvaluationReq.saveCandidate c').perform executed) s with
    ⟨e, raised⟩ | ⟨a, s₁, ran, returned⟩
  · cases raised.symm.trans answered
  have ran' : EvolutionDb.saveCandidate c' s = .ok (a, s₁) := ran
  obtain ⟨⟨row, there, _, version⟩, _⟩ := EvolutionDb.saveVersioned_ok.mp ran'
  have advanced := rank_lt (saved_of_sourced told sourced there version).legal
  have came : ranking.Came s.candidates c.candidateId c := tells
  have further := came.rank_le (same.trans same'.symm ▸ there)
  dsimp only at further
  rw [status] at further
  rw [status'] at advanced
  omega

/-- Two threads that have submitted one candidate are one. -/
theorem submitter_unique (keyed : Keyed db)
    (reach : Pool.Reach (system uuid5 policy) (fun _ _ _ => True) db w) {id : Uuid} {i j : Nat}
    {t u : Thread EvaluationReq EvaluationResp Exc (Option Bool)}
    (here : w.threads[i]? = some t) (there : w.threads[j]? = some u)
    (first : Submitted t.past id) (second : Submitted u.past id) : i = j := by
  have told := (relies.reach keyed reach).2
  have submits {k : Nat} {v : Thread EvaluationReq EvaluationResp Exc (Option Bool)}
      (present : w.threads[k]? = some v) (submitted : Submitted v.past id) :
      ∃ e ∈ v.past, submits id e = true := by
    obtain ⟨tenantId, c, c', has, advances, status, saved⟩ := submitted
    obtain ⟨named, _⟩ := told _
      (Pool.mem_events_of_thread (List.mem_of_getElem? present) has)
    exact ⟨_, saved, submits_eq_true.mpr ⟨c', rfl, advances.id.trans named, status⟩⟩
  exact Pool.eq_of_once (submitted_once keyed reach id) here there (submits here first)
    (submits there second)

/-- The thread is an execution of the activity for this input. -/
def Executes (uuid5 : String → Uuid) (policy : RepeatedTrialPolicy)
    (input : EvaluateCandidateInput)
    (t : Thread EvaluationReq EvaluationResp Exc (Option Bool)) : Prop :=
  ∃ draws now, Prog.Exec ((Work.activity input).program uuid5 policy draws now) t.past t.prog

/-- What an activity has done where it returns. -/
def Passed (uuid5 : String → Uuid) (policy : RepeatedTrialPolicy)
    (input : EvaluateCandidateInput) (h : List EvaluationEvent) (passed : Bool) : Prop :=
  ∃ tenantId candidateId, Uuid.parse input.tenantId = .ok tenantId ∧
    Uuid.parse input.candidateId = .ok candidateId ∧ Submitted h candidateId ∧
      ∃ c graded trials record,
        Concluded (grader uuid5 input tenantId) candidateId policy h c graded trials record ∧
          passed = Decidable.decide (graded.status = .awaitingApproval)

theorem passed_of_returned {input : EvaluateCandidateInput} {passed : Bool}
    {t : Thread EvaluationReq EvaluationResp Exc (Option Bool)}
    (runs : Executes uuid5 policy input t) (returned : t.prog = .ret (some passed)) :
    Passed uuid5 policy input t.past passed := by
  obtain ⟨draws, now, run⟩ := runs
  have ensured : Prog.Ensures Sourced
      (fun h' outcome => ∀ passed, outcome = some passed → Passed uuid5 policy input h' passed) []
      ((Work.activity input).program uuid5 policy draws now) := by
    refine Prog.ensures_bind (S := Passed uuid5 policy input) ?_ fun h' passed done =>
      Prog.ensures_ret fun _ same => Option.some.inj same ▸ done
    refine Prog.ensures_ofExcept_bind fun tenantId tenant => ?_
    refine Prog.ensures_ofExcept_bind fun candidateId candidate => ?_
    refine Prog.ensures_bind ensures_submitForEvaluation fun h' _ submitted => ?_
    refine (ensures_attempts submitted).mono fun h'' passed done => ?_
    exact ⟨tenantId, candidateId, tenant, candidate, done⟩
  rw [returned] at run
  exact Prog.conforms_exec ensured.conforms run _ rfl passed rfl

/-- However executions of the activity, evaluations, decisions and crashes interleave, no more
trials of a candidate are executed than one activity may execute, and one execution of the
activity at most returns a verdict on it. -/
theorem trials_budgeted (keyed : Keyed db)
    (reach : Pool.Reach (system uuid5 policy) (fun _ _ _ => True) db w) (id : Uuid) :
    w.events.countP (fun e => executes id e.req) ≤ maxAttempts policy ∧
      ∀ (i j : Nat) (t u : Thread EvaluationReq EvaluationResp Exc (Option Bool))
        (a b : EvaluateCandidateInput) (passed passed' : Bool),
        w.threads[i]? = some t → w.threads[j]? = some u → Executes uuid5 policy a t →
          Executes uuid5 policy b u → Uuid.parse a.candidateId = .ok id →
            Uuid.parse b.candidateId = .ok id → t.prog = .ret (some passed) →
              u.prog = .ret (some passed') → i = j := by
  have runs {t : Thread EvaluationReq EvaluationResp Exc (Option Bool)} (there : t ∈ w.threads) :
      ∃ work draws now, Prog.Exec (Work.program uuid5 policy draws now work) t.past t.prog := by
    obtain ⟨_, ⟨work, draws, now, rfl⟩, run⟩ := Pool.Reach.exec reach there
    exact ⟨work, draws, now, run⟩
  refine ⟨Pool.countP_le_of_one ?_ ?_, ?_⟩
  · intro t there
    obtain ⟨work, draws, now, run⟩ := runs there
    obtain ⟨left, spent, _⟩ := (callsAtMost_work id work).exec run
    omega
  · intro i j t u here there first second
    have submitted {k : Nat} {v : Thread EvaluationReq EvaluationResp Exc (Option Bool)}
        (present : w.threads[k]? = some v)
        (ran : 0 < v.past.countP fun e => executes id e.req) : Submitted v.past id := by
      obtain ⟨⟨r, ans⟩, past, executed⟩ := List.countP_pos_iff.mp ran
      obtain ⟨work, draws, now, run⟩ := runs (List.mem_of_getElem? present)
      obtain ⟨before, after, split⟩ := List.append_of_mem past
      have sourced := Prog.conforms_past (ensures_work uuid5 policy draws now work).conforms run
        split
      cases r with
      | evaluate tenantId other =>
        obtain rfl : other = id := by simpa [executes] using executed
        exact Submitted.later sourced (split ▸ List.prefix_append _ _)
      | _ => cases executed
    exact submitter_unique keyed reach here there (submitted here first) (submitted there second)
  · intro i j t u a b passed passed' here there first second parsed parsed' returned returned'
    obtain ⟨_, id₁, _, same₁, submitted₁, _⟩ := passed_of_returned first returned
    obtain ⟨_, id₂, _, same₂, submitted₂, _⟩ := passed_of_returned second returned'
    cases parsed.symm.trans same₁
    cases parsed'.symm.trans same₂
    exact submitter_unique keyed reach here there submitted₁ submitted₂

/-- The evidence of a verdict: a stored record by the grader of the tenant, which cites stored
trials of the candidate itself on the suite that the stored candidate has, whose assessment is as
the policy has it. -/
structure Evidenced (db : EvolutionDb) (policy : RepeatedTrialPolicy) (graderId id : Uuid)
    (passed : Bool) (c : CandidateVersion) (trials : List Trial) (record : CandidateEvaluation) :
    Prop where
  candidate : c.candidateId = id
  stored : db.evaluations.get? record.evaluationId = some record
  about : record.candidateId = id
  grader : record.graderPrincipalId = graderId.str
  cites : record.trialIds = trials.map (·.trialId)
  nonempty : trials ≠ []
  stored_trials : ∀ t ∈ trials, db.trials.get? t.trialId = some t ∧ t.candidateId = some id ∧
    t.subjectVersionId = id ∧ t.suiteId = c.suiteId ∧ t.suiteVersion = c.suiteVersion
  assessed : TrialConfidenceGate.assess policy trials = .ok record.assessment
  verdict : record.assessment.decision = if passed then .met else .notMet
  status : ∃ now, db.candidates.get? id = some now ∧
    (now.suiteId = c.suiteId ∧ now.suiteVersion = c.suiteVersion) ∧
      if passed then rank .awaitingApproval ≤ rank now.status else now.status = .rejected

omit [TrialStatistics] in
theorem rank_le (status : CandidateStatus) : rank status ≤ 3 := by
  cases status <;> decide

omit [TrialStatistics] in
/-- What an assessment led to. -/
theorem verdict_of_target {a : TrialConfidenceAssessment} {status : CandidateStatus}
    (target : evaluationTarget a = .ok status) :
    (a.decision = .met ∧ status = .awaitingApproval) ∨
      (a.decision = .notMet ∧ status = .rejected) := by
  unfold evaluationTarget at target
  split at target
  · rename_i met
    cases target
    exact .inl ⟨of_decide_eq_true met, rfl⟩
  · split at target
    · rename_i missed
      cases target
      exact .inr ⟨missed, rfl⟩
    · cases target

/-- However executions of the activity, evaluations, decisions and crashes interleave, a verdict
that an execution has returned stands on evidence in the tables, and the candidate has gone where
the verdict sends it. -/
theorem verdict_evidenced (keyed : Keyed db)
    (reach : Pool.Reach (system uuid5 policy) (fun _ _ _ => True) db w)
    {input : EvaluateCandidateInput} {t : Thread EvaluationReq EvaluationResp Exc (Option Bool)}
    (there : t ∈ w.threads) (runs : Executes uuid5 policy input t) {passed : Bool}
    (returned : t.prog = .ret (some passed)) :
    ∃ id c trials record, Uuid.parse input.candidateId = .ok id ∧
      Evidenced w.shared policy (workerPrincipal uuid5 "grader" input.tenantId) id passed c trials
        record := by
  obtain ⟨tenantId, id, _, parsed, _, c, graded, trials, record, concluded, outcome⟩ :=
    passed_of_returned runs returned
  have told := fun e (past : e ∈ t.past) =>
    (relies.reach keyed reach).2 e (Pool.mem_events_of_thread there past)
  obtain ⟨named, _⟩ := told _ concluded.has
  have listed : ∀ trial ∈ trials, trial.tenantId = tenantId ∧ trial.candidateId = some id ∧
      w.shared.trials.get? trial.trialId = some trial := told _ concluded.listed
  have came : ranking.Came w.shared.candidates graded.candidateId graded :=
    told _ concluded.saved
  rw [concluded.advances.id, named] at came
  obtain ⟨_, made⟩ := guarded_eq_ok.mp concluded.made
  have fields := congrArg (·.toEvaluationFields) made
  refine ⟨id, c, trials, record, parsed, {
    candidate := named
    stored := told _ concluded.recorded
    about := (congrArg (·.candidateId) fields).symm
    grader := (congrArg (·.graderPrincipalId) fields).symm
    cites := (congrArg (·.trialIds) fields).symm
    nonempty := ?_
    stored_trials := ?_
    assessed := concluded.assessed
    verdict := ?_
    status := ?_ }⟩
  · rintro rfl
    have valid := record.valid
    simp [EvaluationFields.check, checks_cons, ← congrArg (·.trialIds) fields] at valid
  · intro trial present
    obtain ⟨_, candidate, stored⟩ := listed trial present
    exact ⟨stored, candidate,
      requireOwnTrial_ok (forM_eq_ok.mp concluded.own trial present)⟩
  · rcases verdict_of_target concluded.target with ⟨decision, status⟩ | ⟨decision, status⟩ <;>
      simp [outcome, decision, status]
  · obtain ⟨row, here, onward⟩ := came
    have suite : (row.suiteId, row.suiteVersion) = (c.suiteId, c.suiteVersion) :=
      onward.fixed_eq.trans concluded.advances.suite
    refine ⟨row, here, Prod.mk.inj suite, ?_⟩
    rcases verdict_of_target concluded.target with ⟨_, status⟩ | ⟨_, status⟩
    · have met : passed = true := by rw [outcome, status]; rfl
      rw [met, if_pos rfl, ← status]
      exact onward.rank_le
    · have missed : passed = false := by rw [outcome, status]; rfl
      rw [missed, if_neg Bool.false_ne_true]
      rcases onward with rfl | ⟨_, further, _⟩
      · exact status
      · have most := rank_le row.status
        dsimp only at further
        rw [status] at further
        exact absurd further (Nat.not_lt.mpr most)

end

namespace Sample
open Evolution.Sample (gate)

def graderId (_ : String) : Uuid := 0x914b04447de451e6871e159f9bc643d1

def candidate : CandidateVersion where
  tenantId := 1
  proposalId := 100
  baselineVersionId := 3
  artifactRef := "artifact"
  artifactDigest := String.ofList (List.replicate 64 '0')
  suiteId := "suite"
  suiteVersion := "1"
  generatorId := "generator"
  candidateId := 101
  valid := by decide +kernel

/-- The candidate is drafted. -/
def drafted : EvolutionDb where
  candidates := Dict.empty.set 101 candidate

theorem drafted_keyed : Keyed drafted where
  candidates := Versioned.Keyed.set (fun _ _ there => by cases there) candidate
  trials := fun _ _ there => by cases there

def passing : Trial where
  tenantId := 1
  suiteId := "suite"
  suiteVersion := "1"
  subjectVersionId := 101
  harnessVersion := "1"
  trialId := 103
  status := .passed

/-- The evaluator executes a trial that passes. -/
def handle (s : EvolutionDb) (r : EvaluationReq) :
    Except Exc (EvaluationResp r) × EvolutionDb :=
  (r.perform (.ok passing)).commit s

def input : EvaluateCandidateInput where
  tenantId := (1 : Uuid).str
  candidateId := (101 : Uuid).str

def draws : Draws := fun k => (BitVec.ofNat 128 (104 + k), 5)

/-- What the activity asks once its input is read. -/
def asked : EvaluationProgram (Option Bool) :=
  (submitForEvaluation 1 101 4 >>= fun _ =>
    attempts (grader graderId input 1) 101 gate draws (maxAttempts gate) (maxAttempts gate)
      "no trial executed") >>= fun passed => return some passed

theorem activity_eq : (Work.activity input).program graderId gate draws 4 = asked := by
  have tenant : Uuid.parse input.tenantId = .ok 1 := Uuid.parse_str 1
  have candidate : Uuid.parse input.candidateId = .ok 101 := Uuid.parse_str 101
  simp only [Work.program, evaluateCandidate, tenant, candidate]
  rfl

/-- Two executions of the activity. -/
def begun : Pool EvolutionDb EvaluationReq EvaluationResp Exc (Option Bool) where
  shared := drafted
  threads := [⟨asked, [], true⟩, ⟨asked, [], true⟩]

/-- The second has read the candidate when the first runs to its end, and then goes on. -/
def finished : Pool EvolutionDb EvaluationReq EvaluationResp Exc (Option Bool) :=
  ((begun.advance handle 1 1).advance handle 0 8).advance handle 1 8

theorem begun_reached :
    Pool.Reach (system graderId gate) (fun _ _ _ => True) drafted begun := by
  have starts : (system graderId gate).starts asked :=
    ⟨.activity input, draws, 4, activity_eq.symm⟩
  exact (Pool.Steps.init.next (.start starts) trivial).next (.start starts) trivial

theorem handled (s : EvolutionDb) (r : EvaluationReq) :
    (system graderId gate).answers s r (handle s r).1 (handle s r).2 :=
  ⟨.ok passing, rfl⟩

theorem finished_later :
    Pool.Steps (system graderId gate) (fun _ _ _ => True) begun finished :=
  ((Pool.Steps.init.advance handled 1 (fun _ _ _ => trivial) 1).advance handled 0
    (fun _ _ _ => trivial) 8).advance handled 1 (fun _ _ _ => trivial) 8

theorem finished_runs {i : Nat} (started : begun.threads[i]? = some ⟨asked, [], true⟩)
    {t : Thread EvaluationReq EvaluationResp Exc (Option Bool)}
    (here : finished.threads[i]? = some t) : Executes graderId gate input t := by
  obtain ⟨t', past, here', same, run⟩ := finished_later.thread_later started
  cases here.symm.trans here'
  exact ⟨draws, 4, by
    rw [same, activity_eq]
    exact run⟩

def returned (w : Pool EvolutionDb EvaluationReq EvaluationResp Exc (Option Bool)) :
    Option Bool := do
  match (← w.threads[0]?).prog with
  | .ret outcome => outcome
  | _ => none

theorem returned_spec {w : Pool EvolutionDb EvaluationReq EvaluationResp Exc (Option Bool)}
    {passed : Bool} (done : returned w = some passed) :
    ∃ t, w.threads[0]? = some t ∧ t.prog = .ret (some passed) := by
  obtain ⟨t, found, done⟩ := Option.bind_eq_some_iff.mp done
  refine ⟨t, found, ?_⟩
  split at done
  · rename_i prog
    cases done
    exact prog
  · cases done

theorem finished_returned : returned finished = some true := by
  decide +kernel

theorem one_budgeted : finished.events.countP (fun e => executes 101 e.req) ≤ 2 ∧
    ∀ t passed, finished.threads[1]? = some t → t.prog ≠ .ret (some passed) := by
  have budgeted := trials_budgeted drafted_keyed (begun_reached.trans finished_later) 101
  have parsed : Uuid.parse input.candidateId = .ok 101 := Uuid.parse_str 101
  obtain ⟨first, here, done⟩ := returned_spec finished_returned
  refine ⟨budgeted.1, fun t passed there returned => ?_⟩
  have same := budgeted.2 0 1 first t input input true passed here there
    (finished_runs rfl here) (finished_runs rfl there) parsed parsed done returned
  cases same

theorem one_evidenced : ∃ id c trials record, Uuid.parse input.candidateId = .ok id ∧
    Evidenced finished.shared gate (workerPrincipal graderId "grader" input.tenantId) id true c
      trials record := by
  obtain ⟨t, here, done⟩ := returned_spec finished_returned
  exact verdict_evidenced drafted_keyed (begun_reached.trans finished_later)
    (List.mem_of_getElem? here) (finished_runs rfl here) done

end Sample

end CandidateEvaluations

end Autonoesis.Evolution
