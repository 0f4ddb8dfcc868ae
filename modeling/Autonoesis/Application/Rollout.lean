import Autonoesis.Application.Candidates
import Autonoesis.Application.Releases
import Autonoesis.Base.Requests

/-!
# Releasing and rolling back, stopped at any point

`release_stable` and `rollback` save the deployment and add the release in two transactions of
the repository. A store that raises or a process that crashes between them leaves a deployment
that has moved without its release, and the same call made again is refused from then on.
-/

namespace Autonoesis
open Base

/-- A call of the repository, one transaction. -/
inductive EvolutionReq where
  | getDeployment (tenantId deploymentId : Uuid)
  | getCandidate (tenantId candidateId : Uuid)
  | getObservation (tenantId deploymentId : Uuid) (stage : DeploymentStatus) (metric : String)
  | getActiveRelease (tenantId releaseId : Uuid)
  | saveDeployment (d : Deployment)
  | saveObservation (o : DeploymentObservation)
  | addRelease (release : Release)

abbrev EvolutionResp : EvolutionReq → Type
  | .getDeployment .. => Deployment
  | .getCandidate .. => CandidateVersion
  | .getObservation .. => Option DeploymentObservation
  | .getActiveRelease .. => Release
  | .saveDeployment _ => Unit
  | .saveObservation _ => Unit
  | .addRelease _ => Unit

def EvolutionReq.perform : (r : EvolutionReq) → EvolutionTx (EvolutionResp r)
  | .getDeployment tenantId deploymentId => EvolutionDb.getDeployment tenantId deploymentId
  | .getCandidate tenantId candidateId => EvolutionDb.getCandidate tenantId candidateId
  | .getObservation tenantId deploymentId stage metric =>
    EvolutionDb.getObservation tenantId deploymentId stage metric
  | .getActiveRelease tenantId releaseId => EvolutionDb.getActiveRelease tenantId releaseId
  | .saveDeployment d => EvolutionDb.saveDeployment d
  | .saveObservation o => EvolutionDb.saveObservation o
  | .addRelease release => EvolutionDb.addRelease release

namespace Evolution

/-- A method of the service as a program of repository calls. -/
abbrev Program (α : Type) := Prog EvolutionReq EvolutionResp Exc α

namespace Program

abbrev getDeployment (tenantId deploymentId : Uuid) : Program Deployment :=
  Prog.request (EvolutionReq.getDeployment tenantId deploymentId)
abbrev getCandidate (tenantId candidateId : Uuid) : Program CandidateVersion :=
  Prog.request (EvolutionReq.getCandidate tenantId candidateId)
abbrev getObservation (tenantId deploymentId : Uuid) (stage : DeploymentStatus)
    (metric : String) : Program (Option DeploymentObservation) :=
  Prog.request (EvolutionReq.getObservation tenantId deploymentId stage metric)
abbrev getActiveRelease (tenantId releaseId : Uuid) : Program Release :=
  Prog.request (EvolutionReq.getActiveRelease tenantId releaseId)
abbrev saveDeployment (d : Deployment) : Program Unit :=
  Prog.request (EvolutionReq.saveDeployment d)
abbrev saveObservation (o : DeploymentObservation) : Program Unit :=
  Prog.request (EvolutionReq.saveObservation o)
abbrev addRelease (release : Release) : Program Unit :=
  Prog.request (EvolutionReq.addRelease release)

def check (c : Bool) (e : Exc) : Program Unit := Prog.ofExcept (if c then .error e else .ok ())

@[simp] theorem check_calls (c : Bool) (e : Exc) :
    (check c e).calls EvolutionReq.perform = Calls.check c e := by
  rw [check, Prog.calls_ofExcept]
  rfl

/-- `_assert_promotion_gate`. -/
def assertPromotionGate (deployment : Deployment) (policy : PromotionPolicy) (now : Instant) :
    Program Unit := do
  match deployment.enteredAt .canary with
  | none => Prog.ofExcept (.error (.valueError "canary observation window has not started"))
  | some enteredAt =>
    let elapsed := now - enteredAt
    check (elapsed < policy.observationSeconds * 1000000)
      (.valueError ("canary observation window not elapsed: " ++ tenths elapsed ++ "s < " ++
        toString policy.observationSeconds ++ "s"))
    policy.requiredMetrics.forM fun metric => do
      let observation ←
        getObservation deployment.tenantId deployment.deploymentId .canary metric
      Prog.ofExcept (requireEvidence policy metric observation)

/-- What `release_stable` does before it writes. -/
def prepareStable (identity : IdentityContext) (deploymentId stableVersionId : Uuid)
    (policy : PromotionPolicy) (releaseId : Uuid) (now : Instant) :
    Program (Deployment × Release) := do
  let deployment ← getDeployment identity.tenantId deploymentId
  check (deployment.status ≠ .canary)
    (.valueError "only a canary deployment can promote to stable")
  assertPromotionGate deployment policy now
  let candidate ← getCandidate identity.tenantId deployment.candidateId
  let stable ← Prog.ofExcept
    (deployment.transitionTo .stable identity.actorId "canary gate passed" now)
  let release ← Prog.ofExcept (Release.fromStableDeployment stable stableVersionId
    candidate.baselineVersionId identity.actorId releaseId)
  return (stable, release)

/-- What `rollback` does before it writes. -/
def prepareRollback (identity : IdentityContext) (releaseId rollbackId : Uuid) (now : Instant) :
    Program (Deployment × Release) := do
  let release ← getActiveRelease identity.tenantId releaseId
  let deployment ← getDeployment identity.tenantId release.deploymentId
  let rolledBack ← Prog.ofExcept
    (deployment.transitionTo .rolledBack identity.actorId "release rollback requested" now)
  return (rolledBack, {
    tenantId := identity.tenantId
    candidateId := release.candidateId
    deploymentId := release.deploymentId
    stableVersionId := release.previousStableVersionId
    previousStableVersionId := release.stableVersionId
    approvedBy := identity.actorId
    releaseId := rollbackId })

/-- The two writes of both methods. -/
def persist (deployment : Deployment) (release : Release) : Program Release := do
  saveDeployment deployment
  addRelease release
  return release

end Program

/-- A call of `release_stable` or of `rollback`. -/
inductive Rollout where
  | releaseStable (identity : IdentityContext) (deploymentId stableVersionId : Uuid)
      (policy : PromotionPolicy)
  | rollback (identity : IdentityContext) (releaseId : Uuid)

namespace Rollout

/-- The method called, with the id and the clock reading it draws. -/
def method (id : Uuid) (now : Instant) : Rollout → Method Release
  | releaseStable identity deploymentId stableVersionId policy =>
    Evolution.releaseStable identity deploymentId stableVersionId policy id now
  | rollback identity releaseId => Evolution.rollback identity releaseId id now

def prepare (id : Uuid) (now : Instant) : Rollout → Program (Deployment × Release)
  | releaseStable identity deploymentId stableVersionId policy =>
    Program.prepareStable identity deploymentId stableVersionId policy id now
  | rollback identity releaseId => Program.prepareRollback identity releaseId id now

/-- The method as a program: what it reads, then its two writes. -/
def program (id : Uuid) (now : Instant) (c : Rollout) : Program Release := do
  let (deployment, release) ← c.prepare id now
  Program.persist deployment release

/-- How many calls of the repository a method makes before its first write. -/
def reads : Rollout → Nat
  | releaseStable _ _ _ policy => policy.requiredMetrics.length + 2
  | rollback _ _ => 2

end Rollout

theorem Program.assertPromotionGate_calls (d : Deployment) (policy : PromotionPolicy)
    (now : Instant) :
    (Program.assertPromotionGate d policy now).calls EvolutionReq.perform =
      Evolution.assertPromotionGate d policy now := by
  unfold Program.assertPromotionGate Evolution.assertPromotionGate
  cases d.enteredAt .canary with
  | none => simp
  | some enteredAt => simp [EvolutionReq.perform]

/-- The program is the method. -/
theorem Rollout.program_calls (c : Rollout) (id : Uuid) (now : Instant) :
    (c.program id now).calls EvolutionReq.perform = c.method id now := by
  cases c with
  | releaseStable identity deploymentId stableVersionId policy =>
    simp [program, prepare, method, Program.prepareStable, Program.persist, EvolutionReq.perform,
      Program.assertPromotionGate_calls, Evolution.releaseStable]
  | rollback identity releaseId =>
    simp [program, prepare, method, Program.prepareRollback, Program.persist,
      EvolutionReq.perform, Evolution.rollback]

/-! ## The shape of the programs -/

section
variable {db db' : EvolutionDb} {identity : IdentityContext} {now : Instant}

theorem keeps_getRow {α : Type} {name : String} {table : EvolutionDb → Dict Uuid α}
    {tenantOf : α → Uuid} {tenantId id : Uuid} :
    Tx.Keeps (fun s => s) (EvolutionDb.getRow name table tenantOf tenantId id) :=
  ⟨fun found => (EvolutionDb.getRow_ok.mp found).2.2⟩

theorem keeps_getActiveRelease {tenantId releaseId : Uuid} :
    Tx.Keeps (fun s => s) (EvolutionDb.getActiveRelease tenantId releaseId) := by
  constructor
  intro s a s' found
  obtain ⟨_, _, _, _, _, same⟩ := EvolutionDb.getActiveRelease_ok found
  exact congrArg Prod.snd same

namespace Program

theorem quiet_check (c : Bool) (e : Exc) : (check c e).Quiet EvolutionReq.perform :=
  Prog.quiet_ofExcept _

theorem straight_check (c : Bool) (e : Exc) : (check c e).Straight := Prog.straight_ofExcept _

theorem quiet_assertPromotionGate (d : Deployment) (policy : PromotionPolicy) (now : Instant) :
    (assertPromotionGate d policy now).Quiet EvolutionReq.perform := by
  unfold assertPromotionGate
  split
  · exact Prog.quiet_ofExcept _
  · refine Prog.quiet_bind (quiet_check _ _) fun _ => Prog.quiet_forM (fun metric => ?_) _
    exact Prog.quiet_bind (Prog.quiet_request (Tx.keeps_read _)) fun _ => Prog.quiet_ofExcept _

theorem straight_assertPromotionGate (d : Deployment) (policy : PromotionPolicy)
    (now : Instant) : (assertPromotionGate d policy now).Straight := by
  unfold assertPromotionGate
  split
  · exact Prog.straight_ofExcept _
  · refine Prog.straight_bind (straight_check _ _) fun _ => Prog.straight_forM (fun metric => ?_) _
    exact Prog.straight_bind (Prog.straight_request _) fun _ => Prog.straight_ofExcept _

/-- The gate reads one counter for each required metric. -/
theorem makes_assertPromotionGate (d : Deployment) (policy : PromotionPolicy) (now : Instant) :
    (assertPromotionGate d policy now).Makes EvolutionReq.perform
      policy.requiredMetrics.length := by
  unfold assertPromotionGate
  split
  · intro n s events a s' run
    rw [Prog.served_ofExcept] at run
    cases run
  · refine Prog.makes_ofExcept_bind fun _ => ?_
    rw [← Nat.mul_one policy.requiredMetrics.length]
    refine Prog.makes_forM (fun metric => ?_) _
    exact Prog.makes_request_bind fun _ => Prog.makes_ofExcept _

end Program

namespace Rollout

theorem quiet_prepare (c : Rollout) (id : Uuid) (now : Instant) :
    (c.prepare id now).Quiet EvolutionReq.perform := by
  cases c with
  | releaseStable identity deploymentId stableVersionId policy =>
    refine Prog.quiet_bind (Prog.quiet_request keeps_getRow) fun d => ?_
    refine Prog.quiet_bind (Program.quiet_check _ _) fun _ => ?_
    refine Prog.quiet_bind (Program.quiet_assertPromotionGate _ _ _) fun _ => ?_
    refine Prog.quiet_bind (Prog.quiet_request keeps_getRow) fun c => ?_
    refine Prog.quiet_bind (Prog.quiet_ofExcept _) fun d' => ?_
    exact Prog.quiet_bind (Prog.quiet_ofExcept _) fun _ => trivial
  | rollback identity releaseId =>
    refine Prog.quiet_bind (Prog.quiet_request keeps_getActiveRelease) fun release => ?_
    refine Prog.quiet_bind (Prog.quiet_request keeps_getRow) fun d => ?_
    exact Prog.quiet_bind (Prog.quiet_ofExcept _) fun _ => trivial

theorem straight_program (c : Rollout) (id : Uuid) (now : Instant) :
    (c.program id now).Straight := by
  refine Prog.straight_bind ?_ fun (d, release) => ?_
  · cases c with
    | releaseStable identity deploymentId stableVersionId policy =>
      refine Prog.straight_bind (Prog.straight_request _) fun d => ?_
      refine Prog.straight_bind (Program.straight_check _ _) fun _ => ?_
      refine Prog.straight_bind (Program.straight_assertPromotionGate _ _ _) fun _ => ?_
      refine Prog.straight_bind (Prog.straight_request _) fun c => ?_
      refine Prog.straight_bind (Prog.straight_ofExcept _) fun d' => ?_
      exact Prog.straight_bind (Prog.straight_ofExcept _) fun _ => trivial
    | rollback identity releaseId =>
      refine Prog.straight_bind (Prog.straight_request _) fun release => ?_
      refine Prog.straight_bind (Prog.straight_request _) fun d => ?_
      exact Prog.straight_bind (Prog.straight_ofExcept _) fun _ => trivial
  · refine Prog.straight_bind (Prog.straight_request _) fun _ => ?_
    exact Prog.straight_bind (Prog.straight_request _) fun _ => trivial

theorem makes_prepare (c : Rollout) (id : Uuid) (now : Instant) :
    (c.prepare id now).Makes EvolutionReq.perform c.reads := by
  cases c with
  | releaseStable identity deploymentId stableVersionId policy =>
    refine Prog.makes_request_bind fun d => ?_
    refine Prog.makes_ofExcept_bind fun _ => ?_
    refine Prog.makes_bind (Program.makes_assertPromotionGate _ _ _) fun _ => ?_
    refine Prog.makes_request_bind fun c => ?_
    refine Prog.makes_ofExcept_bind fun d' => ?_
    exact Prog.makes_ofExcept_bind fun _ => Prog.makes_pure _
  | rollback identity releaseId =>
    refine Prog.makes_request_bind fun release => ?_
    refine Prog.makes_request_bind fun d => ?_
    exact Prog.makes_ofExcept_bind fun _ => Prog.makes_pure _

/-! ## What a stopped call leaves -/

open EvolutionReq (perform)

/-- The tables a stopped call leaves. -/
def left (stop : Prog.Stop Exc) (c : Rollout) (id : Uuid) (now : Instant) (db : EvolutionDb) :
    EvolutionDb :=
  Prog.left perform stop (c.program id now) db

/-- The first write alone, or both. -/
theorem cutOff_persist (m n : Nat) (d : Deployment) (release : Release) (db : EvolutionDb) :
    Prog.cutOff (Prog.serve perform) (m + 1) n (Program.persist d release) db =
      if m = 0 then ((EvolutionDb.saveDeployment d).commit db).2
      else (Prog.served (Prog.serve perform) n (Program.persist d release) db).2.2 := by
  rw [Program.persist, Prog.bind_eq]
  simp only [Program.saveDeployment, Prog.request, Prog.bind, Prog.cutOff, Prog.served,
    Prog.serve, perform]
  rcases (EvolutionDb.saveDeployment d).commit db with ⟨saved, s⟩
  cases m with
  | zero => simp [Prog.cutOff_zero]
  | succ m =>
    rw [if_neg (Nat.succ_ne_zero m)]
    cases saved with
    | error e => rfl
    | ok u =>
      simp only [Prog.bind_eq, Prog.bind, Prog.cutOff, Prog.served, Prog.serve, perform]
      rcases (EvolutionDb.addRelease release).commit s with ⟨added, s'⟩
      cases added <;> cases m <;> rfl

/-- A stopped call has left the tables as they were, or has done all it does, unless it stands
between its writes. -/
theorem left_cases (stop : Prog.Stop Exc) (c : Rollout) (id : Uuid) (now : Instant)
    (db : EvolutionDb) :
    (stop.requests ≠ c.reads + 1 ∧ (c.left stop id now db = db ∨
        c.left stop id now db = (Calls.ran (c.method id now) db).2)) ∨
      ((∃ e, Calls.ran ((c.prepare id now).calls perform) db = (.error e, db)) ∧
        c.left stop id now db = db) ∨
      (stop.requests = c.reads + 1 ∧ ∃ d release,
        Calls.ran ((c.prepare id now).calls perform) db = (.ok (d, release), db) ∧
        c.left stop id now db = ((EvolutionDb.saveDeployment d).commit db).2) := by
  rw [left, Prog.left_eq (straight_program c id now)]
  have quiet := quiet_prepare c id now
  have ran := Prog.served_eq_ran perform 0 (c.prepare id now) db
  have whole := Prog.served_eq_ran perform 0 (c.program id now) db
  rw [program_calls] at whole
  rcases served : Prog.served (Prog.serve perform) 0 (c.prepare id now) db with
    ⟨events, result, s'⟩
  have same : s' = db := by
    have kept := quiet.served 0 db
    rwa [served] at kept
  subst same
  rw [served] at ran
  cases result with
  | error e =>
    rw [program, Prog.cutOff_bind_error served, quiet.cutOff]
    exact .inr (.inl ⟨⟨e, ran.symm⟩, rfl⟩)
  | ok written =>
    obtain ⟨d, release⟩ := written
    have count := makes_prepare c id now 0 s' events _ s' served
    rw [program, Prog.cutOff_bind_ok served, quiet.cutOff]
    by_cases early : stop.requests ≤ events.length
    · rw [if_pos early]
      exact .inl ⟨by omega, .inl rfl⟩
    · rw [if_neg early]
      obtain ⟨m, later⟩ : ∃ m, stop.requests - events.length = m + 1 :=
        ⟨stop.requests - events.length - 1, by omega⟩
      rw [later, cutOff_persist]
      by_cases between : m = 0
      · rw [if_pos between]
        exact .inr (.inr ⟨by omega, d, release, ran.symm, rfl⟩)
      · rw [if_neg between, ← whole, program, Prog.served_bind, served]
        exact .inl ⟨by omega, .inr rfl⟩

end Rollout

/-! ## When a call goes through -/

/-- What the promotion gate asks of the tables. -/
def GatePassed (d : Deployment) (policy : PromotionPolicy) (now : Instant) (db : EvolutionDb) :
    Prop :=
  ∃ enteredAt, d.enteredAt .canary = some enteredAt ∧
    policy.observationSeconds * 1000000 ≤ now - enteredAt ∧
    ∀ metric ∈ policy.requiredMetrics, ∃ o,
      db.observations.get? (d.tenantId, d.deploymentId, .canary, metric) = some o ∧
        policy.minSamples ≤ o.sampleCount ∧ o.lastValue.isSome = true

theorem requireEvidence_ok {policy : PromotionPolicy} {metric : String}
    {observation : Option DeploymentObservation} :
    requireEvidence policy metric observation = .ok () ↔ ∃ o, observation = some o ∧
      policy.minSamples ≤ o.sampleCount ∧ o.lastValue.isSome = true := by
  cases observation with
  | none => simp [requireEvidence]
  | some o => simp [requireEvidence, bind_eq_ok, raiseIf_eq_ok]

theorem assertPromotionGate_ok {d : Deployment} {policy : PromotionPolicy} :
    Calls.ran (assertPromotionGate d policy now) db = (.ok (), db) ↔
      GatePassed d policy now db := by
  unfold assertPromotionGate GatePassed
  cases d.enteredAt .canary with
  | none =>
    constructor
    · rintro ⟨⟩
    · rintro ⟨_, ⟨⟩, _⟩
  | some enteredAt =>
    have each (metric : String) : Calls.ran (Calls.tx (EvolutionDb.getObservation d.tenantId
        d.deploymentId .canary metric) >>= fun observation =>
          Calls.ofExcept (requireEvidence policy metric observation)) db = (.ok (), db) ↔
        ∃ o, db.observations.get? (d.tenantId, d.deploymentId, .canary, metric) = some o ∧
          policy.minSamples ≤ o.sampleCount ∧ o.lastValue.isSome = true := by
      rw [← requireEvidence_ok]
      constructor
      · intro whole
        obtain ⟨_, _, ⟨⟩⟩ | ⟨observation, read, passed⟩ := Calls.bind_reads (read_reads _) whole
        cases Tx.read_ok.mp (Calls.tx_ok read)
        exact Calls.ofExcept_ok passed
      · intro passed
        exact Calls.bind_of_ok (Calls.tx_of_ok (Tx.read_ok.mpr rfl))
          (Calls.ofExcept_ran.mpr ⟨passed.symm, rfl⟩)
    have all := Calls.forM_ran_ok policy.requiredMetrics db
      fun metric => Calls.reads_bind (read_reads fun db : EvolutionDb =>
        db.observations.get? (d.tenantId, d.deploymentId, .canary, metric)) fun observation =>
          Calls.reads_ofExcept (requireEvidence policy metric observation)
    constructor
    · intro whole
      obtain ⟨_, _, ⟨⟩⟩ | ⟨_, elapsed, metrics⟩ := Calls.bind_reads (Calls.reads_check _ _) whole
      have elapsed := Calls.check_ok elapsed
      simp only [decide_eq_false_iff_not, Int.not_lt] at elapsed
      exact ⟨enteredAt, rfl, elapsed, fun metric required =>
        (each metric).mp (all.mp metrics metric required)⟩
    · rintro ⟨_, ⟨⟩, elapsed, metrics⟩
      refine Calls.bind_of_ok (a := ()) (Calls.check_ran.mpr ⟨?_, rfl⟩)
        (all.mpr fun metric required => (each metric).mpr (metrics metric required))
      simp [Int.not_lt.mpr elapsed]

namespace Rollout

/-- The tables are such that the call, made at `now`, goes through. -/
def Ready (now : Instant) (db : EvolutionDb) : Rollout → Prop
  | releaseStable identity deploymentId _ policy =>
    ∃ d, db.deployments.get? deploymentId = some d ∧ d.tenantId = identity.tenantId ∧
      d.status = .canary ∧ GatePassed d policy now db
  | rollback identity releaseId =>
    ∃ row ∈ db.releases, row.releaseId = releaseId ∧ row.tenantId = identity.tenantId ∧
      row.active = true ∧ ∃ d, db.deployments.get? row.deploymentId = some d ∧
        d.tenantId = identity.tenantId ∧ .rolledBack ∈ deploymentTransitions d.status

/-- The call returns a release. -/
def Accepted (id : Uuid) (now : Instant) (db : EvolutionDb) (c : Rollout) : Prop :=
  ∃ release db', Calls.ran (c.method id now) db = (.ok release, db')

end Rollout

theorem transitionTo_legal {d : Deployment} {target : DeploymentStatus} {reason : String}
    (legal : target ∈ deploymentTransitions d.status) (shown : isBlank reason = false)
    (actorId : Uuid) (now : Instant) :
    ∃ d', d.transitionTo target actorId reason now = .ok d' :=
  ⟨_, bind_eq_ok.mpr ⟨(), requireTransition_ok.mpr legal, bind_eq_ok.mpr
    ⟨_, transitionRecord_ok.mpr ⟨shown, rfl⟩, rfl⟩⟩⟩

/-- A deployment as it was read and as it is to be saved, with a release that can be added. -/
structure Writable (db : EvolutionDb) (old new : Deployment) (release : Release) : Prop where
  there : db.deployments.get? old.deploymentId = some old
  moved : ∃ target actorId reason now, old.transitionTo target actorId reason now = .ok new
  candidate : ∃ c, db.candidates.get? release.candidateId = some c ∧
    c.tenantId = release.tenantId
  fresh : ∀ row ∈ db.releases, row.releaseId ≠ release.releaseId

/-- The first write. -/
theorem Writable.saved {old new : Deployment} {release : Release}
    (writable : Writable db old new release) : EvolutionDb.saveDeployment new db =
      .ok ((), { db with deployments := db.deployments.set new.deploymentId new }) := by
  obtain ⟨there, ⟨target, actorId, reason, now, moved⟩, -, -⟩ := writable
  obtain ⟨-, fields⟩ := Deployment.transitionTo_ok moved
  refine EvolutionDb.saveVersioned_ok.mpr ⟨⟨old, ?_, ?_, ?_⟩, rfl⟩
  · rw [fields]
    exact there
  · rw [fields]
    rfl
  · rw [fields]
    exact (Int.add_sub_cancel _ _).symm

/-- What can be written is written. -/
theorem Writable.ran {old new : Deployment} {release : Release}
    (writable : Writable db old new release) : ∃ db',
      Calls.ran ((Program.persist new release).calls EvolutionReq.perform) db =
        (.ok release, db') := by
  have saved := writable.saved
  obtain ⟨-, -, ⟨c, candidate, owned⟩, fresh⟩ := writable
  obtain ⟨db', added⟩ : ∃ db', EvolutionDb.addRelease release
      { db with deployments := db.deployments.set new.deploymentId new } = .ok ((), db') :=
    ⟨_, EvolutionDb.addRelease_ok.mpr ⟨c, candidate, owned, fresh, rfl⟩⟩
  refine ⟨db', ?_⟩
  simp only [Program.persist, Prog.calls_bind, Prog.calls_request, Prog.calls_pure,
    EvolutionReq.perform]
  exact Calls.bind_of_ok (Calls.tx_of_ok saved) (Calls.bind_of_ok (Calls.tx_of_ok added) rfl)

namespace Rollout
open EvolutionReq (perform)

variable {c : Rollout} {id : Uuid}

/-- The method reads and then writes. -/
theorem method_eq (c : Rollout) (id : Uuid) (now : Instant) :
    c.method id now = (c.prepare id now).calls perform >>= fun written =>
      (Program.persist written.1 written.2).calls perform := by
  rw [← program_calls, program, Prog.calls_bind]

/-- The deployment a call moves, as it is to be saved. -/
def Moves (db : EvolutionDb) (new : Deployment) : Rollout → Prop
  | releaseStable _ deploymentId _ _ => new.deploymentId = deploymentId ∧ new.status = .stable
  | rollback _ releaseId => new.status = .rolledBack ∧
    ∃ row ∈ db.releases, row.releaseId = releaseId ∧ new.deploymentId = row.deploymentId

/-- A call that is ready reads what can be written. -/
theorem prepared (sound : Sound db) (ids : (db.releases.map (·.releaseId)).Nodup)
    (fresh : Unused db id) (ready : c.Ready now db) : ∃ old new release,
      Calls.ran ((c.prepare id now).calls perform) db = (.ok (new, release), db) ∧
        Writable db old new release ∧ c.Moves db new := by
  cases c with
  | releaseStable identity deploymentId stableVersionId policy =>
    obtain ⟨d, there, tenant, canary, gate⟩ := ready
    obtain ⟨c, candidate, owned, -⟩ := sound.owner _ d there
    have legal : .stable ∈ deploymentTransitions d.status := by
      rw [canary]
      decide
    obtain ⟨d', moved⟩ :=
      transitionTo_legal legal (show isBlank "canary gate passed" = false by decide)
        identity.actorId now
    obtain ⟨moves, stable⟩ := transitionTo_moves moved
    have made : Release.fromStableDeployment d' stableVersionId c.baselineVersionId
        identity.actorId id = .ok ⟨d'.tenantId, d'.candidateId, d'.deploymentId, stableVersionId,
          c.baselineVersionId, identity.actorId, id⟩ := by
      simp [Release.fromStableDeployment, raiseIf, stable, bind, Except.bind, pure, Except.pure]
    refine ⟨d, d', ⟨d'.tenantId, d'.candidateId, d'.deploymentId, stableVersionId,
      c.baselineVersionId, identity.actorId, id⟩, ?_, ⟨?_, ⟨_, _, _, _, moved⟩, ⟨c, ?_, ?_⟩,
        fresh⟩, moves.id_eq.trans (sound.deployment_id _ d there), stable⟩
    · simp only [prepare, Program.prepareStable, Prog.calls_bind, Prog.calls_request,
        Prog.calls_ofExcept, Prog.calls_pure, Program.check_calls,
        Program.assertPromotionGate_calls, perform]
      refine Calls.bind_of_ok (Calls.tx_of_ok (EvolutionDb.getRow_ok.mpr ⟨there, tenant, rfl⟩)) ?_
      refine Calls.bind_of_ok (a := ()) (Calls.check_ran.mpr ⟨by simp [canary], rfl⟩) ?_
      refine Calls.bind_of_ok (assertPromotionGate_ok.mpr gate) ?_
      refine Calls.bind_of_ok (Calls.tx_of_ok (EvolutionDb.getRow_ok.mpr
        ⟨candidate, owned.trans tenant, rfl⟩)) ?_
      refine Calls.bind_of_ok (Calls.ofExcept_ran.mpr ⟨moved.symm, rfl⟩) ?_
      exact Calls.bind_of_ok (Calls.ofExcept_ran.mpr ⟨made.symm, rfl⟩) rfl
    · rw [sound.deployment_id _ d there]
      exact there
    · rw [moves.candidate]
      exact candidate
    · rw [moves.tenant]
      exact owned
  | rollback identity releaseId =>
    obtain ⟨row, among, rfl, tenant, active, d, there, owned, legal⟩ := ready
    obtain ⟨c, _, candidate, held, -⟩ := sound.linked row among
    obtain ⟨d', moved⟩ := transitionTo_legal legal
      (show isBlank "release rollback requested" = false by decide) identity.actorId now
    obtain ⟨moves, rolledBack⟩ := transitionTo_moves moved
    refine ⟨d, d', ⟨identity.tenantId, row.candidateId, row.deploymentId,
      row.previousStableVersionId, row.stableVersionId, identity.actorId, id⟩, ?_,
        ⟨?_, ⟨_, _, _, _, moved⟩, ⟨c, candidate, held.trans tenant⟩, fresh⟩, rolledBack, row,
        among, rfl, moves.id_eq.trans (sound.deployment_id _ d there)⟩
    · simp only [prepare, Program.prepareRollback, Prog.calls_bind, Prog.calls_request,
        Prog.calls_ofExcept, Prog.calls_pure, perform]
      refine Calls.bind_of_ok (Calls.tx_of_ok
        (tenant ▸ getActiveRelease_of_mem ids among active)) ?_
      refine Calls.bind_of_ok (Calls.tx_of_ok (EvolutionDb.getRow_ok.mpr ⟨there, owned, rfl⟩)) ?_
      exact Calls.bind_of_ok (Calls.ofExcept_ran.mpr ⟨moved.symm, rfl⟩) rfl
    · rw [sound.deployment_id _ d there]
      exact there

theorem accepted_of_ready (sound : Sound db) (ids : (db.releases.map (·.releaseId)).Nodup)
    (fresh : Unused db id) (ready : c.Ready now db) : c.Accepted id now db := by
  obtain ⟨old, new, release, read, writable, -⟩ := prepared sound ids fresh ready
  obtain ⟨db', wrote⟩ := writable.ran
  refine ⟨release, db', ?_⟩
  rw [method_eq]
  exact Calls.bind_of_ok read wrote

/-- A call that returns was ready. -/
theorem ready_of_accepted (accepted : c.Accepted id now db) : c.Ready now db := by
  obtain ⟨release, db', whole⟩ := accepted
  cases c with
  | releaseStable identity deploymentId stableVersionId policy =>
    obtain ⟨_, _, ⟨⟩⟩ | ⟨d, found, whole⟩ := Calls.bind_reads getRow_reads whole
    obtain ⟨_, _, ⟨⟩⟩ | ⟨_, canary, whole⟩ := Calls.bind_reads (Calls.reads_check _ _) whole
    obtain ⟨_, _, ⟨⟩⟩ | ⟨_, gate, -⟩ :=
      Calls.bind_reads (assertPromotionGate_reads _ _ _) whole
    obtain ⟨there, tenant⟩ := getRow_found found
    exact ⟨d, there, tenant, by simpa using Calls.check_ok canary, assertPromotionGate_ok.mp gate⟩
  | rollback identity releaseId =>
    obtain ⟨_, _, ⟨⟩⟩ | ⟨release, active, whole⟩ := Calls.bind_reads getActiveRelease_reads whole
    obtain ⟨row, among, named, tenant, inForce, same⟩ :=
      EvolutionDb.getActiveRelease_ok (Calls.tx_ok active)
    cases same
    obtain ⟨_, _, ⟨⟩⟩ | ⟨d, found, whole⟩ := Calls.bind_reads getRow_reads whole
    obtain ⟨_, _, ⟨⟩⟩ | ⟨d', moved, -⟩ := Calls.bind_reads (Calls.reads_ofExcept _) whole
    obtain ⟨there, owned⟩ := getRow_found found
    exact ⟨row, among, named, tenant, inForce, d, there, owned,
      (Deployment.transitionTo_ok (Calls.ofExcept_ok moved)).1⟩

/-- A call that is refused leaves the tables as they were. -/
theorem refused (sound : Sound db) (fresh : Unused db id) (not : ¬ c.Accepted id now db) :
    (Calls.ran (c.method id now) db).2 = db := by
  cases c with
  | releaseStable identity deploymentId stableVersionId policy =>
    obtain raised | ⟨_, _, _, release, returned, -⟩ := releaseStable_ran fresh
      (Prod.eta (Calls.ran (Evolution.releaseStable identity deploymentId stableVersionId policy id now)
        db)).symm
    · exact raised.1
    · exact absurd ⟨release, _, Prod.ext returned rfl⟩ not
  | rollback identity releaseId =>
    obtain raised | ⟨_, _, _, release, returned, -⟩ := rollback_ran sound.linked fresh
      (Prod.eta (Calls.ran (Evolution.rollback identity releaseId id now) db)).symm
    · exact raised.1
    · exact absurd ⟨release, _, Prod.ext returned rfl⟩ not

/-! ## Between the two writes -/

/-- The call is not stopped halfway: either nothing or everything it writes is there, and if it
has not taken effect, made again later it goes through if it would have gone through. -/
structure Whole (stop : Prog.Stop Exc) (c : Rollout) (id : Uuid) (now : Instant)
    (db : EvolutionDb) : Prop where
  together : c.left stop id now db = db ∨
    ∃ release, Calls.ran (c.method id now) db = (.ok release, c.left stop id now db)
  retry : (¬ ∃ release, Calls.ran (c.method id now) db = (.ok release, c.left stop id now db)) →
    c.Ready now db → ∀ again later, now ≤ later → Unused (c.left stop id now db) again →
      c.Accepted again later (c.left stop id now db)

/-- What the first write makes of the tables is neither what it found nor what the call makes
of them. -/
theorem saved_apart {d : Deployment} {release made : Release} {db' : EvolutionDb}
    (read : Calls.ran ((c.prepare id now).calls perform) db = (.ok (d, release), db))
    (ran : Calls.ran (c.method id now) db = (.ok made, db')) :
    ((EvolutionDb.saveDeployment d).commit db).2 ≠ db ∧
      ((EvolutionDb.saveDeployment d).commit db).2 ≠ db' := by
  rw [method_eq] at ran
  obtain ⟨_, _, ⟨⟩⟩ | ⟨_, _, first, rest⟩ := Calls.bind_ran.mp ran
  cases read.symm.trans first
  simp only [Program.persist, Prog.calls_bind, Prog.calls_request, Prog.calls_pure, perform]
    at rest
  obtain ⟨_, _, ⟨⟩⟩ | ⟨_, s₁, saved, rest⟩ := Calls.bind_ran.mp rest
  obtain ⟨_, _, ⟨⟩⟩ | ⟨_, _, added, returned⟩ := Calls.bind_ran.mp rest
  have saved := Calls.tx_ok saved
  have left : (EvolutionDb.saveDeployment d).commit db = (.ok (), s₁) := by
    rw [Tx.commit, saved]
  rw [left]
  obtain ⟨⟨row, there, -, version⟩, rfl⟩ := EvolutionDb.saveVersioned_ok.mp saved
  constructor
  · intro same
    have now := congrArg (fun db => db.deployments.get? d.deploymentId) same
    simp only [Dict.get?_set_self] at now
    cases now.trans there
    omega
  · intro same
    obtain ⟨_, _, _, _, rfl⟩ := EvolutionDb.addRelease_ok.mp (Calls.tx_ok added)
    have longer := congrArg (fun db => db.releases.length)
      (same.trans (Calls.pure_ran.mp returned).2)
    simp [EvolutionDb.deactivated] at longer

/-- A call that is refused after it has read does not save. -/
theorem unsaved (sound : Sound db) (fresh : Unused db id) {d : Deployment} {release : Release}
    (read : Calls.ran ((c.prepare id now).calls perform) db = (.ok (d, release), db))
    (not : ¬ c.Accepted id now db) : ((EvolutionDb.saveDeployment d).commit db).2 = db := by
  obtain ⟨e, failed⟩ | ⟨_, s, ran, saved⟩ := Tx.commit_cases (EvolutionDb.saveDeployment d) db
  · rw [failed]
  · rw [saved]
    have whole : Calls.ran (c.method id now) db =
        Calls.ran (Calls.tx (EvolutionDb.addRelease release) >>= fun _ => pure release) s := by
      rw [method_eq]
      refine Calls.bind_of_ok read ?_
      simp only [Program.persist, Prog.calls_bind, Prog.calls_request, Prog.calls_pure, perform]
      exact Calls.bind_of_ok (Calls.tx_of_ok ran) rfl
    obtain ⟨same, -⟩ | ⟨-, returned⟩ :=
      Calls.tx_pure_ran (whole.symm.trans (Prod.eta (Calls.ran (c.method id now) db)).symm)
    · exact same.symm.trans (refused sound fresh not)
    · exact absurd ⟨release, _, Prod.ext returned rfl⟩ not

theorem ready_later {later : Instant} (after : now ≤ later) (ready : c.Ready now db) :
    c.Ready later db := by
  cases c with
  | releaseStable identity deploymentId stableVersionId policy =>
    obtain ⟨d, there, tenant, canary, enteredAt, entered, elapsed, metrics⟩ := ready
    exact ⟨d, there, tenant, canary, enteredAt, entered,
      elapsed.trans (Int.sub_le_sub_right after _), metrics⟩
  | rollback => exact ready

/-- A call of either method is stopped halfway exactly when it was ready and is stopped between
its two writes. -/
theorem whole_iff {stop : Prog.Stop Exc} (sound : Sound db)
    (ids : (db.releases.map (·.releaseId)).Nodup) (fresh : Unused db id) :
    Whole stop c id now db ↔ ¬ (stop.requests = c.reads + 1 ∧ c.Ready now db) := by
  constructor
  · rintro ⟨together, -⟩ ⟨between, ready⟩
    obtain ⟨old, d, written, read, -⟩ := prepared sound ids fresh ready
    obtain ⟨release, db', ran⟩ := accepted_of_ready sound ids fresh ready
    obtain ⟨elsewhere, -⟩ | ⟨⟨e, raised⟩, -⟩ | ⟨-, d', release', read', left⟩ :=
      left_cases stop c id now db
    · exact elsewhere between
    · cases raised.symm.trans read
    · obtain ⟨moved, torn⟩ := saved_apart read' ran
      rw [left] at together
      obtain same | ⟨other, whole⟩ := together
      · exact moved same
      · exact torn (congrArg Prod.snd (whole.symm.trans ran))
  · intro apart
    have kept : c.left stop id now db = db ∨ ∃ release,
        Calls.ran (c.method id now) db = (.ok release, c.left stop id now db) := by
      obtain ⟨-, same | done⟩ | ⟨-, same⟩ | ⟨between, d, release, read, left⟩ :=
        left_cases stop c id now db
      · exact .inl same
      · by_cases accepted : c.Accepted id now db
        · obtain ⟨release, db', ran⟩ := accepted
          rw [done, ran]
          exact .inr ⟨release, rfl⟩
        · exact .inl (done.trans (refused sound fresh accepted))
      · exact .inl same
      · have not : ¬ c.Accepted id now db := fun accepted =>
          apart ⟨between, ready_of_accepted accepted⟩
        exact .inl (left.trans (unsaved sound fresh read not))
    refine ⟨kept, fun without ready again later after unused => ?_⟩
    rw [kept.resolve_right without] at unused ⊢
    exact accepted_of_ready sound ids unused (ready_later after ready)

/-- Once its deployment has moved, a call is not ready again. -/
theorem not_ready_moved {new : Deployment} (ids : (db.releases.map (·.releaseId)).Nodup)
    (moves : c.Moves db new) (later : Instant) :
    ¬ c.Ready later { db with deployments := db.deployments.set new.deploymentId new } := by
  intro ready
  cases c with
  | releaseStable identity deploymentId stableVersionId policy =>
    obtain ⟨rfl, stable⟩ := moves
    obtain ⟨d, there, -, canary, -⟩ := ready
    cases (Dict.get?_set_self _ _ _).symm.trans there
    cases stable.symm.trans canary
  | rollback identity releaseId =>
    obtain ⟨rolledBack, row, among, rfl, named⟩ := moves
    obtain ⟨other, still, same, -, -, d, there, -, legal⟩ := ready
    cases List.inj_on_of_nodup_map ids still among same
    rw [← named] at there
    cases (Dict.get?_set_self _ _ _).symm.trans there
    rw [rolledBack] at legal
    cases legal

/-- A call stopped between its two writes is refused whenever it is made again. -/
theorem torn_refused {stop : Prog.Stop Exc} (sound : Sound db)
    (ids : (db.releases.map (·.releaseId)).Nodup) (fresh : Unused db id)
    (between : stop.requests = c.reads + 1) (ready : c.Ready now db) (again : Uuid)
    (later : Instant) : ¬ c.Accepted again later (c.left stop id now db) := by
  obtain ⟨old, new, written, read, writable, moves⟩ := prepared sound ids fresh ready
  obtain ⟨elsewhere, -⟩ | ⟨⟨e, raised⟩, -⟩ | ⟨-, d', release, read', left⟩ :=
    left_cases stop c id now db
  · exact absurd between elsewhere
  · cases raised.symm.trans read
  · cases read.symm.trans read'
    intro accepted
    apply not_ready_moved ids moves later
    have saved : ((EvolutionDb.saveDeployment new).commit db).2 =
        { db with deployments := db.deployments.set new.deploymentId new } := by
      rw [Tx.commit, writable.saved]
    rw [← saved, ← left]
    exact ready_of_accepted accepted

end Rollout

end

namespace Sample

/-- A canary of the first candidate. -/
def canary : EvolutionDb := (approving 100 ++ deploying 100).leaves allowAll {}

def toStable : Rollout := .releaseStable (identity 14) 107 110 ⟨{}, by decide⟩

theorem canary_sound : Sound canary := by
  have legal : (approving 100 ++ deploying 100).Legal allowAll (fun _ _ => True) {} := by
    decide +kernel
  exact (Script.runs legal).sound Sound.empty

theorem canary_releases : canary.releases = [] := by
  decide +kernel

/-- The process crashes after the deployment is saved: it is stable, and there is no release. -/
theorem stable_without_release :
    ¬ ∀ (stop : Prog.Stop Exc) (c : Rollout) (id : Uuid) (now : Instant) (db : EvolutionDb),
      Sound db → (db.releases.map (·.releaseId)).Nodup → Unused db id →
        Rollout.Whole stop c id now db := by
  intro all
  have fresh : Unused canary 109 := by
    intro row there
    rw [canary_releases] at there
    cases there
  have ids : (canary.releases.map (·.releaseId)).Nodup := by
    rw [canary_releases]
    exact List.nodup_nil
  have facts : ((toStable.left (.crash 3) 109 9 canary).deployments.get? 107).map (·.status) =
        some .stable ∧
      (canary.deployments.get? 107).map (·.status) = some .canary ∧
      (toStable.left (.crash 3) 109 9 canary).releases = [] ∧
      (Calls.ran (toStable.method 109 9) canary).2.releases ≠ [] := by
    decide +kernel
  obtain ⟨stable, before, without, released⟩ := facts
  obtain ⟨same | ⟨release, whole⟩, -⟩ := all (.crash 3) toStable 109 9 canary canary_sound ids fresh
  · rw [same, before] at stable
    cases stable
  · rw [whole] at released
    exact released without

/-- A crash before the deployment is saved leaves the call to be made again. -/
theorem canary_crash_whole : Rollout.Whole (.crash 2) toStable 109 9 canary :=
  (Rollout.whole_iff canary_sound (by rw [canary_releases]; exact List.nodup_nil)
    (fun row there => by rw [canary_releases] at there; cases there)).mpr
    fun between => absurd between.1 (by decide)

end Sample

end Evolution

end Autonoesis
