import Autonoesis.Application.Rollout
import Autonoesis.Base.Fence
import Autonoesis.Base.Ranked
import Autonoesis.Domain.Lifecycles
import Autonoesis.Domain.Uuids

/-!
# Executing release commands

`ReleaseExecutionWorkflow` applies one release transition by one activity, which is never retried.
A command that is dispatched again runs beside its first execution or after it, a worker can crash
between any two transactions, and the service rolls deployments back on its own meanwhile. What
keeps a command from being applied twice is the state machine of the deployment, together with the
version every save names.
-/

namespace Autonoesis
open Base

def Exc.applicationError (message : String) : Exc := ⟨"ApplicationError", [.exception], message⟩

structure ReleaseCommandInput where
  tenantId : String
  action : String
  deploymentId : String := ""
  releaseId : String := ""
  stableVersionId : String := ""
  candidatePercent : Int := 0
  salt : String := ""
  minSamples : Int := 1
  observationSeconds : Int := 0
  requiredMetrics : List String := []

/-- `_RELEASE_COMMAND_ACTIONS`. -/
def releaseCommandActions : List String := ["enter_canary", "release_stable", "rollback_release"]

namespace Evolution

namespace Program

/-- `promote_to_canary`, as a program of repository calls. -/
def promoteToCanary (identity : IdentityContext) (deploymentId : Uuid)
    (allocation : TrafficAllocation) (now : Instant) : Program Deployment := do
  let deployment ← getDeployment identity.tenantId deploymentId
  let candidate ← getCandidate identity.tenantId deployment.candidateId
  check (involved identity.principalId candidate)
    (.permissionError "release execution requires an independent principal")
  let promoted ← Prog.ofExcept (deployment.enterCanary allocation identity.actorId
    ("canary entered with " ++ toString allocation.candidatePercent ++
      "% deterministic candidate traffic") now)
  saveDeployment promoted
  return promoted

/-- `rollback_deployment`. -/
def rollbackDeployment (identity : IdentityContext) (deploymentId : Uuid) (reason : String)
    (now : Instant) : Program Deployment := do
  check (isBlank reason) (.valueError "rollback requires a recorded reason")
  let deployment ← getDeployment identity.tenantId deploymentId
  let rolledBack ← Prog.ofExcept
    (deployment.transitionTo .rolledBack identity.actorId (strip reason) now)
  saveDeployment rolledBack
  return rolledBack

/-- `rollback_if_breached`. -/
def rollbackIfBreached (identity : IdentityContext) (deploymentId : Uuid)
    (stage : DeploymentStatus) (metric : String) (minConsecutive : Int) (now : Instant) :
    Program (Option Deployment) := do
  match ← getObservation identity.tenantId deploymentId stage metric with
  | none => return none
  | some observation =>
    if observation.breachCount < minConsecutive then return none
    else
      let rolledBack ← rollbackDeployment identity deploymentId ("guardrail breach: " ++ metric ++
        " breached " ++ toString observation.breachCount ++ " consecutive samples") now
      return some rolledBack

theorem promoteToCanary_calls (identity : IdentityContext) (deploymentId : Uuid)
    (allocation : TrafficAllocation) (now : Instant) :
    (promoteToCanary identity deploymentId allocation now).calls EvolutionReq.perform =
      Evolution.promoteToCanary identity deploymentId allocation now := by
  simp [promoteToCanary, Evolution.promoteToCanary, EvolutionReq.perform]

theorem rollbackDeployment_calls (identity : IdentityContext) (deploymentId : Uuid)
    (reason : String) (now : Instant) :
    (rollbackDeployment identity deploymentId reason now).calls EvolutionReq.perform =
      Evolution.rollbackDeployment identity deploymentId reason now := by
  simp [rollbackDeployment, Evolution.rollbackDeployment, EvolutionReq.perform]

theorem rollbackIfBreached_calls (identity : IdentityContext) (deploymentId : Uuid)
    (stage : DeploymentStatus) (metric : String) (minConsecutive : Int) (now : Instant) :
    (rollbackIfBreached identity deploymentId stage metric minConsecutive now).calls
      EvolutionReq.perform =
        Evolution.rollbackIfBreached identity deploymentId stage metric minConsecutive now := by
  simp only [rollbackIfBreached, Evolution.rollbackIfBreached, Prog.calls_bind,
    Prog.calls_request, EvolutionReq.perform]
  congr 1
  funext observation
  cases observation with
  | none => rfl
  | some observation =>
    simp only
    split
    · rfl
    · rw [Prog.calls_bind, rollbackDeployment_calls]
      rfl

end Program

/-! ## The activity -/

/-- `_worker_principal`; `uuid5` is that of the nil namespace. -/
def workerPrincipal (uuid5 : String → Uuid) (duty tenantId : String) : Uuid :=
  uuid5 (duty ++ ":" ++ tenantId)

/-- The identity of the release executor of a tenant. -/
def releaseExecutor (uuid5 : String → Uuid) (input : ReleaseCommandInput) (tenantId : Uuid) :
    IdentityContext where
  tenantId := tenantId
  actorId := 0
  principalId := workerPrincipal uuid5 "release-executor" input.tenantId
  roles := ["release_executor"]
  agentId := some "temporal-release-executor"

/-- `execute_release_command`, with the id of the release it makes and its clock reading. -/
def executeReleaseCommand (uuid5 : String → Uuid) (input : ReleaseCommandInput) (id : Uuid)
    (now : Instant) : Program String := do
  Program.check (input.action ∉ releaseCommandActions)
    (.applicationError ("unknown release command action: " ++ input.action))
  let tenantId ← Prog.ofExcept (Uuid.parse input.tenantId)
  let identity := releaseExecutor uuid5 input tenantId
  if input.action = "enter_canary" then
    let deploymentId ← Prog.ofExcept (Uuid.parse input.deploymentId)
    let allocation : TrafficAllocation := ⟨input.salt, input.candidatePercent⟩
    Prog.ofExcept allocation.check
    let deployment ← Program.promoteToCanary identity deploymentId allocation now
    return "canary:" ++ deployment.deploymentId.str
  else if input.action = "release_stable" then
    let deploymentId ← Prog.ofExcept (Uuid.parse input.deploymentId)
    let stableVersionId ← Prog.ofExcept (Uuid.parse input.stableVersionId)
    let fields : PromotionPolicyFields :=
      ⟨input.minSamples, input.observationSeconds, input.requiredMetrics⟩
    let policy ← Prog.ofExcept (guarded fields.check fun valid => PromotionPolicy.mk fields valid)
    let release ←
      (Rollout.releaseStable identity deploymentId stableVersionId policy).program id now
    return "stable:" ++ release.releaseId.str
  else
    let releaseId ← Prog.ofExcept (Uuid.parse input.releaseId)
    let release ← (Rollout.rollback identity releaseId).program id now
    return "rolled_back:" ++ release.releaseId.str

/-- What moves deployments on: release commands, and rollbacks that are asked of the service. -/
inductive ReleaseWork where
  | command (input : ReleaseCommandInput)
  | rollbackDeployment (identity : IdentityContext) (deploymentId : Uuid) (reason : String)
  | rollbackIfBreached (identity : IdentityContext) (deploymentId : Uuid)
      (stage : DeploymentStatus) (metric : String) (minConsecutive : Int)

/-- The outcome of a command is its text. -/
def ReleaseWork.program (uuid5 : String → Uuid) (id : Uuid) (now : Instant) :
    ReleaseWork → Program (Option String)
  | command input => do
    let outcome ← executeReleaseCommand uuid5 input id now
    return some outcome
  | rollbackDeployment identity deploymentId reason => do
    let _ ← Program.rollbackDeployment identity deploymentId reason now
    return none
  | rollbackIfBreached identity deploymentId stage metric minConsecutive => do
    let _ ← Program.rollbackIfBreached identity deploymentId stage metric minConsecutive now
    return none

/-! ## What the programs save -/

namespace ReleaseExecution

abbrev EvolutionEvent := Event EvolutionReq EvolutionResp Exc

/-- `d'` is `d` after one legal transition. -/
structure Follows (d d' : Deployment) (target : DeploymentStatus) : Prop where
  legal : target ∈ deploymentTransitions d.status
  status : d'.status = target
  id : d'.deploymentId = d.deploymentId
  version : d'.optimisticVersion = d.optimisticVersion + 1

theorem follows_of_transitionTo {d d' : Deployment} {target : DeploymentStatus} {actorId : Uuid}
    {reason : String} {now : Instant} (moved : d.transitionTo target actorId reason now = .ok d') :
    Follows d d' target := by
  obtain ⟨legal, fields⟩ := Deployment.transitionTo_ok moved
  exact ⟨legal, congrArg (·.status) fields, congrArg (·.deploymentId) fields,
    congrArg (·.optimisticVersion) fields⟩

theorem follows_of_enterCanary {d d' : Deployment} {allocation : TrafficAllocation}
    {actorId : Uuid} {reason : String} {now : Instant}
    (moved : d.enterCanary allocation actorId reason now = .ok d') : Follows d d' .canary := by
  obtain ⟨legal, fields⟩ := Deployment.enterCanary_ok moved
  exact ⟨legal, congrArg (·.status) fields, congrArg (·.deploymentId) fields,
    congrArg (·.optimisticVersion) fields⟩

/-- A program that has read this deployment. -/
def Has (h : List EvolutionEvent) (tenantId id : Uuid) (d : Deployment) : Prop :=
  (⟨.getDeployment tenantId id, .ok d⟩ : EvolutionEvent) ∈ h

/-- A program whose save has been accepted. -/
def HasSaved (h : List EvolutionEvent) : Prop :=
  ∃ d, (⟨.saveDeployment d, .ok ()⟩ : EvolutionEvent) ∈ h

/-- A program saves what follows a deployment it has read, as it aims to, and adds a release
only when a save of its own has been accepted. -/
def Sourced (aim : List EvolutionEvent → Uuid → DeploymentStatus → Prop)
    (h : List EvolutionEvent) : EvolutionReq → Prop
  | .saveDeployment d' => ∃ tenantId id d, Has h tenantId id d ∧ Follows d d' d'.status ∧
      aim h id d'.status
  | .addRelease _ => HasSaved h
  | _ => True

/-- The history is kept by whatever is called next. -/
theorem Has.later {h : List EvolutionEvent} {tenantId id : Uuid} {d : Deployment}
    (has : Has h tenantId id d) (e : EvolutionEvent) : Has (h ++ [e]) tenantId id d :=
  List.mem_append_left _ has

section
variable {aim : List EvolutionEvent → Uuid → DeploymentStatus → Prop} {h : List EvolutionEvent}
  {identity : IdentityContext} {now : Instant}

theorem mem_concat_self {h : List EvolutionEvent} {e : EvolutionEvent} : e ∈ h ++ [e] :=
  List.mem_append_right _ (List.mem_singleton_self e)

/-- The save of what follows a deployment that was read. -/
theorem ensures_save {α : Type} {tenantId id : Uuid} {d d' : Deployment}
    {target : DeploymentStatus} {k : Program α} (has : Has h tenantId id d)
    (follows : Follows d d' target) (aimed : aim h id target)
    (rest : ∀ h', HasSaved h' → Prog.Ensures (Sourced aim) (fun h' _ => HasSaved h') h' k) :
    Prog.Ensures (Sourced aim) (fun h' _ => HasSaved h') h
      (Program.saveDeployment d' >>= fun _ => k) := by
  obtain rfl := follows.status
  refine Prog.ensures_request_bind ⟨tenantId, id, d, has, follows, aimed⟩ fun _ => ?_
  exact rest _ ⟨d', List.mem_append_right _ (List.mem_singleton_self _)⟩

theorem ensures_promoteToCanary {deploymentId : Uuid} {allocation : TrafficAllocation}
    (aimed : ∀ h, aim h deploymentId .canary) :
    Prog.Ensures (Sourced aim) (fun h' _ => HasSaved h') h
      (Program.promoteToCanary identity deploymentId allocation now) := by
  refine Prog.ensures_request_bind trivial fun d => ?_
  refine Prog.ensures_request_bind trivial fun c => ?_
  refine Prog.ensures_ofExcept_bind fun _ _ => ?_
  refine Prog.ensures_ofExcept_bind fun promoted moved => ?_
  have has : Has (h ++ [_]) identity.tenantId deploymentId d := mem_concat_self
  exact ensures_save (has.later _) (follows_of_enterCanary moved) (aimed _)
    fun h' saved => Prog.ensures_ret saved

theorem ensures_rollbackDeployment {deploymentId : Uuid} {reason : String}
    (aimed : ∀ h, aim h deploymentId .rolledBack) :
    Prog.Ensures (Sourced aim) (fun h' _ => HasSaved h') h
      (Program.rollbackDeployment identity deploymentId reason now) := by
  refine Prog.ensures_ofExcept_bind fun _ _ => ?_
  refine Prog.ensures_request_bind trivial fun d => ?_
  refine Prog.ensures_ofExcept_bind fun rolledBack moved => ?_
  have has : Has (h ++ [_]) identity.tenantId deploymentId d := mem_concat_self
  exact ensures_save has (follows_of_transitionTo moved) (aimed _)
    fun h' saved => Prog.ensures_ret saved

/-- The gate reads counters. -/
theorem ensures_assertPromotionGate {d : Deployment} {policy : PromotionPolicy}
    {tenantId id : Uuid} {read : Deployment} (has : Has h tenantId id read) :
    Prog.Ensures (Sourced aim) (fun h' _ => Has h' tenantId id read) h
      (Program.assertPromotionGate d policy now) := by
  unfold Program.assertPromotionGate
  split
  · exact Prog.ensures_raise
  · refine Prog.ensures_ofExcept_bind fun _ _ => ?_
    refine Prog.ensures_forM (fun metric h' has => ?_) has
    refine Prog.ensures_request_bind trivial fun observation => ?_
    exact Prog.ensures_ofExcept fun _ _ => has.later _

/-- What a rollout is about to save follows a deployment that it has read. -/
def Prepared (aim : List EvolutionEvent → Uuid → DeploymentStatus → Prop)
    (h : List EvolutionEvent) (d' : Deployment) : Prop :=
  ∃ tenantId id d target, Has h tenantId id d ∧ Follows d d' target ∧ aim h id target

theorem ensures_prepareStable {deploymentId stableVersionId id : Uuid} {policy : PromotionPolicy}
    (aimed : ∀ h, aim h deploymentId .stable) :
    Prog.Ensures (Sourced aim) (fun h' made => Prepared aim h' made.1) h
      (Program.prepareStable identity deploymentId stableVersionId policy id now) := by
  refine Prog.ensures_request_bind trivial fun d => ?_
  refine Prog.ensures_ofExcept_bind fun _ _ => ?_
  have has : Has (h ++ [_]) identity.tenantId deploymentId d := mem_concat_self
  refine Prog.ensures_bind (ensures_assertPromotionGate has) fun h' _ has => ?_
  refine Prog.ensures_request_bind trivial fun c => ?_
  refine Prog.ensures_ofExcept_bind fun stable moved => ?_
  refine Prog.ensures_ofExcept_bind fun release _ => ?_
  exact Prog.ensures_ret ⟨_, _, d, _, has.later _, follows_of_transitionTo moved, aimed _⟩

theorem ensures_prepareRollback {releaseId id : Uuid}
    (aimed : ∀ h release, (⟨.getActiveRelease identity.tenantId releaseId, .ok release⟩ :
      EvolutionEvent) ∈ h → aim h release.deploymentId .rolledBack) :
    Prog.Ensures (Sourced aim) (fun h' made => Prepared aim h' made.1) h
      (Program.prepareRollback identity releaseId id now) := by
  refine Prog.ensures_request_bind trivial fun release => ?_
  refine Prog.ensures_request_bind trivial fun d => ?_
  refine Prog.ensures_ofExcept_bind fun rolledBack moved => ?_
  refine Prog.ensures_ret ⟨_, _, d, _, mem_concat_self, follows_of_transitionTo moved, ?_⟩
  exact aimed _ release (List.mem_append_left _ mem_concat_self)

theorem ensures_persist {d : Deployment} {release : Release} (prepared : Prepared aim h d) :
    Prog.Ensures (Sourced aim) (fun h' _ => HasSaved h') h (Program.persist d release) := by
  obtain ⟨_, _, _, _, has, follows, aimed⟩ := prepared
  refine ensures_save has follows aimed fun h' saved => ?_
  refine Prog.ensures_request_bind saved fun _ => Prog.ensures_ret ?_
  obtain ⟨d, there⟩ := saved
  exact ⟨d, List.mem_append_left _ there⟩

end

/-! ## What a release command aims at -/

/-- The transition a command asks for, of the deployment it names or of that of the release it
names. -/
def Aims (input : ReleaseCommandInput) (h : List EvolutionEvent) (id : Uuid)
    (status : DeploymentStatus) : Prop :=
  (input.action = "enter_canary" ∧ Uuid.parse input.deploymentId = .ok id ∧ status = .canary) ∨
  (input.action = "release_stable" ∧ Uuid.parse input.deploymentId = .ok id ∧ status = .stable) ∨
  (input.action = "rollback_release" ∧ status = .rolledBack ∧ ∃ tenantId releaseId release,
    Uuid.parse input.releaseId = .ok releaseId ∧
      (⟨.getActiveRelease tenantId releaseId, .ok release⟩ : EvolutionEvent) ∈ h ∧
        release.deploymentId = id)

theorem ensures_command (uuid5 : String → Uuid) (input : ReleaseCommandInput) (id : Uuid)
    (now : Instant) (h : List EvolutionEvent) :
    Prog.Ensures (Sourced (Aims input)) (fun h' _ => HasSaved h') h
      (executeReleaseCommand uuid5 input id now) := by
  refine Prog.ensures_ofExcept_bind fun _ passed => ?_
  refine Prog.ensures_ofExcept_bind fun tenantId _ => ?_
  refine Prog.ensures_ite (fun canary => ?_) fun other => Prog.ensures_ite (fun stable => ?_)
    fun neither => ?_
  · refine Prog.ensures_ofExcept_bind fun deploymentId parsed => ?_
    refine Prog.ensures_ofExcept_bind fun _ _ => ?_
    exact Prog.ensures_bind (ensures_promoteToCanary fun _ => .inl ⟨canary, parsed, rfl⟩)
      fun h' d saved => Prog.ensures_ret saved
  · refine Prog.ensures_ofExcept_bind fun deploymentId parsed => ?_
    refine Prog.ensures_ofExcept_bind fun stableVersionId _ => ?_
    refine Prog.ensures_ofExcept_bind fun policy _ => ?_
    refine Prog.ensures_bind (Prog.ensures_bind
      (ensures_prepareStable fun _ => .inr (.inl ⟨stable, parsed, rfl⟩))
      fun h' made prepared => ensures_persist prepared) fun h' release saved => ?_
    exact Prog.ensures_ret saved
  · have action : input.action = "rollback_release" := by
      by_contra unknown
      simp [releaseCommandActions, other, neither, unknown] at passed
    refine Prog.ensures_ofExcept_bind fun releaseId parsed => ?_
    refine Prog.ensures_bind (Prog.ensures_bind
      (ensures_prepareRollback fun _ release there => .inr (.inr
        ⟨action, rfl, _, releaseId, release, parsed, there, rfl⟩))
      fun h' made prepared => ensures_persist prepared) fun h' release saved => ?_
    exact Prog.ensures_ret saved

/-- A command that returns has had its save accepted. -/
theorem ensures_work (uuid5 : String → Uuid) (input : ReleaseCommandInput) (id : Uuid)
    (now : Instant) :
    Prog.Ensures (Sourced (Aims input)) (fun h' _ => HasSaved h') []
      ((ReleaseWork.command input).program uuid5 id now) :=
  Prog.ensures_bind (ensures_command uuid5 input id now []) fun _ _ saved =>
    Prog.ensures_ret saved

theorem Sourced.any {aim : List EvolutionEvent → Uuid → DeploymentStatus → Prop}
    {h : List EvolutionEvent} {r : EvolutionReq} (sourced : Sourced aim h r) :
    Sourced (fun _ _ _ => True) h r := by
  cases r with
  | saveDeployment d' =>
    obtain ⟨tenantId, id, d, has, follows, _⟩ := sourced
    exact ⟨tenantId, id, d, has, follows, trivial⟩
  | addRelease => exact sourced
  | _ => trivial

/-- Whatever is asked of the service, it saves what follows a deployment that it has read. -/
theorem conforms_work (uuid5 : String → Uuid) (id : Uuid) (now : Instant) (work : ReleaseWork) :
    Prog.Conforms (Sourced fun _ _ _ => True) (fun _ _ => True) []
      (work.program uuid5 id now) := by
  have ensured : Prog.Ensures (Sourced fun _ _ _ => True) (fun _ _ => True) []
      (work.program uuid5 id now) := by
    cases work with
    | command input =>
      have made := (ensures_work uuid5 input id now).conforms
      exact ⟨made.mono (fun _ _ => Sourced.any) fun _ _ _ _ _ => trivial⟩
    | rollbackDeployment identity deploymentId reason =>
      exact Prog.ensures_bind (ensures_rollbackDeployment fun _ => trivial)
        fun _ _ _ => Prog.ensures_ret trivial
    | rollbackIfBreached identity deploymentId stage metric minConsecutive =>
      refine Prog.ensures_bind (S := fun _ _ => True) ?_ fun _ _ _ => Prog.ensures_ret trivial
      refine Prog.ensures_request_bind trivial fun observation => ?_
      cases observation with
      | none => exact Prog.ensures_ret trivial
      | some observation =>
        refine Prog.ensures_ite (fun _ => Prog.ensures_ret trivial) fun _ => ?_
        exact Prog.ensures_bind (ensures_rollbackDeployment fun _ => trivial)
          fun _ _ _ => Prog.ensures_ret trivial
  exact ensured.conforms.mono (fun _ _ sourced => sourced) fun _ _ _ => trivial

/-! ## What an answer tells -/

/-- How far a deployment has come: no transition leads back. -/
def rank : DeploymentStatus → Nat
  | .shadow => 0
  | .canary => 1
  | .stable => 2
  | .failed => 3
  | .rolledBack => 3

theorem rank_lt {old new : DeploymentStatus} (legal : new ∈ deploymentTransitions old) :
    rank old < rank new := by
  cases old <;> cases new <;> first | decide | simp [deploymentTransitions] at legal

abbrev ranking : Versioned.Ranking Deployment Uuid :=
  ⟨(·.optimisticVersion), fun d => rank d.status, (·.deploymentId)⟩

/-- Rows stand under their ids, and no two releases share one. -/
structure Keyed (db : EvolutionDb) : Prop where
  deployments : Versioned.Keyed (·.deploymentId) db.deployments
  releases : (db.releases.map (·.releaseId)).Nodup

/-- Deployments move on, and a release that was added stays what it was. -/
structure Grows (db db' : EvolutionDb) : Prop where
  deployments : ranking.MovesOn db.deployments db'.deployments
  releases : ∀ row ∈ db.releases, ∃ row' ∈ db'.releases, row'.toRelease = row.toRelease

/-- What an answered call tells of the tables: a deployment that was read or saved has been there,
and a release has been added. -/
def Tells (db : EvolutionDb) : EvolutionEvent → Prop
  | ⟨.getDeployment _ id, .ok d⟩ =>
    d.deploymentId = id ∧ ranking.Came db.deployments id d
  | ⟨.saveDeployment d, .ok _⟩ => ranking.Came db.deployments d.deploymentId d
  | ⟨.getActiveRelease _ releaseId, .ok release⟩ =>
    release.releaseId = releaseId ∧ ∃ row ∈ db.releases, row.toRelease = release
  | _ => True

theorem Grows.of_eq {db db' : EvolutionDb} (deployments : db'.deployments = db.deployments)
    (releases : db'.releases = db.releases) : Grows db db' := by
  refine ⟨?_, fun row there => ⟨row, ?_, rfl⟩⟩
  · rw [deployments]
    exact .refl _
  · rw [releases]
    exact there

theorem Keyed.of_eq {db db' : EvolutionDb} (keyed : Keyed db)
    (deployments : db'.deployments = db.deployments) (releases : db'.releases = db.releases) :
    Keyed db' := by
  refine ⟨?_, ?_⟩
  · rw [deployments]
    exact keyed.deployments
  · rw [releases]
    exact keyed.releases

/-- What was told stays true. -/
theorem Tells.grow {db db' : EvolutionDb} {e : EvolutionEvent} (tells : Tells db e)
    (grows : Grows db db') : Tells db' e := by
  obtain ⟨r, ans⟩ := e
  cases ans with
  | error => cases r <;> trivial
  | ok answer =>
    cases r with
    | getDeployment _ id => exact ⟨tells.1, tells.2.movesOn grows.deployments⟩
    | saveDeployment d => exact Versioned.Ranking.Came.movesOn tells grows.deployments
    | getActiveRelease _ releaseId =>
      obtain ⟨named, row, there, same⟩ := tells
      obtain ⟨row', there', same'⟩ := grows.releases row there
      exact ⟨named, row', there', same'.trans same⟩
    | _ => trivial

/-- A save that was accepted found the deployment its own thread had read. -/
theorem saved_of_sourced {db : EvolutionDb} {h : List EvolutionEvent} {d' row : Deployment}
    (told : ∀ e ∈ h, Tells db e) (sourced : Sourced (fun _ _ _ => True) h (.saveDeployment d'))
    (there : db.deployments.get? d'.deploymentId = some row)
    (version : row.optimisticVersion = d'.optimisticVersion - 1) :
    Follows row d' d'.status := by
  obtain ⟨tenantId, id, d, has, follows, _⟩ := sourced
  obtain ⟨named, came⟩ := told _ has
  rw [follows.id, named] at there
  have same : row = d := came.eq there (by dsimp only; rw [version, follows.version]; omega)
  rw [same]
  exact follows

theorem Follows.onward {d d' : Deployment} {target : DeploymentStatus}
    (follows : Follows d d' target) : ranking.Onward d d' := by
  refine .inr ⟨?_, ?_, follows.id⟩
  · dsimp only
    rw [follows.version]
    omega
  · dsimp only
    rw [follows.status]
    exact rank_lt follows.legal

/-- One answered call of a thread. -/
theorem answered_kept {db db' : EvolutionDb} {h : List EvolutionEvent} {r : EvolutionReq}
    {ans : Except Exc (EvolutionResp r)} (keyed : Keyed db) (told : ∀ e ∈ h, Tells db e)
    (sourced : Sourced (fun _ _ _ => True) h r) (answered : r.perform.commit db = (ans, db')) :
    Keyed db' ∧ Tells db' ⟨r, ans⟩ ∧ Grows db db' := by
  rcases Tx.commit_cases r.perform db with ⟨e, raised⟩ | ⟨a, db₁, ran, returned⟩
  · cases raised.symm.trans answered
    exact ⟨keyed, by cases r <;> trivial, .of_eq rfl rfl⟩
  cases returned.symm.trans answered
  cases r with
  | getDeployment tenantId id =>
    obtain ⟨there, _, same⟩ := EvolutionDb.getRow_ok.mp ran
    cases same
    exact ⟨keyed, ⟨keyed.deployments id _ there, .of_get? there⟩, .of_eq rfl rfl⟩
  | getCandidate tenantId id =>
    obtain ⟨_, _, same⟩ := EvolutionDb.getRow_ok.mp ran
    cases same
    exact ⟨keyed, trivial, .of_eq rfl rfl⟩
  | getObservation tenantId id stage metric =>
    have ran' : EvolutionDb.getObservation tenantId id stage metric db = .ok (a, db') := ran
    cases Tx.read_ok.mp ran'
    exact ⟨keyed, trivial, .of_eq rfl rfl⟩
  | getActiveRelease tenantId releaseId =>
    obtain ⟨row, there, named, _, _, same⟩ := EvolutionDb.getActiveRelease_ok ran
    cases same
    exact ⟨keyed, ⟨named, row, there, rfl⟩, .of_eq rfl rfl⟩
  | saveDeployment d' =>
    have ran' : EvolutionDb.saveDeployment d' db = .ok (a, db') := ran
    obtain ⟨⟨row, there, _, version⟩, wrote⟩ := EvolutionDb.saveVersioned_ok.mp ran'
    cases wrote
    have follows := saved_of_sourced told sourced there version
    refine ⟨⟨keyed.deployments.set d', keyed.releases⟩, .set _ _ _, .set ?_, fun row there =>
      ⟨row, there, rfl⟩⟩
    intro old here
    cases there.symm.trans here
    exact follows.onward
  | saveObservation o =>
    have ran' : EvolutionDb.saveObservation o db = .ok (a, db') := ran
    cases Tx.write_ok.mp ran'
    exact ⟨keyed.of_eq rfl rfl, trivial, .of_eq rfl rfl⟩
  | addRelease release =>
    obtain ⟨candidate, _, _, unused, wrote⟩ := EvolutionDb.addRelease_ok.mp ran
    cases wrote
    refine ⟨⟨keyed.deployments, ?_⟩, trivial, .refl _, ?_⟩
    · rw [List.map_append, releaseIds_deactivated, List.map_singleton]
      refine List.Nodup.append keyed.releases (List.nodup_singleton _) ?_
      rw [List.disjoint_singleton]
      intro used
      obtain ⟨row, there, same⟩ := List.mem_map.mp used
      exact unused row there same
    · intro row there
      refine ⟨_, List.mem_append_left _ (List.mem_map_of_mem there), ?_⟩
      split <;> rfl

/-! ## The fence -/

/-- What the rest of the service does to the tables of deployments and releases: a deployment is
begun. -/
inductive Elsewhere (db : EvolutionDb) : EvolutionDb → Prop
  | begun {d : Deployment} {db' : EvolutionDb}
      (added : EvolutionDb.addDeployment d db = .ok ((), db')) : Elsewhere db db'
  | beside {db' : EvolutionDb} (deployments : db'.deployments = db.deployments)
      (releases : db'.releases = db.releases) : Elsewhere db db'

/-- Release commands and rollbacks side by side, over the tables. -/
def system (uuid5 : String → Uuid) : System EvolutionDb Unit EvolutionReq EvolutionResp Exc
    (Option String) where
  starts p := ∃ work id now, p = ReleaseWork.program uuid5 id now work
  answers db r ans db' := r.perform.commit db = (ans, db')
  outside db _ db' := Elsewhere db db'

theorem elsewhere_kept {db db' : EvolutionDb} (keyed : Keyed db) (moved : Elsewhere db db') :
    Keyed db' ∧ Grows db db' := by
  cases moved with
  | begun added =>
    obtain ⟨absent, wrote⟩ := EvolutionDb.insertRow_ok.mp added
    cases wrote
    refine ⟨⟨keyed.deployments.set _, keyed.releases⟩, .set fun row there => ?_, fun row there =>
      ⟨row, there, rfl⟩⟩
    cases absent.symm.trans there
  | beside deployments releases =>
    exact ⟨keyed.of_eq deployments releases, .of_eq deployments releases⟩

theorem relies (uuid5 : String → Uuid) :
    Pool.Rely (system uuid5) (Sourced fun _ _ _ => True) Keyed Tells where
  starts := by
    rintro _ ⟨work, id, now, rfl⟩
    exact conforms_work uuid5 id now work
  answered keyed told sourced answered := by
    obtain ⟨keyed', new, grows⟩ := answered_kept keyed told sourced answered
    exact ⟨keyed', new, fun _ tells => tells.grow grows⟩
  outside keyed moved := by
    obtain ⟨keyed', grows⟩ := elsewhere_kept keyed moved
    exact ⟨keyed', fun _ tells => tells.grow grows⟩

/-- The accepted save that brings a deployment to a status. -/
def moves (id : Uuid) (status : DeploymentStatus) : EvolutionEvent → Bool
  | ⟨.saveDeployment d, .ok _⟩ => d.deploymentId = id && d.status = status
  | _ => false

theorem moves_eq_true {id : Uuid} {status : DeploymentStatus} {e : EvolutionEvent} :
    moves id status e = true ↔ ∃ d : Deployment,
      e = ⟨.saveDeployment d, .ok ()⟩ ∧ d.deploymentId = id ∧ d.status = status := by
  constructor
  · intro moved
    obtain ⟨r, ans⟩ := e
    cases ans with
    | error => cases r <;> cases moved
    | ok a =>
      cases r with
      | saveDeployment d =>
        simp only [moves, Bool.and_eq_true, decide_eq_true_eq] at moved
        exact ⟨d, rfl, moved⟩
      | _ => cases moved
  · rintro ⟨d, rfl, rfl, rfl⟩
    simp [moves]

variable {uuid5 : String → Uuid} {db : EvolutionDb}
  {w : Pool EvolutionDb EvolutionReq EvolutionResp Exc (Option String)}

/-- No schedule brings a deployment to one status twice. -/
theorem moved_once (keyed : Keyed db) (reach : Pool.Reach (system uuid5) (fun _ _ _ => True) db w)
    (id : Uuid) (status : DeploymentStatus) : w.events.countP (moves id status) ≤ 1 := by
  refine (relies uuid5).once keyed ?_ reach
  intro s s' h r ans e _ told sourced answered again before tells
  obtain ⟨d, rfl, same, passed⟩ := moves_eq_true.mp before
  obtain ⟨d', made, same', passed'⟩ := moves_eq_true.mp again
  cases made
  rcases Tx.commit_cases (EvolutionReq.saveDeployment d').perform s with
    ⟨e, raised⟩ | ⟨a, s₁, ran, returned⟩
  · cases raised.symm.trans answered
  have ran' : EvolutionDb.saveDeployment d' s = .ok (a, s₁) := ran
  obtain ⟨⟨row, there, _, version⟩, _⟩ := EvolutionDb.saveVersioned_ok.mp ran'
  have follows := saved_of_sourced told sourced there version
  have advanced := rank_lt follows.legal
  have came : ranking.Came s.deployments d.deploymentId d := tells
  have further := came.rank_le (same.trans same'.symm ▸ there)
  dsimp only at further
  rw [passed] at further
  rw [passed'] at advanced
  omega

/-! ## One execution of a command -/

/-- What a command names: a release that is rolled back, else a deployment. -/
def target (input : ReleaseCommandInput) : Except Exc Uuid :=
  Uuid.parse (if input.action = "rollback_release" then input.releaseId else input.deploymentId)

/-- The thread is an execution of the command. -/
def Executes (uuid5 : String → Uuid) (input : ReleaseCommandInput)
    (t : Thread EvolutionReq EvolutionResp Exc (Option String)) : Prop :=
  ∃ id now, Prog.Exec ((ReleaseWork.command input).program uuid5 id now) t.past t.prog

/-- A release is found under its id alone. -/
theorem release_unique {s : EvolutionDb} {tenantId tenantId' releaseId : Uuid}
    {release release' : Release} (keyed : Keyed s)
    (first : Tells s ⟨.getActiveRelease tenantId releaseId, .ok release⟩)
    (second : Tells s ⟨.getActiveRelease tenantId' releaseId, .ok release'⟩) :
    release = release' := by
  obtain ⟨named, row, there, rfl⟩ := first
  obtain ⟨named', row', there', rfl⟩ := second
  have same : row.releaseId = row'.releaseId := named.trans named'.symm
  rw [List.inj_on_of_nodup_map keyed.releases there there' same]

/-- Executions that name one thing aim at one transition of one deployment. -/
theorem aims_alike {s : EvolutionDb} {a b : ReleaseCommandInput} {h h' : List EvolutionEvent}
    {id id' : Uuid} {status status' : DeploymentStatus} (keyed : Keyed s)
    (told : ∀ e ∈ h, Tells s e) (told' : ∀ e ∈ h', Tells s e) (action : a.action = b.action)
    (same : target a = target b) (first : Aims a h id status) (second : Aims b h' id' status') :
    id = id' ∧ status = status' := by
  have names {releaseId releaseId' : Uuid} (rollback : a.action = "rollback_release")
      (parsed : Uuid.parse a.releaseId = .ok releaseId)
      (parsed' : Uuid.parse b.releaseId = .ok releaseId') : releaseId = releaseId' := by
    rw [target, target, if_pos rollback, if_pos (action ▸ rollback), parsed, parsed'] at same
    exact Except.ok.inj same
  have deploys (rollback : a.action ≠ "rollback_release")
      (parsed : Uuid.parse a.deploymentId = .ok id)
      (parsed' : Uuid.parse b.deploymentId = .ok id') : id = id' := by
    rw [target, target, if_neg rollback, if_neg (action ▸ rollback), parsed, parsed'] at same
    exact Except.ok.inj same
  rcases first with ⟨canary, parsed, rfl⟩ | ⟨stable, parsed, rfl⟩ |
    ⟨rollback, rfl, tenantId, releaseId, release, parsed, there, rfl⟩
  · rcases second with ⟨_, parsed', rfl⟩ | ⟨other, _⟩ | ⟨other, _⟩
    · exact ⟨deploys (by simp [canary]) parsed parsed', rfl⟩
    · simp [action, other] at canary
    · simp [action, other] at canary
  · rcases second with ⟨other, _⟩ | ⟨_, parsed', rfl⟩ | ⟨other, _⟩
    · simp [action, other] at stable
    · exact ⟨deploys (by simp [stable]) parsed parsed', rfl⟩
    · simp [action, other] at stable
  · rcases second with ⟨other, _⟩ | ⟨other, _⟩ |
      ⟨_, rfl, tenantId', releaseId', release', parsed', there', rfl⟩
    · simp [action, other] at rollback
    · simp [action, other] at rollback
    · obtain rfl := names rollback parsed parsed'
      rw [release_unique keyed (told _ there) (told' _ there')]
      exact ⟨rfl, rfl⟩

/-- An execution whose save was accepted has brought the deployment it aimed at to the status it
aimed at. -/
theorem moved_of_saved {input : ReleaseCommandInput} {s : EvolutionDb}
    {t : Thread EvolutionReq EvolutionResp Exc (Option String)} (runs : Executes uuid5 input t)
    (told : ∀ e ∈ t.past, Tells s e) (saved : HasSaved t.past) :
    ∃ h id status, (∀ e ∈ h, Tells s e) ∧ Aims input h id status ∧
      ∃ e ∈ t.past, moves id status e = true := by
  obtain ⟨made, now, run⟩ := runs
  obtain ⟨d', there⟩ := saved
  obtain ⟨before, after, split⟩ := List.append_of_mem there
  have sourced := Prog.conforms_past (ensures_work uuid5 input made now).conforms run split
  obtain ⟨tenantId, id, d, has, follows, aimed⟩ := sourced
  have earlier : ∀ e ∈ before, Tells s e := fun e past =>
    told e (split ▸ List.mem_append_left _ past)
  obtain ⟨named, _⟩ := earlier _ has
  refine ⟨before, id, d'.status, earlier, aimed, _, there, moves_eq_true.mpr ⟨d', rfl, ?_, rfl⟩⟩
  rw [follows.id, named]

/-- However executions of release commands, rollbacks and crashes interleave, once the save of one
execution is accepted no other execution of a command that names the same thing has its save
accepted, adds a release or returns. -/
theorem release_command_fenced (keyed : Keyed db)
    (reach : Pool.Reach (system uuid5) (fun _ _ _ => True) db w) {a b : ReleaseCommandInput}
    (action : a.action = b.action) (same : target a = target b) {i j : Nat} (other : i ≠ j)
    {t u : Thread EvolutionReq EvolutionResp Exc (Option String)}
    (here : w.threads[i]? = some t) (there : w.threads[j]? = some u)
    (runs : Executes uuid5 a t) (alike : Executes uuid5 b u) (saved : HasSaved t.past) :
    ¬ HasSaved u.past ∧ (∀ release ans, ⟨.addRelease release, ans⟩ ∉ u.past) ∧
      ∀ outcome, u.prog ≠ .ret outcome := by
  obtain ⟨holds, told⟩ := (relies uuid5).reach keyed reach
  have tells {k : Nat} {v : Thread EvolutionReq EvolutionResp Exc (Option String)}
      (present : w.threads[k]? = some v) : ∀ e ∈ v.past, Tells w.shared e := fun e past =>
    told e (Pool.mem_events_of_thread (List.mem_of_getElem? present) past)
  have refused : ¬ HasSaved u.past := by
    intro again
    obtain ⟨h, id, status, toldH, aimed, moved⟩ := moved_of_saved runs (tells here) saved
    obtain ⟨h', id', status', toldH', aimed', moved'⟩ :=
      moved_of_saved alike (tells there) again
    obtain ⟨rfl, rfl⟩ := aims_alike holds toldH toldH' action same aimed aimed'
    exact other (Pool.eq_of_once (moved_once keyed reach id status) here there moved moved')
  obtain ⟨made, now, run⟩ := alike
  have ensured := (ensures_work uuid5 b made now).conforms
  refine ⟨refused, ?_, ?_⟩
  · intro release ans added
    obtain ⟨before, after, split⟩ := List.append_of_mem added
    obtain ⟨d, past⟩ := Prog.conforms_past ensured run split
    exact refused ⟨d, split ▸ List.mem_append_left _ past⟩
  · intro outcome returned
    rw [returned] at run
    exact refused (Prog.conforms_exec ensured run outcome rfl)

namespace Sample

def executorId (_ : String) : Uuid := 0xdcd8b19f07b65ce1af5850549e75db45

/-- A rollback that is dispatched twice. -/
def input : ReleaseCommandInput where
  tenantId := (3 : Uuid).str
  action := "rollback_release"
  releaseId := (9 : Uuid).str

def execution : Program (Option String) := (ReleaseWork.command input).program executorId 21 50

/-- What the command asks of the service. -/
def asked : Program (Option String) :=
  ((Rollout.rollback (releaseExecutor executorId input 3) 9).program 21 50 >>= fun release =>
    return "rolled_back:" ++ release.releaseId.str) >>= fun outcome => return some outcome

theorem execution_eq : execution = asked := by
  have known : input.action ∈ releaseCommandActions := by decide
  have canary : input.action ≠ "enter_canary" := by decide
  have stable : input.action ≠ "release_stable" := by decide
  have tenant : Uuid.parse input.tenantId = .ok 3 := Uuid.parse_str 3
  have release : Uuid.parse input.releaseId = .ok 9 := Uuid.parse_str 9
  simp only [execution, ReleaseWork.program, executeReleaseCommand, Program.check, known, canary,
    stable, tenant, release, not_true_eq_false, decide_false, if_false]
  rfl

/-- The seventh deployment is stable, and the ninth release is in force. -/
def released : EvolutionDb where
  deployments := Dict.empty.set 7 {
    tenantId := 3, candidateId := 4, status := .stable, deploymentId := 7, valid := rfl }
  releases := [{
    tenantId := 3, candidateId := 4, deploymentId := 7, stableVersionId := 11
    previousStableVersionId := 10, approvedBy := 5, releaseId := 9, stableSlot := 10
    active := true }]

theorem released_keyed : Keyed released where
  deployments := by
    intro id d there
    by_cases same : id = 7
    · subst same
      cases (Dict.get?_set_self _ _ _).symm.trans there
      rfl
    · cases (Dict.get?_set_ne _ _ same).symm.trans there
  releases := List.nodup_singleton _

def handle (s : EvolutionDb) (r : EvolutionReq) : Except Exc (EvolutionResp r) × EvolutionDb :=
  r.perform.commit s

/-- Both executions are begun. -/
def begun : Pool EvolutionDb EvolutionReq EvolutionResp Exc (Option String) where
  shared := released
  threads := [⟨asked, [], true⟩, ⟨asked, [], true⟩]

/-- The first has saved what the second is about to. -/
def overtaken : Pool EvolutionDb EvolutionReq EvolutionResp Exc (Option String) :=
  ((begun.advance handle 1 2).advance handle 0 3).advance handle 1 1

theorem begun_reached : Pool.Reach (system executorId) (fun _ _ _ => True) released begun := by
  have starts : (system executorId).starts asked := ⟨.command input, 21, 50, execution_eq.symm⟩
  exact (Pool.Steps.init.next (.start starts) trivial).next (.start starts) trivial

theorem overtaken_later :
    Pool.Steps (system executorId) (fun _ _ _ => True) begun overtaken :=
  ((Pool.Steps.init.advance (fun _ _ => rfl) 1 (fun _ _ _ => trivial) 2).advance
    (fun _ _ => rfl) 0 (fun _ _ _ => trivial) 3).advance (fun _ _ => rfl) 1
      (fun _ _ _ => trivial) 1

theorem overtaken_facts :
    overtaken.threads.map (fun t => t.past.any (moves 7 .rolledBack)) = [true, false] ∧
      overtaken.threads.map (fun t => t.past.length) = [3, 3] := by
  decide +kernel

theorem rollback_fenced : ∃ t u, overtaken.threads[0]? = some t ∧ overtaken.threads[1]? = some u ∧
    HasSaved t.past ∧ u.past.length = 3 ∧ ¬ HasSaved u.past := by
  obtain ⟨t, past, here, same, run⟩ := overtaken_later.thread_later (i := 0) rfl
  obtain ⟨u, past', there, same', run'⟩ := overtaken_later.thread_later (i := 1) rfl
  obtain ⟨moved, calls⟩ := overtaken_facts
  have first := congrArg (·[0]?) moved
  have second := congrArg (·[1]?) calls
  simp only [List.getElem?_map, here, there] at first second
  obtain ⟨e, past₀, accepted⟩ := List.any_eq_true.mp (Option.some.inj first)
  obtain ⟨d, rfl, _⟩ := moves_eq_true.mp accepted
  have runs : Executes executorId input t := ⟨21, 50, by
    rw [same]
    exact (execution_eq ▸ run : Prog.Exec execution past t.prog)⟩
  have alike : Executes executorId input u := ⟨21, 50, by
    rw [same']
    exact (execution_eq ▸ run' : Prog.Exec execution past' u.prog)⟩
  exact ⟨t, u, here, there, ⟨d, past₀⟩, Option.some.inj second,
    (release_command_fenced released_keyed (begun_reached.trans overtaken_later) rfl rfl
      (by decide) here there runs alike ⟨d, past₀⟩).1⟩

end Sample

end ReleaseExecution

end Evolution

end Autonoesis
