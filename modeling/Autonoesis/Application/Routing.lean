import Autonoesis.Application.Releases
import Autonoesis.Base.Reading
import Autonoesis.Domain.Lifecycles

/-!
# Routing Runs to canary deployments

A deployment that enters the canary stage is given an allocation: a salt and a share of the
traffic. The router hashes the salt with the Run, so that the same rule is replayed for the same
Run whenever it is asked. The rows of the deployments come in any order.
-/

namespace Autonoesis
open Base

inductive TrafficRoute where
  | stable | candidate
  deriving DecidableEq

section
variable [Sha256]

/-- `int.from_bytes(digest[:8], "big") % 10_000`, of the digest in hexadecimal digits. -/
def percentile (text : String) : Nat :=
  Json.fromHex ((Sha256.hexdigest text).toList.take 16) % 10000

/-- `TrafficAllocation.assign`. -/
def TrafficAllocation.assign (a : TrafficAllocation) (requestId : Uuid) : TrafficRoute :=
  if (percentile ("canary:" ++ a.salt ++ ":" ++ requestId.str) : Int) < a.candidatePercent * 100
  then .candidate else .stable

/-- `Deployment.assign_request`. -/
def Deployment.assignRequest (d : Deployment) (requestId : Uuid) : Except Exc TrafficRoute :=
  if d.status ≠ .canary then
    .error (.valueError "traffic assignment requires a canary deployment")
  else
    match d.trafficAllocation with
    | none => .error (.valueError "canary deployment carries no traffic allocation rule")
    | some allocation => .ok (allocation.assign requestId)

theorem Deployment.assignRequest_ok {d : Deployment} {requestId : Uuid} {route : TrafficRoute} :
    d.assignRequest requestId = .ok route ↔ d.status = .canary ∧
      ∃ allocation, d.trafficAllocation = some allocation ∧
        allocation.assign requestId = route := by
  unfold assignRequest
  split
  · simp_all
  · cases d.trafficAllocation with
    | none => simp_all
    | some allocation => simp_all

end

namespace Routing
open Evolution

/-- What `list_deployments` may return: its query names no order. -/
def Lists (db : EvolutionDb) (tenantId : Uuid) (status : DeploymentStatus)
    (rows : List Deployment) : Prop :=
  rows.Perm (db.deployments.values.filter fun d => d.tenantId = tenantId && d.status = status)

/-- The deployments the router sorts. -/
def canaries (rows : List Deployment) : List Deployment :=
  (rows.filter (·.trafficAllocation.isSome)).insertionSort fun d d' =>
    d.deploymentId ≤ d'.deploymentId

section
variable [Sha256]

/-- `CanaryRunRouter.resolve`, over the rows listed for the canary stage. -/
def resolve (rows : List Deployment) (runId : Uuid) : Except Exc (Option Uuid) :=
  match canaries rows with
  | [] => .ok none
  | deployment :: _ => do
    let route ← deployment.assignRequest runId
    return if route = .candidate then some deployment.deploymentId else none

/-- `EvolutionService.resolve_request_route`. -/
def resolveRequestRoute (tenantId deploymentId requestId : Uuid) :
    EvolutionTx (TrafficRoute × TrafficAllocation) := do
  let deployment ← EvolutionDb.getDeployment tenantId deploymentId
  let route ← Tx.ofExcept (deployment.assignRequest requestId)
  match deployment.trafficAllocation with
  | none => Tx.raise (.valueError "canary deployment carries no traffic allocation rule")
  | some allocation => return (route, allocation)

end

/-- A canary deployment of the tenant with an allocation. -/
structure Serves (db : EvolutionDb) (tenantId : Uuid) (d : Deployment) : Prop where
  there : db.deployments.get? d.deploymentId = some d
  tenant : d.tenantId = tenantId
  canary : d.status = .canary
  allocated : d.trafficAllocation.isSome = true

/-- The one the router picks. -/
structure Leads (db : EvolutionDb) (tenantId : Uuid) (d : Deployment) : Prop
    extends Serves db tenantId d where
  least : ∀ other, Serves db tenantId other → d.deploymentId ≤ other.deploymentId

variable {db later : EvolutionDb} {tenantId : Uuid}

theorem Leads.unique {d d' : Deployment} (leads : Leads db tenantId d)
    (leads' : Leads db tenantId d') : d = d' := by
  have same : d.deploymentId = d'.deploymentId :=
    BitVec.le_antisymm (leads.least d' leads'.toServes) (leads'.least d leads.toServes)
  exact Option.some.inj (leads.there.symm.trans (same ▸ leads'.there))

theorem mem_canaries (sound : Sound db) {rows : List Deployment}
    (lists : Lists db tenantId .canary rows) {d : Deployment} :
    d ∈ canaries rows ↔ Serves db tenantId d := by
  simp only [canaries, List.mem_insertionSort, List.mem_filter, lists.mem_iff, Bool.and_eq_true,
    decide_eq_true_eq, Dict.mem_values]
  constructor
  · rintro ⟨⟨⟨id, there⟩, tenant, canary⟩, allocated⟩
    exact ⟨(sound.deployment_id id d there).symm ▸ there, tenant, canary, allocated⟩
  · rintro ⟨there, tenant, canary, allocated⟩
    exact ⟨⟨⟨_, there⟩, tenant, canary⟩, allocated⟩

/-- The first of the sorted canaries has the least id. -/
theorem canaries_cons (sound : Sound db) {rows : List Deployment}
    (lists : Lists db tenantId .canary rows) {d : Deployment} {rest : List Deployment}
    (sorted : canaries rows = d :: rest) : Leads db tenantId d := by
  have first : d ∈ canaries rows := sorted ▸ List.mem_cons_self
  refine ⟨(mem_canaries sound lists).mp first, fun other serves => ?_⟩
  have ordered : (canaries rows).Pairwise fun d d' => d.deploymentId ≤ d'.deploymentId :=
    List.pairwise_insertionSort _ _
  have there := (mem_canaries sound lists).mpr serves
  rw [sorted] at ordered there
  rcases List.mem_cons.mp there with rfl | behind
  · exact BitVec.le_refl _
  · exact List.rel_of_pairwise_cons ordered behind

/-! ## The route of a Run -/

section
variable [Sha256]

/-- In whatever order the rows come, a Run is bound to the leading canary when its allocation
gives the Run the candidate, and to none otherwise. -/
theorem resolve_eq (sound : Sound db) {rows : List Deployment}
    (lists : Lists db tenantId .canary rows) (runId : Uuid) :
    ∃ bound, resolve rows runId = .ok bound ∧ ∀ id, bound = some id ↔
      ∃ d, Leads db tenantId d ∧ d.deploymentId = id ∧
        ∃ allocation, d.trafficAllocation = some allocation ∧
          allocation.assign runId = .candidate := by
  unfold resolve
  split
  · rename_i nothing
    refine ⟨none, rfl, fun id => ⟨nofun, ?_⟩⟩
    rintro ⟨d, leads, _⟩
    have there := (mem_canaries sound lists).mpr leads.toServes
    rw [nothing] at there
    cases there
  · rename_i d rest sorted
    have leads := canaries_cons sound lists sorted
    obtain ⟨allocation, allocated⟩ := Option.isSome_iff_exists.mp leads.allocated
    have assigned : d.assignRequest runId = .ok (allocation.assign runId) :=
      Deployment.assignRequest_ok.mpr ⟨leads.canary, allocation, allocated, rfl⟩
    rw [assigned]
    refine ⟨_, rfl, fun id => ?_⟩
    constructor
    · intro bound
      split at bound
      · rename_i candidate
        exact ⟨d, leads, Option.some.inj bound, allocation, allocated, candidate⟩
      · cases bound
    · rintro ⟨d', leads', rfl, allocation', allocated', candidate⟩
      cases leads.unique leads'
      cases allocated.symm.trans allocated'
      rw [if_pos candidate]

theorem resolveRequestRoute_ok {deploymentId requestId : Uuid}
    {r : (TrafficRoute × TrafficAllocation) × EvolutionDb} :
    resolveRequestRoute tenantId deploymentId requestId db = .ok r ↔
      (∃ d, db.deployments.get? deploymentId = some d ∧ d.tenantId = tenantId ∧
        d.status = .canary ∧ d.trafficAllocation = some r.1.2 ∧
          r.1.1 = r.1.2.assign requestId) ∧ r.2 = db := by
  obtain ⟨⟨route, allocation⟩, db'⟩ := r
  simp only [resolveRequestRoute, Tx.bind_ok, EvolutionDb.getDeployment, EvolutionDb.getRow_ok,
    Tx.ofExcept_ok]
  constructor
  · rintro ⟨d, t, ⟨there, tenant, rfl⟩, route', t', ⟨assigned, rfl⟩, done⟩
    obtain ⟨canary, allocation', allocated, rfl⟩ := Deployment.assignRequest_ok.mp assigned
    rw [allocated] at done
    cases Tx.pure_ok.mp done
    exact ⟨⟨d, there, tenant, canary, allocated, rfl⟩, rfl⟩
  · rintro ⟨⟨d, there, tenant, canary, allocated, rfl⟩, rfl⟩
    refine ⟨d, _, ⟨there, tenant, rfl⟩, _, _, ⟨Deployment.assignRequest_ok.mpr
      ⟨canary, allocation, allocated, rfl⟩, rfl⟩, ?_⟩
    rw [allocated]
    rfl

/-- A canary with an allocation has a route for every request. -/
theorem Serves.route {d : Deployment} (serves : Serves db tenantId d) (requestId : Uuid) :
    ∃ r, resolveRequestRoute tenantId d.deploymentId requestId db = .ok (r, db) := by
  obtain ⟨allocation, allocated⟩ := Option.isSome_iff_exists.mp serves.allocated
  exact ⟨⟨allocation.assign requestId, allocation⟩, resolveRequestRoute_ok.mpr
    ⟨⟨d, serves.there, serves.tenant, serves.canary, allocated, rfl⟩, rfl⟩⟩

end

/-! ## Routes along a history -/

section
variable {call : Call} {id : Uuid} {now : Instant} {result : Except Exc Answer}
  {policy : String → Except Exc Unit} {ok : EvolutionDb → Call → Prop} {more : List Entry}

/-- A deployment that left the shadow stage with this allocation. -/
structure Allotted (db : EvolutionDb) (deploymentId tenantId : Uuid)
    (allocation : TrafficAllocation) : Prop where
  stored : ∃ d, db.deployments.get? deploymentId = some d ∧ d.tenantId = tenantId ∧
    d.status ≠ .shadow ∧ d.trafficAllocation = some allocation

theorem Allotted.saved (sound : Sound db) {deploymentId : Uuid} {allocation : TrafficAllocation}
    (allotted : Allotted db deploymentId tenantId allocation) {key : Uuid} {d d' : Deployment}
    (there : db.deployments.get? key = some d) {c : DeploymentCall} (ran : d.perform c = .ok d')
    (moves : Moves d d') (rows : Dict Uuid Deployment)
    (set : rows = db.deployments.set d'.deploymentId d') :
    ∃ d, rows.get? deploymentId = some d ∧ d.tenantId = tenantId ∧ d.status ≠ .shadow ∧
      d.trafficAllocation = some allocation := by
  obtain ⟨own, stored, tenant, left, allocated⟩ := allotted.stored
  have key_eq : d'.deploymentId = key := moves.id_eq.trans (sound.deployment_id key d there)
  subst set
  by_cases here : deploymentId = key
  · subst here
    cases there.symm.trans stored
    obtain ⟨left', allocated'⟩ := Deployment.allocation_perform ⟨left, allocated⟩ ran
    exact ⟨d', by rw [key_eq, Dict.get?_set_self], moves.tenant.trans tenant, left', allocated'⟩
  · exact ⟨own, by rw [key_eq, Dict.get?_set_ne _ _ here, stored], tenant, left, allocated⟩

/-- No call changes an allocation. -/
theorem Allotted.step (sound : Sound db) {deploymentId : Uuid} {allocation : TrafficAllocation}
    (allotted : Allotted db deploymentId tenantId allocation)
    (effect : Effect db id now call result later) :
    Allotted later deploymentId tenantId allocation := by
  constructor
  cases effect with
  | shadowed _ _ _ begun absent =>
    obtain ⟨d, stored, rest⟩ := allotted.stored
    refine ⟨d, ?_, rest⟩
    rw [Dict.get?_set_ne _ _ fun same => ?_, stored]
    rw [same, absent] at stored
    cases stored
  | promoted there _ _ moved =>
    exact allotted.saved sound there (c := .enterCanary _ _ _ _) moved (enterCanary_moves moved).1
      _ rfl
  | released there _ _ _ moved =>
    exact allotted.saved sound there (c := .transitionTo ⟨_, _, _, _⟩) moved
      (transitionTo_moves moved).1 _ rfl
  | rolledBack _ there _ moved =>
    exact allotted.saved sound there (c := .transitionTo ⟨_, _, _, _⟩) moved
      (transitionTo_moves moved).1 _ rfl
  | restored _ _ _ _ there _ moved =>
    exact allotted.saved sound there (c := .transitionTo ⟨_, _, _, _⟩) moved
      (transitionTo_moves moved).1 _ rfl
  | same | proposed | registered | tried | submitted | recorded | evaluated | decided
  | observed => exact allotted.stored

theorem Allotted.runs (sound : Sound db) {deploymentId : Uuid} {allocation : TrafficAllocation}
    (allotted : Allotted db deploymentId tenantId allocation)
    (runs : Runs policy ok db more later) : Allotted later deploymentId tenantId allocation := by
  induction runs with
  | refl => exact allotted
  | next call id now before _ fresh ran ih =>
    have sound' := before.sound sound
    exact ih.step sound' (run_effect sound'.linked fresh ran)

theorem allotted_of_canary {d : Deployment} {deploymentId : Uuid} {allocation : TrafficAllocation}
    (there : db.deployments.get? deploymentId = some d) (tenant : d.tenantId = tenantId)
    (canary : d.status = .canary) (allocated : d.trafficAllocation = some allocation) :
    Allotted db deploymentId tenantId allocation :=
  ⟨⟨d, there, tenant, by rw [canary]; decide, allocated⟩⟩

/-- In every history a route that is explained again is explained alike, and as long as the same
canary leads, the router binds every Run as before, in whatever order the rows come. -/
theorem routes_replayed [Sha256] {history : List Entry} (reach : Reach policy ok history db)
    (runs : Runs policy ok db more later) :
    (∀ tenantId deploymentId requestId r r',
      resolveRequestRoute tenantId deploymentId requestId db = .ok (r, db) →
      resolveRequestRoute tenantId deploymentId requestId later = .ok (r', later) → r' = r) ∧
    ∀ tenantId d d', Leads db tenantId d → Leads later tenantId d' →
      d'.deploymentId = d.deploymentId → ∀ rows rows', Lists db tenantId .canary rows →
        Lists later tenantId .canary rows' → ∀ runId, resolve rows' runId = resolve rows runId := by
  have sound := reach.sound .empty
  have sound' := runs.sound sound
  constructor
  · rintro tenantId deploymentId requestId ⟨route, allocation⟩ ⟨route', allocation'⟩ first again
    obtain ⟨⟨d, there, tenant, canary, allocated, assigned⟩, _⟩ := resolveRequestRoute_ok.mp first
    obtain ⟨⟨d', there', _, _, allocated', assigned'⟩, _⟩ := resolveRequestRoute_ok.mp again
    obtain ⟨own, stored, _, _, kept⟩ :=
      ((allotted_of_canary there tenant canary allocated).runs sound runs).stored
    cases stored.symm.trans there'
    cases kept.symm.trans allocated'
    exact Prod.ext (assigned'.trans assigned.symm) rfl
  · intro tenantId d d' leads leads' same rows rows' lists lists' runId
    obtain ⟨allocation, allocated⟩ := Option.isSome_iff_exists.mp leads.allocated
    have allocated' : d'.trafficAllocation = some allocation := by
      obtain ⟨own, stored, _, _, kept⟩ :=
        ((allotted_of_canary leads.there leads.tenant leads.canary allocated).runs sound
          runs).stored
      cases stored.symm.trans (same ▸ leads'.there)
      exact kept
    obtain ⟨bound, resolved, iff⟩ := resolve_eq sound lists runId
    obtain ⟨bound', resolved', iff'⟩ := resolve_eq sound' lists' runId
    rw [resolved, resolved', Except.ok.injEq]
    refine Option.ext fun id => ?_
    rw [iff, iff']
    constructor
    · rintro ⟨other, others, rfl, allocation', mine, candidate⟩
      cases leads'.unique others
      cases allocated'.symm.trans mine
      exact ⟨d, leads, same.symm, allocation, allocated, candidate⟩
    · rintro ⟨other, others, rfl, allocation', mine, candidate⟩
      cases leads.unique others
      cases allocated.symm.trans mine
      exact ⟨d', leads', same, allocation, allocated', candidate⟩

end

namespace Sample
open Evolution.Sample (approving deploying allowAll)

@[reducible] def sha256 : Sha256 := ⟨fun text => text⟩

attribute [local instance] sha256

/-- A tenth of the traffic goes to the candidate. -/
def canary : EvolutionDb := (approving 100 ++ deploying 100).leaves allowAll {}

/-- Another candidate is deployed as a canary. -/
def another : Script := approving 200 ++ deploying 200

theorem leads_of {db : EvolutionDb} (sound : Sound db)
    (facts : (∀ d ∈ db.deployments.values, 107 ≤ d.deploymentId) ∧
      (db.deployments.get? 107).map (fun d => (d.tenantId, d.status, d.trafficAllocation.isSome)) =
        some (1, .canary, true)) :
    ∃ d, Leads db 1 d ∧ d.deploymentId = 107 := by
  obtain ⟨least, facts⟩ := facts
  obtain ⟨d, there, facts⟩ := Option.map_eq_some_iff.mp facts
  simp only [Prod.mk.injEq] at facts
  obtain ⟨tenant, status, allocated⟩ := facts
  have key := sound.deployment_id 107 d there
  refine ⟨d, ⟨⟨key ▸ there, tenant, status, allocated⟩, fun other serves => ?_⟩, key⟩
  rw [key]
  exact least other (Dict.mem_values_of_get? serves.there)

theorem routes_replayed_canary : ∃ d, Leads canary 1 d ∧ d.deploymentId = 107 ∧
    (∀ requestId, ∃ r, resolveRequestRoute 1 107 requestId canary = .ok (r, canary) ∧
      resolveRequestRoute 1 107 requestId (another.leaves allowAll canary) =
        .ok (r, another.leaves allowAll canary)) ∧
    ∀ rows rows', Lists canary 1 .canary rows →
      Lists (another.leaves allowAll canary) 1 .canary rows' →
        ∀ runId, resolve rows' runId = resolve rows runId := by
  have legal : (approving 100 ++ deploying 100).Legal allowAll (fun _ _ => True) {} := by
    decide +kernel
  have more : another.Legal allowAll (fun _ _ => True) canary := by decide +kernel
  have sound := (Script.runs legal).sound .empty
  obtain ⟨d, leads, key⟩ := leads_of sound (by decide +kernel)
  obtain ⟨d', leads', key'⟩ := leads_of ((Script.runs more).sound sound) (by decide +kernel)
  have replayed := routes_replayed (Script.runs legal) (Script.runs more)
  refine ⟨d, leads, key, fun requestId => ?_, replayed.2 1 d d' leads leads'
    (key'.trans key.symm)⟩
  obtain ⟨r, first⟩ := leads.toServes.route requestId
  obtain ⟨r', again⟩ := leads'.toServes.route requestId
  rw [key] at first
  rw [key'] at again
  exact ⟨r, first, replayed.1 1 107 requestId r r' first again ▸ again⟩

end Sample

end Routing

end Autonoesis
