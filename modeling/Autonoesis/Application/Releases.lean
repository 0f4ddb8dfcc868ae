import Autonoesis.Application.Candidates

/-!
# Deployments and releases

Who moves a deployment, how the table of releases follows the deployments it names, and what a
rollback puts back in force.
-/

namespace Autonoesis
open Base

namespace Evolution

open EvolutionDb

variable {db db' : EvolutionDb}

/-! ## Who moves a deployment -/

/-- The identity a call is made with. -/
def Call.identity : Call → Option IdentityContext
  | .addTrial _ | .submitForEvaluation _ _ => none
  | .proposeImprovement identity _ | .registerCandidate identity _
  | .completeEvaluation identity _ _ | .decide identity _ _ _ | .beginShadow identity _
  | .promoteToCanary identity _ _ | .releaseStable identity _ _ _
  | .recordObservation identity _ | .rollbackIfBreached identity _ _ _ _
  | .rollbackDeployment identity _ _ | .rollback identity _ => some identity

/-- Where the deployment can be moved to the target by its tenant, the principal has not been
involved in its candidate. -/
def apart (db : EvolutionDb) (identity : IdentityContext) (target : DeploymentStatus)
    (deploymentId : Uuid) : Bool :=
  (db.deployments.get? deploymentId).all fun d =>
    !(d.tenantId = identity.tenantId && target ∈ deploymentTransitions d.status) ||
      (db.candidates.get? d.candidateId).all fun c => !involved identity.principalId c

/-- The four methods that do not ask who makes the call are called by principals who have not
been involved in the candidate. -/
def Call.independent (db : EvolutionDb) : Call → Bool
  | .releaseStable identity deploymentId _ _ => apart db identity .stable deploymentId
  | .rollbackDeployment identity deploymentId _ | .rollbackIfBreached identity deploymentId _ _ _ =>
    apart db identity .rolledBack deploymentId
  | .rollback identity releaseId => db.releases.all fun row =>
    !(row.releaseId = releaseId && row.tenantId = identity.tenantId && row.active) ||
      apart db identity .rolledBack row.deploymentId
  | _ => true

theorem apart_uninvolved {identity : IdentityContext} {target : DeploymentStatus} {id : Uuid}
    {d : Deployment} {c : CandidateVersion} (independent : apart db identity target id = true)
    (there : db.deployments.get? id = some d) (tenant : d.tenantId = identity.tenantId)
    (legal : target ∈ deploymentTransitions d.status)
    (candidate : db.candidates.get? d.candidateId = some c) :
    involved identity.principalId c = false := by
  simpa [apart, there, tenant, legal, candidate] using independent

/-- The principal of a call has not been involved in the candidate of a deployment. -/
def Uninvolved (db : EvolutionDb) (call : Call) (d : Deployment) : Prop :=
  ∃ identity c, call.identity = some identity ∧ db.candidates.get? d.candidateId = some c ∧
    c.status = .approved ∧ involved identity.principalId c = false

section
variable {call : Call} {id : Uuid} {now : Instant} {result : Except Exc Answer}

theorem Effect.uninvolved (effect : Effect db id now call result db') (sound : Sound db)
    (independent : call.independent db = true) {key : Uuid} {d : Deployment}
    (there : db'.deployments.get? key = some d) (changed : db.deployments.get? key ≠ some d) :
    Uninvolved db call d := by
  have saved {key' : Uuid} {old new : Deployment} (found : db.deployments.get? key' = some old)
      (moves : Moves old new)
      (there : (db.deployments.set new.deploymentId new).get? key = some d)
      (by_other : ∀ c, db.candidates.get? old.candidateId = some c →
        ∃ identity, call.identity = some identity ∧ involved identity.principalId c = false) :
      Uninvolved db call d := by
    rw [Dict.get?_set] at there
    split at there
    · cases there
      obtain ⟨c, candidate, _, approved⟩ := sound.owner key' old found
      obtain ⟨identity, caller, other⟩ := by_other c candidate
      exact ⟨identity, c, caller, moves.candidate ▸ candidate, approved, other⟩
    · exact absurd there changed
  cases effect with
  | @shadowed identity candidateId c d' candidate tenant other begun absent =>
    rw [Dict.get?_set] at there
    split at there
    · cases there
      obtain ⟨approved, _, of, _⟩ := beginDeployment_ok begun
      refine ⟨identity, c, rfl, ?_, approved, other⟩
      rw [of, sound.candidate_id _ _ candidate, candidate]
    · exact absurd there changed
  | @promoted identity deploymentId allocation c d' _ _ found candidate other moved =>
    refine saved found (enterCanary_moves moved).1 there fun c' candidate' => ?_
    cases candidate.symm.trans candidate'
    exact ⟨identity, rfl, other⟩
  | @released identity _ _ _ _ _ _ _ found tenant _ _ moved =>
    have moves := (transitionTo_moves moved).1
    have legal := (Deployment.transitionTo_ok moved).1
    exact saved found moves there fun c candidate =>
      ⟨identity, rfl, apart_uninvolved independent found tenant legal candidate⟩
  | @rolledBack _ identity _ _ _ _ kind found tenant moved =>
    have moves := (transitionTo_moves moved).1
    have legal := (Deployment.transitionTo_ok moved).1
    rcases kind with ⟨_, rfl⟩ | ⟨_, _, _, rfl⟩ <;>
      exact saved found moves there fun c candidate =>
        ⟨identity, rfl, apart_uninvolved independent found tenant legal candidate⟩
  | @restored identity _ row _ _ _ active named tenant inForce found owned moved =>
    have moves := (transitionTo_moves moved).1
    have legal := (Deployment.transitionTo_ok moved).1
    have independent : apart db identity .rolledBack row.deploymentId = true := by
      have each := List.all_eq_true.mp independent row active
      simpa [named, tenant, inForce] using each
    exact saved found moves there fun c candidate =>
      ⟨identity, rfl, apart_uninvolved independent found owned legal candidate⟩
  | _ => exact absurd there changed

end

section
variable [TrialStatistics] {policy : String → Except Exc Unit} {ok : EvolutionDb → Call → Prop}
  {start : EvolutionDb} {history : List Entry}

/-- The tables a call that was made has left. -/
def Entry.after (policy : String → Except Exc Unit) (entry : Entry) : EvolutionDb :=
  (Calls.ran (entry.call.run policy entry.id entry.now) entry.before).2

/-- Where a call of a sequence was made. -/
theorem Runs.split (runs : Runs policy ok start history db) {entry : Entry}
    (made : entry ∈ history) : ∃ past more, Runs policy ok start past entry.before ∧
      ok entry.before entry.call ∧ Unused entry.before entry.id ∧
      Calls.ran (entry.call.run policy entry.id entry.now) entry.before =
        (entry.result, entry.after policy) ∧
      Runs policy ok (entry.after policy) more db ∧ history = past ++ entry :: more := by
  induction runs with
  | refl => cases made
  | @next past db db' call id now result before legal fresh ran ih =>
    rcases List.mem_append.mp made with earlier | last
    · obtain ⟨first, rest, upTo, meets, unused, whole, onwards, rfl⟩ := ih earlier
      refine ⟨first, _, upTo, meets, unused, whole, .next call id now onwards legal fresh ran, ?_⟩
      rw [List.append_assoc, List.cons_append]
    · obtain rfl := List.mem_singleton.mp last
      have left : Entry.after policy ⟨call, id, now, db, result⟩ = db' := congrArg Prod.snd ran
      rw [left]
      exact ⟨past, [], before, legal, fresh, ran, .refl, rfl⟩

/-- Where the four methods that do not ask are called by independent principals only, every
change of a deployment is made by a principal who is neither the generator nor the grader nor the
approver of its candidate. -/
theorem moved_by_others
    (reach : Reach policy (fun db call => call.independent db = true) history db) {entry : Entry}
    (made : entry ∈ history) {id : Uuid} {d : Deployment}
    (there : (entry.after policy).deployments.get? id = some d)
    (changed : entry.before.deployments.get? id ≠ some d) :
    ∃ identity c, entry.call.identity = some identity ∧
      db.candidates.get? d.candidateId = some c ∧ identity.principalId.str ≠ c.generatorId ∧
      some identity.principalId.str ≠ c.graderPrincipalId ∧
      some identity.principalId.str ≠ c.approverPrincipalId := by
  obtain ⟨past, more, before, independent, fresh, ran, onwards, _⟩ := reach.split made
  have sound := before.sound Sound.empty
  have effect := before.effect Sound.empty fresh ran
  obtain ⟨identity, c, caller, candidate, approved, other⟩ :=
    effect.uninvolved sound independent there changed
  refine ⟨identity, c, caller, ?_, involved_eq_false.mp other⟩
  exact onwards.decided (sound.step effect)
    (effect.candidates.decided sound candidate (.inl approved)) (.inl approved)

end

namespace Sample

/-- The candidate of `approving n` deployed as a canary, under the id `n + 7`. -/
def deploying (n : Uuid) : Script :=
  [(.beginShadow (identity 14) (n + 1), n + 7, 7),
    (.promoteToCanary (identity 14) (n + 7) ⟨"salt", 10⟩, n + 8, 8)]

/-- A canary that is released by a principal, as the version `n + 10`. -/
def releasing (principalId n : Uuid) : Script :=
  approving n ++ deploying n ++
    [(.releaseStable (identity principalId) (n + 7) (n + 10) ⟨{}, rfl⟩, n + 9, 9)]

theorem releasing_changes (principalId : Uuid)
    (facts : (((releasing principalId 100).entries allowAll {}).getLast?.bind fun entry =>
      ((entry.after allowAll).deployments.get? 107).bind fun d =>
        (((releasing principalId 100).leaves allowAll {}).candidates.get? d.candidateId).map
          fun c => (d.status, (entry.before.deployments.get? 107).map (·.status), c.generatorId,
            entry.call.identity.map (·.principalId))) =
      some (.stable, some .canary, (11 : Uuid).str, some principalId)) :
    ∃ entry ∈ (releasing principalId 100).entries allowAll {}, ∃ d,
      (entry.after allowAll).deployments.get? 107 = some d ∧ d.status = .stable ∧
        entry.before.deployments.get? 107 ≠ some d ∧ ∃ identity c,
          entry.call.identity = some identity ∧ identity.principalId = principalId ∧
            ((releasing principalId 100).leaves allowAll {}).candidates.get? d.candidateId =
              some c ∧ c.generatorId = (11 : Uuid).str := by
  obtain ⟨entry, last, facts⟩ := Option.bind_eq_some_iff.mp facts
  obtain ⟨d, there, facts⟩ := Option.bind_eq_some_iff.mp facts
  obtain ⟨c, candidate, facts⟩ := Option.map_eq_some_iff.mp facts
  simp only [Prod.mk.injEq, Option.map_eq_some_iff] at facts
  obtain ⟨stable, ⟨old, before, canary⟩, generator, identity, caller, principal⟩ := facts
  refine ⟨entry, List.mem_of_getLast? last, d, there, stable, fun same => ?_, identity, c,
    caller, principal, candidate, generator⟩
  cases before.symm.trans same
  cases canary.symm.trans stable

theorem released_by_another : ∃ (entry : Entry) (d : Deployment) (identity : IdentityContext)
    (c : CandidateVersion), entry.before.deployments.get? 107 ≠ some d ∧ d.status = .stable ∧
      entry.call.identity = some identity ∧ identity.principalId.str ≠ c.generatorId ∧
      some identity.principalId.str ≠ c.graderPrincipalId ∧
      some identity.principalId.str ≠ c.approverPrincipalId := by
  have legal : (releasing 14 100).Legal allowAll (fun db call => call.independent db = true) {} := by
    decide +kernel
  obtain ⟨entry, made, d, there, stable, changed, _⟩ :=
    releasing_changes 14 (by decide +kernel)
  obtain ⟨identity, c, caller, _, others⟩ :=
    moved_by_others (Script.runs legal) made there changed
  exact ⟨entry, d, identity, c, changed, stable, caller, others⟩

/-- The generator of a candidate releases it: no method before the change asks who it is. -/
theorem released_by_generator : ∃ history db,
    Reach allowAll (fun _ _ => True) history db ∧ ∃ entry ∈ history, ∃ d,
      (entry.after allowAll).deployments.get? 107 = some d ∧ d.status = .stable ∧
        entry.before.deployments.get? 107 ≠ some d ∧ ∃ identity c,
          entry.call.identity = some identity ∧ db.candidates.get? d.candidateId = some c ∧
            identity.principalId.str = c.generatorId := by
  have legal : (releasing 11 100).Legal allowAll (fun _ _ => True) {} := by
    decide +kernel
  obtain ⟨entry, made, d, there, stable, changed, identity, c, caller, principal, candidate,
    generator⟩ := releasing_changes 11 (by decide +kernel)
  exact ⟨_, _, Script.runs legal, entry, made, d, there, stable, changed, identity, c, caller,
    candidate, principal ▸ generator.symm⟩

end Sample

/-! ## The releases of a deployment -/

/-- A release that `release_stable` made. -/
def Original (history : List Entry) (release : Release) : Prop :=
  ∃ entry ∈ history, entry.result = .ok (.release release) ∧ ∃ identity policy,
    entry.call = .releaseStable identity release.deploymentId release.stableVersionId policy

/-- The version a deployment released: the one its first release names. -/
def released (db : EvolutionDb) (deploymentId : Uuid) : Option Uuid :=
  (db.releases.find? (·.deploymentId = deploymentId)).map (·.stableVersionId)

/-- The deployment a release names is stable, and then `release_stable` made it, or rolled
back. -/
def Deployed (history : List Entry) (db : EvolutionDb) (row : ReleaseRow) : Prop :=
  ∃ d, db.deployments.get? row.deploymentId = some d ∧ d.candidateId = row.candidateId ∧
    d.tenantId = row.tenantId ∧ (d.status = .stable ∧ Original history row.toRelease ∧
        row.previousStableVersionId = row.stableSlot ∨ d.status = .rolledBack)

/-- What the table of releases keeps, whatever calls are made. -/
structure Ledger (history : List Entry) (db : EvolutionDb) : Prop where
  ids : (db.releases.map (·.releaseId)).Nodup
  kept : ∀ entry ∈ history, ∀ release, entry.result = .ok (.release release) →
    ∃ row ∈ db.releases, row.toRelease = release
  deployed : ∀ row ∈ db.releases, Deployed history db row
  first : ∀ release, Original history release →
    released db release.deploymentId = some release.stableVersionId

theorem Ledger.empty : Ledger [] {} := by
  refine ⟨List.nodup_nil, ?_, ?_, ?_⟩
  · intro entry among
    cases among
  · intro row among
    cases among
  · rintro release ⟨entry, among, _⟩
    cases among

theorem Original.mono {history : List Entry} {release : Release}
    (original : Original history release) (entry : Entry) :
    Original (history ++ [entry]) release := by
  obtain ⟨former, among, rest⟩ := original
  exact ⟨former, List.mem_append_left _ among, rest⟩

/-- A call other than `release_stable` makes no such release. -/
theorem Original.of_snoc {history : List Entry} {entry : Entry} {release : Release}
    (original : Original (history ++ [entry]) release)
    (other : entry.result ≠ .ok (.release release)) : Original history release := by
  obtain ⟨former, among, result, rest⟩ := original
  rcases List.mem_append.mp among with earlier | last
  · exact ⟨former, earlier, result, rest⟩
  · cases List.mem_singleton.mp last
    exact absurd result other

theorem released_added {release : Release} {tenantId slot : Uuid}
    (releases : db'.releases = deactivated db.releases tenantId slot ++ [⟨release, slot, true⟩])
    (deploymentId : Uuid) :
    released db' deploymentId = (released db deploymentId).or
      (if release.deploymentId = deploymentId then some release.stableVersionId else none) := by
  let ended (row : ReleaseRow) : ReleaseRow :=
    if row.tenantId = tenantId ∧ row.stableSlot = slot ∧ row.active = true then
      { row with active := false } else row
  have kept (row : ReleaseRow) : (ended row).toRelease = row.toRelease := by
    dsimp only [ended]
    split <;> rfl
  have same : (deactivated db.releases tenantId slot).find? (·.deploymentId = deploymentId) =
      (db.releases.find? (·.deploymentId = deploymentId)).map ended := by
    rw [show deactivated db.releases tenantId slot = db.releases.map ended from rfl,
      List.find?_map]
    congr 2
    funext row
    simp only [Function.comp, kept]
  rw [released, released, releases, List.find?_append, same]
  cases db.releases.find? (·.deploymentId = deploymentId) with
  | some row => simp [kept]
  | none => by_cases here : release.deploymentId = deploymentId <;> simp [here]

section
variable {history : List Entry} {call : Call} {id : Uuid} {now : Instant}
  {result : Except Exc Answer} {row : ReleaseRow} {entry : Entry}

theorem Deployed.kept (deployed : Deployed history db row) (sound : Sound db)
    (rows : DeploymentRows db db') (entry : Entry) : Deployed (history ++ [entry]) db' row := by
  obtain ⟨d, there, candidate, tenant, state⟩ := deployed
  obtain ⟨d', here, moved⟩ := rows.kept sound there
  rcases moved with rfl | moves
  · refine ⟨d', here, candidate, tenant, ?_⟩
    rcases state with ⟨stable, original, previous⟩ | rolledBack
    · exact .inl ⟨stable, original.mono entry, previous⟩
    · exact .inr rolledBack
  · refine ⟨d', here, moves.candidate.trans candidate, moves.tenant.trans tenant, .inr ?_⟩
    have legal := moves.legal
    rcases state with ⟨stable, _⟩ | rolledBack
    · rw [stable] at legal
      simpa [deploymentTransitions] using legal
    · rw [rolledBack] at legal
      cases legal

theorem Deployed.congr {old : ReleaseRow} (deployed : Deployed history db old)
    (same : row.toRelease = old.toRelease) (slot : row.stableSlot = old.stableSlot) :
    Deployed history db row := by
  unfold Deployed at deployed ⊢
  rw [same, slot]
  exact deployed

/-- A call that makes no release. -/
theorem Ledger.quiet (ledger : Ledger history db) (sound : Sound db)
    (quiet : ∀ release, entry.result ≠ .ok (.release release))
    (releases : db'.releases = db.releases) (rows : DeploymentRows db db') :
    Ledger (history ++ [entry]) db' where
  ids := releases ▸ ledger.ids
  kept := by
    intro former among release result
    rw [releases]
    rcases List.mem_append.mp among with earlier | last
    · exact ledger.kept former earlier release result
    · cases List.mem_singleton.mp last
      exact absurd result (quiet release)
  deployed := by
    intro row there
    rw [releases] at there
    exact (ledger.deployed row there).kept sound rows entry
  first := by
    intro release original
    rw [released, releases]
    exact ledger.first release (original.of_snoc (quiet release))

theorem releaseIds_deactivated (rows : List ReleaseRow) (tenantId slot : Uuid) :
    (deactivated rows tenantId slot).map (·.releaseId) = rows.map (·.releaseId) := by
  rw [deactivated, List.map_map]
  refine List.map_congr_left fun row _ => ?_
  simp only [Function.comp]
  split <;> rfl

/-- A call that makes one release, of a fresh id, and ends what was in force in its slot. -/
theorem Ledger.added (ledger : Ledger history db) (sound : Sound db) {release : Release}
    {tenantId slot : Uuid} (fresh : Unused db release.releaseId)
    (result : entry.result = .ok (.release release))
    (releases : db'.releases =
      deactivated db.releases tenantId slot ++ [⟨release, slot, true⟩])
    (rows : DeploymentRows db db')
    (deployed : Deployed (history ++ [entry]) db' ⟨release, slot, true⟩)
    (first : Original (history ++ [entry]) release → ¬ Original history release →
      released db' release.deploymentId = some release.stableVersionId) :
    Ledger (history ++ [entry]) db' where
  ids := by
    rw [releases, List.map_append, releaseIds_deactivated]
    refine List.Nodup.append ledger.ids (List.nodup_singleton _) fun key among new => ?_
    obtain ⟨row, there, rfl⟩ := List.mem_map.mp among
    exact fresh row there (List.mem_singleton.mp new)
  kept := by
    intro former among other made
    rw [releases]
    rcases List.mem_append.mp among with earlier | last
    · obtain ⟨row, there, rfl⟩ := ledger.kept former earlier other made
      refine ⟨_, List.mem_append_left _ (List.mem_map_of_mem there), ?_⟩
      split <;> rfl
    · cases List.mem_singleton.mp last
      cases result.symm.trans made
      exact ⟨_, List.mem_append_right _ (List.mem_singleton_self _), rfl⟩
  deployed := by
    intro row there
    rw [releases] at there
    rcases List.mem_append.mp there with old | new
    · obtain ⟨before, among, same, slot, _⟩ := mem_deactivated old
      exact ((ledger.deployed before among).kept sound rows entry).congr same slot
    · cases List.mem_singleton.mp new
      exact deployed
  first := by
    intro other original
    by_cases former : Original history other
    · rw [released_added releases, ledger.first other former, Option.some_or]
    · obtain ⟨made, among, returned, _⟩ := id original
      rcases List.mem_append.mp among with earlier | last
      · exact absurd ⟨made, earlier, returned, by assumption⟩ former
      · cases List.mem_singleton.mp last
        cases result.symm.trans returned
        exact first original former

theorem Ledger.step (ledger : Ledger history db) (sound : Sound db) (fresh : Unused db id)
    (effect : Effect db id now call result db') :
    Ledger (history ++ [⟨call, id, now, db, result⟩]) db' := by
  have rows := effect.deployments
  cases effect with
  | same quiet => exact ledger.quiet sound quiet rfl rows
  | recorded error =>
    exact ledger.quiet sound (fun _ made => by cases made) rfl rows
  | @released identity deploymentId stableVersionId promotion c d d' release there tenant
      candidate owned moved made =>
    subst made
    obtain ⟨moves, stable⟩ := transitionTo_moves moved
    have key : d'.deploymentId = deploymentId :=
      moves.id_eq.trans (sound.deployment_id _ _ there)
    refine ledger.added sound fresh rfl rfl rows ?_ fun _ _ => ?_
    · refine ⟨d', Dict.get?_set_self _ _ _, rfl, rfl, .inl ⟨stable, ?_, rfl⟩⟩
      refine ⟨_, List.mem_append_right _ (List.mem_singleton_self _), rfl, identity, promotion, ?_⟩
      rw [key]
    · have absent : released db d'.deploymentId = none := by
        simp only [Evolution.released, Option.map_eq_none_iff, List.find?_eq_none,
          decide_eq_true_eq]
        rintro row among same
        obtain ⟨d₁, here, _, _, state⟩ := ledger.deployed row among
        rw [same, key, there] at here
        cases here
        have legal := moves.legal
        rcases state with ⟨now, _⟩ | now <;> simp [now, stable, deploymentTransitions] at legal
      rw [released_added rfl, absent, if_pos rfl, Option.none_or]
  | @restored identity releaseId row d d' release active named tenant inForce there owned moved
      made =>
    subst made
    obtain ⟨moves, rolledBack⟩ := transitionTo_moves moved
    obtain ⟨d₁, here, candidate, _⟩ := ledger.deployed row active
    cases there.symm.trans here
    have key : d'.deploymentId = row.deploymentId :=
      moves.id_eq.trans (sound.deployment_id _ _ there)
    refine ledger.added sound fresh rfl rfl rows ?_ fun original former => ?_
    · refine ⟨d', ?_, moves.candidate.trans candidate, moves.tenant.trans owned, .inr rolledBack⟩
      rw [← key]
      exact Dict.get?_set_self _ _ _
    · obtain ⟨made, among, returned, identity, policy, asked⟩ := original
      rcases List.mem_append.mp among with earlier | last
      · exact absurd ⟨made, earlier, returned, identity, policy, asked⟩ former
      · cases List.mem_singleton.mp last
        cases asked
  | rolledBack | proposed | registered | tried | submitted | evaluated | decided | shadowed
  | promoted | observed =>
    exact ledger.quiet sound (fun _ made => by cases made) rfl rows

/-- The row a rollback finds is the only one of its id. -/
theorem getActiveRelease_of_mem (nodup : (db.releases.map (·.releaseId)).Nodup)
    (there : row ∈ db.releases) (active : row.active = true) :
    getActiveRelease row.tenantId row.releaseId db = .ok (row.toRelease, db) := by
  have found : db.releases.find? (fun other => other.releaseId = row.releaseId &&
      other.tenantId = row.tenantId && other.active) = some row := by
    cases found : db.releases.find? (fun other => other.releaseId = row.releaseId &&
        other.tenantId = row.tenantId && other.active) with
    | none => simpa [active] using List.find?_eq_none.mp found row there
    | some other =>
      have same := List.find?_some found
      simp only [Bool.and_eq_true, decide_eq_true_eq] at same
      rw [List.inj_on_of_nodup_map nodup (List.mem_of_find?_eq_some found) there same.1.1]
  simp only [getActiveRelease, Tx.bind_ok, Tx.read_ok]
  refine ⟨_, _, rfl, ?_⟩
  simp only [found]
  rfl

/-- A deployment that is stable can be rolled back. -/
theorem transitionTo_rolledBack {d : Deployment} (stable : d.status = .stable) (actorId : Uuid)
    (now : Instant) :
    ∃ d', d.transitionTo .rolledBack actorId "release rollback requested" now = .ok d' ∧
      d'.optimisticVersion = d.optimisticVersion + 1 := by
  have legal : requireTransition DeploymentStatus.value deploymentTransitions d.status
      .rolledBack = .ok () := by
    rw [requireTransition_ok, stable]
    simp [deploymentTransitions]
  refine ⟨_, bind_eq_ok.mpr ⟨(), legal, bind_eq_ok.mpr
    ⟨_, transitionRecord_ok.mpr ⟨by decide +kernel, rfl⟩, rfl⟩⟩, rfl⟩

/-- An active release of a stable deployment can be rolled back: what it replaced is restored. -/
theorem rollback_restored {identity : IdentityContext} (now : Instant) (sound : Sound db)
    (nodup : (db.releases.map (·.releaseId)).Nodup) (there : row ∈ db.releases)
    (active : row.active = true) (tenant : identity.tenantId = row.tenantId) {d : Deployment}
    (deployed : db.deployments.get? row.deploymentId = some d) (owned : d.tenantId = row.tenantId)
    (stable : d.status = .stable) (fresh : Unused db id) :
    ∃ d', Calls.ran (rollback identity row.releaseId id now) db =
      (.ok ⟨identity.tenantId, row.candidateId, row.deploymentId, row.previousStableVersionId,
        row.stableVersionId, identity.actorId, id⟩, { db with
          deployments := db.deployments.set d'.deploymentId d'
          releases := deactivated db.releases identity.tenantId row.stableSlot ++
            [⟨⟨identity.tenantId, row.candidateId, row.deploymentId, row.previousStableVersionId,
              row.stableVersionId, identity.actorId, id⟩, row.stableSlot, true⟩] }) := by
  obtain ⟨d', moved, version⟩ := transitionTo_rolledBack stable identity.actorId now
  have moves := (transitionTo_moves moved).1
  have key : d'.deploymentId = row.deploymentId := moves.id_eq.trans (sound.deployment_id _ _ deployed)
  obtain ⟨c, _, candidate, candidateTenant, slot, _⟩ := sound.linked row there
  have added : addRelease ⟨identity.tenantId, row.candidateId, row.deploymentId,
      row.previousStableVersionId, row.stableVersionId, identity.actorId, id⟩
      { db with deployments := db.deployments.set d'.deploymentId d' } = .ok ((), _) :=
    addRelease_ok.mpr ⟨c, candidate, candidateTenant.trans tenant.symm, fresh, rfl⟩
  refine ⟨d', ?_⟩
  refine Calls.bind_of_ok (Calls.tx_of_ok (tenant ▸ getActiveRelease_of_mem nodup there active)) ?_
  refine Calls.bind_of_ok (Calls.tx_of_ok (getRow_ok.mpr
    ⟨deployed, owned.trans tenant.symm, rfl⟩)) ?_
  refine Calls.bind_of_ok (Calls.ofExcept_ran.mpr ⟨moved.symm, rfl⟩) ?_
  refine Calls.bind_of_ok (Calls.tx_of_ok (a := ()) (saveVersioned_ok.mpr ⟨⟨d, ?_, ?_, ?_⟩, rfl⟩)) ?_
  · rw [key]
    exact deployed
  · exact moves.tenant.symm
  · rw [version]
    omega
  refine Calls.bind_of_ok (Calls.tx_of_ok added) ?_
  rw [slot]
  rfl

/-- The id of a release that a call returns is the one the call has drawn. -/
theorem Effect.drawn (effect : Effect db id now call result db') {release : Release}
    (made : result = .ok (.release release)) : release.releaseId = id := by
  cases effect with
  | same quiet => exact absurd made (quiet release)
  | released _ _ _ _ _ built =>
    cases made
    rw [built]
  | restored _ _ _ _ _ _ _ built =>
    cases made
    rw [built]
  | recorded | rolledBack | proposed | registered | tried | submitted | evaluated | decided
  | shadowed | promoted | observed => cases made

/-- What `release_stable` returns names what it was asked for. -/
theorem Effect.asked (effect : Effect db id now call result db') (sound : Sound db)
    {caller : IdentityContext} {deploymentId version : Uuid} {promotion : PromotionPolicy}
    (asked : call = .releaseStable caller deploymentId version promotion) {release : Release}
    (made : result = .ok (.release release)) :
    release.deploymentId = deploymentId ∧ release.stableVersionId = version := by
  cases effect with
  | same quiet => exact absurd made (quiet release)
  | released there _ _ _ moved built =>
    cases made
    cases asked
    subst built
    exact ⟨(transitionTo_moves moved).1.id_eq.trans (sound.deployment_id _ _ there), rfl⟩
  | restored => cases asked
  | recorded | rolledBack | proposed | registered | tried | submitted | evaluated | decided
  | shadowed | promoted | observed => cases made

/-! ## Active releases and their deployments -/

/-- The deployment of an active release that `release_stable` made is still stable. -/
def Standing (history : List Entry) (db : EvolutionDb) : Prop :=
  ∀ row ∈ db.releases, row.active = true → Original history row.toRelease →
    ∃ d, db.deployments.get? row.deploymentId = some d ∧ d.status = .stable

/-- The deployment that a call moves to rolled back without looking at the releases. -/
def Call.sidelined : Call → Option Uuid
  | .rollbackDeployment _ deploymentId _ | .rollbackIfBreached _ deploymentId _ _ _ =>
    some deploymentId
  | _ => none

theorem stable_kept (sound : Sound db) {key stableId : Uuid} {old new d : Deployment}
    (found : db.deployments.get? key = some old) (moves : Moves old new)
    (there : db.deployments.get? stableId = some d) (stable : d.status = .stable)
    (other : new.status ≠ .rolledBack ∨ stableId ≠ key) :
    (db.deployments.set new.deploymentId new).get? stableId = some d := by
  have key_eq : new.deploymentId = key := moves.id_eq.trans (sound.deployment_id _ _ found)
  rw [key_eq, Dict.get?_set_ne _ _ fun same => ?_, there]
  subst same
  cases found.symm.trans there
  have legal := moves.legal
  rw [stable] at legal
  rcases other with status | apart
  · exact status (by simpa [deploymentTransitions] using legal)
  · exact apart rfl

theorem Standing.step (standing : Standing history db) (ledger : Ledger history db)
    (sound : Sound db) (fresh : Unused db id) (effect : Effect db id now call result db')
    (aside : ∀ deploymentId, call.sidelined = some deploymentId → ∀ row ∈ db.releases,
      row.active = true → Original history row.toRelease → row.deploymentId ≠ deploymentId) :
    Standing (history ++ [⟨call, id, now, db, result⟩]) db' := by
  -- a release that was there is not the one this call makes
  have former {row : ReleaseRow} (among : row ∈ db.releases)
      (original : Original (history ++ [⟨call, id, now, db, result⟩]) row.toRelease) :
      Original history row.toRelease := by
    refine original.of_snoc fun made => ?_
    exact fresh row among (effect.drawn made)
  cases effect with
  | @shadowed _ _ _ new _ _ _ _ absent =>
    intro row among active original
    obtain ⟨d, there, stable⟩ := standing row among active (former among original)
    refine ⟨d, ?_, stable⟩
    rw [Dict.get?_set_ne _ _ fun same => ?_, there]
    rw [same, absent] at there
    cases there
  | promoted found _ _ moved =>
    intro row among active original
    obtain ⟨d, there, stable⟩ := standing row among active (former among original)
    obtain ⟨moves, canary⟩ := enterCanary_moves moved
    exact ⟨d, stable_kept sound found moves there stable (.inl (by simp [canary])), stable⟩
  | @released identity deploymentId stableVersionId promotion c old new release found tenant
      candidate owned moved made =>
    obtain ⟨moves, entered⟩ := transitionTo_moves moved
    intro row among active original
    rcases List.mem_append.mp among with earlier | last
    · obtain ⟨before, inside, same, _, live⟩ := mem_deactivated earlier
      obtain ⟨rfl, _⟩ := live active
      obtain ⟨d, there, stable⟩ := standing row inside active (former inside original)
      exact ⟨d, stable_kept sound found moves there stable (.inl (by simp [entered])), stable⟩
    · cases List.mem_singleton.mp last
      subst made
      exact ⟨new, Dict.get?_set_self _ _ _, entered⟩
  | @rolledBack _ identity deploymentId old new reason kind found tenant moved =>
    have moves := (transitionTo_moves moved).1
    have named : call.sidelined = some deploymentId := by
      rcases kind with ⟨_, rfl⟩ | ⟨_, _, _, rfl⟩ <;> rfl
    intro row among active original
    have original := former among original
    obtain ⟨d, there, stable⟩ := standing row among active original
    exact ⟨d, stable_kept sound found moves there stable
      (.inr (aside deploymentId named row among active original)), stable⟩
  | @restored identity releaseId row old new release active named tenant inForce found owned moved
      made =>
    have moves := (transitionTo_moves moved).1
    intro other among live original
    rcases List.mem_append.mp among with earlier | last
    · obtain ⟨before, inside, _, _, still⟩ := mem_deactivated earlier
      obtain ⟨rfl, apart⟩ := still live
      obtain ⟨d, there, stable⟩ := standing other inside live (former inside original)
      refine ⟨d, stable_kept sound found moves there stable (.inr fun same => apart ?_), stable⟩
      -- one candidate has one slot, so a release of the same deployment was ended with the other
      obtain ⟨d₁, first, candidate₁, tenant₁, _⟩ := ledger.deployed row active
      obtain ⟨d₂, second, candidate₂, tenant₂, _⟩ := ledger.deployed other inside
      rw [same] at second
      cases first.symm.trans second
      obtain ⟨c₁, _, has₁, _, slot₁, _⟩ := sound.linked row active
      obtain ⟨c₂, _, has₂, _, slot₂, _⟩ := sound.linked other inside
      rw [← candidate₁, candidate₂] at has₁
      cases has₁.symm.trans has₂
      exact ⟨tenant₂.symm.trans (tenant₁.trans tenant), slot₂.symm.trans slot₁⟩
    · cases List.mem_singleton.mp last
      obtain ⟨entry, inside, returned, identity', policy, asked⟩ := original
      rcases List.mem_append.mp inside with earlier | now
      · obtain ⟨before, there, same⟩ := ledger.kept entry earlier release returned
        subst made
        exact absurd (congrArg Release.releaseId same) (fresh before there)
      · cases List.mem_singleton.mp now
        cases asked
  | same | recorded | proposed | registered | tried | submitted | evaluated | decided
  | observed =>
    exact fun row among active original => standing row among active (former among original)

/-- A deployment that has been rolled back released the version. -/
def withdrawn (db : EvolutionDb) (version : Uuid) : Bool :=
  db.releases.any fun row => released db row.deploymentId = some version &&
    (db.deployments.get? row.deploymentId).any (·.status = .rolledBack)

theorem withdrawn_of_released {version deploymentId : Uuid} {d : Deployment}
    (there : db.deployments.get? deploymentId = some d) (rolledBack : d.status = .rolledBack)
    (names : released db deploymentId = some version) : withdrawn db version = true := by
  obtain ⟨row, found, _⟩ := Option.map_eq_some_iff.mp names
  have same : row.deploymentId = deploymentId := by simpa using List.find?_some found
  refine List.any_eq_true.mpr ⟨row, List.mem_of_find?_eq_some found, ?_⟩
  simp [same, names, there, rolledBack]

/-- A call leaves the releases in force and the deployments in step: no version is released that
was withdrawn, no deployment is rolled back beside an active release of its version, and a
rollback ends the only active release of the version and restores one that is not withdrawn. -/
def Call.consistent (db : EvolutionDb) : Call → Bool
  | .releaseStable _ _ version _ => !withdrawn db version
  | .rollbackDeployment _ deploymentId _ | .rollbackIfBreached _ deploymentId _ _ _ =>
    db.releases.all fun row =>
      !(row.active && released db deploymentId = some row.stableVersionId)
  | .rollback identity releaseId => db.releases.all fun row =>
    !(row.releaseId = releaseId && row.tenantId = identity.tenantId && row.active) ||
      row.previousStableVersionId ≠ row.stableVersionId &&
        !withdrawn db row.previousStableVersionId &&
        db.releases.all fun other => other.releaseId = row.releaseId || !other.active ||
          other.stableVersionId ≠ row.stableVersionId
  | _ => true

theorem Call.consistent_beside {deploymentId : Uuid} (consistent : call.consistent db = true)
    (named : call.sidelined = some deploymentId) (there : row ∈ db.releases)
    (active : row.active = true) : released db deploymentId ≠ some row.stableVersionId := by
  cases call <;> cases named <;> simpa [active] using List.all_eq_true.mp consistent row there

/-- No active release names a version that a rolled-back deployment released. -/
def Current (db : EvolutionDb) : Prop :=
  ∀ row ∈ db.releases, row.active = true → ∀ deploymentId d,
    db.deployments.get? deploymentId = some d → d.status = .rolledBack →
      released db deploymentId ≠ some row.stableVersionId

/-- A deployment that was saved in another status than rolled back was there before if it is
rolled back. -/
theorem rolledBack_set {key other : Uuid} {new d : Deployment}
    (there : (db.deployments.set key new).get? other = some d) (rolledBack : d.status = .rolledBack)
    (status : new.status ≠ .rolledBack) : db.deployments.get? other = some d := by
  rw [Dict.get?_set] at there
  split at there
  · cases there
    exact absurd rolledBack status
  · exact there

theorem Current.step (current : Current db) (ledger : Ledger history db) (sound : Sound db)
    (effect : Effect db id now call result db') (consistent : call.consistent db = true) :
    Current db' := by
  cases effect with
  | shadowed _ _ _ begun =>
    have shadow := (beginDeployment_ok begun).2.2.2.2
    intro row among active key d there rolledBack
    exact current row among active key d
      (rolledBack_set there rolledBack (by simp [shadow])) rolledBack
  | promoted _ _ _ moved =>
    have canary := (enterCanary_moves moved).2
    intro row among active key d there rolledBack
    exact current row among active key d
      (rolledBack_set there rolledBack (by simp [canary])) rolledBack
  | @released identity deploymentId stableVersionId promotion c old new release found tenant
      candidate owned moved made =>
    obtain ⟨moves, stable⟩ := transitionTo_moves moved
    have unspoilt : withdrawn db stableVersionId = false := by
      simpa [Call.consistent] using consistent
    intro row among active key d there rolledBack
    have apart : new.deploymentId ≠ key := by
      rintro rfl
      rw [Dict.get?_set_self] at there
      cases there
      cases stable.symm.trans rolledBack
    have before := rolledBack_set there rolledBack (by simp [stable])
    rw [released_added rfl, made, if_neg apart, Option.or_none]
    rcases List.mem_append.mp among with earlier | last
    · obtain ⟨_, inside, _, _, live⟩ := mem_deactivated earlier
      obtain ⟨rfl, _⟩ := live active
      exact current row inside active key d before rolledBack
    · cases List.mem_singleton.mp last
      subst made
      intro names
      rw [withdrawn_of_released before rolledBack names] at unspoilt
      cases unspoilt
  | @rolledBack _ identity deploymentId old new reason kind found tenant moved =>
    have moves := (transitionTo_moves moved).1
    have named : call.sidelined = some deploymentId := by
      rcases kind with ⟨_, rfl⟩ | ⟨_, _, _, rfl⟩ <;> rfl
    intro row among active key d there rolledBack
    have beside := Call.consistent_beside consistent named among active
    rw [Dict.get?_set] at there
    split at there
    · rename_i here
      rw [here, moves.id_eq, sound.deployment_id _ _ found]
      exact beside
    · exact current row among active key d there rolledBack
  | @restored identity releaseId row old new release active named tenant inForce found owned moved
      made =>
    have moves := (transitionTo_moves moved).1
    have legal := moves.legal
    have key_eq : new.deploymentId = row.deploymentId :=
      moves.id_eq.trans (sound.deployment_id _ _ found)
    -- only a release that `release_stable` made has a deployment that can be rolled back
    have names : released db row.deploymentId = some row.stableVersionId := by
      obtain ⟨d₁, here, _, _, state⟩ := ledger.deployed row active
      cases found.symm.trans here
      rcases state with ⟨_, original, _⟩ | rolledBack
      · exact ledger.first row.toRelease original
      · rw [rolledBack] at legal
        cases legal
    have meets := List.all_eq_true.mp consistent row active
    simp only [named, tenant, inForce, decide_true, Bool.and_self, Bool.not_true, Bool.false_or,
      Bool.and_eq_true, decide_eq_true_eq, ne_eq, Bool.not_eq_true', List.all_eq_true,
      Bool.or_eq_true] at meets
    obtain ⟨⟨own, unspoilt⟩, alone⟩ := meets
    have kept (key : Uuid) : released { db with
        deployments := db.deployments.set new.deploymentId new
        releases := deactivated db.releases identity.tenantId row.stableSlot ++
          [⟨release, row.stableSlot, true⟩] } key = released db key := by
      rw [released_added rfl, made]
      split
      · rename_i here
        rw [← here, names, Option.some_or]
      · rw [Option.or_none]
    intro other among live key d there rolledBack
    rw [kept]
    rw [Dict.get?_set] at there
    rcases List.mem_append.mp among with earlier | last
    · obtain ⟨_, inside, _, _, still⟩ := mem_deactivated earlier
      obtain ⟨rfl, apart⟩ := still live
      split at there
      · rename_i here
        rw [here, key_eq, names]
        intro version
        rcases alone other inside with (same | dead) | differs
        · obtain rfl := List.inj_on_of_nodup_map ledger.ids inside active (same.trans named.symm)
          exact apart ⟨tenant, rfl⟩
        · cases live.symm.trans dead
        · exact differs (Option.some.inj version).symm
      · exact current other inside live key d there rolledBack
    · cases List.mem_singleton.mp last
      subst made
      split at there
      · rename_i here
        rw [here, key_eq, names]
        exact fun same => own (Option.some.inj same).symm
      · intro restores
        rw [withdrawn_of_released there rolledBack restores] at unspoilt
        cases unspoilt
  | same | recorded | proposed | registered | tried | submitted | evaluated | decided
  | observed => exact current

end

section
variable [TrialStatistics] {policy : String → Except Exc Unit} {ok : EvolutionDb → Call → Prop}
  {history : List Entry} {row : ReleaseRow}

theorem Reach.ledger (reach : Reach policy ok history db) : Ledger history db := by
  induction reach with
  | refl => exact Ledger.empty
  | next call id now before _ fresh ran ledger =>
    exact ledger.step (before.sound Sound.empty) fresh (before.effect Sound.empty fresh ran)

theorem Reach.standing (reach : Reach policy ok history db)
    (aside : ∀ past db call deploymentId, Reach policy ok past db → ok db call →
      call.sidelined = some deploymentId → ∀ row ∈ db.releases, row.active = true →
        Original past row.toRelease → row.deploymentId ≠ deploymentId) : Standing history db := by
  induction reach with
  | refl =>
    intro row among
    cases among
  | @next past db _ call id now _ before legal fresh ran standing =>
    exact standing.step (Reach.ledger before) (before.sound Sound.empty) fresh
      (before.effect Sound.empty fresh ran) fun key => aside past db call key before legal

omit [TrialStatistics] in
/-- A release of a deployment that is rolled back cannot be rolled back again. -/
theorem rollback_refused {identity : IdentityContext} {releaseId id : Uuid} {now : Instant}
    {result : Except Exc Release} (sound : Sound db) (fresh : Unused db id)
    (refused : ∀ row ∈ db.releases, row.releaseId = releaseId →
      ∃ d, db.deployments.get? row.deploymentId = some d ∧ d.status = .rolledBack)
    (ran : Calls.ran (rollback identity releaseId id now) db = (result, db')) :
    Raised db db' result := by
  rcases rollback_ran sound.linked fresh ran with raised | ⟨row, d, d', _, _, there, named, _, _,
    found, _, moved, _⟩
  · exact raised
  · obtain ⟨d₁, here, rolledBack⟩ := refused row there named
    cases found.symm.trans here
    have legal := (Deployment.transitionTo_ok moved).1
    rw [rolledBack] at legal
    cases legal

/-- Where every call is consistent with the releases in force, no active release names a version
that a rolled-back deployment released, and each active release that `release_stable` made can be
rolled back. -/
theorem releases_consistent
    (reach : Reach policy (fun db call => call.consistent db = true) history db) :
    (∀ row ∈ db.releases, row.active = true → ∀ release, Original history release → ∀ d,
      db.deployments.get? release.deploymentId = some d → d.status = .rolledBack →
        row.stableVersionId ≠ release.stableVersionId) ∧
    ∀ row ∈ db.releases, row.active = true → Original history row.toRelease →
      ∀ (identity : IdentityContext) (id : Uuid) (now : Instant),
        identity.tenantId = row.tenantId → Unused db id → ∃ release db',
          Calls.ran (rollback identity row.releaseId id now) db = (.ok release, db') := by
  have current : Current db := by
    induction reach with
    | refl =>
      intro row among
      cases among
    | next call id now before legal fresh ran current =>
      exact current.step (Reach.ledger before) (before.sound Sound.empty)
        (before.effect Sound.empty fresh ran) legal
  have ledger := reach.ledger
  have standing : Standing history db := by
    refine reach.standing fun past db call deploymentId before legal named row among active
      original => ?_
    rintro rfl
    exact Call.consistent_beside legal named among active
      ((Reach.ledger before).first row.toRelease original)
  refine ⟨fun row among active release original d there rolledBack same => ?_,
    fun row among active original identity id now tenant fresh => ?_⟩
  · refine current row among active _ d there rolledBack ?_
    rw [ledger.first release original, same]
  · obtain ⟨d, there, stable⟩ := standing row among active original
    obtain ⟨d₁, here, _, owned, _⟩ := ledger.deployed row among
    cases there.symm.trans here
    obtain ⟨d', ran⟩ := rollback_restored now (reach.sound Sound.empty) ledger.ids among
      active tenant there owned stable fresh
    exact ⟨_, _, ran⟩

end

namespace Sample

/-- The release `releasing 14 100` makes. -/
def firstRelease : Release := ⟨1, 101, 107, 110, 3, 14, 109⟩

theorem first_released : ((releasing 14 100).leaves allowAll {}).releases =
      [⟨firstRelease, 3, true⟩] ∧
    ((releasing 14 100).entries allowAll {}).any (fun entry =>
      entry.result = .ok (.release firstRelease) &&
        entry.call = .releaseStable (identity 14) 107 110 ⟨{}, rfl⟩) = true := by
  decide +kernel

theorem first_original : Original ((releasing 14 100).entries allowAll {}) firstRelease := by
  obtain ⟨entry, among, facts⟩ := List.any_eq_true.mp first_released.2
  simp only [Bool.and_eq_true, decide_eq_true_eq] at facts
  exact ⟨entry, among, facts.1, identity 14, _, facts.2⟩

theorem first_can_be_rolled_back : ∃ release db',
    Calls.ran (rollback (identity 14) 109 200 10) ((releasing 14 100).leaves allowAll {}) =
      (.ok release, db') := by
  have legal : (releasing 14 100).Legal allowAll (fun db call => call.consistent db = true) {} := by
    decide +kernel
  have there : (⟨firstRelease, 3, true⟩ : ReleaseRow) ∈
      ((releasing 14 100).leaves allowAll {}).releases := by
    rw [first_released.1]
    exact List.mem_singleton_self _
  refine (releases_consistent (Script.runs legal)).2 _ there rfl first_original (identity 14) 200
    10 rfl fun row among => ?_
  rw [first_released.1] at among
  cases List.mem_singleton.mp among
  decide

/-- A stable deployment that `rollback_deployment` rolls back: its release stays active, and can
no longer be rolled back. -/
theorem active_release_of_rolled_back_deployment : ∃ history db,
    Reach allowAll (fun _ _ => True) history db ∧ ∃ row ∈ db.releases, row.active = true ∧
      Original history row.toRelease ∧
      (∃ d, db.deployments.get? row.deploymentId = some d ∧ d.status = .rolledBack) ∧
      Unused db 200 ∧ ∃ error,
        (Calls.ran (rollback (identity 14) row.releaseId 200 11) db).1 = .error error := by
  let more : Script := [(.rollbackDeployment (identity 14) 107 "breach", 111, 10)]
  have legal : (releasing 14 100).Legal allowAll (fun _ _ => True) {} ∧
      more.Legal allowAll (fun _ _ => True) ((releasing 14 100).leaves allowAll {}) := by
    decide +kernel
  have facts : let db := more.leaves allowAll ((releasing 14 100).leaves allowAll {})
      db.releases = [⟨firstRelease, 3, true⟩] ∧
      (db.deployments.get? 107).map (·.status) = some .rolledBack ∧
      (Calls.ran (rollback (identity 14) 109 200 11) db).1.isOk = false := by
    decide +kernel
  obtain ⟨releases, status, failed⟩ := facts
  obtain ⟨d, there, rolledBack⟩ := Option.map_eq_some_iff.mp status
  refine ⟨_, _, (Script.runs legal.1).trans (Script.runs legal.2), ⟨firstRelease, 3, true⟩, ?_,
    rfl, first_original.mono _, ⟨d, there, rolledBack⟩, ?_, ?_⟩
  · rw [releases]
    exact List.mem_singleton_self _
  · intro row among
    rw [releases] at among
    cases List.mem_singleton.mp among
    decide
  · cases ended : (Calls.ran (rollback (identity 14) 109 200 11)
        (more.leaves allowAll ((releasing 14 100).leaves allowAll {}))).1 with
    | error error => exact ⟨error, ended⟩
    | ok release =>
      rw [ended] at failed
      cases failed

end Sample

section
variable [TrialStatistics] {policy : String → Except Exc Unit} {ok : EvolutionDb → Call → Prop}
  {history : List Entry} {row : ReleaseRow}

/-! ## What a rollback restores -/

/-- No two calls return one release. -/
theorem Reach.entry_unique (reach : Reach policy ok history db) {e₁ e₂ : Entry}
    (first : e₁ ∈ history) (second : e₂ ∈ history) {release : Release}
    (made₁ : e₁.result = .ok (.release release)) (made₂ : e₂.result = .ok (.release release)) :
    e₁ = e₂ := by
  induction reach with
  | refl => cases first
  | @next past db _ call id now result before legal fresh ran ih =>
    have clash {entry : Entry} (earlier : entry ∈ past)
        (made : entry.result = .ok (.release release))
        (again : result = .ok (.release release)) : False := by
      obtain ⟨row, there, same⟩ := (Reach.ledger before).kept entry earlier release made
      refine fresh row there ?_
      rw [same]
      exact (before.effect Sound.empty fresh ran).drawn again
    rcases List.mem_append.mp first with old₁ | new₁ <;>
      rcases List.mem_append.mp second with old₂ | new₂
    · exact ih old₁ old₂
    · cases List.mem_singleton.mp new₂
      exact (clash old₁ made₁ made₂).elim
    · cases List.mem_singleton.mp new₁
      exact (clash old₂ made₂ made₁).elim
    · rw [List.mem_singleton.mp new₁, List.mem_singleton.mp new₂]

omit [TrialStatistics] in
theorem inForce_added (db : EvolutionDb) (release : Release) (slot : Uuid)
    (releases : db'.releases =
      deactivated db.releases release.tenantId slot ++ [⟨release, slot, true⟩]) :
    inForce db' release.tenantId slot = some release.stableVersionId := by
  have ended : (deactivated db.releases release.tenantId slot).find? (fun row =>
      row.tenantId = release.tenantId && row.stableSlot = slot && row.active) = none := by
    simp only [List.find?_eq_none, Bool.and_eq_true, decide_eq_true_eq, not_and]
    rintro row there ⟨tenant, here⟩ active
    obtain ⟨old, _, _, _, live⟩ := mem_deactivated there
    obtain ⟨rfl, apart⟩ := live active
    exact apart ⟨tenant, here⟩
  simp [inForce, releases, List.find?_append, ended]

/-- Where deployments are only rolled back with their releases, the rollback of an active release
succeeds exactly when `release_stable` made it, and restores the baseline of its slot: that is
what was in force before the release if nothing was, or the baseline itself. -/
theorem rollback_restores_baseline
    (reach : Reach policy (fun _ call => call.sidelined = none) history db)
    (there : row ∈ db.releases) (active : row.active = true) {entry : Entry}
    (made : entry ∈ history) (result : entry.result = .ok (.release row.toRelease))
    {identity : IdentityContext} (tenant : identity.tenantId = row.tenantId) {id : Uuid}
    (fresh : Unused db id) (now : Instant) :
    (∃ release db', Calls.ran (rollback identity row.releaseId id now) db = (.ok release, db') ∧
      inForce db' row.tenantId row.stableSlot = some release.stableVersionId ∧
      release.stableVersionId =
        (inForce entry.before row.tenantId row.stableSlot).getD row.stableSlot) ↔
    (∃ caller deploymentId version promotion,
      entry.call = .releaseStable caller deploymentId version promotion) ∧
    (inForce entry.before row.tenantId row.stableSlot = none ∨
      inForce entry.before row.tenantId row.stableSlot = some row.stableSlot) := by
  have sound := reach.sound Sound.empty
  have ledger := reach.ledger
  have standing : Standing history db := by
    refine reach.standing fun past db call deploymentId before legal named => ?_
    cases legal.symm.trans named
  obtain ⟨d, found, _, owned, state⟩ := ledger.deployed row there
  rcases state with ⟨stable, original, previous⟩ | rolledBack
  · -- the call that made the release is one of `release_stable`, and the rollback succeeds
    obtain ⟨d', ran⟩ := rollback_restored now sound ledger.ids there active tenant found
      owned stable fresh
    have asked : ∃ caller deploymentId version promotion,
        entry.call = .releaseStable caller deploymentId version promotion := by
      obtain ⟨maker, among, returned, caller, promotion, asked⟩ := original
      obtain rfl := reach.entry_unique made among result returned
      exact ⟨caller, _, _, promotion, asked⟩
    have restored : ∀ release db',
        Calls.ran (rollback identity row.releaseId id now) db = (.ok release, db') →
          release.stableVersionId = row.stableSlot ∧
            inForce db' row.tenantId row.stableSlot = some release.stableVersionId := by
      intro release db' again
      cases ran.symm.trans again
      refine ⟨previous, ?_⟩
      rw [← tenant]
      exact inForce_added db ⟨identity.tenantId, row.candidateId, row.deploymentId,
        row.previousStableVersionId, row.stableVersionId, identity.actorId, id⟩ _ rfl
    constructor
    · rintro ⟨release, db', again, _, was⟩
      rw [(restored release db' again).1] at was
      refine ⟨asked, ?_⟩
      cases before : inForce entry.before row.tenantId row.stableSlot with
      | none => exact .inl rfl
      | some version =>
        rw [before] at was
        exact .inr (congrArg some was.symm)
    · rintro ⟨_, was⟩
      obtain ⟨version, current⟩ := restored _ _ ran
      refine ⟨_, _, ran, current, version.trans ?_⟩
      rcases was with none | baseline
      · rw [none]
        rfl
      · rw [baseline]
        rfl
  · -- the release was made by a rollback: its deployment cannot be rolled back again
    constructor
    · rintro ⟨release, db', ran, _⟩
      obtain ⟨_, error, raised⟩ := rollback_refused sound fresh (fun other among same => by
        obtain rfl := List.inj_on_of_nodup_map ledger.ids among there same
        exact ⟨d, found, rolledBack⟩) ran
      cases raised
    · rintro ⟨⟨caller, deploymentId, version, promotion, asked⟩, _⟩
      obtain ⟨past, _, before, _, unused, ran, _⟩ := reach.split made
      obtain ⟨of, names⟩ := (before.effect Sound.empty unused ran).asked
        (before.sound Sound.empty) asked result
      obtain ⟨d₁, here, stable⟩ := standing row there active ⟨entry, made, result, caller,
        promotion, by rw [asked, of, names]⟩
      cases found.symm.trans here
      cases rolledBack.symm.trans stable

end


namespace Sample

theorem baseline_restored : ∃ release db',
    Calls.ran (rollback (identity 14) 109 200 10) ((releasing 14 100).leaves allowAll {}) =
      (.ok release, db') ∧ inForce db' 1 3 = some release.stableVersionId ∧
      release.stableVersionId = 3 := by
  have legal : (releasing 14 100).Legal allowAll (fun _ call => call.sidelined = none) {} := by
    decide +kernel
  have before : ((releasing 14 100).entries allowAll {}).all (fun entry =>
      entry.result ≠ .ok (.release firstRelease) || inForce entry.before 1 3 = none) = true := by
    decide +kernel
  obtain ⟨entry, among, facts⟩ := List.any_eq_true.mp first_released.2
  simp only [Bool.and_eq_true, decide_eq_true_eq] at facts
  have none : inForce entry.before 1 3 = none := by
    simpa [facts.1] using List.all_eq_true.mp before entry among
  have there : (⟨firstRelease, 3, true⟩ : ReleaseRow) ∈
      ((releasing 14 100).leaves allowAll {}).releases := by
    rw [first_released.1]
    exact List.mem_singleton_self _
  have fresh : Unused ((releasing 14 100).leaves allowAll {}) 200 := by
    intro row among
    rw [first_released.1] at among
    cases List.mem_singleton.mp among
    decide
  obtain ⟨release, db', ran, current, was⟩ := (rollback_restores_baseline (Script.runs legal)
    there rfl among facts.1 (show (identity 14).tenantId = _ from rfl) fresh 10).mpr
    ⟨⟨_, _, _, _, facts.2⟩, .inl none⟩
  exact ⟨release, db', ran, current, was.trans (congrArg (·.getD 3) none)⟩

/-- Two candidates of one baseline, released one after the other. -/
def releasingTwo : Script := releasing 14 100 ++ releasing 14 200

/-- The release of the second. -/
def secondRelease : Release := ⟨1, 201, 207, 210, 3, 14, 209⟩

/-- The rollback of the second release does not restore the first, which was in force before it,
but the baseline. -/
theorem first_release_forgotten : ∃ history db,
    Reach allowAll (fun _ call => call.sidelined = none) history db ∧ ∃ row ∈ db.releases,
      row.active = true ∧ ∃ entry ∈ history, entry.result = .ok (.release row.toRelease) ∧
        inForce entry.before row.tenantId row.stableSlot = some 110 ∧ Unused db 300 ∧
        ∃ release db', Calls.ran (rollback (identity 14) row.releaseId 300 20) db =
          (.ok release, db') ∧ release.stableVersionId = 3 ∧
          inForce db' row.tenantId row.stableSlot = some 3 := by
  have legal : releasingTwo.Legal allowAll (fun _ call => call.sidelined = none) {} := by
    decide +kernel
  have facts : (⟨secondRelease, 3, true⟩ : ReleaseRow) ∈ (releasingTwo.leaves allowAll {}).releases ∧
      Unused (releasingTwo.leaves allowAll {}) 300 ∧
      (releasingTwo.entries allowAll {}).any (fun entry =>
        entry.result = .ok (.release secondRelease) &&
          inForce entry.before 1 3 = some 110) = true := by
    decide +kernel
  have ended : ((Calls.ran (rollback (identity 14) 209 300 20) (releasingTwo.leaves allowAll {})).1
        |>.toOption.map (·.stableVersionId)) = some 3 ∧
      inForce (Calls.ran (rollback (identity 14) 209 300 20)
        (releasingTwo.leaves allowAll {})).2 1 3 = some 3 := by
    decide +kernel
  obtain ⟨there, fresh, made⟩ := facts
  obtain ⟨entry, among, made⟩ := List.any_eq_true.mp made
  simp only [Bool.and_eq_true, decide_eq_true_eq] at made
  refine ⟨_, _, Script.runs legal, _, there, rfl, entry, among, made.1, made.2, fresh, ?_⟩
  cases ran : Calls.ran (rollback (identity 14) 209 300 20) (releasingTwo.leaves allowAll {}) with
  | mk result db' =>
    rw [ran] at ended
    obtain ⟨restored, current⟩ := ended
    cases result with
    | error error => cases restored
    | ok release => exact ⟨release, db', ran, Option.some.inj restored, current⟩

end Sample

end Evolution

end Autonoesis
