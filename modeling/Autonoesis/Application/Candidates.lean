import Autonoesis.Application.Evolution

/-!
# The candidates of the pipeline

What any sequence of calls keeps: rows stand under their ids, deployments and releases belong to
approved candidates of their tenant, and a candidate that has been decided never changes again.
-/

namespace Autonoesis
open Base

namespace Evolution

open EvolutionDb

variable {db db' : EvolutionDb}

/-! ## One step of a candidate -/

/-- A later version of a candidate: decided ones stay as they are. -/
structure Follows (c c' : CandidateVersion) : Prop where
  tenant : c'.tenantId = c.tenantId
  baseline : c'.baselineVersionId = c.baselineVersionId
  generator : c'.generatorId = c.generatorId
  suite : c'.suiteId = c.suiteId ∧ c'.suiteVersion = c.suiteVersion
  id_eq : c'.candidateId = c.candidateId
  final : c.status = .approved ∨ c.status = .rejected → c' = c

theorem Follows.refl (c : CandidateVersion) : Follows c c :=
  ⟨rfl, rfl, rfl, ⟨rfl, rfl⟩, rfl, fun _ => rfl⟩

theorem Follows.of_moved {c c' : CandidateVersion} {target : CandidateStatus}
    (legal : target ∈ candidateTransitions c.status)
    (tenant : c'.tenantId = c.tenantId) (baseline : c'.baselineVersionId = c.baselineVersionId)
    (generator : c'.generatorId = c.generatorId)
    (suite : c'.suiteId = c.suiteId ∧ c'.suiteVersion = c.suiteVersion)
    (id_eq : c'.candidateId = c.candidateId) : Follows c c' := by
  refine ⟨tenant, baseline, generator, suite, id_eq, fun decided => ?_⟩
  rcases decided with status | status <;> rw [status] at legal <;> cases legal

theorem transitionTo_follows {c c' : CandidateVersion} {target : CandidateStatus}
    {actorId : Uuid} {reason : String} {now : Instant}
    (moved : c.transitionTo target actorId reason now = .ok c') : Follows c c' := by
  obtain ⟨legal, fields⟩ := CandidateVersion.transitionTo_ok moved
  refine .of_moved legal ?_ ?_ ?_ ?_ ?_ <;> rw [fields] <;> first | rfl | exact ⟨rfl, rfl⟩

theorem recordEvaluation_ok {c c' : CandidateVersion} {target : CandidateStatus}
    {grader : Uuid} {now : Instant} (graded : c.recordEvaluation target grader now = .ok c') :
    grader.str ≠ c.generatorId ∧ target ∈ candidateTransitions c.status ∧
      c'.toCandidateFields = { c.moved target
        ⟨c.status.value, target.value, now, "evaluation recorded", grader⟩ with
        graderPrincipalId := some grader.str } := by
  simp only [CandidateVersion.recordEvaluation, bind_eq_ok, raiseIf_eq_ok] at graded
  obtain ⟨_, other, moved, ran, made⟩ := graded
  obtain ⟨legal, fields⟩ := CandidateVersion.transitionTo_ok ran
  cases made
  refine ⟨by simpa using other, legal, ?_⟩
  dsimp only
  rw [fields]

theorem recordApproval_ok {c c' : CandidateVersion} {target : CandidateStatus}
    {approver : Uuid} {reason : String} {now : Instant}
    (decided : c.recordApproval target approver reason now = .ok c') :
    approver.str ≠ c.generatorId ∧ some approver.str ≠ c.graderPrincipalId ∧
      target ∈ candidateTransitions c.status ∧
      c'.toCandidateFields = { c.moved target ⟨c.status.value, target.value, now,
          "approval recorded: " ++ strip reason, approver⟩ with
        approverPrincipalId := some approver.str
        approvalReason := some (strip reason) } := by
  simp only [CandidateVersion.recordApproval, bind_eq_ok, raiseIf_eq_ok] at decided
  obtain ⟨_, _, _, other, moved, ran, made⟩ := decided
  obtain ⟨legal, fields⟩ := CandidateVersion.transitionTo_ok ran
  cases made
  simp only [Bool.or_eq_false_iff, decide_eq_false_iff_not] at other
  refine ⟨other.1, other.2, legal, ?_⟩
  dsimp only
  rw [fields]

theorem recordEvaluation_follows {c c' : CandidateVersion} {target : CandidateStatus}
    {grader : Uuid} {now : Instant} (graded : c.recordEvaluation target grader now = .ok c') :
    Follows c c' := by
  obtain ⟨_, legal, fields⟩ := recordEvaluation_ok graded
  refine .of_moved legal ?_ ?_ ?_ ?_ ?_ <;> rw [fields] <;> first | rfl | exact ⟨rfl, rfl⟩

theorem recordApproval_follows {c c' : CandidateVersion} {target : CandidateStatus}
    {approver : Uuid} {reason : String} {now : Instant}
    (decided : c.recordApproval target approver reason now = .ok c') : Follows c c' := by
  obtain ⟨_, _, legal, fields⟩ := recordApproval_ok decided
  refine .of_moved legal ?_ ?_ ?_ ?_ ?_ <;> rw [fields] <;> first | rfl | exact ⟨rfl, rfl⟩

/-! ## One step of the tables -/

/-- A deployment after one of its transitions. -/
structure Moves (d d' : Deployment) : Prop where
  tenant : d'.tenantId = d.tenantId
  candidate : d'.candidateId = d.candidateId
  id_eq : d'.deploymentId = d.deploymentId
  legal : d'.status ∈ deploymentTransitions d.status

theorem transitionTo_moves {d d' : Deployment} {target : DeploymentStatus} {actorId : Uuid}
    {reason : String} {now : Instant} (moved : d.transitionTo target actorId reason now = .ok d') :
    Moves d d' ∧ d'.status = target := by
  obtain ⟨legal, fields⟩ := Deployment.transitionTo_ok moved
  refine ⟨⟨?_, ?_, ?_, ?_⟩, ?_⟩ <;> rw [fields] <;> first | rfl | exact legal

theorem enterCanary_moves {d d' : Deployment} {allocation : TrafficAllocation} {actorId : Uuid}
    {reason : String} {now : Instant}
    (moved : d.enterCanary allocation actorId reason now = .ok d') :
    Moves d d' ∧ d'.status = .canary := by
  simp only [Deployment.enterCanary, bind_eq_ok] at moved
  obtain ⟨promoted, ran, made⟩ := moved
  cases made
  obtain ⟨⟨tenant, candidate, id_eq, legal⟩, status⟩ := transitionTo_moves ran
  exact ⟨⟨tenant, candidate, id_eq, legal⟩, status⟩

theorem beginDeployment_ok {c : CandidateVersion} {d : Deployment} {actorId id : Uuid}
    {reason : String} {now : Instant} (begun : c.beginDeployment actorId reason id now = .ok d) :
    c.status = .approved ∧ d.tenantId = c.tenantId ∧ d.candidateId = c.candidateId ∧
      d.deploymentId = id ∧ d.status = .shadow := by
  simp only [CandidateVersion.beginDeployment, bind_eq_ok, raiseIf_eq_ok] at begun
  obtain ⟨_, approved, _, _, made⟩ := begun
  cases made
  exact ⟨by simpa using approved, rfl, rfl, rfl, rfl⟩

/-- What a call does to the table of candidates. -/
inductive CandidateRows (db db' : EvolutionDb) : Prop
  | same (same : db'.candidates = db.candidates)
  | registered (c : CandidateVersion) (absent : db.candidates.get? c.candidateId = none)
      (draft : c.status = .draft) (set : db'.candidates = db.candidates.set c.candidateId c)
  | saved {id : Uuid} {c c' : CandidateVersion} (there : db.candidates.get? id = some c)
      (follows : Follows c c') (set : db'.candidates = db.candidates.set c'.candidateId c')

/-- What a call does to the table of deployments. -/
inductive DeploymentRows (db db' : EvolutionDb) : Prop
  | same (same : db'.deployments = db.deployments)
  | begun {id : Uuid} {c : CandidateVersion} (d : Deployment)
      (candidate : db.candidates.get? id = some c) (approved : c.status = .approved)
      (tenant : d.tenantId = c.tenantId) (of : d.candidateId = c.candidateId)
      (shadow : d.status = .shadow) (absent : db.deployments.get? d.deploymentId = none)
      (set : db'.deployments = db.deployments.set d.deploymentId d)
  | saved {id : Uuid} {d d' : Deployment} (there : db.deployments.get? id = some d)
      (moves : Moves d d') (set : db'.deployments = db.deployments.set d'.deploymentId d')

section
variable {call : Call} {id : Uuid} {now : Instant} {result : Except Exc Answer}

theorem Effect.candidates (effect : Effect db id now call result db') : CandidateRows db db' := by
  cases effect with
  | registered registered absent =>
    exact .registered _ (registered.id_eq ▸ absent) registered.draft (by rw [registered.id_eq])
  | submitted there _ moved => exact .saved there (transitionTo_follows moved) rfl
  | evaluated there _ _ _ _ graded => exact .saved there (recordEvaluation_follows graded) rfl
  | decided there _ recorded => exact .saved there (recordApproval_follows recorded) rfl
  | _ => exact .same rfl

theorem Effect.deployments (effect : Effect db id now call result db') :
    DeploymentRows db db' := by
  cases effect with
  | shadowed there _ _ begun absent =>
    obtain ⟨approved, tenant, of, _, shadow⟩ := beginDeployment_ok begun
    exact .begun _ there approved tenant of shadow absent rfl
  | promoted there _ _ moved => exact .saved there (enterCanary_moves moved).1 rfl
  | released there _ _ _ moved => exact .saved there (transitionTo_moves moved).1 rfl
  | rolledBack _ there _ moved => exact .saved there (transitionTo_moves moved).1 rfl
  | restored _ _ _ _ there _ moved => exact .saved there (transitionTo_moves moved).1 rfl
  | _ => exact .same rfl

end

/-! ## What every sequence of calls keeps -/

/-- Rows stand under their own ids; a deployment is of an approved candidate of its tenant, and
a release of both. -/
structure Sound (db : EvolutionDb) : Prop where
  candidate_id : ∀ id c, db.candidates.get? id = some c → c.candidateId = id
  deployment_id : ∀ id d, db.deployments.get? id = some d → d.deploymentId = id
  owner : ∀ id d, db.deployments.get? id = some d → ∃ c,
    db.candidates.get? d.candidateId = some c ∧ c.tenantId = d.tenantId ∧ c.status = .approved
  linked : Linked db

theorem Sound.empty : Sound {} := by
  refine ⟨?_, ?_, ?_, ?_⟩ <;> simp [Linked]

/-- A row that a save of its own next version has gone over. -/
theorem CandidateRows.kept (rows : CandidateRows db db') (sound : Sound db) {id : Uuid}
    {c : CandidateVersion} (there : db.candidates.get? id = some c) :
    ∃ c', db'.candidates.get? id = some c' ∧ Follows c c' := by
  cases rows with
  | same same => exact ⟨c, same ▸ there, .refl c⟩
  | registered new absent draft set =>
    refine ⟨c, ?_, .refl c⟩
    rw [set, Dict.get?_set_ne _ _ fun same => ?_, there]
    rw [same, absent] at there
    cases there
  | @saved key old new found follows set =>
    have key_eq : new.candidateId = key := follows.id_eq.trans (sound.candidate_id key old found)
    by_cases here : id = key
    · subst here
      cases found.symm.trans there
      exact ⟨new, by rw [set, key_eq, Dict.get?_set_self], follows⟩
    · exact ⟨c, by rw [set, key_eq, Dict.get?_set_ne _ _ here, there], .refl c⟩

theorem DeploymentRows.kept (rows : DeploymentRows db db') (sound : Sound db) {id : Uuid}
    {d : Deployment} (there : db.deployments.get? id = some d) :
    ∃ d', db'.deployments.get? id = some d' ∧ (d' = d ∨ Moves d d') := by
  cases rows with
  | same same => exact ⟨d, same ▸ there, .inl rfl⟩
  | begun new _ _ _ _ _ absent set =>
    refine ⟨d, ?_, .inl rfl⟩
    rw [set, Dict.get?_set_ne _ _ fun same => ?_, there]
    rw [same, absent] at there
    cases there
  | @saved key old new found moves set =>
    have key_eq : new.deploymentId = key := moves.id_eq.trans (sound.deployment_id key old found)
    by_cases here : id = key
    · subst here
      cases found.symm.trans there
      exact ⟨new, by rw [set, key_eq, Dict.get?_set_self], .inr moves⟩
    · exact ⟨d, by rw [set, key_eq, Dict.get?_set_ne _ _ here, there], .inl rfl⟩

theorem CandidateRows.id_eq (rows : CandidateRows db db') (sound : Sound db) {id : Uuid}
    {c : CandidateVersion} (there : db'.candidates.get? id = some c) : c.candidateId = id := by
  cases rows with
  | same same => exact sound.candidate_id id c (same ▸ there)
  | registered new _ _ set | saved _ _ set =>
    rw [set, Dict.get?_set] at there
    split at there
    · rename_i here
      cases there
      exact here.symm
    · exact sound.candidate_id id c there

theorem DeploymentRows.id_eq (rows : DeploymentRows db db') (sound : Sound db) {id : Uuid}
    {d : Deployment} (there : db'.deployments.get? id = some d) : d.deploymentId = id := by
  cases rows with
  | same same => exact sound.deployment_id id d (same ▸ there)
  | begun new _ _ _ _ _ _ set | saved _ _ set =>
    rw [set, Dict.get?_set] at there
    split at there
    · rename_i here
      cases there
      exact here.symm
    · exact sound.deployment_id id d there

/-- An approved candidate stays where it is. -/
theorem CandidateRows.decided (rows : CandidateRows db db') (sound : Sound db) {id : Uuid}
    {c : CandidateVersion} (there : db.candidates.get? id = some c)
    (decided : c.status = .approved ∨ c.status = .rejected) :
    db'.candidates.get? id = some c := by
  obtain ⟨c', found, follows⟩ := rows.kept sound there
  rw [found, follows.final decided]

theorem DeploymentRows.owner (deployments : DeploymentRows db db')
    (candidates : CandidateRows db db') (sound : Sound db) {id : Uuid} {d : Deployment}
    (there : db'.deployments.get? id = some d) : ∃ c,
    db'.candidates.get? d.candidateId = some c ∧ c.tenantId = d.tenantId ∧
      c.status = .approved := by
  have still {id : Uuid} {d : Deployment} (there : db.deployments.get? id = some d) : ∃ c,
      db'.candidates.get? d.candidateId = some c ∧ c.tenantId = d.tenantId ∧
        c.status = .approved := by
    obtain ⟨c, found, tenant, approved⟩ := sound.owner id d there
    exact ⟨c, candidates.decided sound found (.inl approved), tenant, approved⟩
  cases deployments with
  | same same => exact still (same ▸ there)
  | @begun key c new candidate approved tenant of _ _ set =>
    rw [set, Dict.get?_set] at there
    split at there
    · cases there
      have key_eq := sound.candidate_id key c candidate
      refine ⟨c, ?_, tenant.symm, approved⟩
      rw [of, key_eq]
      exact candidates.decided sound candidate (.inl approved)
    · exact still there
  | @saved key old new found moves set =>
    rw [set, Dict.get?_set] at there
    split at there
    · cases there
      obtain ⟨c, candidate, tenant, approved⟩ := still found
      exact ⟨c, moves.candidate ▸ candidate, tenant.trans moves.tenant.symm, approved⟩
    · exact still there

theorem mem_deactivated {rows : List ReleaseRow} {tenantId slot : Uuid} {row : ReleaseRow}
    (there : row ∈ deactivated rows tenantId slot) : ∃ old ∈ rows,
      row.toRelease = old.toRelease ∧ row.stableSlot = old.stableSlot ∧
      (row.active = true → row = old ∧ ¬ (old.tenantId = tenantId ∧ old.stableSlot = slot)) := by
  obtain ⟨old, among, made⟩ := List.mem_map.mp there
  split at made
  · subst made
    exact ⟨old, among, rfl, rfl, nofun⟩
  · rename_i other
    subst made
    exact ⟨old, among, rfl, rfl, fun active =>
      ⟨rfl, fun slot => other ⟨slot.1, slot.2, active⟩⟩⟩

/-- The candidate and the deployment of one release are stored. -/
def LinkedRow (db : EvolutionDb) (row : ReleaseRow) : Prop :=
  ∃ c d, db.candidates.get? row.candidateId = some c ∧ c.tenantId = row.tenantId ∧
    c.baselineVersionId = row.stableSlot ∧ db.deployments.get? row.deploymentId = some d ∧
    d.tenantId = row.tenantId

theorem LinkedRow.congr {row old : ReleaseRow} (linked : LinkedRow db old)
    (same : row.toRelease = old.toRelease) (slot : row.stableSlot = old.stableSlot) :
    LinkedRow db row := by
  unfold LinkedRow at linked ⊢
  rw [same, slot]
  exact linked

section
variable {call : Call} {id : Uuid} {now : Instant} {result : Except Exc Answer}

theorem LinkedRow.kept {row : ReleaseRow} (linked : LinkedRow db row) (sound : Sound db)
    (effect : Effect db id now call result db') : LinkedRow db' row := by
  obtain ⟨c, d, candidate, tenant, slot, deployment, owned⟩ := linked
  obtain ⟨c', there, follows⟩ := effect.candidates.kept sound candidate
  obtain ⟨d', here, moved⟩ := effect.deployments.kept sound deployment
  refine ⟨c', d', there, follows.tenant.trans tenant, follows.baseline.trans slot, here, ?_⟩
  rcases moved with rfl | moves
  · exact owned
  · exact moves.tenant.trans owned

theorem Effect.linked (effect : Effect db id now call result db') (sound : Sound db) :
    Linked db' := by
  have old {row : ReleaseRow} (there : row ∈ db.releases) : LinkedRow db' row :=
    LinkedRow.kept (sound.linked row there) sound effect
  have kept {tenantId slot : Uuid} {row : ReleaseRow}
      (there : row ∈ deactivated db.releases tenantId slot) : LinkedRow db' row := by
    obtain ⟨before, among, same, slot, _⟩ := mem_deactivated there
    exact (old among).congr same slot
  have candidates := effect.candidates
  have deployments := effect.deployments
  cases effect with
  | @released identity deploymentId stableVersionId promotion c d d' release there tenant
      candidate owned moved made =>
    intro row among
    rcases List.mem_append.mp among with before | new
    · exact kept before
    · obtain rfl := List.mem_singleton.mp new
      subst made
      have moves := (transitionTo_moves moved).1
      exact ⟨c, d', moves.candidate ▸ candidate, owned.trans (tenant.symm.trans moves.tenant.symm),
        rfl, Dict.get?_set_self _ _ _, rfl⟩
  | @restored identity releaseId before d d' release among named tenant _ there owned moved made =>
    intro row inside
    rcases List.mem_append.mp inside with earlier | new
    · exact kept earlier
    · obtain rfl := List.mem_singleton.mp new
      subst made
      obtain ⟨c, d₁, candidate, candidateTenant, slot, here, ownedHere⟩ := old among
      exact ⟨c, d₁, candidate, candidateTenant.trans tenant, slot, here, ownedHere.trans tenant⟩
  | _ => exact fun row there => old there

theorem Sound.step (sound : Sound db) (effect : Effect db id now call result db') : Sound db' where
  candidate_id := fun _ _ there => effect.candidates.id_eq sound there
  deployment_id := fun _ _ there => effect.deployments.id_eq sound there
  owner := fun _ _ there => effect.deployments.owner effect.candidates sound there
  linked := effect.linked sound

end

section
variable [TrialStatistics] {policy : String → Except Exc Unit} {ok : EvolutionDb → Call → Prop}
  {start : EvolutionDb} {past : List Entry}

theorem Runs.sound (runs : Runs policy ok start past db) (sound : Sound start) : Sound db := by
  induction runs with
  | refl => exact sound
  | next call id now _ _ fresh ran sound =>
    exact sound.step (run_effect sound.linked fresh ran)

/-- Every call of a sequence has one of the effects on sound tables. -/
theorem Runs.effect {call : Call} {id : Uuid} {now : Instant} {result : Except Exc Answer}
    (runs : Runs policy ok start past db) (sound : Sound start) (fresh : Unused db id)
    (ran : Calls.ran (call.run policy id now) db = (result, db')) :
    Effect db id now call result db' :=
  run_effect (runs.sound sound).linked fresh ran

theorem Runs.decided (runs : Runs policy ok start past db) (sound : Sound start) {id : Uuid}
    {c : CandidateVersion} (there : start.candidates.get? id = some c)
    (decided : c.status = .approved ∨ c.status = .rejected) : db.candidates.get? id = some c := by
  induction runs with
  | refl => exact there
  | next call drawn now before _ fresh ran still =>
    exact (before.effect sound fresh ran).candidates.decided (before.sound sound) still decided

end

/-! ## Separated duties -/

/-- The evaluation that carried a candidate over the gate: a call of its grader, who is not its
generator, recorded that the gate was met by all the trials the candidate had then, each of which
executed the candidate on its fixed suite; the record is still there. -/
structure Graded (history : List Entry) (db : EvolutionDb) (id : Uuid) (c : CandidateVersion)
    (grader : String) : Prop where
  recorded : c.graderPrincipalId = some grader
  other : grader ≠ c.generatorId
  evidence : ∃ entry ∈ history, ∃ identity policy e,
    entry.call = .completeEvaluation identity id policy ∧ entry.result = .ok .done ∧
      identity.principalId.str = grader ∧ db.evaluations.get? e.evaluationId = some e ∧
      e.decision = "met" ∧ Records entry.before identity c id entry.id e

/-- The approver is neither the generator nor the grader. -/
def ApprovedApart (c : CandidateVersion) : Prop :=
  ∃ approver, c.approverPrincipalId = some approver ∧ approver ≠ c.generatorId ∧
    some approver ≠ c.graderPrincipalId

/-- Candidates that have passed the gate were graded, and approved ones approved, by others. -/
structure Vetted (history : List Entry) (db : EvolutionDb) (id : Uuid) (c : CandidateVersion) :
    Prop where
  graded : c.status = .awaitingApproval ∨ c.status = .approved →
    ∃ grader, Graded history db id c grader
  approved : c.status = .approved → ApprovedApart c

section
variable {history : List Entry} {id : Uuid} {c c' : CandidateVersion} {grader : String}

theorem Records.congr {identity : IdentityContext} {candidateId : Uuid} {e : CandidateEvaluation}
    (records : Records db identity c candidateId id e)
    (suite : c'.suiteId = c.suiteId ∧ c'.suiteVersion = c.suiteVersion) :
    Records db identity c' candidateId id e :=
  { records with own := by rw [suite.1, suite.2]; exact records.own }

theorem Graded.mono (graded : Graded history db id c grader) (entry : Entry)
    (kept : ∀ key e, db.evaluations.get? key = some e → db'.evaluations.get? key = some e)
    (recorded : c'.graderPrincipalId = c.graderPrincipalId)
    (generator : c'.generatorId = c.generatorId)
    (suite : c'.suiteId = c.suiteId ∧ c'.suiteVersion = c.suiteVersion) :
    Graded (history ++ [entry]) db' id c' grader := by
  obtain ⟨former, among, identity, policy, e, call, result, principal, stored, met, records⟩ :=
    graded.evidence
  exact ⟨recorded.trans graded.recorded, generator ▸ graded.other, former,
    List.mem_append_left _ among, identity, policy, e, call, result, principal, kept _ _ stored,
    met, records.congr suite⟩

theorem Vetted.mono (vetted : Vetted history db id c) (entry : Entry)
    (kept : ∀ key e, db.evaluations.get? key = some e → db'.evaluations.get? key = some e) :
    Vetted (history ++ [entry]) db' id c := by
  refine ⟨fun status => ?_, vetted.approved⟩
  obtain ⟨grader, graded⟩ := vetted.graded status
  exact ⟨grader, graded.mono entry kept rfl rfl ⟨rfl, rfl⟩⟩

theorem Effect.evaluations_kept {call : Call} {drawn : Uuid} {now : Instant}
    {result : Except Exc Answer} (effect : Effect db drawn now call result db') {key : Uuid}
    {e : CandidateEvaluation} (stored : db.evaluations.get? key = some e) :
    db'.evaluations.get? key = some e := by
  have other {key drawn : Uuid} {new e : CandidateEvaluation}
      (absent : db.evaluations.get? drawn = none) (stored : db.evaluations.get? key = some e) :
      (db.evaluations.set drawn new).get? key = some e := by
    rw [Dict.get?_set_ne _ _ fun same => ?_, stored]
    rw [same, absent] at stored
    cases stored
  cases effect with
  | recorded _ _ absent => exact other absent stored
  | evaluated _ _ _ absent => exact other absent stored
  | _ => exact stored

theorem evaluated_vetted {identity : IdentityContext} {policy : RepeatedTrialPolicy}
    {e : CandidateEvaluation} {target : CandidateStatus} {drawn : Uuid} {now : Instant}
    (records : Records db identity c id drawn e)
    (decided : target = .rejected ∨ target = .awaitingApproval ∧ e.decision = "met")
    (graded : c.recordEvaluation target identity.principalId now = .ok c')
    (stored : db'.evaluations.get? drawn = some e) :
    Vetted (history ++ [⟨.completeEvaluation identity id policy, drawn, now, db, .ok .done⟩]) db'
      id c' := by
  obtain ⟨other, _, fields⟩ := recordEvaluation_ok graded
  have status : c'.status = target := by rw [fields]; rfl
  have met (passed : c'.status ≠ .rejected) : e.decision = "met" := by
    rcases decided with rfl | ⟨_, met⟩
    · exact absurd status passed
    · exact met
  refine ⟨fun passed => ⟨identity.principalId.str, ?_⟩, fun approved => ?_⟩
  · refine ⟨by rw [fields], by rw [fields]; exact other, _, List.mem_append_right _
      (List.mem_singleton_self _), identity, policy, e, rfl, rfl, rfl, records.id_eq ▸ stored,
      met fun rejected => ?_, records.congr (by rw [fields]; exact ⟨rfl, rfl⟩)⟩
    rcases passed with passed | passed <;> cases rejected.symm.trans passed
  · rcases decided with rfl | ⟨rfl, _⟩ <;> cases status.symm.trans approved

theorem decided_vetted {identity : IdentityContext} {approved : Bool} {reason : String}
    {now : Instant} (vetted : Vetted history db id c) (entry : Entry)
    (recorded : c.recordApproval (if approved then .approved else .rejected)
      identity.principalId reason now = .ok c') :
    Vetted (history ++ [entry]) { db with candidates := db.candidates.set c'.candidateId c' }
      id c' := by
  obtain ⟨generator, grader, legal, fields⟩ := recordApproval_ok recorded
  cases approved with
  | false =>
    have status : c'.status = .rejected := by rw [fields]; rfl
    exact ⟨fun passed => by simp [status] at passed, fun passed => by simp [status] at passed⟩
  | true =>
    have waiting : c.status = .awaitingApproval := by
      cases here : c.status <;> simp [here, candidateTransitions] at legal
      rfl
    obtain ⟨name, graded⟩ := vetted.graded (.inl waiting)
    refine ⟨fun _ => ⟨name, graded.mono entry (fun _ _ stored => stored) ?_ ?_ ?_⟩, fun _ =>
      ⟨identity.principalId.str, ?_, ?_, ?_⟩⟩ <;> rw [fields] <;>
      first | rfl | exact ⟨rfl, rfl⟩ | exact generator | exact grader

end

section
variable [TrialStatistics] {policy : String → Except Exc Unit} {ok : EvolutionDb → Call → Prop}
  {history : List Entry}

theorem Reach.vetted (reach : Reach policy ok history db) :
    ∀ id c, db.candidates.get? id = some c → Vetted history db id c := by
  induction reach with
  | refl => exact fun id c there => by simp at there
  | @next past db db' call drawn now result before legal fresh ran vetted =>
    have sound := before.sound Sound.empty
    have effect := before.effect Sound.empty fresh ran
    intro id c there
    have old (unsaved : db.candidates.get? id = some c) :
        Vetted (past ++ [⟨call, drawn, now, db, result⟩]) db' id c :=
      (vetted id c unsaved).mono _ fun _ _ stored => effect.evaluations_kept stored
    cases effect with
    | registered registered absent =>
      rw [Dict.get?_set] at there
      split at there
      · cases there
        have draft := registered.draft
        exact ⟨fun passed => by simp [draft] at passed, fun passed => by simp [draft] at passed⟩
      · exact old there
    | submitted found _ moved =>
      obtain ⟨_, fields⟩ := CandidateVersion.transitionTo_ok moved
      rw [Dict.get?_set] at there
      split at there
      · cases there
        have status : c.status = .evaluating := by rw [fields]; rfl
        exact ⟨fun passed => by simp [status] at passed, fun passed => by simp [status] at passed⟩
      · exact old there
    | evaluated found _ records absent decided graded =>
      rw [Dict.get?_set] at there
      split at there
      · rename_i here
        cases there
        obtain rfl : id = _ := here.trans ((recordEvaluation_follows graded).id_eq.trans
          (sound.candidate_id _ _ found))
        exact evaluated_vetted records decided graded (Dict.get?_set_self _ _ _)
      · exact old there
    | decided found _ recorded =>
      rw [Dict.get?_set] at there
      split at there
      · rename_i here
        cases there
        obtain rfl : id = _ := here.trans ((recordApproval_follows recorded).id_eq.trans
          (sound.candidate_id _ _ found))
        exact decided_vetted (vetted _ _ found) _ recorded
      · exact old there
    | _ => exact old there

/-- An approved candidate was generated, graded and approved by three principals, and its grader
recorded that all the trials it had met the gate; once decided, it never changes again. -/
theorem duties_separated (reach : Reach policy (fun _ _ => True) history db) {id : Uuid}
    {c : CandidateVersion} (there : db.candidates.get? id = some c) :
    (c.status = .approved → ∃ grader approver,
      Graded history db id c grader ∧ c.approverPrincipalId = some approver ∧
        grader ≠ c.generatorId ∧ approver ≠ c.generatorId ∧ approver ≠ grader) ∧
    (c.status = .approved ∨ c.status = .rejected → ∀ more db',
      Runs policy (fun _ _ => True) db more db' → db'.candidates.get? id = some c) := by
  refine ⟨fun approved => ?_, fun decided more db' runs => ?_⟩
  · have vetted := reach.vetted id c there
    obtain ⟨grader, graded⟩ := vetted.graded (.inr approved)
    obtain ⟨approver, recorded, generator, apart⟩ := vetted.approved approved
    refine ⟨grader, approver, graded, recorded, graded.other, generator, fun same => apart ?_⟩
    rw [same, graded.recorded]
  · exact runs.decided (reach.sound Sound.empty) there decided

end

namespace Sample

/-- The statistics of one passed trial at the level of 0.95. -/
instance : TrialStatistics where
  wilsonScoreInterval _ _ _ := (465107707631479 / 2251799813685248, 1)
  fixed q := if q = 1 then "1.000" else "0.207"
  percent _ := "95%"
  repr _ := "0.1"

def identity (principalId : Uuid) : IdentityContext :=
  { tenantId := 1, actorId := principalId, principalId := principalId, roles := [] }

def gate : RepeatedTrialPolicy :=
  ⟨{ passThreshold := 1 / 10, minValidTrials := 1 }, by decide +kernel⟩

/-- A proposal, then a candidate of it with one passed trial, graded and approved; its ids count
up from `n`. -/
def approving (n : Uuid) : Script :=
  [(.proposeImprovement (identity 11) {
      target := "skill"
      targetVersionId := 2
      evidenceRefs := ["evidence"]
      diagnosis := "diagnosis"
      proposedChange := "change"
      validationSuiteId := "suite"
      rollbackPlan := "plan" }, n, 1),
    (.registerCandidate (identity 11) {
      proposalId := n
      baselineVersionId := 3
      artifactRef := "artifact"
      artifactDigest := String.ofList (List.replicate 64 '0')
      suiteId := "suite"
      suiteVersion := "1" }, n + 1, 2),
    (.submitForEvaluation 1 (n + 1), n + 2, 3),
    (.addTrial {
      tenantId := 1
      suiteId := "suite"
      suiteVersion := "1"
      subjectVersionId := n + 1
      harnessVersion := "1"
      trialId := n + 3
      status := .passed
      candidateId := some (n + 1) }, n + 4, 4),
    (.completeEvaluation (identity 12) (n + 1) gate, n + 5, 5),
    (.decide (identity 13) (n + 1) true "sound", n + 6, 6)]

/-- A configured policy that allows every target. -/
def allowAll : String → Except Exc Unit := fun _ => .ok ()

theorem approving_legal : (approving 100).Legal allowAll (fun _ _ => True) {} := by
  decide +kernel

theorem approved_separately : ∃ history db c, db.candidates.get? 101 = some c ∧
    c.status = .approved ∧ ∃ grader approver, Graded history db 101 c grader ∧
      c.approverPrincipalId = some approver ∧ grader ≠ c.generatorId ∧
      approver ≠ c.generatorId ∧ approver ≠ grader := by
  have there : (((approving 100).leaves allowAll {}).candidates.get? 101).map (·.status) =
      some .approved := by
    decide +kernel
  obtain ⟨c, found, status⟩ := Option.map_eq_some_iff.mp there
  exact ⟨_, _, c, found, status, (duties_separated (Script.runs approving_legal) found).1 status⟩

end Sample

end Evolution

end Autonoesis
