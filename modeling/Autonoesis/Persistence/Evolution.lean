import Autonoesis.Base.Dict
import Autonoesis.Base.Tx
import Autonoesis.Domain.Improvement
import Autonoesis.Domain.Trials
import Autonoesis.Persistence.Reservations

/-!
# The tables of the evolution pipeline

`SqlAlchemyPlatformRepository`, as far as `CandidateLifecycleService` uses it: each method is
one transaction. An insert is refused when its primary key is taken, and a save when the row is
not of the version before the saved one.
-/

namespace Autonoesis
open Base

/-- A row of `releases`. The stable slot of a release is the baseline of its candidate. -/
structure ReleaseRow extends Release where
  stableSlot : Uuid
  active : Bool
  deriving DecidableEq

structure EvolutionDb where
  proposals : Dict Uuid ImprovementProposal := .empty
  candidates : Dict Uuid CandidateVersion := .empty
  trials : Dict Uuid Trial := .empty
  evaluations : Dict Uuid CandidateEvaluation := .empty
  deployments : Dict Uuid Deployment := .empty
  observations : Dict (Uuid × Uuid × DeploymentStatus × String) DeploymentObservation := .empty
  releases : List ReleaseRow := []

abbrev EvolutionTx := Tx EvolutionDb Exc

namespace EvolutionDb

/-- `_get_row`, over the table of that name. -/
def getRow {α : Type} (name : String) (table : EvolutionDb → Dict Uuid α) (tenantOf : α → Uuid)
    (tenantId id : Uuid) : EvolutionTx α := do
  match (← Tx.read fun db => (table db).get? id).filter (tenantOf · = tenantId) with
  | some row => return row
  | none => Tx.raise (.recordNotFound (name ++ " " ++ id.str ++ " was not found"))

/-- The insert of a row under its primary key. -/
def insertRow {α : Type} (table : EvolutionDb → Dict Uuid α)
    (put : EvolutionDb → Dict Uuid α → EvolutionDb) (id : Uuid) (a : α) : EvolutionTx Unit := do
  Tx.check ((← Tx.read table).get? id).isSome (.integrityError "id")
  Tx.write fun db => put db ((table db).set id a)

/-- `_save_versioned`, where the expected version is the one before the saved one. -/
def saveVersioned {α : Type} (objectType : String) (table : EvolutionDb → Dict Uuid α)
    (put : EvolutionDb → Dict Uuid α → EvolutionDb) (tenantOf : α → Uuid) (versionOf : α → Int)
    (id : Uuid) (a : α) : EvolutionTx Unit := do
  let matching (row : α) : Bool := tenantOf row = tenantOf a && versionOf row = versionOf a - 1
  Tx.check (!((← Tx.read table).get? id).any matching)
    (.concurrencyConflict (objectType ++ " optimistic version changed"))
  Tx.write fun db => put db ((table db).set id a)

def addProposal (p : ImprovementProposal) : EvolutionTx Unit :=
  insertRow (·.proposals) (fun db rows => { db with proposals := rows }) p.proposalId p

def getProposal : (tenantId proposalId : Uuid) → EvolutionTx ImprovementProposal :=
  getRow "improvement_proposals" (·.proposals) (·.tenantId)

/-- The unique constraint `uq_candidate_artifact` comes beside the primary key. -/
def addCandidate (c : CandidateVersion) : EvolutionTx Unit := do
  Tx.check ((← Tx.read (·.candidates)).values.any fun other =>
      other.tenantId = c.tenantId && other.proposalId = c.proposalId &&
        other.artifactRef = c.artifactRef)
    (.integrityError "uq_candidate_artifact")
  insertRow (·.candidates) (fun db rows => { db with candidates := rows }) c.candidateId c

def getCandidate : (tenantId candidateId : Uuid) → EvolutionTx CandidateVersion :=
  getRow "candidates" (·.candidates) (·.tenantId)

def saveCandidate (c : CandidateVersion) : EvolutionTx Unit :=
  saveVersioned "candidate" (·.candidates) (fun db rows => { db with candidates := rows })
    (·.tenantId) (·.optimisticVersion) c.candidateId c

/-- A trial names no candidate, or one of its tenant. -/
def addTrial (t : Trial) : EvolutionTx Unit := do
  let candidates ← Tx.read (·.candidates)
  Tx.check (t.candidateId.any fun id =>
      !(candidates.get? id).any fun c => c.tenantId = t.tenantId)
    (.integrityError "fk_evaluation_trials_candidate")
  insertRow (·.trials) (fun db rows => { db with trials := rows }) t.trialId t

/-- The trials of a candidate, in the order of their creation. -/
def trialsOf (db : EvolutionDb) (tenantId candidateId : Uuid) : List Trial :=
  db.trials.values.filter fun t => t.tenantId = tenantId && t.candidateId = some candidateId

def listTrialsForCandidate (tenantId candidateId : Uuid) : EvolutionTx (List Trial) :=
  Tx.read fun db => db.trialsOf tenantId candidateId

def addEvaluationRecord (e : CandidateEvaluation) : EvolutionTx Unit :=
  insertRow (·.evaluations) (fun db rows => { db with evaluations := rows }) e.evaluationId e

def addDeployment (d : Deployment) : EvolutionTx Unit :=
  insertRow (·.deployments) (fun db rows => { db with deployments := rows }) d.deploymentId d

def getDeployment : (tenantId deploymentId : Uuid) → EvolutionTx Deployment :=
  getRow "deployments" (·.deployments) (·.tenantId)

def saveDeployment (d : Deployment) : EvolutionTx Unit :=
  saveVersioned "deployment" (·.deployments) (fun db rows => { db with deployments := rows })
    (·.tenantId) (·.optimisticVersion) d.deploymentId d

def getObservation (tenantId deploymentId : Uuid) (stage : DeploymentStatus) (metric : String) :
    EvolutionTx (Option DeploymentObservation) :=
  Tx.read fun db => db.observations.get? (tenantId, deploymentId, stage, metric)

/-- The upsert of `save_observation`: a stored counter keeps its id and its first sample. -/
def saveObservation (o : DeploymentObservation) : EvolutionTx Unit :=
  Tx.write fun db =>
    let scope := (o.tenantId, o.deploymentId, o.stage, o.metric)
    let row : DeploymentObservation := match db.observations.get? scope with
      | some old => { o with
          observationId := old.observationId
          firstSampleAt := old.firstSampleAt
          valid := o.valid }
      | none => o
    { db with observations := db.observations.set scope row }

/-- The rows after the update that ends what was in force in a slot. -/
def deactivated (rows : List ReleaseRow) (tenantId slot : Uuid) : List ReleaseRow :=
  rows.map fun row =>
    if row.tenantId = tenantId ∧ row.stableSlot = slot ∧ row.active = true then
      { row with active := false }
    else row

def addRelease (release : Release) : EvolutionTx Unit := do
  let candidate := ((← Tx.read (·.candidates)).get? release.candidateId).filter
    (·.tenantId = release.tenantId)
  match candidate with
  | none => Tx.raise (.recordNotFound "release candidate was not found")
  | some candidate =>
    let slot := candidate.baselineVersionId
    let rows ← Tx.read (·.releases)
    Tx.check (rows.any (·.releaseId = release.releaseId)) (.integrityError "id")
    Tx.write fun db => { db with
      releases := deactivated db.releases release.tenantId slot ++ [⟨release, slot, true⟩] }

def getActiveRelease (tenantId releaseId : Uuid) : EvolutionTx Release := do
  match (← Tx.read (·.releases)).find? fun row =>
      row.releaseId = releaseId && row.tenantId = tenantId && row.active with
  | some row => return row.toRelease
  | none => Tx.raise (.recordNotFound ("active release " ++ releaseId.str ++ " was not found"))

/-- The version in force in a slot. -/
def inForce (db : EvolutionDb) (tenantId slot : Uuid) : Option Uuid :=
  (db.releases.find? fun row =>
    row.tenantId = tenantId && row.stableSlot = slot && row.active).map (·.stableVersionId)

/-! ## What the methods do -/

section
variable {db : EvolutionDb} {α : Type}

theorem getRow_ok {name : String} {table : EvolutionDb → Dict Uuid α} {tenantOf : α → Uuid}
    {tenantId id : Uuid} {r : α × EvolutionDb} :
    getRow name table tenantOf tenantId id db = .ok r ↔
      (table db).get? id = some r.1 ∧ tenantOf r.1 = tenantId ∧ r.2 = db := by
  obtain ⟨a, db'⟩ := r
  simp only [getRow, Tx.bind_ok, Tx.read_ok]
  constructor
  · rintro ⟨_, _, ⟨⟩, h⟩
    cases found : ((table db).get? id).filter (tenantOf · = tenantId) with
    | none =>
      rw [found] at h
      cases h
    | some row =>
      rw [found] at h
      obtain ⟨rfl, rfl⟩ := Prod.mk.inj (Tx.pure_ok.mp h)
      obtain ⟨there, tenant⟩ := Option.filter_eq_some_iff.mp found
      exact ⟨there, by simpa using tenant, rfl⟩
  · rintro ⟨there, tenant, rfl⟩
    refine ⟨_, _, rfl, ?_⟩
    rw [there]
    simp only [Option.filter, tenant, decide_true, if_true]
    rfl

theorem insertRow_ok {table : EvolutionDb → Dict Uuid α}
    {put : EvolutionDb → Dict Uuid α → EvolutionDb} {id : Uuid} {a : α} {r : Unit × EvolutionDb} :
    insertRow table put id a db = .ok r ↔
      (table db).get? id = none ∧ r.2 = put db ((table db).set id a) := by
  simp only [insertRow, Tx.bind_ok, Tx.read_ok, Tx.check_ok, Tx.write_ok]
  constructor
  · rintro ⟨_, _, ⟨⟩, _, _, ⟨absent, rfl⟩, written⟩
    exact ⟨by simpa using absent, written⟩
  · rintro ⟨absent, written⟩
    exact ⟨_, _, rfl, (), _, ⟨by simp [absent], rfl⟩, written⟩

theorem saveVersioned_ok {objectType : String} {table : EvolutionDb → Dict Uuid α}
    {put : EvolutionDb → Dict Uuid α → EvolutionDb} {tenantOf : α → Uuid} {versionOf : α → Int}
    {id : Uuid} {a : α} {r : Unit × EvolutionDb} :
    saveVersioned objectType table put tenantOf versionOf id a db = .ok r ↔
      (∃ row, (table db).get? id = some row ∧ tenantOf row = tenantOf a ∧
        versionOf row = versionOf a - 1) ∧ r.2 = put db ((table db).set id a) := by
  simp only [saveVersioned, Tx.bind_ok, Tx.read_ok, Tx.check_ok, Tx.write_ok]
  constructor
  · rintro ⟨_, _, ⟨⟩, _, _, ⟨matched, rfl⟩, written⟩
    simp only [Bool.not_eq_false', Option.any_eq_true_iff_get, Bool.and_eq_true, decide_eq_true_eq]
      at matched
    obtain ⟨there, tenant, version⟩ := matched
    exact ⟨⟨_, (Option.some_get there).symm, tenant, version⟩, written⟩
  · rintro ⟨⟨row, there, tenant, version⟩, written⟩
    exact ⟨_, _, rfl, (), _, ⟨by simp [there, tenant, version], rfl⟩, written⟩

theorem addRelease_ok {release : Release} {r : Unit × EvolutionDb} :
    addRelease release db = .ok r ↔
      ∃ candidate, db.candidates.get? release.candidateId = some candidate ∧
        candidate.tenantId = release.tenantId ∧
        (∀ row ∈ db.releases, row.releaseId ≠ release.releaseId) ∧
        r.2 = { db with
          releases := deactivated db.releases release.tenantId candidate.baselineVersionId ++
            [⟨release, candidate.baselineVersionId, true⟩] } := by
  simp only [addRelease, Tx.bind_ok, Tx.read_ok]
  constructor
  · rintro ⟨_, _, ⟨⟩, h⟩
    cases found : (db.candidates.get? release.candidateId).filter
        (·.tenantId = release.tenantId) with
    | none =>
      rw [found] at h
      cases h
    | some candidate =>
      simp only [found, Tx.bind_ok, Tx.read_ok, Tx.check_ok, Tx.write_ok] at h
      obtain ⟨_, _, ⟨⟩, _, _, ⟨fresh, rfl⟩, written⟩ := h
      obtain ⟨there, tenant⟩ := Option.filter_eq_some_iff.mp found
      exact ⟨candidate, there, by simpa using tenant, by simpa using fresh, written⟩
  · rintro ⟨candidate, there, tenant, fresh, written⟩
    refine ⟨_, _, rfl, ?_⟩
    simp only [there, Option.filter, tenant, decide_true, if_true, Tx.bind_ok, Tx.read_ok,
      Tx.check_ok, Tx.write_ok]
    exact ⟨_, _, rfl, (), _, ⟨by simpa using fresh, rfl⟩, written⟩

theorem getActiveRelease_ok {tenantId releaseId : Uuid} {r : Release × EvolutionDb}
    (ran : getActiveRelease tenantId releaseId db = .ok r) :
    ∃ row ∈ db.releases, row.releaseId = releaseId ∧ row.tenantId = tenantId ∧
      row.active = true ∧ r = (row.toRelease, db) := by
  simp only [getActiveRelease, Tx.bind_ok, Tx.read_ok] at ran
  obtain ⟨_, _, ⟨⟩, ran⟩ := ran
  cases found : db.releases.find? fun row =>
      row.releaseId = releaseId && row.tenantId = tenantId && row.active with
  | none =>
    simp only [found] at ran
    cases ran
  | some row =>
    simp only [found] at ran
    have there := List.mem_of_find?_eq_some found
    have same := List.find?_some found
    simp only [Bool.and_eq_true, decide_eq_true_eq] at same
    exact ⟨row, there, same.1.1, same.1.2, same.2, Tx.pure_ok.mp ran⟩

end

end EvolutionDb

end Autonoesis
