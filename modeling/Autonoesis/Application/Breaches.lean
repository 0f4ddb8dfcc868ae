import Autonoesis.Application.Samples
import Autonoesis.Base.History

/-!
# Breaches in a row

The breach counter of a metric is to count the samples in a row that breached their guardrail. It
is reset by whatever does not breach, also by a sample that was recorded without one, as those of
a shadow pair are.
-/

namespace Autonoesis
open Base

structure ExecuteShadowPair where
  deploymentId : Uuid
  requestRef : String
  inputPayload : List (String × Json)
  valid : isBlank requestRef = false

/-- What `execute_shadow_subject` is asked to execute. -/
structure ShadowSubject where
  tenantId : Uuid
  deploymentId : Uuid
  versionId : Uuid
  requestRef : String
  inputPayload : List (String × Json)
  externalEffectsEnabled : Bool

abbrev ShadowSubjectRuntime := ShadowSubject → Except Exc ShadowMeasurements

/-- The tables with that of the shadow comparisons. -/
structure ShadowDb extends EvolutionDb where
  shadowComparisons : Dict Uuid ShadowComparison := .empty

namespace ShadowDb

/-- The unique constraint `uq_shadow_comparisons_request` comes beside the primary key. -/
def addShadowComparison (c : ShadowComparison) : Tx ShadowDb Exc Unit := do
  let comparisons ← Tx.read (·.shadowComparisons)
  Tx.check (comparisons.values.any fun other => other.tenantId = c.tenantId &&
      other.deploymentId = c.deploymentId && other.requestRef = c.requestRef)
    (.integrityError "uq_shadow_comparisons_request")
  Tx.check (comparisons.get? c.comparisonId).isSome (.integrityError "id")
  Tx.write fun db => { db with
    shadowComparisons := db.shadowComparisons.set c.comparisonId c }

end ShadowDb

namespace Evolution
open EvolutionDb

/-- A method over the tables that it knows of. -/
def onTables {α : Type} (x : Method α) : Calls ShadowDb Exc α := fun db =>
  let ran := Calls.ran x db.toEvolutionDb
  (ran.1, { db with toEvolutionDb := ran.2 })

/-- A sample to record, with the id and the clock reading its call draws. -/
abbrev Draw := RecordObservation × Uuid × Instant

/-- Calls of `record_observation` one after the other. -/
def recordAll (identity : IdentityContext) : List Draw → Method Unit
  | [] => return ()
  | (command, id, now) :: rest => do
    let _ ← recordObservation identity command id now
    recordAll identity rest

/-- The metrics of a shadow pair. -/
def shadowMetrics (c : ShadowComparison) : List (String × Rat) :=
  [("outcome_score_delta", c.candidate.outcomeScore.value - c.stable.outcomeScore.value),
    ("cost_microunits_delta", c.candidate.costMicrounits - c.stable.costMicrounits),
    ("latency_ms_delta", c.candidate.latencyMs.value - c.stable.latencyMs.value),
    ("security_violations", c.candidate.securityViolations),
    ("human_corrections_delta", c.candidate.humanCorrections - c.stable.humanCorrections)]

/-- The samples of a shadow pair carry no guardrail. -/
def pairDraws (c : ShadowComparison) (draws : Nat → Uuid × Instant) : List Draw :=
  (shadowMetrics c).zipIdx.map fun ((metric, value), i) =>
    ({ deploymentId := c.deploymentId, stage := .shadow, metric := metric, value := value },
      draws i)

/-- `execute_shadow_pair` up to the stored comparison. -/
def mirrorPair (identity : IdentityContext) (command : ExecuteShadowPair)
    (runtime : ShadowSubjectRuntime) (comparisonId : Uuid) (observedAt : Instant) :
    Calls ShadowDb Exc ShadowComparison := do
  let deployment ← onTables (Calls.tx (getDeployment identity.tenantId command.deploymentId))
  Calls.check (deployment.status ≠ .shadow)
    (.valueError "shadow pair execution requires a shadow deployment")
  let candidate ← onTables (Calls.tx (getCandidate identity.tenantId deployment.candidateId))
  let subject (versionId : Uuid) (effects : Bool) : ShadowSubject := {
    tenantId := identity.tenantId
    deploymentId := deployment.deploymentId
    versionId := versionId
    requestRef := command.requestRef
    inputPayload := command.inputPayload
    externalEffectsEnabled := effects }
  let stable ← Calls.ofExcept (runtime (subject candidate.baselineVersionId true))
  let measured ← Calls.ofExcept (runtime (subject candidate.candidateId false))
  let comparison ← Calls.ofExcept (ShadowComparison.make {
    tenantId := identity.tenantId
    deploymentId := deployment.deploymentId
    requestRef := command.requestRef
    stableVersionId := candidate.baselineVersionId
    candidateVersionId := candidate.candidateId
    stable := stable
    candidate := measured
    observedAt := observedAt
    comparisonId := comparisonId })
  Calls.tx (ShadowDb.addShadowComparison comparison)
  return comparison

def executeShadowPair (identity : IdentityContext) (command : ExecuteShadowPair)
    (runtime : ShadowSubjectRuntime) (comparisonId : Uuid) (observedAt : Instant)
    (draws : Nat → Uuid × Instant) : Calls ShadowDb Exc ShadowComparison := do
  let comparison ← mirrorPair identity command runtime comparisonId observedAt
  onTables (recordAll identity (pairDraws comparison draws))
  return comparison

namespace Breaches
open Samples

/-- A recorded sample: whether it breached its guardrail, if it carries one. -/
abbrev Sample := Option Bool

/-- How many samples in a row, up to the last that carries a guardrail, have breached it. -/
def streak (samples : List Sample) : Nat :=
  ((samples.filterMap id).reverse.takeWhile (· = true)).length

theorem streak_ruleless (samples : List Sample) : streak (samples ++ [none]) = streak samples := by
  simp [streak]

theorem streak_breached (samples : List Sample) :
    streak (samples ++ [some true]) = streak samples + 1 := by
  simp [streak]

theorem streak_passed (samples : List Sample) : streak (samples ++ [some false]) = 0 := by
  simp [streak]

/-- The stored `breach_count`. -/
def breaches (scope : Scope) (db : EvolutionDb) : Int :=
  match db.observations.get? scope with
  | none => 0
  | some o => o.breachCount

def sampleOf (command : RecordObservation) : Sample :=
  command.guardrail.map fun _ => guardrailBreached command.guardrail command.value

/-- The samples of the scope that a sequence of calls records; the first that raises ends it. -/
def samplesIn (scope : Scope) (identity : IdentityContext) : List Draw → EvolutionDb → List Sample
  | [], _ => []
  | (command, id, now) :: rest, db =>
    match Calls.ran (recordObservation identity command id now) db with
    | (.ok _, db') =>
      (if (identity.tenantId, command.deploymentId, command.stage, command.metric) = scope then
        [sampleOf command] else []) ++ samplesIn scope identity rest db'
    | (.error _, _) => []

inductive Call where
  | record (identity : IdentityContext) (draw : Draw)
  | pair (identity : IdentityContext) (command : ExecuteShadowPair)
      (runtime : ShadowSubjectRuntime) (comparisonId : Uuid) (observedAt : Instant)
      (draws : Nat → Uuid × Instant)
  /-- Any other call leaves tables such as these. -/
  | other (db : ShadowDb)

/-- The tables, and the samples of the scope that have been recorded in them. -/
structure World where
  db : ShadowDb
  samples : List Sample := []

/-- The tables a call leaves. -/
def Call.leaves (db : ShadowDb) : Call → ShadowDb
  | record identity draw => (Calls.ran (onTables (recordAll identity [draw])) db).2
  | pair identity command runtime comparisonId observedAt draws =>
    (Calls.ran (executeShadowPair identity command runtime comparisonId observedAt draws) db).2
  | other db' => db'

/-- The samples of the scope a call records. -/
def Call.samples (scope : Scope) (db : ShadowDb) : Call → List Sample
  | record identity draw => samplesIn scope identity [draw] db.toEvolutionDb
  | pair identity command runtime comparisonId observedAt draws =>
    match Calls.ran (mirrorPair identity command runtime comparisonId observedAt) db with
    | (.ok comparison, db') =>
      samplesIn scope identity (pairDraws comparison draws) db'.toEvolutionDb
    | (.error _, _) => []
  | other _ => []

/-- Other calls leave the counters alone. -/
def Legal (w : World) : Call → Prop
  | .other db => db.observations = w.db.observations
  | _ => True

def step (scope : Scope) (w : World) (c : Call) : World :=
  ⟨c.leaves w.db, w.samples ++ c.samples scope w.db⟩

/-- The stored count is that of the samples in a row that breached. -/
def Tracks (scope : Scope) (w : World) : Prop := breaches scope w.db.toEvolutionDb = streak w.samples

/-- A sample without a guardrail is recorded only while no breach is counted. -/
def Unhidden (scope : Scope) (w : World) (c : Call) : Prop :=
  none ∈ c.samples scope w.db → breaches scope w.db.toEvolutionDb = 0

/-! ## One sample -/

/-- What the code makes of the count with a sample. -/
def bump (count : Int) (sample : Sample) : Int := if sample = some true then count + 1 else 0

section
variable {scope : Scope} {db db' : EvolutionDb} {identity : IdentityContext}

/-- Every counter is stored under its scope. -/
def AllKeyed (db : EvolutionDb) : Prop := ∀ scope, Keyed scope db

theorem bump_sampleOf (command : RecordObservation) (count : Int) :
    bump count (sampleOf command) =
      if guardrailBreached command.guardrail command.value then count + 1 else 0 := by
  cases rule : command.guardrail with
  | none => simp [bump, sampleOf, rule, guardrailBreached]
  | some guardrail => simp [bump, sampleOf, rule]

theorem sampled_breachCount (command : RecordObservation) (id : Uuid) (now : Instant)
    (db : EvolutionDb) (scope : Scope) :
    (sampled identity command id now (db.observations.get? scope)).breachCount =
      bump (breaches scope db) (sampleOf command) := by
  rw [bump_sampleOf]
  unfold sampled breaches
  cases db.observations.get? scope with
  | none => simp
  | some old => rfl

/-- A call raises, or it stores the count with its sample. -/
theorem recordObservation_bumps (keyed : AllKeyed db) {command : RecordObservation} {id : Uuid}
    {now : Instant} {r : Except Exc DeploymentObservation}
    (ran : Calls.ran (recordObservation identity command id now) db = (r, db')) :
    Raised db db' r ∨ ∃ o row, r = .ok o ∧
      scopeOf row.toObservationFields =
        (identity.tenantId, command.deploymentId, command.stage, command.metric) ∧
      row.breachCount = bump (breaches (scopeOf row.toObservationFields) db) (sampleOf command) ∧
      db' = { db with
        observations := db.observations.set (scopeOf row.toObservationFields) row } := by
  obtain raised | ⟨d, _, ran⟩ := Calls.bind_reads getRow_reads ran
  · exact .inl raised
  obtain raised | ⟨_, _, ran⟩ := Calls.bind_reads (Calls.reads_check _ _) ran
  · exact .inl raised
  obtain raised | ⟨existing, read, ran⟩ := Calls.bind_reads (read_reads _) ran
  · exact .inl raised
  obtain raised | ⟨o, made, ran⟩ := Calls.bind_reads (Calls.reads_ofExcept _) ran
  · exact .inl raised
  obtain raised | ⟨wrote, rfl⟩ := Calls.tx_pure_ran ran
  · exact .inl raised
  refine .inr ⟨o, ?_⟩
  have stands : existing = db.observations.get?
      (identity.tenantId, command.deploymentId, command.stage, command.metric) :=
    congrArg Prod.fst (Tx.read_ok.mp (Calls.tx_ok read))
  have built : o.toObservationFields = sampled identity command id now existing := by
    obtain ⟨_, rfl⟩ := guarded_eq_ok.mp (Calls.ofExcept_ok made)
    rfl
  rw [stands] at built
  obtain ⟨of, _⟩ := scopeOf_sampled id now rfl
    (keyed (identity.tenantId, command.deploymentId, command.stage, command.metric))
  obtain ⟨row, _, count, kept, stored⟩ := saveObservation_stored o db
  rw [built] at kept
  rw [of] at kept
  have wrote : (EvolutionDb.saveObservation o).commit db = (.ok (), db') := by
    rw [Tx.commit, wrote]
  rw [built, of] at stored
  cases stored.symm.trans wrote
  refine ⟨row, rfl, kept, ?_, by rw [kept]⟩
  rw [count, built, kept]
  exact sampled_breachCount command id now db _

/-- What calls that record samples of one metric after the other leave of its count. -/
theorem recordAll_bumps (scope : Scope) (keyed : AllKeyed db) (identity : IdentityContext)
    (draws : List Draw) :
    AllKeyed (Calls.ran (recordAll identity draws) db).2 ∧
      breaches scope (Calls.ran (recordAll identity draws) db).2 =
        (samplesIn scope identity draws db).foldl bump (breaches scope db) := by
  induction draws generalizing db with
  | nil => exact ⟨keyed, rfl⟩
  | cons draw rest ih =>
    obtain ⟨command, id, now⟩ := draw
    cases first : Calls.ran (recordObservation identity command id now) db with
    | mk r db' =>
      cases r with
      | error e =>
        obtain ⟨rfl, _⟩ | ⟨_, _, returned, _⟩ := recordObservation_bumps keyed first
        · have whole : Calls.ran (recordAll identity ((command, id, now) :: rest)) db' =
              (.error e, db') :=
            Calls.bind_ran.mpr (.inl ⟨e, first, rfl⟩)
          rw [whole]
          simp only [samplesIn, first, List.foldl_nil]
          exact ⟨keyed, trivial⟩
        · cases returned
      | ok o =>
        obtain ⟨_, _, raised⟩ | ⟨_, row, _, of, count, rfl⟩ := recordObservation_bumps keyed first
        · cases raised
        · have whole : Calls.ran (recordAll identity ((command, id, now) :: rest)) db =
              Calls.ran (recordAll identity rest) _ :=
            Calls.bind_of_ok first rfl
          have stored : AllKeyed { db with
              observations := db.observations.set (scopeOf row.toObservationFields) row } := by
            intro scope' o' found
            rw [Dict.get?_set] at found
            split at found
            · rename_i here
              cases found
              exact here.symm
            · exact keyed scope' o' found
          obtain ⟨kept, later⟩ := ih stored
          rw [whole]
          refine ⟨kept, ?_⟩
          simp only [samplesIn, first, List.foldl_append]
          rw [later]
          congr 1
          rw [← of]
          by_cases here : scopeOf row.toObservationFields = scope
          · rw [if_pos here, List.foldl_cons, List.foldl_nil, ← here, ← count]
            simp only [breaches, Dict.get?_set_self]
          · rw [if_neg here, List.foldl_nil]
            simp only [breaches, Dict.get?_set_ne _ _ (Ne.symm here)]

/-! ## One call -/

theorem samplesIn_elsewhere {draws : List Draw}
    (elsewhere : ∀ draw ∈ draws, draw.1.metric ≠ scope.2.2.2) (db : EvolutionDb) :
    samplesIn scope identity draws db = [] := by
  induction draws generalizing db with
  | nil => rfl
  | cons draw rest ih =>
    obtain ⟨command, id, now⟩ := draw
    have other : (identity.tenantId, command.deploymentId, command.stage, command.metric) ≠
        scope := by
      rintro rfl
      exact elsewhere _ List.mem_cons_self rfl
    simp only [samplesIn]
    split
    · rw [if_neg other, ih fun draw there => elsewhere draw (List.mem_cons_of_mem _ there)]
      rfl
    · rfl

/-- Samples of distinct metrics are in the scope of one counter at most once. -/
theorem samplesIn_once {draws : List Draw} (distinct : (draws.map (·.1.metric)).Nodup)
    (db : EvolutionDb) : samplesIn scope identity draws db = [] ∨
      ∃ sample, samplesIn scope identity draws db = [sample] := by
  induction draws generalizing db with
  | nil => exact .inl rfl
  | cons draw rest ih =>
    obtain ⟨command, id, now⟩ := draw
    obtain ⟨fresh, distinct⟩ := List.nodup_cons.mp distinct
    simp only [samplesIn]
    split
    · by_cases here : (identity.tenantId, command.deploymentId, command.stage, command.metric) =
          scope
      · rw [if_pos here, samplesIn_elsewhere]
        · exact .inr ⟨_, rfl⟩
        · rintro draw there same
          refine fresh (List.mem_map.mpr ⟨draw, there, same.trans ?_⟩)
          rw [← here]
      · rw [if_neg here]
        exact ih distinct _
    · exact .inl rfl

theorem pairDraws_metrics (c : ShadowComparison) (draws : Nat → Uuid × Instant) :
    ((pairDraws c draws).map (·.1.metric)).Nodup := by
  have names : (pairDraws c draws).map (·.1.metric) = ["outcome_score_delta",
      "cost_microunits_delta", "latency_ms_delta", "security_violations",
      "human_corrections_delta"] := rfl
  rw [names]
  decide

theorem Call.samples_once (scope : Scope) (db : ShadowDb) (c : Call) :
    c.samples scope db = [] ∨ ∃ sample, c.samples scope db = [sample] := by
  cases c with
  | record identity draw =>
    have distinct : ([draw].map (·.1.metric)).Nodup := List.nodup_singleton _
    exact samplesIn_once distinct _
  | pair identity command runtime comparisonId observedAt draws =>
    simp only [Call.samples]
    split
    · exact samplesIn_once (pairDraws_metrics _ _) _
    · exact .inl rfl
  | other db' => exact .inl rfl

theorem onTables_ran {α : Type} {x : Method α} {s s' : ShadowDb} {r : Except Exc α} :
    Calls.ran (onTables x) s = (r, s') ↔ Calls.ran x s.toEvolutionDb = (r, s'.toEvolutionDb) ∧
      s'.shadowComparisons = s.shadowComparisons := by
  constructor
  · rintro ⟨⟩
    exact ⟨rfl, rfl⟩
  · rintro ⟨ran, same⟩
    obtain ⟨tables, comparisons⟩ := s'
    cases same
    simp only [onTables, Calls.ran] at ran ⊢
    rw [ran]

theorem onTables_reads {α : Type} {x : Method α} (reads : Calls.Reads x) :
    Calls.Reads (onTables x) := by
  intro s r s' whole
  obtain ⟨ran, comparisons⟩ := onTables_ran.mp whole
  have tables := reads _ _ _ ran
  obtain ⟨_, _⟩ := s'
  cases tables
  cases comparisons
  rfl

/-- A pair is mirrored without a look at the counters. -/
theorem mirrorPair_tables {command : ExecuteShadowPair} {runtime : ShadowSubjectRuntime}
    {comparisonId : Uuid} {observedAt : Instant} {s s' : ShadowDb}
    {r : Except Exc ShadowComparison}
    (ran : Calls.ran (mirrorPair identity command runtime comparisonId observedAt) s = (r, s')) :
    s'.toEvolutionDb = s.toEvolutionDb := by
  obtain ⟨rfl, _⟩ | ⟨d, _, ran⟩ := Calls.bind_reads (onTables_reads getRow_reads) ran
  · rfl
  obtain ⟨rfl, _⟩ | ⟨_, _, ran⟩ := Calls.bind_reads (Calls.reads_check _ _) ran
  · rfl
  obtain ⟨rfl, _⟩ | ⟨c, _, ran⟩ := Calls.bind_reads (onTables_reads getRow_reads) ran
  · rfl
  obtain ⟨rfl, _⟩ | ⟨_, _, ran⟩ := Calls.bind_reads (Calls.reads_ofExcept _) ran
  · rfl
  obtain ⟨rfl, _⟩ | ⟨_, _, ran⟩ := Calls.bind_reads (Calls.reads_ofExcept _) ran
  · rfl
  obtain ⟨rfl, _⟩ | ⟨_, _, ran⟩ := Calls.bind_reads (Calls.reads_ofExcept _) ran
  · rfl
  obtain ⟨rfl, _⟩ | ⟨wrote, _⟩ := Calls.tx_pure_ran ran
  · rfl
  simp only [ShadowDb.addShadowComparison, Tx.bind_ok, Tx.read_ok, Tx.check_ok, Tx.write_ok]
    at wrote
  obtain ⟨_, _, ⟨⟩, _, _, ⟨_, rfl⟩, _, _, ⟨_, rfl⟩, same⟩ := wrote
  rw [same]

/-- A call counts the samples it records, and each in its own scope. -/
theorem Call.bumps (scope : Scope) {w : World} (keyed : AllKeyed w.db.toEvolutionDb) (c : Call)
    (legal : Legal w c) : AllKeyed (c.leaves w.db).toEvolutionDb ∧
      breaches scope (c.leaves w.db).toEvolutionDb =
        (c.samples scope w.db).foldl bump (breaches scope w.db.toEvolutionDb) := by
  cases c with
  | record identity draw => exact recordAll_bumps scope keyed identity [draw]
  | other db =>
    have same : db.observations = w.db.observations := legal
    refine ⟨fun scope o found => keyed scope o (same ▸ found), ?_⟩
    simp only [leaves, samples, List.foldl_nil, breaches, same]
  | pair identity command runtime comparisonId observedAt draws =>
    simp only [leaves, samples]
    cases mirrored : Calls.ran (mirrorPair identity command runtime comparisonId observedAt)
        w.db with
    | mk r s =>
      have tables := mirrorPair_tables mirrored
      cases r with
      | error e =>
        have whole : Calls.ran (executeShadowPair identity command runtime comparisonId observedAt
            draws) w.db = (.error e, s) :=
          Calls.bind_ran.mpr (.inl ⟨e, mirrored, rfl⟩)
        rw [whole, tables]
        exact ⟨keyed, rfl⟩
      | ok comparison =>
        have recorded := recordAll_bumps scope (tables ▸ keyed) identity
          (pairDraws comparison draws)
        have whole : (Calls.ran (executeShadowPair identity command runtime comparisonId observedAt
            draws) w.db).2.toEvolutionDb = (Calls.ran (recordAll identity
              (pairDraws comparison draws)) s.toEvolutionDb).2 := by
          rw [executeShadowPair, Calls.bind_of_ok mirrored rfl]
          exact congrArg ShadowDb.toEvolutionDb (Calls.bind_pure_leaves _ _ s)
        rw [whole]
        dsimp only
        rw [tables] at recorded ⊢
        exact recorded

/-! ## A history of calls -/

/-- The stored count agrees with the streak over a sample, unless the sample hides breaches. -/
theorem bump_eq_streak {count : Int} {samples : List Sample} (tracks : count = streak samples)
    (sample : Sample) : bump count sample = streak (samples ++ [sample]) ↔
      (sample = none → count = 0) := by
  match sample with
  | none =>
    rw [streak_ruleless, ← tracks]
    simp [bump, eq_comm]
  | some true =>
    rw [streak_breached, tracks]
    simp [bump]
  | some false =>
    rw [streak_passed]
    simp [bump]

theorem tracks_step_iff {w : World} (keyed : AllKeyed w.db.toEvolutionDb)
    (tracks : Tracks scope w) {c : Call} (legal : Legal w c) :
    Tracks scope (step scope w c) ↔ Unhidden scope w c := by
  unfold Tracks Unhidden
  simp only [step]
  rw [(c.bumps scope keyed legal).2]
  obtain samples | ⟨sample, samples⟩ := c.samples_once scope w.db
  · rw [samples, List.foldl_nil, List.append_nil]
    exact iff_of_true tracks nofun
  · rw [samples, List.foldl_cons, List.foldl_nil, bump_eq_streak tracks, List.mem_singleton]
    exact ⟨fun h none => h none.symm, fun h none => h none.symm⟩

/-- The stored count is right, and so are the scopes the counters are stored under. -/
structure Counted (scope : Scope) (w : World) : Prop where
  keyed : AllKeyed w.db.toEvolutionDb
  tracks : Tracks scope w

/-- Over a history of calls the count is that of the breaches in a row at every point exactly when
no sample without a guardrail is recorded while one is counted. -/
theorem breach_count_along_iff {w : World} (untouched : w.db.observations = .empty)
    (unsampled : w.samples = []) {calls : List Call} (legal : Along (step scope) Legal w calls) :
    Along (step scope) (fun w c => Tracks scope (step scope w c)) w calls ↔
      Along (step scope) (Unhidden scope) w calls := by
  have counted : Counted scope w := by
    constructor
    · intro scope o found
      rw [untouched] at found
      cases found
    · simp [Tracks, breaches, untouched, unsampled, streak]
  apply along_congr (fun w c (counted : Counted scope w) legal =>
    tracks_step_iff counted.keyed counted.tracks legal) _ counted legal
  intro w c counted legal unhidden
  exact ⟨(c.bumps scope counted.keyed legal).1,
    (tracks_step_iff counted.keyed counted.tracks legal).mpr unhidden⟩

end

instance (scope : Scope) (w : World) : Decidable (Tracks scope w) :=
  inferInstanceAs (Decidable (_ = _))

instance (scope : Scope) (w : World) (c : Call) : Decidable (Unhidden scope w c) :=
  inferInstanceAs (Decidable (_ → _))

namespace Sample
open Evolution.Sample (identity approving allowAll)

/-- An approved candidate that has entered shadow, before any sample. -/
def shadowed : World where
  db := ⟨Script.leaves allowAll (approving 100 ++ [(.beginShadow (identity 14) 101, 107, 7)]) {},
    .empty⟩

def violations : Scope := (1, 107, .shadow, "security_violations")

/-- A sample under the guardrail that no violation is allowed. -/
def guarded (value : Rat) (id : Uuid) : Call :=
  .record (identity 14) ({
      deploymentId := 107
      stage := .shadow
      metric := "security_violations"
      value := value
      guardrail := some (.gt, 0) }, id, 8)

def measurements : ShadowMeasurements :=
  ⟨{ outcomeScore := 1, costMicrounits := 10, latencyMs := 20 }, by decide +kernel⟩

def pair : Call :=
  .pair (identity 14) ⟨107, "request-1", [], by decide⟩ (fun _ => .ok measurements) 120 9
    fun i => (BitVec.ofNat 128 (130 + i), 10)

theorem tracked : Along (step violations) (fun w c => Tracks violations (step violations w c))
    shadowed [guarded 1 110, guarded 0 111, pair] := by
  refine (breach_count_along_iff ?_ rfl ?_).mpr ?_
  · have none : shadowed.db.observations.entries.isEmpty = true := by decide +kernel
    cases rows : shadowed.db.observations with
    | mk entries nodup =>
      rw [rows] at none
      cases List.isEmpty_iff.mp none
      rfl
  · exact ⟨trivial, trivial, trivial, trivial⟩
  · decide +kernel

/-- A shadow pair after a violation makes the count forget it. -/
theorem untracked : Along (step violations) Legal shadowed [guarded 1 110, pair] ∧
    ¬Along (step violations) (fun w c => Tracks violations (step violations w c)) shadowed
      [guarded 1 110, pair] := by
  refine ⟨⟨trivial, trivial, trivial⟩, ?_⟩
  decide +kernel

end Sample

end Breaches

end Evolution

end Autonoesis
