import Autonoesis.Application.Rollout
import Autonoesis.Base.Pool

/-!
# Samples recorded side by side

`record_observation` reads the counter of a metric and writes it back increased, in two
transactions. Beside each other, calls that have read the same counter write the same number, so
a sample is lost exactly when a call writes while another stands between its read and its write.
-/

namespace Autonoesis.Evolution
open Base

/-- The counter a call writes over the one it has read. -/
def sampled (identity : IdentityContext) (command : RecordObservation) (observationId : Uuid)
    (now : Instant) (existing : Option DeploymentObservation) : ObservationFields :=
  let breached := guardrailBreached command.guardrail command.value
  match existing with
  | none => {
      tenantId := identity.tenantId
      deploymentId := command.deploymentId
      stage := command.stage
      metric := command.metric
      sampleCount := 1
      breachCount := if breached then 1 else 0
      lastValue := some command.value
      firstSampleAt := some now
      lastSampleAt := some now
      observationId := observationId }
  | some old => { old.toObservationFields with
      sampleCount := old.sampleCount + 1
      breachCount := if breached then old.breachCount + 1 else 0
      lastValue := some command.value
      lastSampleAt := some now }

namespace Program

def saving (observation : DeploymentObservation) : Program DeploymentObservation := do
  saveObservation observation
  return observation

def sampling (identity : IdentityContext) (command : RecordObservation) (observationId : Uuid)
    (now : Instant) : Program DeploymentObservation := do
  let existing ←
    getObservation identity.tenantId command.deploymentId command.stage command.metric
  let observation ← Prog.ofExcept
    (DeploymentObservation.make (sampled identity command observationId now existing))
  saving observation

/-- `record_observation`, as a program of repository calls. -/
def recordObservation (identity : IdentityContext) (command : RecordObservation)
    (observationId : Uuid) (now : Instant) : Program DeploymentObservation := do
  let deployment ← getDeployment identity.tenantId command.deploymentId
  check (deployment.status ≠ command.stage)
    (.valueError ("observation stage " ++ command.stage.value ++
      " does not match deployment status " ++ deployment.status.value))
  sampling identity command observationId now

/-- The program is the method. -/
theorem recordObservation_calls (identity : IdentityContext) (command : RecordObservation)
    (observationId : Uuid) (now : Instant) :
    (recordObservation identity command observationId now).calls EvolutionReq.perform =
      Evolution.recordObservation identity command observationId now := by
  simp only [recordObservation, sampling, saving, Prog.calls_bind, Prog.calls_request,
    Prog.calls_ofExcept, Prog.calls_pure, check_calls, EvolutionReq.perform]
  rfl

/-- The counter a program is about to write. -/
def held : Program DeploymentObservation → Option DeploymentObservation
  | .call (.saveObservation o) _ => some o
  | _ => none

def returned : Program DeploymentObservation → Bool
  | .ret _ => true
  | _ => false

end Program

namespace Samples

/-- A tenant, a deployment of it, a stage and a metric: what one counter is about. -/
abbrev Scope := Uuid × Uuid × DeploymentStatus × String

def scopeOf (o : ObservationFields) : Scope := (o.tenantId, o.deploymentId, o.stage, o.metric)

abbrev World := Pool EvolutionDb EvolutionReq EvolutionResp Exc DeploymentObservation
abbrev Label := Pool.Label Unit EvolutionReq EvolutionResp Exc DeploymentObservation

/-- Calls of `record_observation` for one scope, by any identities with any samples, beside
anything else that leaves the counter of the scope alone. -/
def system (scope : Scope) : System EvolutionDb Unit EvolutionReq EvolutionResp Exc
    DeploymentObservation where
  starts p := ∃ identity command id now,
    (identity.tenantId, command.deploymentId, command.stage, command.metric) = scope ∧
      p = Program.recordObservation identity command id now
  answers db r ans db' := r.perform.commit db = (ans, db')
  outside db _ db' := db'.observations.get? scope = db.observations.get? scope

/-- The stored `sample_count`. -/
def count (scope : Scope) (db : EvolutionDb) : Int :=
  match db.observations.get? scope with
  | none => 0
  | some o => o.sampleCount

/-- How many calls have returned. -/
def recorded (w : World) : Nat := w.threads.countP fun t => Program.returned t.prog

/-- A thread that stands between its read and its write. -/
def Between (t : Thread EvolutionReq EvolutionResp Exc DeploymentObservation) : Prop :=
  t.alive = true ∧ ∃ o, Program.held t.prog = some o

/-- When a call writes, no other stands between its read and its write. -/
def Alone (w : World) (l : Label) (_ : World) : Prop :=
  ∀ i o ans, l = .call i ⟨.saveObservation o, ans⟩ →
    ∀ j t, w.threads[j]? = some t → Between t → j = i

/-! ## One call of a thread -/

/-- How far a call has come. -/
inductive Shape (scope : Scope) : Program DeploymentObservation → Prop
  | asking {identity : IdentityContext} {command : RecordObservation} (id : Uuid) (now : Instant)
      (of : (identity.tenantId, command.deploymentId, command.stage, command.metric) = scope) :
      Shape scope (Program.recordObservation identity command id now)
  | reading {identity : IdentityContext} {command : RecordObservation} (id : Uuid) (now : Instant)
      (of : (identity.tenantId, command.deploymentId, command.stage, command.metric) = scope) :
      Shape scope (Program.sampling identity command id now)
  | holding {o : DeploymentObservation} (of : scopeOf o.toObservationFields = scope) :
      Shape scope (Program.saving o)
  | returned (o : DeploymentObservation) : Shape scope (.ret o)
  | raised (e : Exc) : Shape scope (.raise e)

/-- The stored counter of the scope is of the scope. -/
def Keyed (scope : Scope) (db : EvolutionDb) : Prop :=
  ∀ o, db.observations.get? scope = some o → scopeOf o.toObservationFields = scope

/-- What a program makes of an answered call, and what the call makes of the tables. -/
inductive Turn (scope : Scope) (db : EvolutionDb) :
    Program DeploymentObservation → Program DeploymentObservation → EvolutionDb → Prop
  | read {p : Program DeploymentObservation} {o : DeploymentObservation}
      (empty : Program.held p = none) (unreturned : Program.returned p = false)
      (of : scopeOf o.toObservationFields = scope) (next : o.sampleCount = count scope db + 1) :
      Turn scope db p (Program.saving o) db
  | other {p q : Program DeploymentObservation} (empty : Program.held p = none)
      (unreturned : Program.returned p = false) (shape : Shape scope q)
      (still : Program.held q = none) (unreturned' : Program.returned q = false) :
      Turn scope db p q db
  | write {o : DeploymentObservation} {db' : EvolutionDb} (keyed : Keyed scope db')
      (wrote : count scope db' = o.sampleCount) :
      Turn scope db (Program.saving o) (.ret o) db'

variable {scope : Scope} {db db' : EvolutionDb}

theorem scopeOf_sampled {identity : IdentityContext} {command : RecordObservation} (id : Uuid)
    (now : Instant)
    (of : (identity.tenantId, command.deploymentId, command.stage, command.metric) = scope)
    (keyed : Keyed scope db) :
    scopeOf (sampled identity command id now (db.observations.get? scope)) = scope ∧
      (sampled identity command id now (db.observations.get? scope)).sampleCount =
        count scope db + 1 := by
  unfold sampled count
  cases found : db.observations.get? scope with
  | none => exact ⟨of, rfl⟩
  | some o => exact ⟨keyed o found, rfl⟩

/-- The upsert stores the counter it is given. -/
theorem saveObservation_stored (o : DeploymentObservation) (db : EvolutionDb) :
    ∃ row : DeploymentObservation, row.sampleCount = o.sampleCount ∧
      row.breachCount = o.breachCount ∧
      scopeOf row.toObservationFields = scopeOf o.toObservationFields ∧
      (EvolutionDb.saveObservation o).commit db =
        (.ok (), { db with
          observations := db.observations.set (scopeOf o.toObservationFields) row }) := by
  unfold Tx.commit EvolutionDb.saveObservation Tx.write
  cases found : db.observations.get? (scopeOf o.toObservationFields) with
  | none => exact ⟨o, rfl, rfl, rfl, by simp only [scopeOf] at found; simp [found, scopeOf]⟩
  | some old =>
    refine ⟨{ o with
      observationId := old.observationId
      firstSampleAt := old.firstSampleAt
      valid := o.valid }, rfl, rfl, rfl, ?_⟩
    simp only [scopeOf] at found
    simp [found, scopeOf]

theorem shape_call {r : EvolutionReq} {k : Except Exc (EvolutionResp r) →
      Program DeploymentObservation} {ans : Except Exc (EvolutionResp r)}
    (shape : Shape scope (.call r k)) (keyed : Keyed scope db)
    (answered : r.perform.commit db = (ans, db')) :
    Turn scope db (.call r k) (k ans) db' := by
  generalize made : Prog.call r k = p at shape
  cases shape with
  | @asking identity command id now of =>
    cases made
    have same : db' = db := by
      have kept := keeps_getRow.commit (x := EvolutionDb.getDeployment identity.tenantId
        command.deploymentId) db
      exact (congrArg Prod.snd answered).symm.trans kept
    subst same
    cases ans with
    | error e => exact Turn.other rfl rfl (.raised e) rfl rfl
    | ok d =>
      show Turn scope db' _ (Program.check (d.status ≠ command.stage) _ >>= fun _ =>
        Program.sampling identity command id now) db'
      by_cases wrong : d.status ≠ command.stage
      · rw [Program.check, decide_eq_true wrong]
        exact Turn.other rfl rfl (.raised _) rfl rfl
      · rw [Program.check, decide_eq_false wrong]
        exact Turn.other rfl rfl (.reading id now of) rfl rfl
  | @reading identity command id now of =>
    cases made
    cases answered
    show Turn scope db _ (Prog.ofExcept (DeploymentObservation.make
      (sampled identity command id now (db.observations.get? (identity.tenantId,
        command.deploymentId, command.stage, command.metric)))) >>= Program.saving) db
    rw [of]
    obtain ⟨kept, next⟩ := scopeOf_sampled id now of keyed
    cases built : DeploymentObservation.make
        (sampled identity command id now (db.observations.get? scope)) with
    | error e => exact Turn.other rfl rfl (.raised e) rfl rfl
    | ok o =>
      obtain ⟨_, rfl⟩ := guarded_eq_ok.mp built
      exact Turn.read rfl rfl kept next
  | @holding o of =>
    cases made
    obtain ⟨row, same, _, kept, wrote⟩ := saveObservation_stored o db
    cases answered.symm.trans wrote
    rw [of] at kept ⊢
    refine .write ?_ ?_
    · intro stored found
      cases (Dict.get?_set_self _ _ _).symm.trans found
      exact kept
    · simp only [count, Dict.get?_set_self, same]
  | returned o => cases made
  | raised e => cases made

/-! ## One step of a schedule -/

/-- Every thread has come so far, and the stored counter is of the scope. -/
structure Formed (scope : Scope) (w : World) : Prop where
  shapes : ∀ t ∈ w.threads, Shape scope t.prog
  keyed : Keyed scope w.shared

/-- Thread `j` holds a counter to write. -/
def Holds (w : World) (j : Nat) (alive : Bool) (o : DeploymentObservation) : Prop :=
  ∃ t, w.threads[j]? = some t ∧ Program.held t.prog = some o ∧ t.alive = alive

/-- What a step of a schedule does to the counter and to those who are about to write it. -/
inductive Step (scope : Scope) (w w' : World) (l : Label) : Prop
  | quiet (other : ∀ i o ans, l ≠ .call i ⟨.saveObservation o, ans⟩)
      (same : count scope w'.shared = count scope w.shared)
      (calls : recorded w' = recorded w)
      (back : ∀ j o, Holds w' j true o →
        Holds w j true o ∨ o.sampleCount = count scope w.shared + 1)
      (forth : ∀ j alive o, Holds w j alive o → ∃ still, Holds w' j still o ∧
        (still = true → alive = true))
  | wrote {i : Nat} {o : DeploymentObservation} {ans : Except Exc Unit}
      (call : l = .call i ⟨.saveObservation o, ans⟩) (holds : Holds w i true o)
      (stored : count scope w'.shared = o.sampleCount) (calls : recorded w' = recorded w + 1)
      (others : ∀ j, j ≠ i → ∀ alive o', Holds w' j alive o' ↔ Holds w j alive o')
      (done : ∀ alive o', ¬ Holds w' i alive o')

variable {w w' : World} {l : Label}

theorem holds_set {w : World} {i j : Nat} {db : EvolutionDb}
    {t : Thread EvolutionReq EvolutionResp Exc DeploymentObservation} (other : j ≠ i)
    {alive : Bool} {o : DeploymentObservation} :
    Holds ⟨db, w.threads.set i t⟩ j alive o ↔ Holds w j alive o := by
  simp only [Holds, List.getElem?_set_ne (Ne.symm other)]

theorem holds_set_self {w : World} {i : Nat} {db : EvolutionDb}
    {t u : Thread EvolutionReq EvolutionResp Exc DeploymentObservation}
    (here : w.threads[i]? = some u) {alive : Bool} {o : DeploymentObservation} :
    Holds ⟨db, w.threads.set i t⟩ i alive o ↔ Program.held t.prog = some o ∧ t.alive = alive := by
  have inside : i < w.threads.length := (List.getElem?_eq_some_iff.mp here).1
  simp [Holds, List.getElem?_set_self inside]

theorem recorded_set {w : World} {i : Nat} {db : EvolutionDb}
    {t u : Thread EvolutionReq EvolutionResp Exc DeploymentObservation}
    (here : w.threads[i]? = some u) (unreturned : Program.returned u.prog = false) :
    recorded ⟨db, w.threads.set i t⟩ =
      recorded w + if Program.returned t.prog then 1 else 0 := by
  obtain ⟨inside, same⟩ := List.getElem?_eq_some_iff.mp here
  simp only [recorded]
  rw [List.countP_set inside, same, unreturned]
  simp

/-- A step in which thread `i`, which held nothing, holds nothing or what it has just read. -/
theorem step_quiet {i : Nat} {t u : Thread EvolutionReq EvolutionResp Exc DeploymentObservation}
    (unsaved : ∀ i o ans, l ≠ .call i ⟨.saveObservation o, ans⟩)
    (here : w.threads[i]? = some u) (empty : Program.held u.prog = none)
    (unreturned : Program.returned u.prog = false) (unreturned' : Program.returned t.prog = false)
    (read : ∀ o, Program.held t.prog = some o → o.sampleCount = count scope w.shared + 1) :
    Step scope w ⟨w.shared, w.threads.set i t⟩ l := by
  refine .quiet unsaved rfl ?_ ?_ ?_
  · rw [recorded_set here unreturned, unreturned']
    rfl
  · intro j o holds
    by_cases same : j = i
    · subst same
      exact .inr (read o ((holds_set_self here).mp holds).1)
    · exact .inl ((holds_set same).mp holds)
  · intro j alive o holds
    have other : j ≠ i := by
      rintro rfl
      obtain ⟨v, found, held, -⟩ := holds
      cases here.symm.trans found
      cases empty.symm.trans held
    exact ⟨alive, (holds_set other).mpr holds, id⟩

/-- A thread that crashes has returned if it had. -/
theorem recorded_crash {w : World} {i : Nat}
    {u : Thread EvolutionReq EvolutionResp Exc DeploymentObservation}
    (here : w.threads[i]? = some u) :
    recorded ⟨w.shared, w.threads.set i { u with alive := false }⟩ = recorded w := by
  obtain ⟨inside, same⟩ := List.getElem?_eq_some_iff.mp here
  simp only [recorded]
  rw [List.countP_set inside, same]
  by_cases done : Program.returned u.prog = true
  · have some_ : 0 < w.threads.countP fun t => Program.returned t.prog :=
      List.countP_pos_iff.mpr ⟨u, List.mem_of_getElem? here, done⟩
    simp only [done, if_true]
    omega
  · simp [done]

theorem holds_append {w : World}
    {t : Thread EvolutionReq EvolutionResp Exc DeploymentObservation}
    (empty : Program.held t.prog = none) {j : Nat} {alive : Bool} {o : DeploymentObservation} :
    Holds ⟨w.shared, w.threads ++ [t]⟩ j alive o ↔ Holds w j alive o := by
  unfold Holds
  by_cases old : j < w.threads.length
  · rw [List.getElem?_append_left old]
  · rw [List.getElem?_append_right (Nat.le_of_not_lt old),
      List.getElem?_eq_none (Nat.le_of_not_lt old)]
    constructor
    · rintro ⟨u, found, held, -⟩
      rw [List.mem_singleton.mp (List.mem_of_getElem? found), empty] at held
      cases held
    · rintro ⟨u, ⟨⟩, -⟩

theorem step_of_turn {i : Nat} {r : EvolutionReq}
    {k : Except Exc (EvolutionResp r) → Program DeploymentObservation}
    {ans : Except Exc (EvolutionResp r)} {db : EvolutionDb}
    {t u : Thread EvolutionReq EvolutionResp Exc DeploymentObservation}
    (here : w.threads[i]? = some u) (alive : u.alive = true) (next : u.prog = .call r k)
    (answered : t.prog = k ans) (turn : Turn scope w.shared (.call r k) (k ans) db) :
    Step scope w ⟨db, w.threads.set i t⟩ (.call i ⟨r, ans⟩) := by
  have unsaved (empty : Program.held u.prog = none) :
      ∀ i' o ans', Pool.Label.call i ⟨r, ans⟩ ≠
        (.call i' ⟨.saveObservation o, ans'⟩ : Label) := by
    rintro _ o _ ⟨⟩
    rw [next] at empty
    cases empty
  rw [← next, ← answered] at turn
  generalize before : u.prog = p at turn
  generalize after : t.prog = q at turn
  cases turn with
  | read empty unreturned of read =>
    apply step_quiet (unsaved (before ▸ empty)) here (before ▸ empty) (before ▸ unreturned)
      (by rw [after]; rfl)
    intro o held
    rw [after] at held
    cases held
    exact read
  | other empty unreturned shape still unreturned' =>
    apply step_quiet (unsaved (before ▸ empty)) here (before ▸ empty) (before ▸ unreturned)
      (after ▸ unreturned')
    intro o held
    rw [after, still] at held
    cases held
  | @write o _ keyed wrote =>
    cases next.symm.trans before
    refine .wrote rfl ⟨u, here, by rw [before]; rfl, alive⟩ wrote ?_ ?_ ?_
    · rw [recorded_set here (by rw [before]; rfl), after]
      rfl
    · exact fun j other alive o' => holds_set other
    · intro alive o' holds
      rw [holds_set_self here, after] at holds
      cases holds.1

theorem Turn.kept {p q : Program DeploymentObservation} (turn : Turn scope db p q db')
    (keyed : Keyed scope db) : Shape scope q ∧ Keyed scope db' := by
  cases turn with
  | read _ _ of _ => exact ⟨.holding of, keyed⟩
  | other _ _ shape _ _ => exact ⟨shape, keyed⟩
  | write keyed _ => exact ⟨.returned _, keyed⟩

theorem unsaved_of_quiet {l : Label} (quiet : l.event? = none) (i : Nat)
    (o : DeploymentObservation) (ans : Except Exc Unit) :
    l ≠ .call i ⟨.saveObservation o, ans⟩ := by
  rintro rfl
  cases quiet

theorem step_of_move (formed : Formed scope w) (move : Pool.Move (system scope) w l w') :
    Step scope w w' l ∧ Formed scope w' := by
  cases move with
  | start starts =>
    obtain ⟨identity, command, id, now, of, rfl⟩ := starts
    have asking : Shape scope (Program.recordObservation identity command id now) :=
      .asking id now of
    refine ⟨.quiet (unsaved_of_quiet rfl) rfl ?_ ?_ ?_, ?_, formed.keyed⟩
    · simp only [recorded, List.countP_append]
      rfl
    · intro j o holds
      exact .inl ((holds_append rfl).mp holds)
    · intro j alive o holds
      exact ⟨alive, (holds_append rfl).mpr holds, fun h => h⟩
    · intro t there
      obtain old | new := List.mem_append.mp there
      · exact formed.shapes t old
      · rw [List.mem_singleton.mp new]
        exact asking
  | @call i t r k ans db here alive next answered =>
    have shape := formed.shapes t (List.mem_of_getElem? here)
    rw [next] at shape
    have turn := shape_call shape formed.keyed answered
    obtain ⟨shape', keyed⟩ := turn.kept formed.keyed
    refine ⟨step_of_turn here alive next rfl turn, ?_, keyed⟩
    intro u there
    obtain old | rfl := List.mem_or_eq_of_mem_set there
    · exact formed.shapes u old
    · exact shape'
  | @crash i t here =>
    refine ⟨.quiet (unsaved_of_quiet rfl) rfl (recorded_crash here) ?_ ?_, ?_, formed.keyed⟩
    · intro j o holds
      by_cases same : j = i
      · subst same
        cases ((holds_set_self here).mp holds).2
      · exact .inl ((holds_set same).mp holds)
    · intro j alive o holds
      by_cases same : j = i
      · subst same
        obtain ⟨u, found, held, -⟩ := holds
        cases here.symm.trans found
        exact ⟨false, (holds_set_self here).mpr ⟨held, rfl⟩, nofun⟩
      · exact ⟨alive, (holds_set same).mpr holds, id⟩
    · intro u there
      obtain old | rfl := List.mem_or_eq_of_mem_set there
      · exact formed.shapes u old
      · exact formed.shapes t (List.mem_of_getElem? here)
  | @outside c db moved =>
    have same : count scope db = count scope w.shared := by
      simp only [count]
      rw [moved]
    refine ⟨.quiet (unsaved_of_quiet rfl) same rfl (fun j o holds => .inl holds) (fun j alive o holds =>
      ⟨alive, holds, id⟩), formed.shapes, fun o found => formed.keyed o ?_⟩
    exact moved ▸ found

/-! ## Whole schedules -/

/-- The counter is behind the calls that have returned by at least `lost`, and so is what any
call is about to write. -/
structure Behind (scope : Scope) (lost : Nat) (w : World) : Prop where
  stored : count scope w.shared + lost ≤ recorded w
  held : ∀ j o, Holds w j true o → o.sampleCount + lost ≤ recorded w + 1

/-- The counter has kept up with the calls that have returned. -/
structure Level (scope : Scope) (w : World) : Prop where
  stored : recorded w ≤ count scope w.shared
  held : ∀ j o, Holds w j true o → recorded w + 1 ≤ o.sampleCount

theorem Behind.step {lost : Nat} (behind : Behind scope lost w) (step : Step scope w w' l) :
    Behind scope lost w' := by
  obtain ⟨stored, held⟩ := behind
  cases step with
  | quiet _ same calls back forth =>
    refine ⟨by omega, fun j o holds => ?_⟩
    obtain old | new := back j o holds
    · have := held j o old
      omega
    · omega
  | @wrote i o ans call holds wrote calls others done =>
    have written := held i o holds
    refine ⟨by omega, fun j o' holds' => ?_⟩
    have other : j ≠ i := by
      rintro rfl
      exact done _ _ holds'
    have := held j o' ((others j other true o').mp holds')
    omega

theorem Level.step (level : Level scope w) (step : Step scope w w' l) (alone : Alone w l w') :
    Level scope w' := by
  obtain ⟨stored, held⟩ := level
  cases step with
  | quiet _ same calls back forth =>
    refine ⟨by omega, fun j o holds => ?_⟩
    obtain old | new := back j o holds
    · have := held j o old
      omega
    · omega
  | @wrote i o ans call holds wrote calls others done =>
    have written := held i o holds
    refine ⟨by omega, fun j o' holds' => ?_⟩
    have other : j ≠ i := by
      rintro rfl
      exact done _ _ holds'
    obtain ⟨t, there, has, alive⟩ := (others j other true o').mp holds'
    exact absurd (alone i o ans call j t there ⟨alive, o', has⟩) other

/-- Thread `j` will write a number that others have already counted up to, or has. -/
def Losing (scope : Scope) (j : Nat) (w : World) : Prop :=
  Behind scope 1 w ∨ Behind scope 0 w ∧
    ∃ alive o, Holds w j alive o ∧ o.sampleCount ≤ recorded w

theorem Losing.step {j : Nat} (losing : Losing scope j w) (step : Step scope w w' l) :
    Losing scope j w' := by
  obtain behind | ⟨behind, alive, o, holds, late⟩ := losing
  · exact .inl (behind.step step)
  · have still := behind.step step
    cases step with
    | quiet _ same calls back forth =>
      obtain ⟨again, holds', -⟩ := forth j alive o holds
      exact .inr ⟨still, again, o, holds', by omega⟩
    | @wrote i o' ans call writes wrote calls others done =>
      by_cases own : j = i
      · -- the late number is written over the one it should have counted up from
        subst own
        obtain ⟨t, found, held, -⟩ := holds
        obtain ⟨u, found', held', -⟩ := writes
        cases found.symm.trans found'
        cases held.symm.trans held'
        refine .inl ⟨by omega, fun k o' holds' => ?_⟩
        have other : k ≠ j := by
          rintro rfl
          exact done _ _ holds'
        have := behind.held k o' ((others k other true o').mp holds')
        omega
      · exact .inr ⟨still, alive, o, (others j own alive o).mpr holds, by omega⟩

section
variable {ok : World → Label → World → Prop}

theorem steps_formed (steps : Pool.Steps (system scope) ok w w') (formed : Formed scope w) :
    Formed scope w' := by
  induction steps with
  | init => exact formed
  | next _ move _ ih => exact (step_of_move ih move).2

theorem Behind.steps {lost : Nat} (steps : Pool.Steps (system scope) ok w w')
    (formed : Formed scope w) (behind : Behind scope lost w) : Behind scope lost w' := by
  induction steps with
  | init => exact behind
  | next past move _ ih => exact ih.step (step_of_move (steps_formed past formed) move).1

theorem Losing.steps {j : Nat} (steps : Pool.Steps (system scope) ok w w')
    (formed : Formed scope w) (losing : Losing scope j w) : Losing scope j w' := by
  induction steps with
  | init => exact losing
  | next past move _ ih => exact ih.step (step_of_move (steps_formed past formed) move).1

theorem Level.steps (steps : Pool.Steps (system scope) Alone w w') (formed : Formed scope w)
    (level : Level scope w) : Level scope w' := by
  induction steps with
  | init => exact level
  | next past move alone ih => exact ih.step (step_of_move (steps_formed past formed) move).1 alone

end

theorem not_holds_start (db : EvolutionDb) (j : Nat) (alive : Bool) (o : DeploymentObservation) :
    ¬ Holds { shared := db } j alive o := by
  rintro ⟨t, ⟨⟩, -⟩

/-- A call that writes while another stands between its read and its write. -/
theorem losing_of_between {i j : Nat} {o : DeploymentObservation} {ans : Except Exc Unit}
    {t : Thread EvolutionReq EvolutionResp Exc DeploymentObservation}
    (behind : Behind scope 0 w) (step : Step scope w w' (.call i ⟨.saveObservation o, ans⟩))
    (other : j ≠ i) (there : w.threads[j]? = some t) (between : Between t) :
    Losing scope j w' := by
  obtain ⟨alive, o', held⟩ := between
  have holds : Holds w j true o' := ⟨t, there, held, alive⟩
  have written := behind.held j o' holds
  have still := behind.step step
  cases step with
  | quiet unsaved => exact absurd rfl (unsaved i o ans)
  | wrote call _ _ calls others _ =>
    cases call
    exact .inr ⟨still, true, o', (others j other true o').mpr holds, by omega⟩

/-- In every schedule whose calls write one at a time, none writing while another stands between
its read and its write, the stored number is that of the calls that have returned. When a call
does write in between, and the other returns as well, a sample is lost for good. -/
theorem samples_counted {scope : Scope} {db : EvolutionDb}
    (empty : db.observations.get? scope = none) :
    (∀ w, Pool.Reach (system scope) Alone db w → count scope w.shared = recorded w) ∧
    ∀ (w₁ w₂ w : World) (i j : Nat) (o : DeploymentObservation) (ans : Except Exc Unit)
      (t t' : Thread EvolutionReq EvolutionResp Exc DeploymentObservation),
      Pool.Reach (system scope) (fun _ _ _ => True) db w₁ →
      Pool.Move (system scope) w₁ (.call i ⟨.saveObservation o, ans⟩) w₂ →
      j ≠ i → w₁.threads[j]? = some t → Between t →
      Pool.Steps (system scope) (fun _ _ _ => True) w₂ w →
      w.threads[j]? = some t' → Program.returned t'.prog = true →
        count scope w.shared < recorded w := by
  have formed : Formed scope { shared := db } := by
    refine ⟨nofun, fun o found => ?_⟩
    cases empty.symm.trans found
  have start : count scope db = 0 := by
    simp only [count, empty]
  have behind : Behind scope 0 { shared := db } :=
    ⟨by rw [start]; exact Int.le_refl 0, fun j o holds => (not_holds_start db j true o holds).elim⟩
  constructor
  · intro w reach
    have level : Level scope { shared := db } :=
      ⟨by rw [start]; exact Int.le_refl 0,
        fun j o holds => (not_holds_start db j true o holds).elim⟩
    have up := (level.steps reach formed).stored
    have down := (behind.steps reach formed).stored
    omega
  · intro w₁ w₂ w i j o ans t t' reach move other there between later here done
    have formed₁ := steps_formed reach formed
    obtain ⟨step, formed₂⟩ := step_of_move formed₁ move
    have losing := losing_of_between (behind.steps reach formed) step other there between
    obtain behind | ⟨-, alive, o', ⟨u, found, held, -⟩, -⟩ := losing.steps later formed₂
    · have := behind.stored
      omega
    · cases here.symm.trans found
      cases prog : t'.prog with
      | ret => rw [prog] at held; cases held
      | raise => rw [prog] at held; cases held
      | call => rw [prog] at done; cases done

end Samples

namespace Sample
open Samples

def latency : Scope := (1, 107, .canary, "latency")

def sample : RecordObservation :=
  { deploymentId := 107, stage := .canary, metric := "latency", value := 1 }

def recording (id : Uuid) : Program DeploymentObservation :=
  Program.recordObservation (identity 14) sample id 9

def handle (db : EvolutionDb) (r : EvolutionReq) : Except Exc (EvolutionResp r) × EvolutionDb :=
  r.perform.commit db

/-- Two calls have been started. -/
def startedOn (db : EvolutionDb) : World :=
  { shared := db, threads := [⟨recording 201, [], true⟩, ⟨recording 202, [], true⟩] }

theorem startedOn_reach (db : EvolutionDb) (ok : World → Label → World → Prop)
    (free : ∀ w p w', ok w (.start p) w') :
    Pool.Reach (system latency) ok db (startedOn db) := by
  have starts (id : Uuid) : (system latency).starts (recording id) :=
    ⟨identity 14, sample, id, 9, rfl, rfl⟩
  have first : Pool.Reach (system latency) ok db
      { shared := db, threads := [⟨recording 201, [], true⟩] } :=
    Pool.Steps.init.next (.start (starts 201)) (free _ _ _)
  exact first.next (.start (starts 202)) (free _ _ _)

def started : World := startedOn canary

theorem canary_unobserved : canary.observations.get? latency = none := by
  decide +kernel

/-- The second call reads and writes between the read and the write of the first. -/
def overlapping : World :=
  ((started.advance handle 0 2).advance handle 1 3).advance handle 0 1

/-- Both calls return, and the stored number is one. -/
theorem sample_lost :
    ¬ ∀ (scope : Scope) (db : EvolutionDb), db.observations.get? scope = none →
      ∀ w, Pool.Reach (system scope) (fun _ _ _ => True) db w →
        (∀ t ∈ w.threads, Program.returned t.prog = true) →
          count scope w.shared = w.threads.length := by
  intro all
  have reach := startedOn_reach canary (fun _ _ _ => True) fun _ _ _ => trivial
  have answers (db : EvolutionDb) (r : EvolutionReq) :
      (system latency).answers db r (handle db r).1 (handle db r).2 := rfl
  have done := ((reach.advance answers 0 (fun _ _ _ => trivial) 2).advance answers 1
    (fun _ _ _ => trivial) 3).advance answers 0 (fun _ _ _ => trivial) 1
  have facts : (∀ t ∈ overlapping.threads, Program.returned t.prog = true) ∧
      count latency overlapping.shared = 1 ∧ overlapping.threads.length = 2 := by
    decide +kernel
  obtain ⟨returned, stored, two⟩ := facts
  have counted := all latency canary canary_unobserved overlapping done returned
  rw [stored, two] at counted
  exact absurd counted (by decide)

/-- No thread but `i` stands between its read and its write. -/
def aloneBut (i : Nat) (w : World) : Bool :=
  w.threads.zipIdx.all fun (t, j) => j = i || !(t.alive && (Program.held t.prog).isSome)

theorem alone_of_aloneBut {i : Nat} {w w' : World}
    {e : Event EvolutionReq EvolutionResp Exc} (check : aloneBut i w = true) :
    Alone w (.call i e) w' := by
  rintro _ o ans ⟨⟩ j t there ⟨alive, o', held⟩
  rw [aloneBut, List.all_eq_true] at check
  have here := check (t, j) (List.mk_mem_zipIdx_iff_getElem?.mpr there)
  simpa [alive, held] using here

theorem alone_start (w : World) (p : Program DeploymentObservation) (w' : World) :
    Alone w (.start p) w' := by
  intro i o ans started
  have call : none = some _ := congrArg Pool.Label.event? started
  cases call

theorem advance_alone {db : EvolutionDb} {w : World} {i n : Nat}
    (reach : Pool.Reach (system latency) Alone db w)
    (met : w.advanceMeets (fun w _ _ => aloneBut i w) handle i n = true) :
    Pool.Reach (system latency) Alone db (w.advance handle i n) := by
  have answers (db : EvolutionDb) (r : EvolutionReq) :
      (system latency).answers db r (handle db r).1 (handle db r).2 := rfl
  have legal (w : World) (e : Event EvolutionReq EvolutionResp Exc) (w' : World)
      (check : aloneBut i w = true) : Alone w (.call i e) w' := alone_of_aloneBut check
  exact reach.advance_of_meets answers i legal met

/-- One call after the other. -/
def consecutive : World := (started.advance handle 0 3).advance handle 1 3

theorem consecutive_counted :
    count latency consecutive.shared = recorded consecutive := by
  have reach : Pool.Reach (system latency) Alone canary started :=
    startedOn_reach canary Alone alone_start
  have first := advance_alone reach (by decide +kernel :
    started.advanceMeets (fun w _ _ => aloneBut 0 w) handle 0 3 = true)
  have second := advance_alone first (by decide +kernel :
    (started.advance handle 0 3).advanceMeets (fun w _ _ => aloneBut 1 w) handle 1 3 = true)
  exact (samples_counted canary_unobserved).1 _ second

end Sample

end Autonoesis.Evolution
