import Mathlib.Data.List.Perm.Subperm
import Autonoesis.Application.Completion
import Autonoesis.Persistence.Updates

/-!
# The Runs of a Goal under concurrent transactions

`request_run` counts the active Runs of a Goal and then inserts one. Its transaction and
those of the commands that move a Run are interleaved statement by statement: a statement
reads committed rows only, and what a transaction writes becomes visible when it commits. The
insert of a Run conflicts with nothing but its own key, so between the count and the commit
another request may have committed a Run that was not counted.
-/

namespace Autonoesis
open Base

/-- What `request_run` computes from the Goal and the Runs it read, up to `add_run`. -/
def App.requestedRun (ports : Ports) (env : Env) (ctx : CommandContext) (goal : GoalContract)
    (runs : List Run) : Except Exc Run := do
  goal.assertRunRequestAllowed (runs.countP Run.isActive) (env.now 0)
  let goalType ← ports.getGoalType ctx.tenantId goal.goalType
  let agentVersionId ← ports.getStableAgent ctx.tenantId goalType.agent
  let deploymentId ← App.routeDeployment ports ctx.tenantId (env.uuid 0)
  Run.make {
    tenantId := ctx.tenantId
    goalId := goal.goalId
    agentVersionId := agentVersionId
    runId := env.uuid 0
    createdAt := env.now 1
    deploymentId := deploymentId }

/-- The Run a request adds: of the Goal it read, under the limit it counted against. -/
theorem App.requestedRun_ok {ports : Ports} {env : Env} {ctx : CommandContext}
    {goal : GoalContract} {runs : List Run} {run : Run}
    (h : requestedRun ports env ctx goal runs = .ok run) :
    (runs.countP Run.isActive : Int) < goal.maxConcurrentRuns ∧ run.goalId = goal.goalId ∧
      run.tenantId = ctx.tenantId := by
  simp only [requestedRun, bind_eq_ok, GoalContract.assertRunRequestAllowed, checks_cons,
    decide_eq_false_iff_not, Int.not_le] at h
  obtain ⟨_, ⟨_, _, below, _⟩, _, _, _, _, _, _, made⟩ := h
  obtain ⟨_, rfl⟩ := guarded_eq_ok.mp made
  exact ⟨below, rfl, rfl⟩

/-- A Run that has ended takes no transition. -/
theorem Run.transitionTo_live {run updated : Run} {target : RunStatus} {actorId : Uuid}
    {reason : String} {at_ : Instant}
    (moved : run.transitionTo target actorId reason at_ = .ok updated) : run.isActive = true := by
  have legal := (Run.transitionTo_ok moved).1
  unfold Run.isActive
  cases status : run.status <;> simp [status, runTransitions] at legal ⊢

/-- A Run that is saved was active, and stays a Run of its Goal. -/
theorem Run.Saves.stays {run updated : Run} (saves : run.Saves updated) :
    updated.tenantId = run.tenantId ∧ updated.goalId = run.goalId ∧ run.isActive = true := by
  cases saves with
  | transition moved =>
    have fields := (Run.transitionTo_ok moved).2
    exact ⟨congrArg (·.tenantId) fields, congrArg (·.goalId) fields,
      Run.transitionTo_live moved⟩
  | start moved =>
    simp only [App.startRun, bind_eq_ok] at moved
    obtain ⟨_, _, bound, binding, moved⟩ := moved
    have fields := (Run.transitionTo_ok moved).2
    obtain ⟨pending, same⟩ := Run.bindExecution_ok binding
    refine ⟨(congrArg (·.tenantId) fields).trans (congrArg (·.tenantId) same),
      (congrArg (·.goalId) fields).trans (congrArg (·.goalId) same), ?_⟩
    simp [Run.isActive, pending]

namespace RunLimit

/-- Where a transaction stands: of `request_run` from the idempotency lookup to the inserted
Run, or of a command that moves a Run. -/
inductive Phase where
  | idle
  | admitted (ctx : CommandContext) (goalId : Uuid)
  | goalRead (ctx : CommandContext) (goal : GoalContract)
  | counted (ctx : CommandContext) (goal : GoalContract) (runs : List Run)
  | requested (ctx : CommandContext) (goal : GoalContract) (runs : List Run) (run : Run)
  | runRead (run : Run)
  | moved (run updated : Run)

/-- The committed rows and the transactions. Of the idempotency records only those of
`request_run` are kept. -/
structure Database where
  goals : Dict Uuid GoalContract := .empty
  runs : Dict Uuid Run := .empty
  idempotency : Dict (Uuid × String) Uuid := .empty
  sessions : Nat → Phase := fun _ => .idle

def Database.put (db : Database) (i : Nat) (phase : Phase) : Database :=
  { db with sessions := Function.update db.sessions i phase }

/-- `list_runs`. -/
def Database.listRuns (db : Database) (tenantId goalId : Uuid) : List Run :=
  db.runs.values.filter fun run => run.tenantId = tenantId && run.goalId = goalId

/-- The persisted Runs of a Goal that have not ended. -/
def Database.activeRuns (db : Database) (tenantId goalId : Uuid) : Nat :=
  (db.listRuns tenantId goalId).countP Run.isActive

/-- The key of `request_run`. -/
def requestKey (ctx : CommandContext) : Uuid × String := (ctx.tenantId, ctx.key "request_run")

/-- The statements of the transactions, in any order. The label is the transaction that
commits the insert of a Run, if one does. -/
inductive Step (db : Database) : Option Nat → Database → Prop
  | createGoal (goal : GoalContract) (absent : db.goals.get? goal.goalId = none) :
      Step db none { db with goals := db.goals.set goal.goalId goal }
  | saveGoal {goal updated : GoalContract} {target : GoalStatus} {actorId : Uuid}
      {reason : String} {at_ : Instant} (found : db.goals.get? goal.goalId = some goal)
      (moved : goal.transitionTo target actorId reason at_ = .ok updated) :
      Step db none { db with goals := db.goals.set updated.goalId updated }
  | admitCall (i : Nat) (ctx : CommandContext) (goalId : Uuid) (here : db.sessions i = .idle)
      (allowed : App.roleCheck ctx App.operators = .ok ())
      (unused : db.idempotency.get? (requestKey ctx) = none) :
      Step db none (db.put i (.admitted ctx goalId))
  | readGoal (i : Nat) {ctx : CommandContext} {goalId : Uuid} {goal : GoalContract}
      (here : db.sessions i = .admitted ctx goalId) (found : db.goals.get? goalId = some goal)
      (own : goal.tenantId = ctx.tenantId) : Step db none (db.put i (.goalRead ctx goal))
  | countRuns (i : Nat) {ctx : CommandContext} {goal : GoalContract}
      (here : db.sessions i = .goalRead ctx goal) :
      Step db none (db.put i (.counted ctx goal (db.listRuns ctx.tenantId goal.goalId)))
  | insertRun (i : Nat) {ctx : CommandContext} {goal : GoalContract} {runs : List Run}
      {ports : Ports} {env : Env} {run : Run} (here : db.sessions i = .counted ctx goal runs)
      (made : App.requestedRun ports env ctx goal runs = .ok run) :
      Step db none (db.put i (.requested ctx goal runs run))
  | commitRun (i : Nat) {ctx : CommandContext} {goal : GoalContract} {runs : List Run}
      {run : Run} (here : db.sessions i = .requested ctx goal runs run)
      (absent : db.runs.get? run.runId = none)
      (unused : db.idempotency.get? (requestKey ctx) = none) :
      Step db (some i) { db.put i .idle with
        runs := db.runs.set run.runId run
        idempotency := db.idempotency.set (requestKey ctx) run.runId }
  | readRun (i : Nat) (run : Run) (here : db.sessions i = .idle)
      (found : db.runs.get? run.runId = some run) : Step db none (db.put i (.runRead run))
  | moveRun (i : Nat) {run updated : Run} (here : db.sessions i = .runRead run)
      (saves : run.Saves updated) : Step db none (db.put i (.moved run updated))
  | commitMove (i : Nat) {run updated : Run} {runs : Dict Uuid Run}
      (here : db.sessions i = .moved run updated)
      (matched : Versioned.update (fun row => row.tenantId = updated.tenantId &&
        row.optimisticVersion = run.optimisticVersion) db.runs updated.runId updated = some runs) :
      Step db none { db.put i .idle with runs := runs }
  | rollback (i : Nat) : Step db none (db.put i .idle)

/-- The databases reached from the empty one when each commit of a new Run meets `ok`. -/
inductive Reach (ok : Database → Nat → Prop) : Database → Prop
  | start : Reach ok {}
  | next {db db' : Database} {label : Option Nat} (past : Reach ok db) (step : Step db label db')
      (legal : ∀ i, label = some i → ok db i) : Reach ok db'

/-- No Goal has more active Runs than its limit. -/
def WithinLimit (db : Database) : Prop :=
  ∀ id goal, db.goals.get? id = some goal →
    (db.activeRuns goal.tenantId id : Int) ≤ goal.maxConcurrentRuns

/-- Every committed Run of the Goal is among those the transaction has counted. -/
def CountedAll (db : Database) (i : Nat) : Prop :=
  ∀ ctx goal runs run, db.sessions i = .requested ctx goal runs run →
    ∀ row ∈ db.listRuns ctx.tenantId goal.goalId, row.runId ∈ runs.map (·.runId)

/-! ## Counting -/

/-- Rows with distinct keys are no more than the rows whose keys they have. -/
theorem countP_le {rows : List Run} (rows' : List Run) (distinct : (rows.map (·.runId)).Nodup)
    (covered : ∀ row ∈ rows, row.isActive = true →
      ∃ row' ∈ rows', row'.isActive = true ∧ row'.runId = row.runId) :
    rows.countP Run.isActive ≤ rows'.countP Run.isActive := by
  have counted (l : List Run) :
      l.countP Run.isActive = ((l.filter Run.isActive).map (·.runId)).length := by
    rw [List.countP_eq_length_filter, List.length_map]
  rw [counted, counted]
  refine (List.Nodup.subperm ?_ ?_).length_le
  · exact distinct.sublist (List.filter_sublist.map _)
  · intro id there
    obtain ⟨row, here, rfl⟩ := List.mem_map.mp there
    obtain ⟨within, active⟩ := List.mem_filter.mp here
    obtain ⟨row', within', active', same⟩ := covered row within active
    exact List.mem_map.mpr ⟨row', List.mem_filter.mpr ⟨within', active'⟩, same⟩

/-! ## What holds in every database reached -/

/-- The committed Goal that a transaction has read: its limit and tenant never change. -/
def GoalHeld (db : Database) (ctx : CommandContext) (goal : GoalContract) : Prop :=
  goal.tenantId = ctx.tenantId ∧ ∃ current, db.goals.get? goal.goalId = some current ∧
    current.tenantId = goal.tenantId ∧ current.maxConcurrentRuns = goal.maxConcurrentRuns

/-- The Runs that were counted are still there, and those that had ended have ended. -/
def RunsHeld (db : Database) (runs : List Run) : Prop :=
  ∀ old ∈ runs, ∃ row, db.runs.get? old.runId = some row ∧
    (row.isActive = true → old.isActive = true)

def Phase.Sound (db : Database) : Phase → Prop
  | .goalRead ctx goal => GoalHeld db ctx goal
  | .counted ctx goal runs => GoalHeld db ctx goal ∧ RunsHeld db runs
  | .requested ctx goal runs run => GoalHeld db ctx goal ∧ RunsHeld db runs ∧
      (runs.countP Run.isActive : Int) < goal.maxConcurrentRuns ∧ run.goalId = goal.goalId ∧
      run.tenantId = ctx.tenantId
  | .runRead run => Versioned.Read (·.optimisticVersion) db.runs run.runId run
  | .moved run updated => Versioned.Read (·.optimisticVersion) db.runs run.runId run ∧
      run.Saves updated
  | _ => True

structure Database.Sound (db : Database) : Prop where
  goalKeys : ∀ id goal, db.goals.get? id = some goal → goal.goalId = id
  runKeys : ∀ id run, db.runs.get? id = some run → run.runId = id
  homed : ∀ id run, db.runs.get? id = some run → (db.goals.get? run.goalId).isSome = true
  sessions : ∀ i, (db.sessions i).Sound db
  limit : WithinLimit db

variable {db db' : Database}

theorem mem_listRuns {tenantId goalId : Uuid} {run : Run} :
    run ∈ db.listRuns tenantId goalId ↔
      (∃ id, db.runs.get? id = some run) ∧ run.tenantId = tenantId ∧ run.goalId = goalId := by
  simp only [Database.listRuns, List.mem_filter, Dict.mem_values, Bool.and_eq_true,
    decide_eq_true_eq]

theorem Database.Sound.distinct (sound : db.Sound) (tenantId goalId : Uuid) :
    ((db.listRuns tenantId goalId).map (·.runId)).Nodup :=
  (Dict.nodup_values sound.runKeys).sublist (List.filter_sublist.map _)

/-- What the other transactions know stays so when every row they know does. -/
theorem Phase.Sound.mono {phase : Phase} (sound : phase.Sound db)
    (goals : ∀ ctx goal, GoalHeld db ctx goal → GoalHeld db' ctx goal)
    (runs : ∀ runs, RunsHeld db runs → RunsHeld db' runs)
    (reads : ∀ run, Versioned.Read (·.optimisticVersion) db.runs run.runId run →
      Versioned.Read (·.optimisticVersion) db'.runs run.runId run) : phase.Sound db' := by
  cases phase with
  | idle => trivial
  | admitted => trivial
  | goalRead ctx goal => exact goals ctx goal sound
  | counted ctx goal seen => exact ⟨goals ctx goal sound.1, runs seen sound.2⟩
  | requested ctx goal seen run =>
    exact ⟨goals ctx goal sound.1, runs seen sound.2.1, sound.2.2⟩
  | runRead run => exact reads run sound
  | moved run updated => exact ⟨reads run sound.1, sound.2⟩

theorem put_self (i : Nat) (phase : Phase) : (db.put i phase).sessions i = phase :=
  Function.update_self ..

theorem put_ne {i j : Nat} (other : j ≠ i) (phase : Phase) :
    (db.put i phase).sessions j = db.sessions j :=
  Function.update_of_ne other ..

/-- A statement that commits nothing. -/
theorem Database.Sound.put (sound : db.Sound) (i : Nat) {phase : Phase}
    (mine : phase.Sound db) : (db.put i phase).Sound where
  goalKeys := sound.goalKeys
  runKeys := sound.runKeys
  homed := sound.homed
  limit := sound.limit
  sessions j := by
    have same : ((db.put i phase).sessions j).Sound db := by
      by_cases here : j = i
      · rw [here, put_self]
        exact mine
      · rw [put_ne here]
        exact sound.sessions j
    exact same.mono (fun _ _ => id) (fun _ => id) fun _ => id

/-- A Goal is created, or moved without a change of tenant and limit. -/
theorem Database.Sound.setGoal (sound : db.Sound) {goal : GoalContract}
    (kept : ∀ current, db.goals.get? goal.goalId = some current →
      current.tenantId = goal.tenantId ∧ current.maxConcurrentRuns = goal.maxConcurrentRuns) :
    { db with goals := db.goals.set goal.goalId goal }.Sound where
  goalKeys := Dict.keys_set sound.goalKeys goal
  runKeys := sound.runKeys
  homed id run found := by
    have home := sound.homed id run found
    dsimp only
    rw [Dict.get?_set]
    split
    · rfl
    · exact home
  sessions j := by
    refine (sound.sessions j).mono (fun ctx read held => ?_) (fun _ => id) fun _ => id
    obtain ⟨own, current, found, tenant, limit⟩ := held
    refine ⟨own, ?_⟩
    dsimp only
    rw [Dict.get?_set]
    split
    · rename_i same
      obtain ⟨tenant', limit'⟩ := kept current (same ▸ found)
      exact ⟨goal, rfl, tenant'.symm.trans tenant, limit'.symm.trans limit⟩
    · exact ⟨current, found, tenant, limit⟩
  limit id read found := by
    dsimp only at found
    rw [Dict.get?_set] at found
    split at found
    · rename_i same
      rw [Option.some.injEq] at found
      subst same found
      cases before : db.goals.get? goal.goalId with
      | some current =>
        obtain ⟨tenant, limit⟩ := kept current before
        rw [← tenant, ← limit]
        exact sound.limit _ current before
      | none =>
        -- no Run has a Goal that is not there yet
        have none : db.activeRuns goal.tenantId goal.goalId = 0 := by
          refine List.countP_eq_zero.mpr fun run there => ?_
          obtain ⟨⟨key, stored⟩, _, home⟩ := mem_listRuns.mp there
          have homed := sound.homed key run stored
          rw [home, before] at homed
          cases homed
        have valid := goal.valid
        simp only [GoalFields.check, checks_cons, decide_eq_false_iff_not] at valid
        obtain ⟨_, _, _, positive, _⟩ := valid
        change ((db.activeRuns goal.tenantId goal.goalId : Nat) : Int) ≤ _
        omega
    · exact sound.limit id read found

/-- A Run is inserted, or replaced by a later version that is active only if it was. -/
theorem Database.Sound.setRun (sound : db.Sound) (i : Nat) {run : Run}
    {idempotency : Dict (Uuid × String) Uuid} (home : (db.goals.get? run.goalId).isSome = true)
    (later : ∀ row, db.runs.get? run.runId = some row →
      row.optimisticVersion < run.optimisticVersion ∧
        (run.isActive = true → row.isActive = true))
    (limit : WithinLimit { db.put i .idle with
      runs := db.runs.set run.runId run, idempotency := idempotency }) :
    { db.put i .idle with
      runs := db.runs.set run.runId run, idempotency := idempotency }.Sound where
  goalKeys := sound.goalKeys
  runKeys := Dict.keys_set sound.runKeys run
  homed id row found := by
    dsimp only at found
    rw [Dict.get?_set] at found
    split at found
    · rw [← Option.some.inj found]
      exact home
    · exact sound.homed id row found
  limit := limit
  sessions j := by
    have ended : Phase.Sound db .idle := trivial
    refine ((sound.put i ended).sessions j).mono (fun _ _ => id)
      (fun runs held old there => ?_) fun read known => ?_
    · obtain ⟨row, found, ended⟩ := held old there
      dsimp only
      rw [Dict.get?_set]
      split
      · rename_i same
        exact ⟨run, rfl, fun active => ended ((later row (same ▸ found)).2 active)⟩
      · exact ⟨row, found, ended⟩
    · exact known.set fun row found => .inr (later row found).1

/-- The Runs of a Goal after a Run was set: that one, and those under other keys. -/
theorem listRuns_setRun {i : Nat} {run row : Run}
    {idempotency : Dict (Uuid × String) Uuid} {tenantId goalId : Uuid}
    (there : row ∈ Database.listRuns { db.put i .idle with
      runs := db.runs.set run.runId run, idempotency := idempotency } tenantId goalId) :
    row = run ∧ run.tenantId = tenantId ∧ run.goalId = goalId ∨
      row ∈ db.listRuns tenantId goalId := by
  obtain ⟨⟨id, found⟩, tenant, home⟩ := mem_listRuns.mp there
  dsimp only at found
  rw [Dict.get?_set] at found
  split at found
  · cases found
    exact .inl ⟨rfl, tenant, home⟩
  · exact .inr (mem_listRuns.mpr ⟨⟨id, found⟩, tenant, home⟩)

/-- The keys of the Runs after a Run was set are distinct. -/
theorem Database.Sound.distinct_setRun (sound : db.Sound) (i : Nat) (run : Run)
    (idempotency : Dict (Uuid × String) Uuid) (tenantId goalId : Uuid) :
    ((Database.listRuns { db.put i .idle with
      runs := db.runs.set run.runId run
      idempotency := idempotency } tenantId goalId).map (·.runId)).Nodup :=
  (Dict.nodup_values (Dict.keys_set sound.runKeys run)).sublist (List.filter_sublist.map _)

/-- A counted Run that has been committed is active only if it was when it was counted. -/
theorem RunsHeld.covers (sound : db.Sound) {runs : List Run} (held : RunsHeld db runs)
    {row : Run} {id : Uuid} (found : db.runs.get? id = some row)
    (counted : row.runId ∈ runs.map (·.runId)) (active : row.isActive = true) :
    ∃ old ∈ runs, old.isActive = true ∧ old.runId = row.runId := by
  obtain ⟨old, there, same⟩ := List.mem_map.mp counted
  obtain ⟨current, stored, ended⟩ := held old there
  rw [same, sound.runKeys id row found] at stored
  cases stored.symm.trans found
  exact ⟨old, there, ended active, same⟩

/-- The insert of a Run commits after a count of every committed Run of its Goal. -/
theorem Database.Sound.commitRun (sound : db.Sound) {i : Nat} {ctx : CommandContext}
    {goal : GoalContract} {runs : List Run} {run : Run}
    (here : db.sessions i = .requested ctx goal runs run)
    (absent : db.runs.get? run.runId = none) (counted : CountedAll db i)
    (idempotency : Dict (Uuid × String) Uuid) :
    { db.put i .idle with
      runs := db.runs.set run.runId run, idempotency := idempotency }.Sound := by
  have mine := sound.sessions i
  rw [here] at mine
  obtain ⟨⟨own, current, found, tenant, limit⟩, held, below, home, owner⟩ := mine
  refine sound.setRun i (by rw [home, found]; rfl)
    (fun row there => nomatch absent.symm.trans there) fun id read stored => ?_
  have keyed := sound.goalKeys id read stored
  by_cases same : id = goal.goalId
  · -- the new Run and the counted ones cover the active Runs of this Goal
    rw [same] at stored ⊢
    cases found.symm.trans stored
    have cover := countP_le (run :: runs)
      (sound.distinct_setRun i run idempotency current.tenantId goal.goalId)
      fun row there active => by
        rcases listRuns_setRun there with ⟨rfl, _⟩ | before
        · exact ⟨row, List.mem_cons_self, active, rfl⟩
        · rw [tenant, own] at before
          obtain ⟨⟨key, stored⟩, _⟩ := mem_listRuns.mp before
          obtain ⟨old, listed, active', key'⟩ :=
            held.covers sound stored (counted _ _ _ _ here row before) active
          exact ⟨old, List.mem_cons_of_mem _ listed, active', key'⟩
    have once := List.countP_cons (p := Run.isActive) (a := run) (l := runs)
    unfold Database.activeRuns
    split at once <;> omega
  · have cover := countP_le (db.listRuns read.tenantId id)
      (sound.distinct_setRun i run idempotency read.tenantId id) fun row there active => by
        rcases listRuns_setRun there with ⟨rfl, _, other⟩ | before
        · exact absurd (other.symm.trans home) same
        · exact ⟨row, before, active, rfl⟩
    have before := sound.limit id read stored
    unfold Database.activeRuns at before ⊢
    omega

/-- The save of a moved Run commits at the version it was read at. -/
theorem Database.Sound.commitMove (sound : db.Sound) {i : Nat} {run updated : Run}
    {runs : Dict Uuid Run} (here : db.sessions i = .moved run updated)
    (matched : Versioned.update (fun row => row.tenantId = updated.tenantId &&
      row.optimisticVersion = run.optimisticVersion) db.runs updated.runId updated = some runs) :
    { db.put i .idle with runs := runs }.Sound := by
  have mine := sound.sessions i
  rw [here] at mine
  obtain ⟨read, saves⟩ := mine
  obtain ⟨same, grown, _⟩ := saves.spec
  obtain ⟨tenant, home, active⟩ := saves.stays
  obtain ⟨row, found, matching, rfl⟩ := Versioned.update_eq_some.mp matched
  simp only [Bool.and_eq_true, decide_eq_true_eq] at matching
  have current : row = run := read.eq (same ▸ found) matching.2
  subst current
  have later : ∀ row', db.runs.get? updated.runId = some row' →
      row'.optimisticVersion < updated.optimisticVersion ∧
        (updated.isActive = true → row'.isActive = true) := by
    intro row' there
    cases found.symm.trans there
    exact ⟨grown, fun _ => active⟩
  refine sound.setRun i (by rw [home]; exact sound.homed _ row found) later fun id goal stored => ?_
  have cover := countP_le (db.listRuns goal.tenantId id)
    (sound.distinct_setRun i updated db.idempotency goal.tenantId id) fun row' there active' => by
      rcases listRuns_setRun there with ⟨rfl, tenant', home'⟩ | before
      · refine ⟨row, mem_listRuns.mpr ⟨⟨_, found⟩, ?_, ?_⟩, active, same.symm⟩
        · exact tenant.symm.trans tenant'
        · exact home.symm.trans home'
      · exact ⟨row', before, active', rfl⟩
  have before := sound.limit id goal stored
  unfold Database.activeRuns at before ⊢
  exact le_trans (Int.ofNat_le.mpr cover) before

theorem Step.sound {label : Option Nat} (step : Step db label db') (sound : db.Sound)
    (legal : ∀ i, label = some i → CountedAll db i) : db'.Sound := by
  cases step with
  | createGoal goal absent =>
    exact sound.setGoal fun current there => nomatch absent.symm.trans there
  | saveGoal found moved =>
    have fields := (GoalContract.transitionTo_ok moved).2
    refine sound.setGoal fun current there => ?_
    rw [congrArg (·.goalId) fields] at there
    cases found.symm.trans there
    exact ⟨(congrArg (·.tenantId) fields).symm, (congrArg (·.maxConcurrentRuns) fields).symm⟩
  | admitCall i => exact sound.put i trivial
  | readGoal i here found own =>
    refine sound.put i ⟨own, _, ?_, rfl, rfl⟩
    rw [sound.goalKeys _ _ found]
    exact found
  | countRuns i here =>
    have mine := sound.sessions i
    rw [here] at mine
    refine sound.put i ⟨mine, fun row there => ?_⟩
    obtain ⟨⟨id, found⟩, _⟩ := mem_listRuns.mp there
    exact ⟨row, by rw [sound.runKeys id row found]; exact found, fun active => active⟩
  | insertRun i here made =>
    have mine := sound.sessions i
    rw [here] at mine
    obtain ⟨below, home, tenant⟩ := App.requestedRun_ok made
    exact sound.put i ⟨mine.1, mine.2, below, home, tenant⟩
  | commitRun i here absent => exact sound.commitRun here absent (legal i rfl) _
  | readRun i run here found => exact sound.put i (.of_get? found)
  | moveRun i here saves =>
    have mine := sound.sessions i
    rw [here] at mine
    exact sound.put i ⟨mine, saves⟩
  | commitMove i here matched => exact sound.commitMove here matched
  | rollback i => exact sound.put i trivial

/-- In an interleaving in which every committed `request_run` has counted all the Runs of its
Goal that are committed then, no Goal ever has more active Runs than its limit. -/
theorem within_limit {db : Database} (reach : Reach CountedAll db) : WithinLimit db := by
  suffices sound : db.Sound from sound.limit
  induction reach with
  | start =>
    refine ⟨?_, ?_, ?_, fun _ => trivial, ?_⟩ <;> intro _ _ found <;>
      exact absurd found (by simp)
  | next _ step legal sound => exact step.sound sound legal

/-! ## Two requests -/

theorem put_put (i : Nat) (phase phase' : Phase) :
    (db.put i phase).put i phase' = db.put i phase' := by
  simp only [Database.put, Function.update_idem]

variable {ok : Database → Nat → Prop}

/-- A request up to its count, with nothing between. -/
theorem Reach.counts (reach : Reach ok db) (i : Nat) (ctx : CommandContext)
    (here : db.sessions i = .idle) (allowed : App.roleCheck ctx App.operators = .ok ())
    (unused : db.idempotency.get? (requestKey ctx) = none) {goalId : Uuid} {goal : GoalContract}
    (found : db.goals.get? goalId = some goal) (own : goal.tenantId = ctx.tenantId) :
    Reach ok (db.put i (.counted ctx goal (db.listRuns ctx.tenantId goal.goalId))) := by
  have admitted := reach.next (.admitCall i ctx goalId here allowed unused) nofun
  have read := admitted.next (.readGoal i (put_self ..) found own) nofun
  rw [put_put] at read
  have counted := read.next (.countRuns i (put_self ..)) nofun
  rw [put_put] at counted
  exact counted

/-- A request from its count to its commit, with nothing between. -/
theorem Reach.commits (reach : Reach ok db) (i : Nat) {ctx : CommandContext}
    {goal : GoalContract} {runs : List Run} {ports : Ports} {env : Env} {run : Run}
    (here : db.sessions i = .counted ctx goal runs)
    (made : App.requestedRun ports env ctx goal runs = .ok run)
    (absent : db.runs.get? run.runId = none)
    (unused : db.idempotency.get? (requestKey ctx) = none)
    (legal : ok (db.put i (.requested ctx goal runs run)) i) :
    Reach ok { db.put i .idle with
      runs := db.runs.set run.runId run
      idempotency := db.idempotency.set (requestKey ctx) run.runId } := by
  have inserted := reach.next (.insertRun i here made) nofun
  have committed := inserted.next (.commitRun i (put_self ..) absent unused) fun j mine => by
    cases mine
    exact legal
  rw [put_put] at committed
  exact committed

namespace Sample
open Autonoesis.Sample (context env ports run_named run_named_two)

/-- A Goal that allows one Run at a time. -/
def draft : GoalContract where
  tenantId := 1
  goalType := "notify"
  statement := "notify ops"
  desiredOutcome := "ops are notified"
  subjectRefs := [⟨"mail", "mailbox", "ops", none⟩]
  successCriteria := [⟨"delivered", "the mail is delivered", "readback"⟩]
  constraints := []
  ownerId := 5
  riskTier := .low
  budgetLimit := ⟨10, .costUnits⟩
  deadline := 1000
  inputPayload := ⟨"\x7b\x7d", JsonObject.empty_valid⟩
  goalId := 16
  createdAt := 10
  valid := rfl

def active : GoalContract where
  toGoalFields := draft.moved .active ⟨"draft", "active", 20, "ready", 5⟩
  valid := by decide

/-- The Run a request adds under the identifier it draws. -/
def requested (id : Uuid) : Run where
  tenantId := 1
  goalId := 16
  agentVersionId := 7
  runId := id
  createdAt := 10
  valid := rfl

def first : CommandContext := context "run-1" run_named
def second : CommandContext := context "run-2" run_named_two

variable {ok : Database → Nat → Prop}

theorem opened : Reach ok { goals := (Dict.empty.set 16 draft).set 16 active } := by
  have created : Reach ok { goals := Dict.empty.set 16 draft } :=
    Reach.start.next (.createGoal draft rfl) nofun
  exact created.next (.saveGoal (Dict.get?_set_self ..)
    (show draft.transitionTo .active 5 "ready" 20 = .ok active by decide)) nofun

/-- The Run that each of two requests computes when it has counted none. -/
theorem requestedRun_first (id : Uuid) :
    App.requestedRun ports (env id) first active [] = .ok (requested id) := rfl

theorem requestedRun_second (id : Uuid) :
    App.requestedRun ports (env id) second active [] = .ok (requested id) := rfl

/-- Both requests count before either commits. -/
theorem both_counted : ∃ db, Reach (fun _ _ => True) db ∧
    db.goals.get? 16 = some active ∧ db.activeRuns 1 16 = 2 := by
  have ready : Reach (fun _ _ => True) _ := opened
  have one := ready.counts 0 first rfl rfl rfl (Dict.get?_set_self ..) rfl
  have two := one.counts 1 second rfl rfl rfl (Dict.get?_set_self ..) rfl
  have three := two.commits 0 rfl (requestedRun_first 32) rfl rfl trivial
  have four := three.commits 1 rfl (requestedRun_second 33) rfl rfl trivial
  exact ⟨_, four, rfl, rfl⟩

/-- Two requests that each count no Run add one each to a Goal that allows one. -/
theorem limit_exceeded : ¬ ∀ db, Reach (fun _ _ => True) db → WithinLimit db := by
  intro within
  obtain ⟨db, reach, goal, two⟩ := both_counted
  have limited := within db reach 16 active goal
  rw [show active.tenantId = 1 from rfl, two] at limited
  exact absurd limited (by decide)

/-- One request counts no Run and commits before another one does anything. -/
theorem within_limit_alone : ∃ db, Reach CountedAll db ∧ db.activeRuns 1 16 = 1 ∧
    WithinLimit db := by
  have ready : Reach CountedAll _ := opened
  have one := ready.counts 0 first rfl rfl rfl (Dict.get?_set_self ..) rfl
  have two := one.commits 0 rfl (requestedRun_first 32) rfl rfl (by
    intro ctx goal runs run here row there
    cases there)
  exact ⟨_, two, rfl, within_limit two⟩

end Sample

end RunLimit

end Autonoesis
