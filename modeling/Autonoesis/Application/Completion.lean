import Autonoesis.Application.System

/-! What a succeeded Run and a satisfied Goal rest on, in every state that commands reach from
the empty store. -/

namespace Autonoesis
open Base

/-- Every criterion of the Run's Goal has a verified Outcome of the Run on proven evidence. -/
def Core.Verified (c : Core) (run : Run) : Prop :=
  ∃ goal, c.goals.get? run.goalId = some goal ∧ ∀ criterion ∈ goal.successCriteria,
    ∃ o ∈ c.outcomes.values, o.tenantId = run.tenantId ∧ o.runId = run.runId ∧
      o.criterionId = criterion.criterionId ∧ o.status = .verified ∧ o.Proven

/-- What stands behind a Run that has succeeded. -/
structure Core.Succeeded (c : Core) (run : Run) : Prop where
  tasks : ∀ t ∈ c.tasks.values, t.runId = run.runId → t.status = .succeeded
  actions : ∀ a ∈ c.actions.values, a.runId = run.runId → a.status = .succeeded
  outcomes : c.Verified run

/-- The Run that a Task or an Action names is stored, under the same tenant. -/
def Core.Owned (c : Core) (tenantId runId : Uuid) : Prop :=
  ∃ run, c.runs.get? runId = some run ∧ run.tenantId = tenantId

/-- The invariant: rows are stored under their own ids, Tasks and Actions belong to stored
Runs, and success is never claimed without what it rests on. -/
structure Core.Sound (c : Core) : Prop where
  goalKeys : ∀ id g, c.goals.get? id = some g → g.goalId = id
  runKeys : ∀ id r, c.runs.get? id = some r → r.runId = id
  taskOwned : ∀ t ∈ c.tasks.values, c.Owned t.tenantId t.runId
  actionOwned : ∀ a ∈ c.actions.values, c.Owned a.tenantId a.runId
  succeeded : ∀ id run, c.runs.get? id = some run → run.status = .succeeded → c.Succeeded run
  satisfied : ∀ id g, c.goals.get? id = some g → g.status = .satisfied →
    ∃ run ∈ c.runs.values, run.tenantId = g.tenantId ∧ run.goalId = g.goalId ∧
      run.status = .succeeded

namespace Core

variable {c : Core}

theorem sound_empty : Core.Sound ⟨.empty, .empty, .empty, .empty, .empty⟩ := by
  constructor <;> simp

/-- A Run that replaces one of the same identity, or none, leaves every Run's rows owned. -/
theorem Owned.set {run' : Run} {tenantId runId : Uuid} (o : c.Owned tenantId runId)
    (same : ∀ run, c.runs.get? run'.runId = some run → run'.tenantId = run.tenantId) :
    Core.Owned { c with runs := c.runs.set run'.runId run' } tenantId runId := by
  obtain ⟨run, found, tenant⟩ := o
  unfold Owned
  simp only [Dict.get?_set]
  split
  · rename_i here
    rw [here] at found
    exact ⟨run', rfl, (same run found).trans tenant⟩
  · exact ⟨run, found, tenant⟩

/-- A succeeded Run survives a replacement of one that has not succeeded. -/
theorem succeeded_survives {run' run : Run} {id : Uuid} (there : run ∈ c.runs.values)
    (succeeded : run.status = .succeeded)
    (open_ : ∀ old, c.runs.get? id = some old → old.status ≠ .succeeded) :
    run ∈ (c.runs.set id run').values := by
  obtain ⟨key, found⟩ := (c.runs.mem_values run).mp there
  have other : key ≠ id := by
    intro same
    rw [same] at found
    exact open_ run found succeeded
  exact Dict.mem_values_of_get? ((Dict.get?_set_ne _ _ other).trans found)

/-- The rest of a step that leaves the Runs alone. -/
theorem Owned.of_runs {c' : Core} (same : c'.runs = c.runs) {tenantId runId : Uuid}
    (o : c.Owned tenantId runId) : c'.Owned tenantId runId := by
  unfold Owned
  rw [same]
  exact o

theorem Verified.mono {c' : Core} {run : Run} (v : c.Verified run)
    (goals : ∀ goal, c.goals.get? run.goalId = some goal → ∃ goal',
      c'.goals.get? run.goalId = some goal' ∧ goal'.successCriteria = goal.successCriteria)
    (outcomes : ∀ o ∈ c.outcomes.values, o ∈ c'.outcomes.values) : c'.Verified run := by
  obtain ⟨goal, found, each⟩ := v
  obtain ⟨goal', found', same⟩ := goals goal found
  refine ⟨goal', found', fun criterion there => ?_⟩
  rw [same] at there
  obtain ⟨o, stored, rest⟩ := each criterion there
  exact ⟨o, outcomes o stored, rest⟩

/-- A step that keeps Goals and Outcomes keeps what is verified. -/
theorem Verified.of_tables {c' : Core} {run : Run} (v : c.Verified run)
    (goals : c'.goals = c.goals) (outcomes : c'.outcomes = c.outcomes) : c'.Verified run :=
  v.mono (fun goal found => ⟨goal, by rw [goals]; exact found, rfl⟩)
    fun o there => by rw [outcomes]; exact there

theorem Sound.goalAdded (s : c.Sound) {g : GoalContract} (fresh : c.goals.get? g.goalId = none)
    (draft : g.status = .draft) : Core.Sound { c with goals := c.goals.set g.goalId g } where
  goalKeys := Dict.keys_set s.goalKeys g
  runKeys := s.runKeys
  taskOwned := s.taskOwned
  actionOwned := s.actionOwned
  succeeded id run found status := by
    obtain ⟨tasks, actions, outcomes⟩ := s.succeeded id run found status
    refine ⟨tasks, actions, outcomes.mono (fun goal there => ?_) fun _ h => h⟩
    have other : run.goalId ≠ g.goalId := by
      intro same
      rw [same, fresh] at there
      cases there
    exact ⟨goal, (Dict.get?_set_ne _ _ other).trans there, rfl⟩
  satisfied id goal found status := by
    rw [Dict.get?_set] at found
    split at found
    · cases found
      rw [draft] at status
      cases status
    · exact s.satisfied id goal found status

theorem Sound.goalMoved (s : c.Sound) {id : Uuid} {g g' : GoalContract}
    (found : c.goals.get? id = some g) (same : g'.ident = g.ident)
    (proof : g'.status = .satisfied → ∃ run ∈ c.runs.values, run.tenantId = g.tenantId ∧
      run.goalId = g.goalId ∧ run.status = .succeeded) :
    Core.Sound { c with goals := c.goals.set g'.goalId g' } where
  goalKeys := Dict.keys_set s.goalKeys g'
  runKeys := s.runKeys
  taskOwned := s.taskOwned
  actionOwned := s.actionOwned
  succeeded key run there status := by
    obtain ⟨tasks, actions, outcomes⟩ := s.succeeded key run there status
    refine ⟨tasks, actions, outcomes.mono (fun goal stored => ?_) fun _ h => h⟩
    simp only [Dict.get?_set]
    split
    · rename_i here
      rw [here] at stored
      have sameGoal : goal = g := by
        have key : g'.goalId = g.goalId := congrArg (·.2.1) same
        rw [key, s.goalKeys id g found, found] at stored
        exact (Option.some.inj stored).symm
      exact ⟨g', rfl, sameGoal ▸ congrArg (·.2.2) same⟩
    · exact ⟨goal, stored, rfl⟩
  satisfied key goal there status := by
    rw [Dict.get?_set] at there
    split at there
    · cases there
      obtain ⟨run, listed, tenant, goalId, succeeded⟩ := proof status
      have sameTenant : g'.tenantId = g.tenantId := congrArg (·.1) same
      have sameId : g'.goalId = g.goalId := congrArg (·.2.1) same
      exact ⟨run, listed, tenant.trans sameTenant.symm, goalId.trans sameId.symm, succeeded⟩
    · exact s.satisfied key goal there status

theorem Sound.runAdded (s : c.Sound) {run : Run} (fresh : c.runs.get? run.runId = none)
    (pending : run.status = .pending) :
    Core.Sound { c with runs := c.runs.set run.runId run } := by
  have absent : ∀ old, c.runs.get? run.runId = some old → run.tenantId = old.tenantId := by
    intro old found
    rw [fresh] at found
    cases found
  exact {
    goalKeys := s.goalKeys
    runKeys := Dict.keys_set s.runKeys run
    taskOwned := fun t there => (s.taskOwned t there).set absent
    actionOwned := fun a there => (s.actionOwned a there).set absent
    succeeded := by
      intro id r found status
      rw [Dict.get?_set] at found
      split at found
      · cases found
        rw [pending] at status
        cases status
      · obtain ⟨tasks, actions, outcomes⟩ := s.succeeded id r found status
        exact ⟨tasks, actions, outcomes.of_tables rfl rfl⟩
    satisfied := by
      intro id g found status
      obtain ⟨r, listed, rest⟩ := s.satisfied id g found status
      refine ⟨r, succeeded_survives listed rest.2.2 fun old found => ?_, rest⟩
      rw [fresh] at found
      cases found }

/-- A value of a table after a plan's tasks were written over it. -/
theorem mem_values_foldl {tasks : List Task} {d : Dict Uuid Task} {t : Task}
    (there : t ∈ (tasks.foldl (fun d t => d.set t.taskId t) d).values) :
    t ∈ tasks ∨ t ∈ d.values := by
  induction tasks generalizing d with
  | nil => exact Or.inr there
  | cons first rest ih =>
    rcases ih there with new | old
    · exact Or.inl (List.mem_cons_of_mem _ new)
    · rcases Dict.mem_values_set old with rfl | ⟨key, _, found⟩
      · exact Or.inl List.mem_cons_self
      · exact Or.inr (Dict.mem_values_of_get? found)

/-- A Run replaced by one of the same identity: its rows stay owned. -/
theorem Sound.sameTenant (s : c.Sound) {id : Uuid} {run run' : Run}
    (found : c.runs.get? id = some run) (same : run'.ident = run.ident) :
    c.runs.get? run'.runId = some run ∧
      ∀ old, c.runs.get? run'.runId = some old → run'.tenantId = old.tenantId := by
  have key : run'.runId = run.runId := congrArg (·.2.2) same
  have here : c.runs.get? run'.runId = some run := by
    rw [key, s.runKeys id run found]
    exact found
  refine ⟨here, fun old stored => ?_⟩
  rw [here] at stored
  cases stored
  exact congrArg (·.1) same

theorem Sound.planned (s : c.Sound) {id : Uuid} {run run' : Run} {tasks : List Task}
    (found : c.runs.get? id = some run) (pending : run.status = .pending)
    (same : run'.ident = run.ident) (running : run'.status = .running)
    (members : ∀ t ∈ tasks, t.tenantId = run.tenantId ∧ t.runId = run.runId) :
    Core.Sound { c with
      runs := c.runs.set run'.runId run'
      tasks := tasks.foldl (fun d t => d.set t.taskId t) c.tasks } := by
  obtain ⟨here, tenant⟩ := s.sameTenant found same
  have key : run'.runId = run.runId := congrArg (·.2.2) same
  exact {
    goalKeys := s.goalKeys
    runKeys := Dict.keys_set s.runKeys run'
    taskOwned := by
      intro t there
      rcases mem_values_foldl there with new | old
      · obtain ⟨tenant', member⟩ := members t new
        refine Owned.of_runs rfl (Owned.set (c := c) ⟨run, ?_, tenant'.symm⟩ tenant)
        rw [member, ← key]
        exact here
      · exact Owned.of_runs rfl ((s.taskOwned t old).set tenant)
    actionOwned := fun a there => Owned.of_runs rfl ((s.actionOwned a there).set tenant)
    succeeded := by
      intro id' r stored status
      rw [Dict.get?_set] at stored
      split at stored
      · cases stored
        rw [running] at status
        cases status
      · rename_i other
        obtain ⟨finished, actions, outcomes⟩ := s.succeeded id' r stored status
        refine ⟨fun t there member => ?_, actions, outcomes.of_tables rfl rfl⟩
        rcases mem_values_foldl there with new | old
        · refine absurd ?_ other
          rw [← s.runKeys id' r stored, ← member, (members t new).2, key]
        · exact finished t old member
    satisfied := by
      intro id' g stored status
      obtain ⟨r, listed, rest⟩ := s.satisfied id' g stored status
      refine ⟨r, succeeded_survives listed rest.2.2 fun old stored => ?_, rest⟩
      rw [here] at stored
      cases stored
      rw [pending]
      decide }

theorem Complete.succeeded {run : Run} (complete : c.Complete run) (s : c.Sound)
    (found : c.runs.get? run.runId = some run) : c.Succeeded run := by
  have owner : ∀ {tenantId runId}, c.Owned tenantId runId → runId = run.runId →
      tenantId = run.tenantId := by
    rintro tenantId runId ⟨owner, stored, tenant⟩ same
    rw [same, found] at stored
    cases stored
    exact tenant.symm
  refine {
    tasks := fun t there member => complete.tasks t there (owner (s.taskOwned t there) member) member
    actions := fun a there member =>
      complete.actions a there (owner (s.actionOwned a there) member) member
    outcomes := ?_ }
  obtain ⟨goal, stored, each⟩ := complete.outcomes
  refine ⟨goal, stored, fun criterion there => ?_⟩
  obtain ⟨o, listed, tenant, member, same, verified⟩ := each criterion there
  exact ⟨o, listed, tenant, member, same, verified, o.proven verified⟩

theorem Sound.runMoved (s : c.Sound) {id : Uuid} {run run' : Run}
    (found : c.runs.get? id = some run) (same : run'.ident = run.ident)
    (legal : run'.status ∈ runTransitions run.status)
    (complete : run'.status = .succeeded → c.Complete run) :
    Core.Sound { c with runs := c.runs.set run'.runId run' } := by
  obtain ⟨here, tenant⟩ := s.sameTenant found same
  have key : run'.runId = run.runId := congrArg (·.2.2) same
  have goalId : run'.goalId = run.goalId := congrArg (·.2.1) same
  have sameTenant : run'.tenantId = run.tenantId := congrArg (·.1) same
  have open_ : run.status ≠ .succeeded := by
    intro finished
    rw [finished] at legal
    cases legal
  exact {
    goalKeys := s.goalKeys
    runKeys := Dict.keys_set s.runKeys run'
    taskOwned := fun t there => (s.taskOwned t there).set tenant
    actionOwned := fun a there => (s.actionOwned a there).set tenant
    succeeded := by
      intro id' r stored status
      rw [Dict.get?_set] at stored
      split at stored
      · cases stored
        obtain ⟨tasks, actions, goal, there, each⟩ := (complete status).succeeded s (key ▸ here)
        refine ⟨fun t listed member => tasks t listed (member.trans key),
          fun a listed member => actions a listed (member.trans key), goal, ?_, ?_⟩
        · rw [goalId]
          exact there
        · rw [key, sameTenant]
          exact each
      · obtain ⟨tasks, actions, outcomes⟩ := s.succeeded id' r stored status
        exact ⟨tasks, actions, outcomes.of_tables rfl rfl⟩
    satisfied := by
      intro id' g stored status
      obtain ⟨r, listed, rest⟩ := s.satisfied id' g stored status
      refine ⟨r, succeeded_survives listed rest.2.2 fun old stored => ?_, rest⟩
      rw [here] at stored
      cases stored
      exact open_ }

theorem Sound.taskMoved (s : c.Sound) {id : Uuid} {t t' : Task}
    (found : c.tasks.get? id = some t) (same : t'.ident = t.ident)
    (live : taskTransitions t.status ≠ []) :
    Core.Sound { c with tasks := c.tasks.set t'.taskId t' } := by
  have listed := Dict.mem_values_of_get? found
  have tenant : t'.tenantId = t.tenantId := congrArg (·.1) same
  have member : t'.runId = t.runId := congrArg (·.2.1) same
  exact {
    goalKeys := s.goalKeys
    runKeys := s.runKeys
    taskOwned := by
      intro u there
      rcases Dict.mem_values_set there with rfl | ⟨key, _, stored⟩
      · rw [tenant, member]
        exact s.taskOwned t listed
      · exact s.taskOwned u (Dict.mem_values_of_get? stored)
    actionOwned := s.actionOwned
    succeeded := by
      intro id' run stored status
      obtain ⟨tasks, actions, outcomes⟩ := s.succeeded id' run stored status
      refine ⟨fun u there own => ?_, actions, outcomes.of_tables rfl rfl⟩
      rcases Dict.mem_values_set there with rfl | ⟨key, _, stored⟩
      · have finished := tasks t listed (member.symm.trans own)
        rw [finished] at live
        exact absurd rfl live
      · exact tasks u (Dict.mem_values_of_get? stored) own
    satisfied := s.satisfied }

/-- An Action written over the table, by an Action of a Run that has not succeeded. -/
theorem Sound.actionSet (s : c.Sound) {a : Action} (owned : c.Owned a.tenantId a.runId)
    (open_ : ∀ id run, c.runs.get? id = some run → run.status = .succeeded →
      a.runId ≠ run.runId) :
    Core.Sound { c with actions := c.actions.set a.actionId a } where
  goalKeys := s.goalKeys
  runKeys := s.runKeys
  taskOwned := s.taskOwned
  actionOwned := by
    intro b there
    rcases Dict.mem_values_set there with rfl | ⟨key, _, stored⟩
    · exact owned
    · exact s.actionOwned b (Dict.mem_values_of_get? stored)
  succeeded := by
    intro id run stored status
    obtain ⟨tasks, actions, outcomes⟩ := s.succeeded id run stored status
    refine ⟨tasks, fun b there own => ?_, outcomes.of_tables rfl rfl⟩
    rcases Dict.mem_values_set there with rfl | ⟨key, _, found⟩
    · exact absurd own (open_ id run stored status)
    · exact actions b (Dict.mem_values_of_get? found) own
  satisfied := s.satisfied

theorem Sound.outcomeAdded (s : c.Sound) {o : Outcome}
    (fresh : c.outcomes.get? o.outcomeId = none) :
    Core.Sound { c with outcomes := c.outcomes.set o.outcomeId o } where
  goalKeys := s.goalKeys
  runKeys := s.runKeys
  taskOwned := s.taskOwned
  actionOwned := s.actionOwned
  succeeded := by
    intro id run stored status
    obtain ⟨tasks, actions, outcomes⟩ := s.succeeded id run stored status
    refine ⟨tasks, actions, outcomes.mono (fun goal found => ⟨goal, found, rfl⟩) ?_⟩
    intro old listed
    obtain ⟨key, found⟩ := (c.outcomes.mem_values old).mp listed
    have other : key ≠ o.outcomeId := by
      intro same
      rw [same, fresh] at found
      cases found
    exact Dict.mem_values_of_get? ((Dict.get?_set_ne _ _ other).trans found)
  satisfied := s.satisfied

/-- Every change keeps the invariant. -/
theorem Sound.change (s : c.Sound) {c' : Core} (change : Change c c') : c'.Sound := by
  cases change with
  | idle => exact s
  | goalAdded fresh draft => exact s.goalAdded fresh draft
  | goalMoved found same proof => exact s.goalMoved found same proof
  | runAdded fresh pending => exact s.runAdded fresh pending
  | planned found pending same running members => exact s.planned found pending same running members
  | runMoved found same legal _ complete => exact s.runMoved found same legal complete
  | taskMoved found same live => exact s.taskMoved found same live
  | @actionAdded id runKey a t run _ found running _ _ member _ _ =>
    have listed := Dict.mem_values_of_get? found
    refine s.actionSet ?_ fun id' r stored status own => ?_
    · rw [member.1, member.2]
      exact s.taskOwned t listed
    · have finished := (s.succeeded id' r stored status).tasks t listed (member.2.symm.trans own)
      rw [running] at finished
      cases finished
  | @actionMoved id a a' found same live =>
    have listed := Dict.mem_values_of_get? found
    have tenant : a'.core.tenantId = a.core.tenantId := congrArg ActionFields.tenantId same
    have member : a'.core.runId = a.core.runId := congrArg ActionFields.runId same
    refine s.actionSet ?_ fun id' r stored status own => ?_
    · have owned := s.actionOwned a listed
      rwa [← show a'.tenantId = a.tenantId from tenant, ← show a'.runId = a.runId from member]
        at owned
    · have finished := (s.succeeded id' r stored status).actions a listed (member.symm.trans own)
      rw [finished] at live
      exact absurd rfl live
  | outcomeAdded fresh => exact s.outcomeAdded fresh

end Core

/-! ## Whole runs -/

section
variable [Sha256] {w w' : World}

/-- An uninterrupted call of `execute_governed_action`, up to any of its calls, makes one
change, or none: what it records is a move of the Action it loaded. -/
theorem governed_change {config : GatewayConfig} {ctx : CommandContext}
    {cmd : ExecuteGovernedAction} {h : List AppEvent} {q : AppProg AppReply}
    (path : Prog.Path Answers (App.executeGovernedAction config ctx cmd) w h q w') :
    Change w.store.core w'.store.core := by
  -- until the record, the tables are those the call started from
  suffices inv : Change w.store.core w'.store.core ∧
      ((∀ e ∈ h, App.isRecord e.req = false) → w'.store.core = w.store.core ∧
        ∀ action approval, App.Loaded ctx cmd action approval h →
          w.store.core.actions.get? cmd.actionId = some action) from inv.1
  induction path with
  | start => exact ⟨.idle, fun _ => ⟨rfl, fun _ _ loaded => absurd loaded List.not_mem_nil⟩⟩
  | @step h r k ans w₁ w₂ past answered ih =>
    have permitted := App.permitted_next past.exec
    obtain ⟨quiet, notWorker⟩ := permitted.quiet
    obtain ⟨same, loads⟩ := ih.2 quiet
    cases notRecord : App.isRecord r with
    | false =>
      have unchanged := (answered.core_eq notRecord notWorker).trans same
      refine ⟨change_of_eq unchanged, fun _ => ⟨unchanged, fun action approval loaded => ?_⟩⟩
      rcases List.mem_append.mp loaded with old | new
      · exact loads action approval old
      · cases List.mem_singleton.mp new
        rw [← same]
        exact answered.loaded.1
    | true =>
      cases r with
      | record facts =>
        obtain ⟨_, approval, loaded, live, verdict⟩ := permitted
        have found := loads _ _ loaded
        refine ⟨?_, fun none => ?_⟩
        · rcases answered.recorded with idle | saved
          · exact change_of_eq (idle.trans same)
          · rw [saved, same]
            refine .actionMoved found verdict.core ?_
            simp only [App.isOpen, Bool.or_eq_true, decide_eq_true_eq] at live
            rcases live with status | status <;> rw [status] <;> exact List.cons_ne_nil _ _
        · cases none _ List.mem_concat_self
      | _ => cases notRecord

/-- One command, run to its end or, for the one that spans several transactions, up to any
of its calls. -/
inductive Step : World → World → Prop
  | command {w w' : World} {c : Command} (ran : w.command c w') : Step w w'
  | governed {w w' : World} {config : GatewayConfig} {ctx : CommandContext}
      {cmd : ExecuteGovernedAction} {h : List AppEvent} {q : AppProg AppReply}
      (path : Prog.Path Answers (App.executeGovernedAction config ctx cmd) w h q w') : Step w w'

/-- What sequences of commands reach from the empty store. -/
inductive Reachable (limit : Int) : World → Prop
  | start : Reachable limit (World.initial limit)
  | next {w w' : World} (past : Reachable limit w) (step : Step w w') : Reachable limit w'

theorem Step.change (step : Step w w') : Change w.store.core w'.store.core := by
  cases step with
  | command ran =>
    obtain ⟨ports, env, fresh, rfl⟩ := ran
    exact Command.change fresh _
  | governed path => exact governed_change path

theorem reachable_sound {limit : Int} (reach : Reachable limit w) : w.store.core.Sound := by
  induction reach with
  | start => exact Core.sound_empty
  | next _ step ih => exact ih.change step.change

/-- In every state commands reach, a succeeded Run has only succeeded Tasks and Actions and,
for each criterion of its Goal, a verified Outcome on current, integrity-verified evidence of
its own; and a satisfied Goal has such a Run. -/
theorem success_is_proven {limit : Int} (reach : Reachable limit w) :
    (∀ run ∈ w.store.runs.values, run.status = .succeeded →
      (∀ t ∈ w.store.tasks.values, t.runId = run.runId → t.status = .succeeded) ∧
      (∀ a ∈ w.store.actions.values, a.runId = run.runId → a.status = .succeeded) ∧
      ∃ goal, w.store.goals.get? run.goalId = some goal ∧
        ∀ criterion ∈ goal.successCriteria, ∃ o ∈ w.store.outcomes.values,
          o.runId = run.runId ∧ o.criterionId = criterion.criterionId ∧ o.status = .verified ∧
          o.evidence ≠ [] ∧ ∃ verifiedAt, o.verifiedAt = some verifiedAt ∧ ∀ e ∈ o.evidence,
            e.tenantId = run.tenantId ∧ e.runId = run.runId ∧ e.integrity = .verified ∧
            e.validFrom ≤ verifiedAt ∧ verifiedAt ≤ e.validUntil) ∧
    ∀ goal ∈ w.store.goals.values, goal.status = .satisfied →
      ∃ run ∈ w.store.runs.values, run.goalId = goal.goalId ∧ run.tenantId = goal.tenantId ∧
        run.status = .succeeded := by
  have sound := reachable_sound reach
  refine ⟨fun run there succeeded => ?_, fun goal there satisfied => ?_⟩
  · obtain ⟨id, found⟩ := (w.store.runs.mem_values run).mp there
    obtain ⟨tasks, actions, goal, stored, each⟩ := sound.succeeded id run found succeeded
    refine ⟨tasks, actions, goal, stored, fun criterion listed => ?_⟩
    obtain ⟨o, kept, tenant, member, same, verified, some_, verifiedAt, when_, items⟩ :=
      each criterion listed
    refine ⟨o, kept, member, same, verified, some_, verifiedAt, when_, fun e given => ?_⟩
    obtain ⟨tenant', member', rest⟩ := items e given
    exact ⟨tenant'.trans tenant, member'.trans member, rest⟩
  · obtain ⟨id, found⟩ := (w.store.goals.mem_values goal).mp there
    obtain ⟨run, listed, tenant, same, succeeded⟩ := sound.satisfied id goal found satisfied
    exact ⟨run, listed, same, tenant, succeeded⟩

end

/-! ## A session -/

namespace Sample

/-- A hash for the session below, which never compares the digests of two texts: the digest
of the one text whose digest is stored as evidence. -/
@[reducible] def sha256 : Sha256 where
  hexdigest _ := "373e0712c83cffe15ff427b60e788b549f82496fe5fd5391f7921832b04c6b20"

def contextFields (key : String) : CommandContextFields where
  identity := { tenantId := 1, actorId := 5, principalId := 6, roles := ["operator"] }
  correlationId := 9
  causationId := 9
  idempotencyKey := key
  requestDigest := "ba7816bf8f01cfea414140de5dae2223b00361a396177a9cb410ff61f20015ad"

theorem contextFields_check {key : String}
    (named : (isBlank key || decide (300 < key.length)) = false) :
    (contextFields key).check = .ok () := by
  have digest : isSha256Hex
      "ba7816bf8f01cfea414140de5dae2223b00361a396177a9cb410ff61f20015ad" = true := by
    decide +kernel
  simp only [CommandContextFields.check, contextFields, checks_cons, checks_nil, digest,
    Bool.not_true, and_true]
  exact named

/-- The operator's context of the command with this key. -/
def context (key : String) (named : (isBlank key || decide (300 < key.length)) = false) :
    CommandContext :=
  ⟨contextFields key, contextFields_check named⟩

/-! Keys that more than one session uses. -/

theorem goal_named : (isBlank "goal-1" || decide (300 < "goal-1".length)) = false := by decide
theorem activate_named : (isBlank "activate-1" || decide (300 < "activate-1".length)) = false := by decide
theorem run_named : (isBlank "run-1" || decide (300 < "run-1".length)) = false := by decide
theorem context_named : (isBlank "context-1" || decide (300 < "context-1".length)) = false := by decide
theorem plan_named : (isBlank "plan-1" || decide (300 < "plan-1".length)) = false := by decide
theorem mail_named : (isBlank "mail-1" || decide (300 < "mail-1".length)) = false := by decide
theorem capture_named : (isBlank "capture-1" || decide (300 < "capture-1".length)) = false := by decide
theorem verify_named : (isBlank "verify-1" || decide (300 < "verify-1".length)) = false := by decide
theorem goal_named_two : (isBlank "goal-2" || decide (300 < "goal-2".length)) = false := by decide
theorem run_named_two : (isBlank "run-2" || decide (300 < "run-2".length)) = false := by decide

/-- A call that draws `id` first and then its successor. -/
def env (id : Uuid) : Env where
  uuid n := if n = 0 then id else id + 1
  now _ := 10
  uuid5 _ := 0x9e52265791f65cd8a839abd8e7e2f77b

def observation : AuthoritativeObservation where
  source := "mailserver"
  sourceIdentity := "imap"
  reference := "msg-7"
  observedState := "delivered"
  content := "delivered"
  criterionMet := some true
  capturedAt := 10
  validUntil := 500

def snapshot (run : Run) : ContextSnapshot where
  tenantId := run.tenantId
  goalId := run.goalId
  runId := run.runId
  environmentFacts := []
  knowledgeRefs := []
  memoryIds := []
  historyDigest := "h1"
  toolVersions := ["mail@1.0.0"]
  snapshotId := 48
  createdAt := 10
  valid := by
    simp only [ContextSnapshotFields.check, checks_cons, checks_nil, List.any_nil]
    decide

def ports : Ports where
  getGoalType _ name := .ok ⟨name, .obj [], "mailer", "suite", "p1", 10⟩
  validatePayload _ _ := .ok ()
  getStableAgent _ _ := .ok 7
  runDeploymentRouter := none
  assemble run _ _ _ := .ok (snapshot run)
  evidence := {
    describe := fun tenantId evidenceId digest classification size retainedUntil =>
      ⟨tenantId, evidenceId, "s3://evidence/1", digest, classification, size, retainedUntil, none⟩
    store := fun descriptor _ _ => .ok descriptor
    retrieveVerified := fun _ => .ok observation.content
    delete := fun _ => .error (.permissionError "retained")
    observe := fun _ _ _ _ => .ok observation
    admitContent := fun _ declared _ _ => .ok declared }
  evidenceArtifactsConfigured := true
  authoritativeReadbackConfigured := true
  legacyAuthorizationEnabled := false

def goal : CreateGoal where
  goalType := "notify"
  statement := "notify ops"
  desiredOutcome := "ops are notified"
  subjectRefs := [⟨"mail", "mailbox", "ops", none⟩]
  successCriteria := [⟨"delivered", "the mail is delivered", "readback"⟩]
  constraints := []
  ownerId := 5
  riskTier := .low
  budgetLimit := none
  deadline := 1000
  inputPayload := []

def runContext : PrepareRunContext where
  runId := 32
  environmentFacts := []
  knowledgeRefs := []
  memoryIds := []
  historyDigest := "h1"
  toolVersions := ["mail@1.0.0"]

def plan : CreateValidatedPlan where
  runId := 32
  tasks := [{ name := "send", completionCriterion := "sent", taskId := some 49 }]
  skillVersions := []
  toolVersions := ["mail@1.0.0"]
  modelRoute := "default"
  policyVersion := "p1"

def proposal : ProposeAction where
  taskId := 49
  toolName := "mail"
  toolVersion := "1.0.0"
  operation := "send"
  resourceScope := "mailbox/ops"
  parameters := []
  riskLevel := .l2ReversibleWrite
  expectedEffect := "mail sent"

/-- From the empty store to a proposed Action, with the first identifier each call draws. -/
def preparation : List (Uuid × Command) := [
  (16, .createGoal (context "goal-1" goal_named) goal),
  (18, .activateGoal (context "activate-1" activate_named) 16 "ready"),
  (32, .requestRun (context "run-1" run_named) 16),
  (34, .prepareRunContext (context "context-1" context_named) runContext),
  (36, .createValidatedPlan (context "plan-1" plan_named) plan),
  (38, .startTask (context "start-1" (by decide)) 49),
  (64, .proposeAction (context "mail-1" mail_named) proposal)]

/-- From the executed Action to the satisfied Goal. -/
def completion : List (Uuid × Command) := [
  (98, .completeTask (context "done-1" (by decide)) 49 true "sent"),
  (100, .captureEvidence (context "capture-1" capture_named)
    { runId := 32, actionId := 64, criterionId := "delivered", source := "mailserver" }),
  (112, .verifyOutcome (context "verify-1" verify_named) 32 "delivered"
    [0x9e52265791f65cd8a839abd8e7e2f77b]),
  (114, .completeRun (context "finish-1" (by decide)) 32),
  (116, .satisfyOrFailGoal (context "satisfy-1" (by decide)) 16 true "all delivered")]

def unused (c : Core) (id : Uuid) : Bool :=
  (c.goals.get? id).isNone && (c.runs.get? id).isNone && (c.actions.get? id).isNone &&
    (c.outcomes.get? id).isNone

section
variable [Sha256]

def perform (w : World) (step : Uuid × Command) : World :=
  { w with store := step.2.run ports (env step.1) w.store }

/-- Whether each call of a session draws identifiers that are not in use. -/
def drawsFresh : List (Uuid × Command) → World → Bool
  | [], _ => true
  | step :: rest, w =>
    unused w.store.core step.1 && unused w.store.core (step.1 + 1) &&
      drawsFresh rest (perform w step)

/-- The Action proposed and nothing executed. -/
def prepared : World := preparation.foldl perform (World.initial 10)

/-- The operator's call of `execute_governed_action`. -/
def program : AppProg AppReply :=
  App.executeGovernedAction ⟨true, false, false, false⟩ (context "exec-1" (by decide))
    ⟨64, none, "p1", none, 1⟩

/-- The sample ports, with a kill switch, beside the store and the reservations. -/
def handle (blocked : Bool) (id : String) (w : World) :
    (r : AppReq) → Except Exc (AppResp r) × World
  | .load ctx cmd =>
    let done := (App.loadAction ctx cmd).commit w.store
    (done.1, { w with store := done.2 })
  | .record facts =>
    let done := (App.recordExecution (env 80) facts).commit w.store
    (done.1, { w with store := done.2 })
  | .gateway (.isBlocked _) => (.ok blocked, w)
  | .gateway r =>
    let done := Gateway.Sample.handle id w.reservations r
    (done.1, { w with reservations := done.2 })
  | .uuid4 => (.ok 82, w)
  | .now => (.ok 10, w)
  | _ => (.error (.runtimeError "not part of the sample"), w)

omit [Sha256] in
theorem env_fresh {c : Core} {id : Uuid} (first : unused c id = true)
    (second : unused c (id + 1) = true) : (env id).Fresh c := by
  simp only [unused, Bool.and_eq_true, Option.isNone_iff_eq_none] at first second
  intro n
  cases n with
  | zero => exact ⟨first.1.1.1, first.1.1.2, first.1.2, first.2⟩
  | succ n => exact ⟨second.1.1.1, second.1.1.2, second.1.2, second.2⟩

theorem perform_command {w : World} {step : Uuid × Command}
    (first : unused w.store.core step.1 = true) (second : unused w.store.core (step.1 + 1) = true) :
    w.command step.2 (perform w step) :=
  ⟨ports, env step.1, env_fresh first second, rfl⟩

theorem session_reachable {limit : Int} {steps : List (Uuid × Command)} {w : World}
    (reach : Reachable limit w) (fresh : drawsFresh steps w = true) :
    Reachable limit (steps.foldl perform w) := by
  induction steps generalizing w with
  | nil => exact reach
  | cons step rest ih =>
    simp only [drawsFresh, Bool.and_eq_true] at fresh
    exact ih (reach.next (.command (perform_command fresh.1.1 fresh.1.2))) fresh.2

theorem program_step {w w' : World} {h : List AppEvent} {q : AppProg AppReply}
    (path : Prog.Path Answers program w h q w') : Step w w' :=
  .governed path

theorem handle_answers (blocked : Bool) (id : String) (w : World) (r : AppReq) :
    Answers w r (handle blocked id w r).1 (handle blocked id w r).2 := by
  cases r with
  | load ctx cmd => exact .load ctx cmd
  | record facts => exact .record (env 80) facts
  | uuid4 => exact .uuid4 _
  | now => exact .now _
  | gateway r =>
    cases r with
    | isBlocked => exact .gateway (.port _ _ rfl)
    | _ => exact .gateway (Gateway.Sample.handle_answers id w.reservations _)
  | _ => exact .raised _ _

end

/-- A session that satisfies its Goal, and what then stands behind the Run. -/
theorem success_is_proven_session :
    let _ := sha256
    ∃ w, Reachable 10 w ∧ (∃ goal ∈ w.store.goals.values, goal.status = .satisfied) ∧
      ∃ run ∈ w.store.runs.values, run.status = .succeeded ∧
        ∀ a ∈ w.store.actions.values, a.runId = run.runId → a.status = .succeeded := by
  intro _
  obtain ⟨first, fresh, goal, there, status⟩ : drawsFresh preparation (World.initial 10) = true ∧
      drawsFresh completion (Prog.drive (handle false "r1") 30 [] program prepared).2.2 = true ∧
      ∃ goal ∈ (completion.foldl perform
        (Prog.drive (handle false "r1") 30 [] program prepared).2.2).store.goals.values,
        goal.status = .satisfied := by decide +kernel
  have r₁ : Reachable 10 prepared := session_reachable .start first
  have r₂ : Reachable 10 (Prog.drive (handle false "r1") 30 [] program prepared).2.2 :=
    r₁.next (program_step (Prog.drive_path (handle_answers false "r1") .start 30))
  have r₃ := session_reachable r₂ fresh
  obtain ⟨run, listed, _, _, succeeded⟩ := (success_is_proven r₃).2 goal there status
  exact ⟨_, r₃, ⟨goal, there, status⟩, run, listed, succeeded,
    ((success_is_proven r₃).1 run listed succeeded).2.1⟩

end Sample

end Autonoesis
