import Autonoesis.Application.Tenants
import Autonoesis.Context.Assembler

/-!
# The records of other tenants, over whole runs

Every command but three stores new records under identifiers it draws. A plan takes the
identifiers of its tasks from the caller, a recorded piece of evidence comes with its own,
and a capture derives one; none of them looks at what is stored there.
-/

namespace Autonoesis
open Base Store

/-- The tenant a command acts for. -/
def Command.tenantId : Command → Uuid
  | createGoal ctx _ | activateGoal ctx _ _ | requestRun ctx _ | prepareRunContext ctx _
  | createValidatedPlan ctx _ | startTask ctx _ | completeTask ctx _ _ _ | proposeAction ctx _
  | requestApproval ctx _ | decideApproval ctx _ | authorizeAction ctx _
  | recordActionAttempt ctx _ | reconcileUnknownAction ctx _ | recordEvidence ctx _
  | captureEvidence ctx _ | deleteEvidence ctx _ | verifyOutcome ctx _ _ _ | completeRun ctx _
  | satisfyOrFailGoal ctx _ _ _ | cancelRun ctx _ _ | failRun ctx _ _ | takeOverRun ctx _ _ =>
    ctx.tenantId

/-- `ContextAssembler.assemble` builds the snapshot for the tenant it is given. -/
def Ports.Assembles (ports : Ports) : Prop :=
  ∀ run ctx cmd memories snapshot, ports.assemble run ctx cmd memories = .ok snapshot →
    snapshot.tenantId = ctx.tenantId

/-- The assembler there is does so. -/
theorem Ports.ofCommand_assembles (ports : Ports) (now : Instant) (draw : Run → Uuid) :
    ({ ports with assemble := fun run ctx cmd memories =>
      (Context.AssembleCall.ofCommand now run ctx cmd memories).assemble (draw run) } :
        Ports).Assembles := by
  intro run ctx cmd memories snapshot assembled
  rw [Context.AssembleCall.assemble_ok _ assembled]
  rfl

/-- None of the records `r` is stored under an identifier the command stores a new record
under: one that is drawn, derived, or chosen by the caller. -/
def Command.Clear (ports : Ports) (env : Env) (c : Command) (r : Records) : Prop :=
  (∀ n, r.Free (env.uuid n)) ∧ match c with
  | .prepareRunContext ctx cmd => ∀ run memories snapshot,
      ports.assemble run ctx cmd memories = .ok snapshot →
        r.rows .snapshot snapshot.snapshotId = none
  | .createValidatedPlan _ cmd =>
      ∀ item ∈ cmd.tasks, ∀ id, item.taskId = some id → r.rows .task id = none
  | .recordEvidence _ item => r.rows .evidence item.evidenceId = none
  | .captureEvidence ctx _ => r.rows .evidence (App.captureEvidenceId env ctx) = none
  | _ => True

section
variable [Sha256] {t : Uuid} {r : Records}

omit [Sha256] in
theorem Store.Beside.commit {α : Type} {x : StoreTx α} {s : Store} (beside : s.Beside t r)
    (spares : ∀ d, Spares t (r, d) x) : (x.commit s).2.Beside t r :=
  (App.Spares.beside spares).commit beside

/-- A command leaves the records of another tenant as they are, whether it returns or raises,
when it is clear of them. -/
theorem Command.run_beside {ports : Ports} {env : Env} {s : Store} {c : Command}
    (assembles : ports.Assembles) (apart : c.tenantId ≠ t) (clear : c.Clear ports env r)
    (beside : s.Beside t r) : (c.run ports env s).Beside t r := by
  obtain ⟨free, clear⟩ := clear
  cases c with
  | createGoal ctx cmd => exact beside.commit fun _ => App.createGoal_spares apart free cmd
  | activateGoal ctx goalId reason =>
    exact beside.commit fun _ => App.activateGoal_spares apart goalId reason
  | requestRun ctx goalId => exact beside.commit fun _ => App.requestRun_spares apart free goalId
  | prepareRunContext ctx cmd =>
    exact beside.commit fun _ => App.prepareRunContext_spares apart fun run memories snapshot made =>
      ⟨assembles run ctx cmd memories snapshot made, clear run memories snapshot made⟩
  | createValidatedPlan ctx cmd =>
    exact beside.commit fun _ => App.createValidatedPlan_spares apart free clear
  | startTask ctx taskId => exact beside.commit fun _ => App.startTask_spares apart taskId
  | completeTask ctx taskId succeeded reason =>
    exact beside.commit fun _ => App.completeTask_spares apart taskId succeeded reason
  | proposeAction ctx cmd => exact beside.commit fun _ => App.proposeAction_spares apart free cmd
  | requestApproval ctx cmd =>
    exact beside.commit fun _ => App.requestApproval_spares apart free cmd
  | decideApproval ctx cmd => exact beside.commit fun _ => App.decideApproval_spares apart cmd
  | authorizeAction ctx cmd =>
    exact beside.commit fun _ => App.authorizeActionAtExecutionTime_spares apart cmd
  | recordActionAttempt ctx cmd =>
    exact beside.commit fun _ => App.recordActionAttempt_spares apart free cmd
  | reconcileUnknownAction ctx cmd =>
    exact beside.commit fun _ => App.reconcileUnknownAction_spares apart free cmd
  | recordEvidence ctx item => exact beside.commit fun _ => App.recordEvidence_spares apart clear
  | captureEvidence ctx cmd => exact App.captureAuthoritativeEvidence_beside apart cmd clear beside
  | deleteEvidence ctx cmd => exact App.requestEvidenceDeletion_beside apart cmd beside
  | verifyOutcome ctx runId criterionId evidenceIds =>
    exact beside.commit fun _ => App.verifyOutcome_spares apart free runId criterionId evidenceIds
  | completeRun ctx runId => exact beside.commit fun _ => App.completeRun_spares apart runId
  | satisfyOrFailGoal ctx goalId satisfied reason =>
    exact beside.commit fun _ => App.satisfyOrFailGoal_spares apart goalId satisfied reason
  | cancelRun ctx runId reason =>
    exact beside.commit fun _ => App.cancelRun_spares apart runId reason
  | failRun ctx runId reason => exact beside.commit fun _ => App.failRun_spares apart runId reason
  | takeOverRun ctx runId reason =>
    exact beside.commit fun _ => App.takeOverRun_spares apart runId reason

/-! ## Governed execution -/

namespace App
open Prog

/-- A record is made under the context of the call, of facts about the Action it loaded, and
under identifiers the call drew. -/
def Recorded (ctx : CommandContext) (h : List AppEvent) : AppReq → Prop
  | .record facts => facts.context = ctx ∧ facts.attempt.tenantId = facts.action.tenantId ∧
    facts.evidence.tenantId = facts.action.tenantId ∧
    (⟨.uuid4, .ok facts.attempt.attemptId⟩ : AppEvent) ∈ h ∧
    (⟨.uuid4, .ok facts.evidence.evidenceId⟩ : AppEvent) ∈ h
  | _ => True

theorem ensures_recordResult_recorded (ctx : CommandContext) (action : Action)
    (result : GatewayResult) (h : List AppEvent) :
    Ensures (Recorded ctx) (fun _ _ => True) h (recordResult ctx action result) := by
  refine ensures_request_bind trivial fun invocationId => ensures_request_bind trivial
    fun attemptId => ensures_request_bind trivial fun recordedAt => ?_
  have drawn : (⟨.uuid4, .ok attemptId⟩ : AppEvent) ∈
      h ++ [⟨.uuid4, .ok invocationId⟩] ++ [⟨.uuid4, .ok attemptId⟩] ++ [⟨.now, .ok recordedAt⟩] :=
    List.mem_append_left _ List.mem_concat_self
  generalize h ++ _ ++ _ ++ _ = h₁ at drawn ⊢
  refine ensures_bind (ensures_ofExcept (R := fun h' attempt => h₁ = h' ∧
    gatewayAttempt action result.receipt invocationId attemptId recordedAt = .ok attempt)
    fun _ made => ⟨rfl, made⟩) ?_
  rintro _ attempt ⟨rfl, made⟩
  obtain ⟨_, rfl⟩ := guarded_eq_ok.mp made
  refine ensures_request_bind trivial fun now => ensures_request_bind trivial fun evidenceId => ?_
  replace drawn := List.mem_append_left [(⟨.uuid4, .ok evidenceId⟩ : AppEvent)]
    (List.mem_append_left [⟨.now, .ok now⟩] drawn)
  have drawn' : (⟨.uuid4, .ok evidenceId⟩ : AppEvent) ∈
      h₁ ++ [⟨.now, .ok now⟩] ++ [⟨.uuid4, .ok evidenceId⟩] := List.mem_concat_self
  generalize h₁ ++ _ ++ _ = h₂ at drawn drawn' ⊢
  refine ensures_bind (ensures_ofExcept (R := fun h' evidence => h₂ = h' ∧
    gatewayEvidence action result.receipt evidenceId now = .ok evidence)
    fun _ made => ⟨rfl, made⟩) ?_
  rintro _ evidence ⟨rfl, made'⟩
  obtain ⟨_, rfl⟩ := guarded_eq_ok.mp made'
  exact ensures_request_bind ⟨rfl, rfl, rfl, drawn, drawn'⟩ fun _ => ensures_ret trivial

theorem ensures_recorded (config : GatewayConfig) (ctx : CommandContext)
    (cmd : ExecuteGovernedAction) :
    Ensures (Recorded ctx) (fun _ _ => True) [] (executeGovernedAction config ctx cmd) := by
  have rest (action : Action) (approval : Option ApprovalRequest) (h : List AppEvent) :
      Ensures (Recorded ctx) (fun _ _ => True) h (do
        let result ← (gatewayCall config ctx cmd action approval).prog.embed AppReq.gateway
          (fun _ v => v)
        recordResult ctx action result) :=
    ensures_bind (ensures_embed (fun _ _ => trivial) h _) fun h' result _ =>
      ensures_recordResult_recorded ctx action result h'
  refine ensures_bind (ensures_ofExcept (R := fun _ _ => True) fun _ _ => trivial) fun _ _ _ => ?_
  refine ensures_bind (ensures_ofExcept (R := fun _ _ => True) fun _ _ => trivial) fun _ _ _ => ?_
  refine ensures_request_bind trivial fun
    | .cached _ => ensures_ret trivial
    | .fresh action approval => ?_
  refine ensures_ite (fun _ => ?_) fun _ => rest action approval _
  exact ensures_request_bind trivial fun _ => rest action approval _

end App

/-- A governed execution, up to any of its calls, leaves the records of another tenant as
they are when the identifiers it drew are not theirs. -/
theorem governed_beside {config : GatewayConfig} {ctx : CommandContext}
    {cmd : ExecuteGovernedAction} {h : List AppEvent} {q : AppProg AppReply} {w w' : World}
    (path : Prog.Path Answers (App.executeGovernedAction config ctx cmd) w h q w')
    (apart : ctx.tenantId ≠ t)
    (clear : ∀ id, (⟨.uuid4, .ok id⟩ : AppEvent) ∈ h → r.Free id)
    (beside : w.store.Beside t r) : w'.store.Beside t r := by
  suffices inv : w'.store.Beside t r ∧ ∀ action approval, App.Loaded ctx cmd action approval h →
      action.tenantId = ctx.tenantId from inv.1
  induction path with
  | start => exact ⟨beside, fun _ _ loaded => absurd loaded List.not_mem_nil⟩
  | @step h r' k ans w₁ w₂ past answered ih =>
    obtain ⟨before, loads⟩ := ih fun id drawn => clear id (List.mem_append_left _ drawn)
    refine ⟨?_, fun action approval loaded => ?_⟩
    · cases answered with
      | load => exact before.commit fun _ => (App.loadAction_keeps _ _ _).under
      | record env facts =>
        obtain ⟨_, approval, loaded, _, verdict⟩ := App.permitted_next past.exec
        obtain ⟨context, attempt, evidence, drawn, drawn'⟩ :=
          (Prog.conforms_exec (App.ensures_recorded config ctx cmd).conforms past.exec).1
        have own := loads _ _ loaded
        have moved := congrArg ActionFields.tenantId verdict.core
        refine before.commit fun _ => App.recordExecution_spares apart
          ⟨congrArg _ context, moved.trans own, attempt.trans own, evidence.trans own⟩
          (clear _ (List.mem_append_left _ drawn) .attempt)
          (clear _ (List.mem_append_left _ drawn') .evidence)
      | startTask => exact absurd (App.permitted_next past.exec).2 (by simp [App.isWorker])
      | _ => exact before
    · rcases List.mem_append.mp loaded with old | new
      · exact loads action approval old
      · cases List.mem_singleton.mp new
        exact answered.loaded.2

/-! ## Whole runs -/

/-- A command that ran for a tenant, to its end or, for the one that spans several
transactions, up to any of its calls; and when it is clear of the records of another. -/
inductive Ran (w : World) : Uuid → (Records → Prop) → World → Prop
  | command (ports : Ports) (env : Env) (c : Command) (assembles : ports.Assembles) :
      Ran w c.tenantId (c.Clear ports env) { w with store := c.run ports env w.store }
  | governed {config : GatewayConfig} {ctx : CommandContext} {cmd : ExecuteGovernedAction}
      {h : List AppEvent} {q : AppProg AppReply} {w' : World}
      (path : Prog.Path Answers (App.executeGovernedAction config ctx cmd) w h q w') :
      Ran w ctx.tenantId (fun r => ∀ id, (⟨.uuid4, .ok id⟩ : AppEvent) ∈ h → r.Free id) w'

/-- The runs from the empty store whose commands all meet `ok`: each command's tenant, the
world before it and the world after it. -/
inductive Session (ok : World → Uuid → (Records → Prop) → Prop) (limit : Int) :
    List (World × Uuid × World) → World → Prop
  | start : Session ok limit [] (World.initial limit)
  | next {steps : List (World × Uuid × World)} {w w' : World} {mine : Uuid}
      {clear : Records → Prop} (past : Session ok limit steps w) (ran : Ran w mine clear w')
      (legal : ok w mine clear) : Session ok limit (steps ++ [(w, mine, w')]) w'

/-- No other tenant has a record under an identifier the command stores a new one under. -/
def ClearOfOthers (w : World) (mine : Uuid) (clear : Records → Prop) : Prop :=
  ∀ t, t ≠ mine → clear (w.store.records t)

theorem Ran.beside {w w' : World} {mine : Uuid} {clear : Records → Prop} (ran : Ran w mine clear w')
    (apart : mine ≠ t) (met : clear r) (beside : w.store.Beside t r) : w'.store.Beside t r := by
  cases ran with
  | command ports env c assembles => exact Command.run_beside assembles apart met beside
  | governed path => exact governed_beside path apart met beside

theorem Session.keyed {limit : Int} {steps : List (World × Uuid × World)} {w : World}
    (session : Session ClearOfOthers limit steps w) : w.store.SagasKeyed := by
  induction session with
  | start => exact fun _ _ there => nomatch there
  | @next _ w w' mine _ _ ran legal keyed =>
    -- any other tenant will do to follow the command by
    have apart : mine + 1 ≠ mine := by simp
    exact (ran.beside apart.symm (legal (mine + 1) apart) ⟨rfl, keyed⟩).2

/-- In a run whose commands store no new record under another tenant's identifier, each
command leaves the records of every other tenant as they were. -/
theorem others_untouched {limit : Int} {steps : List (World × Uuid × World)} {w : World}
    (session : Session ClearOfOthers limit steps w) :
    ∀ step ∈ steps, ∀ t, t ≠ step.2.1 →
      step.2.2.store.records t = step.1.store.records t := by
  induction session with
  | start => exact fun _ none => absurd none List.not_mem_nil
  | @next steps w w' mine clear past ran legal ih =>
    intro step there t apart
    rcases List.mem_append.mp there with before | last
    · exact ih step before t apart
    · cases List.mem_singleton.mp last
      exact (ran.beside apart.symm (legal t apart) ⟨rfl, past.keyed⟩).1

end

/-! ## Two tenants -/

namespace Isolation.Sample
open Autonoesis.Sample

attribute [local instance] Autonoesis.Sample.sha256

/-- The operator of the second tenant. -/
def guestFields (key : String) : CommandContextFields :=
  { contextFields key with
    identity := { tenantId := 2, actorId := 7, principalId := 8, roles := ["operator"] } }

def guest (key : String) (named : (isBlank key || decide (300 < key.length)) = false) :
    CommandContext :=
  ⟨guestFields key, contextFields_check named⟩

/-- The sample ports, with a snapshot of its own for each Run. -/
def ports : Ports :=
  { Autonoesis.Sample.ports with
    assemble := fun run ctx cmd memories =>
      (Context.AssembleCall.ofCommand 0 run ctx cmd memories).assemble (run.runId + 16) }

theorem ports_assemble : ports.Assembles :=
  Autonoesis.Sample.ports.ofCommand_assembles 0 fun run => run.runId + 16

/-- Tenant 1 plans a Run with the task 49, tenant 2 prepares a Run of its own. -/
def opening : List (Uuid × Command) := [
  (16, .createGoal (context "goal-1" goal_named) goal),
  (18, .activateGoal (context "activate-1" activate_named) 16 "ready"),
  (32, .requestRun (context "run-1" run_named) 16),
  (34, .prepareRunContext (context "context-1" context_named) runContext),
  (36, .createValidatedPlan (context "plan-1" plan_named) plan),
  (216, .createGoal (guest "goal-2" goal_named_two) goal),
  (218, .activateGoal (guest "activate-2" (by decide)) 216 "ready"),
  (232, .requestRun (guest "run-2" run_named_two) 216),
  (234, .prepareRunContext (guest "context-2" (by decide)) { runContext with runId := 232 })]

/-- The plan of tenant 2, with a task under the identifier of tenant 1's. -/
def takeover : Command :=
  .createValidatedPlan (guest "plan-2" (by decide)) { plan with runId := 232 }

def perform (w : World) (step : Uuid × Command) : World :=
  { w with store := step.2.run ports (env step.1) w.store }

theorem session_of {limit : Int} {ok : World → Uuid → (Records → Prop) → Prop}
    {steps : List (World × Uuid × World)} {w : World} (session : Session ok limit steps w)
    (legal : ∀ w mine clear, ok w mine clear) (commands : List (Uuid × Command)) :
    ∃ steps', Session ok limit steps' (commands.foldl perform w) := by
  induction commands generalizing steps w with
  | nil => exact ⟨steps, session⟩
  | cons c rest ih =>
    exact ih (session.next (.command ports (env c.1) c.2 ports_assemble) (legal _ _ _))

theorem task_taken_over : ¬ ∀ steps w, Session (fun _ _ _ => True) 10 steps w →
    ∀ step ∈ steps, ∀ t, t ≠ step.2.1 →
      step.2.2.store.records t = step.1.store.records t := by
  intro untouched
  obtain ⟨steps, session⟩ := session_of (Session.start : Session (fun _ _ _ => True) 10 _ _)
    (fun _ _ _ => trivial) opening
  have taken := untouched _ _ (session.next (.command ports (env 236) takeover ports_assemble)
    trivial) _ List.mem_concat_self 1 (by decide)
  have kept := congrArg (fun r => (r.rows .task 49).isSome) taken
  exact absurd kept (by decide +kernel)

/-- Whether nothing is stored under the identifier. -/
def absent (s : Store) (id : Uuid) : Bool :=
  (s.goals.get? id).isNone && (s.runs.get? id).isNone && (s.contextSnapshots.get? id).isNone &&
    (s.plans.get? id).isNone && (s.tasks.get? id).isNone && (s.actions.get? id).isNone &&
    (s.actionAttempts.get? id).isNone && (s.approvals.get? id).isNone &&
    (s.evidence.get? id).isNone && (s.outcomes.get? id).isNone

theorem free_of_absent {s : Store} {id : Uuid} (none : absent s id = true) (t : Uuid) :
    (s.records t).Free id := by
  simp only [absent, Bool.and_eq_true, Option.isNone_iff_eq_none] at none
  have unowned {α : Type} {mine : α → Bool} {d : Dict Uuid α} (none : d.get? id = .none) :
      d.owned mine id = .none := by
    rw [Dict.owned, none]
    rfl
  obtain ⟨⟨⟨⟨⟨⟨⟨⟨⟨goal, run⟩, snapshot⟩, plan⟩, task⟩, action⟩, attempt⟩, approval⟩, evidence⟩,
    outcome⟩ := none
  intro i
  cases i with
  | goal => exact unowned goal
  | run => exact unowned run
  | snapshot => exact unowned snapshot
  | plan => exact unowned plan
  | task => exact unowned task
  | action => exact unowned action
  | attempt => exact unowned attempt
  | approval => exact unowned approval
  | evidence => exact unowned evidence
  | outcome => exact unowned outcome

/-- A command that draws two unused identifiers and names none. -/
theorem clear_of_absent {w : World} {id : Uuid} {c : Command}
    (first : absent w.store id = true) (second : absent w.store (id + 1) = true)
    (plain : ∀ r, (∀ n, r.Free ((env id).uuid n)) → c.Clear ports (env id) r) :
    ClearOfOthers w c.tenantId (c.Clear ports (env id)) := by
  intro t _
  refine plain _ fun n => ?_
  cases n with
  | zero => exact free_of_absent first t
  | succ n => exact free_of_absent second t

/-- The world after tenant 1 has created a Goal. -/
def alone : World := perform (World.initial 10) (16, .createGoal (context "goal-1" goal_named) goal)

/-- The Goal of tenant 1 is as it was after tenant 2 has created one. -/
theorem others_untouched_goal : (alone.store.goals.get? 16).isSome = true ∧
    (perform alone (216, .createGoal (guest "goal-2" (by decide)) goal)).store.records 1 =
      alone.store.records 1 := by
  have first : Session ClearOfOthers 10 _ alone := Session.start.next
    (.command ports (env 16) (.createGoal (context "goal-1" (by decide)) goal) ports_assemble)
    (clear_of_absent (by decide +kernel) (by decide +kernel) fun _ free => ⟨free, trivial⟩)
  have second := first.next
    (.command ports (env 216) (.createGoal (guest "goal-2" (by decide)) goal) ports_assemble)
    (clear_of_absent (by decide +kernel) (by decide +kernel) fun _ free => ⟨free, trivial⟩)
  exact ⟨by decide +kernel, others_untouched second _ List.mem_concat_self 1 (by decide)⟩

end Isolation.Sample

end Autonoesis
