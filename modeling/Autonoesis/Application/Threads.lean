import Autonoesis.Application.Governed
import Autonoesis.Runtime.Gateway

/-! What the two programs may call, for every behaviour of what they call: the gateway only on
the Action the first transaction read, and a record only of what the gateway then returned. -/

namespace Autonoesis.App
open Base Prog

/-- The calls of the gateway in a history. -/
def gatewayEvent? : AppEvent → Option GatewayEvent
  | ⟨.gateway r, ans⟩ => some ⟨r, ans⟩
  | _ => none

def gatewayEvents (h : List AppEvent) : List GatewayEvent := h.filterMap gatewayEvent?

def isRecord : AppReq → Bool
  | .record .. => true
  | _ => false

/-- The calls of `execute_run`. -/
def isWorker : AppReq → Bool
  | .getRun .. | .listTasks .. | .startTask .. | .executor .. => true
  | _ => false

/-- An Action the gateway takes up. -/
def isOpen (action : Action) : Bool :=
  action.status = .proposed || action.status = .awaitingApproval

/-- The first transaction of the history read this Action to execute. -/
def Loaded (ctx : CommandContext) (cmd : ExecuteGovernedAction) (action : Action)
    (approval : Option ApprovalRequest) (h : List AppEvent) : Prop :=
  (⟨.load ctx cmd, .ok (.fresh action approval)⟩ : AppEvent) ∈ h

variable [Sha256]

/-- What `execute_governed_action` may call, given the calls answered before. -/
def Permitted (config : GatewayConfig) (ctx : CommandContext) (cmd : ExecuteGovernedAction)
    (h : List AppEvent) : AppReq → Prop
  | .load ctx' cmd' => ctx' = ctx ∧ cmd' = cmd ∧ h = []
  | .gateway r => (∀ e ∈ h, isRecord e.req = false) ∧ ∃ action approval,
    Loaded ctx cmd action approval h ∧ isOpen action = true ∧
      (gatewayCall config ctx cmd action approval).Permitted (gatewayEvents h) r
  | .record facts => (∀ e ∈ h, isRecord e.req = false) ∧ ∃ approval,
    Loaded ctx cmd facts.action approval h ∧ isOpen facts.action = true ∧
      (gatewayCall config ctx cmd facts.action approval).Verdict (gatewayEvents h) facts.result
  | r => (∀ e ∈ h, isRecord e.req = false) ∧ isWorker r = false

/-- Nothing is called after a record, and the worker's calls never. -/
theorem Permitted.quiet {config : GatewayConfig} {ctx : CommandContext}
    {cmd : ExecuteGovernedAction} {h : List AppEvent} {r : AppReq}
    (permitted : Permitted config ctx cmd h r) :
    (∀ e ∈ h, isRecord e.req = false) ∧ isWorker r = false := by
  cases r with
  | load =>
    obtain ⟨_, _, rfl⟩ := permitted
    exact ⟨List.forall_mem_nil _, rfl⟩
  | gateway | record => exact ⟨permitted.1, rfl⟩
  | _ => exact permitted

omit [Sha256] in
theorem gatewayEvents_snoc (h : List AppEvent) (r : GatewayReq) (ans : Except Exc (GatewayResp r)) :
    gatewayEvents (h ++ [⟨.gateway r, ans⟩]) = gatewayEvents h ++ [⟨r, ans⟩] := by
  simp [gatewayEvents, gatewayEvent?]

/-- The part of the history a record rests on: what was loaded, what the gateway's ports
answered, and that nothing has been recorded yet. -/
structure Unrecorded (ctx : CommandContext) (cmd : ExecuteGovernedAction) (action : Action)
    (approval : Option ApprovalRequest) (calls : List GatewayEvent) (h : List AppEvent) :
    Prop where
  quiet : ∀ e ∈ h, isRecord e.req = false
  loaded : Loaded ctx cmd action approval h
  calls_eq : gatewayEvents h = calls

variable {config : GatewayConfig} {ctx : CommandContext} {cmd : ExecuteGovernedAction}
  {action : Action} {approval : Option ApprovalRequest} {calls : List GatewayEvent}
  {h : List AppEvent}

omit [Sha256] in
theorem quiet_snoc {new : AppEvent} (quiet : ∀ e ∈ h, isRecord e.req = false)
    (other : isRecord new.req = false) : ∀ e ∈ h ++ [new], isRecord e.req = false := by
  intro e there
  rcases List.mem_append.mp there with old | new
  · exact quiet e old
  · rw [List.mem_singleton.mp new]
    exact other

omit [Sha256] in
theorem Unrecorded.snoc {e : AppEvent} (u : Unrecorded ctx cmd action approval calls h)
    (other : isRecord e.req = false) (apart : gatewayEvent? e = none) :
    Unrecorded ctx cmd action approval calls (h ++ [e]) where
  quiet := quiet_snoc u.quiet other
  loaded := List.mem_append_left _ u.loaded
  calls_eq := by
    rw [← u.calls_eq]
    simp [gatewayEvents, apart]

omit [Sha256] in
theorem Unrecorded.gateway {r : GatewayReq} {ans : Except Exc (GatewayResp r)}
    (u : Unrecorded ctx cmd action approval calls h) :
    Unrecorded ctx cmd action approval (calls ++ [⟨r, ans⟩]) (h ++ [⟨.gateway r, ans⟩]) where
  quiet := quiet_snoc u.quiet rfl
  loaded := List.mem_append_left _ u.loaded
  calls_eq := by rw [gatewayEvents_snoc, u.calls_eq]

theorem ensures_recordResult {result : GatewayResult}
    (u : Unrecorded ctx cmd action approval calls h) (live : isOpen action = true)
    (verdict : (gatewayCall config ctx cmd action approval).Verdict calls result) :
    Ensures (Permitted config ctx cmd) (fun _ _ => True) h (recordResult ctx action result) := by
  refine ensures_request_bind ⟨u.quiet, rfl⟩ fun invocationId => ?_
  replace u := u.snoc (e := ⟨.uuid4, .ok invocationId⟩) rfl rfl
  refine ensures_request_bind ⟨u.quiet, rfl⟩ fun attemptId => ?_
  replace u := u.snoc (e := ⟨.uuid4, .ok attemptId⟩) rfl rfl
  refine ensures_request_bind ⟨u.quiet, rfl⟩ fun recordedAt => ?_
  replace u := u.snoc (e := ⟨.now, .ok recordedAt⟩) rfl rfl
  generalize h ++ _ ++ _ ++ _ = h₁ at u ⊢
  refine ensures_bind (ensures_ofExcept (R := fun h _ => h₁ = h) fun _ _ => rfl) ?_
  rintro _ attempt rfl
  refine ensures_request_bind ⟨u.quiet, rfl⟩ fun now => ?_
  replace u := u.snoc (e := ⟨.now, .ok now⟩) rfl rfl
  refine ensures_request_bind ⟨u.quiet, rfl⟩ fun evidenceId => ?_
  replace u := u.snoc (e := ⟨.uuid4, .ok evidenceId⟩) rfl rfl
  generalize h₁ ++ _ ++ _ = h₂ at u ⊢
  refine ensures_bind (ensures_ofExcept (R := fun h _ => h₂ = h) fun _ _ => rfl) ?_
  rintro _ evidence rfl
  refine ensures_request_bind ?_ fun _ => ensures_ret trivial
  exact ⟨u.quiet, approval, u.loaded, live, by rw [u.calls_eq]; exact verdict⟩

theorem prog_of_closed (closed : isOpen action = false) : ∃ e,
    (gatewayCall config ctx cmd action approval).prog = .raise e := by
  refine ⟨_, if_pos ?_⟩
  simp only [isOpen, Bool.or_eq_false_iff, decide_eq_false_iff_not] at closed
  simp [gatewayCall, closed.1, closed.2]

theorem ensures_gateway (u : Unrecorded ctx cmd action approval [] h) (live : isOpen action = true) :
    Ensures (Permitted config ctx cmd) (fun h' result => ∃ calls,
      Unrecorded ctx cmd action approval calls h' ∧
      (gatewayCall config ctx cmd action approval).Verdict calls result) h
      ((gatewayCall config ctx cmd action approval).prog.embed AppReq.gateway (fun _ v => v)) := by
  refine ⟨conforms_embed gatewayEvents ?_
    (fun h' => Unrecorded ctx cmd action approval (gatewayEvents h') h') ?_ ?_ ?_ ?_ ?_
    (P := (gatewayCall config ctx cmd action approval).Permitted)
    (Q := fun h' res => ∀ a, res = .ok a →
      (gatewayCall config ctx cmd action approval).Verdict h' a)⟩
  · intro h' r ans
    rw [gatewayEvents_snoc]
    cases ans <;> rfl
  · intro h' r ans u'
    rw [gatewayEvents_snoc]
    exact u'.gateway
  · intro h' r u' permitted
    exact ⟨u'.quiet, action, approval, u'.loaded, live, permitted⟩
  · intro h' res u' verdict result done
    exact ⟨_, u', verdict result done⟩
  · rw [u.calls_eq]
    exact u
  · rw [u.calls_eq]
    exact (gatewayCall config ctx cmd action approval).ensures_execute.conforms

theorem ensures_executeLoaded (u : Unrecorded ctx cmd action approval [] h) :
    Ensures (Permitted config ctx cmd) (fun _ _ => True) h
      (executeLoaded config ctx cmd action approval) := by
  have rest : ∀ h', Unrecorded ctx cmd action approval [] h' →
      Ensures (Permitted config ctx cmd) (fun _ _ => True) h' (do
        let result ← (gatewayCall config ctx cmd action approval).prog.embed AppReq.gateway
          (fun _ v => v)
        recordResult ctx action result) := by
    intro h' u'
    cases live : isOpen action with
    | false =>
      obtain ⟨e, raises⟩ : ∃ e, (gatewayCall config ctx cmd action approval).prog = .raise e :=
        prog_of_closed live
      rw [raises]
      exact ensures_raise
    | true =>
      refine ensures_bind (ensures_gateway u' live) ?_
      rintro h'' result ⟨calls, u'', verdict⟩
      exact ensures_recordResult u'' live verdict
  refine ensures_ite (fun _ => ?_) fun _ => rest h u
  exact ensures_request_bind ⟨u.quiet, rfl⟩ fun _ => rest _ (u.snoc rfl rfl)

/-- Every behaviour of the store and the ports: `execute_governed_action` calls only as
`Permitted` says. -/
theorem ensures_executeGovernedAction (config : GatewayConfig) (ctx : CommandContext)
    (cmd : ExecuteGovernedAction) :
    Ensures (Permitted config ctx cmd) (fun _ _ => True) []
      (executeGovernedAction config ctx cmd) := by
  refine ensures_bind (ensures_ofExcept (R := fun h _ => h = []) fun _ _ => rfl) ?_
  rintro _ _ rfl
  refine ensures_bind (ensures_ofExcept (R := fun h _ => h = []) fun _ _ => rfl) ?_
  rintro _ _ rfl
  refine ensures_request_bind ⟨rfl, rfl, rfl⟩ fun loaded => ?_
  cases loaded with
  | cached execution => exact ensures_ret trivial
  | fresh action approval =>
    refine ensures_executeLoaded ⟨?_, List.mem_concat_self, rfl⟩
    intro e there
    rw [List.mem_singleton.mp there]
    rfl

theorem permitted_next {r : AppReq} {k : Except Exc (AppResp r) → AppProg AppReply}
    (run : Exec (executeGovernedAction config ctx cmd) h (.call r k)) :
    Permitted config ctx cmd h r :=
  (conforms_exec (ensures_executeGovernedAction config ctx cmd).conforms run).1

theorem permitted_past {q : AppProg AppReply} (run : Exec (executeGovernedAction config ctx cmd) h q)
    {before after : List AppEvent} {e : AppEvent} (split : h = before ++ e :: after) :
    Permitted config ctx cmd before e.req :=
  conforms_past (ensures_executeGovernedAction config ctx cmd).conforms run split

theorem ensures_dispatchTasks (config : GatewayConfig) (tenantId runId : Uuid) (tasks : List Task)
    (h : List AppEvent) :
    Ensures (fun _ r => isWorker r = true) (fun _ _ => True) h
      (dispatchTasks config tenantId runId tasks) := by
  induction tasks generalizing h with
  | nil => exact ensures_ret trivial
  | cons task rest ih =>
    have execute : ∀ h' (current : Task),
        Ensures (fun _ r => isWorker r = true) (fun _ _ => True) h' (do
          if current.status = .running && config.executorConfigured then
            Prog.request (AppReq.executor runId current)
          dispatchTasks config tenantId runId rest) := fun h' current =>
      ensures_ite (fun _ => ensures_request_bind rfl fun _ => ih _) fun _ => ih h'
    refine ensures_ite (fun _ => ?_) fun _ => execute h task
    refine ensures_bind (ensures_ofExcept (R := fun _ _ => True) fun _ _ => trivial) ?_
    intro h' context _
    exact ensures_request_bind rfl fun current => execute _ current

theorem ensures_executeRun (config : GatewayConfig) (tenantId runId : Uuid) :
    Ensures (fun _ r => isWorker r = true) (fun _ _ => True) []
      (executeRun config tenantId runId) := by
  refine ensures_request_bind rfl fun run => ?_
  refine ensures_ite (fun _ => ensures_ret trivial) fun _ => ?_
  refine ensures_request_bind rfl fun tasks => ?_
  exact ensures_bind (ensures_dispatchTasks config tenantId runId tasks _)
    fun _ _ _ => ensures_ret trivial

theorem worker_next {tenantId runId : Uuid} {r : AppReq}
    {k : Except Exc (AppResp r) → AppProg AppReply}
    (run : Exec (executeRun config tenantId runId) h (.call r k)) : isWorker r = true :=
  (conforms_exec (ensures_executeRun config tenantId runId).conforms run).1

theorem worker_past {tenantId runId : Uuid} {q : AppProg AppReply}
    (run : Exec (executeRun config tenantId runId) h q) {before after : List AppEvent}
    {e : AppEvent} (split : h = before ++ e :: after) : isWorker e.req = true :=
  conforms_past (ensures_executeRun config tenantId runId).conforms run split

end Autonoesis.App
