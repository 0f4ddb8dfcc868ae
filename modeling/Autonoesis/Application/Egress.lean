import Autonoesis.Application.System

/-! The egress port over every interleaving of commands and calls: what an egress call tells
of the Action that was loaded for it, and what the reservations and the store know of it. -/

namespace Autonoesis
open Base

/-- The Action an egress call executes. -/
def egressOf : AppReq → Option Action
  | .gateway (.egressExecute a _ _) => some a
  | _ => none

/-- The tenant and key an Action is reserved under. -/
def Action.reservationKey (a : Action) : String × String := (a.tenantId.str, a.idempotencyKey)

theorem Action.reservationKey_of_core {a b : Action} (same : a.core = b.core) :
    a.reservationKey = b.reservationKey := by
  have tenant : a.core.tenantId = b.core.tenantId := congrArg ActionFields.tenantId same
  have key : a.core.idempotencyKey = b.core.idempotencyKey :=
    congrArg ActionFields.idempotencyKey same
  exact congrArg₂ (fun t k => (Uuid.str t, k)) tenant key

theorem Action.actionId_of_core {a b : Action} (same : a.core = b.core) :
    a.actionId = b.actionId :=
  show a.core.actionId = b.core.actionId from congrArg ActionFields.actionId same

theorem Action.runId_of_core {a b : Action} (same : a.core = b.core) : a.runId = b.runId :=
  show a.core.runId = b.core.runId from congrArg ActionFields.runId same

namespace App

theorem mem_gatewayEvents {h : List AppEvent} {r : GatewayReq} {ans : Except Exc (GatewayResp r)} :
    (⟨r, ans⟩ : GatewayEvent) ∈ gatewayEvents h ↔ (⟨.gateway r, ans⟩ : AppEvent) ∈ h := by
  simp only [gatewayEvents, List.mem_filterMap]
  constructor
  · rintro ⟨e, there, same⟩
    unfold gatewayEvent? at same
    split at same
    · cases same
      exact there
    · cases same
  · intro there
    exact ⟨_, there, rfl⟩

variable [Sha256]

/-- What a permitted egress call rests on. -/
structure Cause (h : List AppEvent) (a : Action) (ctx : CommandContext)
    (cmd : ExecuteGovernedAction) (action : Action) (approval : Option ApprovalRequest) :
    Prop where
  loaded : Loaded ctx cmd action approval h
  live : isOpen action = true
  same : a.core = action.core
  granted : ∃ id receipt, (⟨.gateway (.reserve (Gateway.reservationRequest action cmd.costUnits)),
    .ok ⟨.acquired, some id, receipt⟩⟩ : AppEvent) ∈ h
  first : ∀ e ∈ h, egressOf e.req = none

theorem Permitted.cause {config : GatewayConfig} {ctx : CommandContext}
    {cmd : ExecuteGovernedAction} {h : List AppEvent} {r : AppReq} {a : Action}
    (permitted : Permitted config ctx cmd h r) (egress : egressOf r = some a) :
    ∃ action approval, Cause h a ctx cmd action approval := by
  cases r with
  | gateway r =>
    cases r with
    | egressExecute b tool credential =>
      cases egress
      obtain ⟨_, action, approval, loaded, live, _, ⟨id, receipt, reserved⟩, same, _, first⟩ :=
        permitted
      refine ⟨action, approval, loaded, live, same, ⟨id, receipt, mem_gatewayEvents.mp reserved⟩, ?_⟩
      intro e there
      obtain ⟨r, ans⟩ := e
      cases r with
      | gateway r =>
        have none := first ⟨r, ans⟩ (mem_gatewayEvents.mpr there)
        cases r with
        | egressExecute => cases none
        | _ => rfl
      | _ => rfl
    | _ => cases egress
  | _ => cases egress

theorem Cause.mono {h h' : List AppEvent} {a : Action} {ctx : CommandContext}
    {cmd : ExecuteGovernedAction} {action : Action} {approval : Option ApprovalRequest}
    (c : Cause h a ctx cmd action approval) (sub : h ⊆ h') :
    Loaded ctx cmd action approval h' ∧ ∃ id receipt,
      (⟨.gateway (.reserve (Gateway.reservationRequest action cmd.costUnits)),
        .ok ⟨.acquired, some id, receipt⟩⟩ : AppEvent) ∈ h' := by
  obtain ⟨id, receipt, there⟩ := c.granted
  exact ⟨sub c.loaded, id, receipt, sub there⟩

end App

abbrev AppPool := Pool World AppReq AppResp Exc AppReply
abbrev AppLabel := Pool.Label Command AppReq AppResp Exc AppReply

section
variable [Sha256] {ok : AppPool → AppLabel → AppPool → Prop} {s₀ : World} {w w' : AppPool}
  {l : AppLabel}

/-- A thread about to make a call that the worker does not make is a call of
`execute_governed_action`, and permitted. -/
theorem permitted_of_thread (reach : Pool.Reach system ok s₀ w)
    {t : Thread AppReq AppResp Exc AppReply} (there : t ∈ w.threads) {r : AppReq}
    {k : Except Exc (AppResp r) → AppProg AppReply} (next : t.prog = .call r k)
    (notWorker : App.isWorker r = false) :
    ∃ config ctx cmd, App.Permitted config ctx cmd t.past r := by
  obtain ⟨p, starts, run⟩ := reach.exec there
  rw [next] at run
  rcases starts with ⟨config, ctx, cmd, rfl⟩ | ⟨config, tenantId, runId, rfl⟩
  · exact ⟨config, ctx, cmd, App.permitted_next run⟩
  · have worker := App.worker_next run
    rw [notWorker] at worker
    cases worker

/-- A call in the past of a thread that the worker does not make was permitted. -/
theorem permitted_of_past (reach : Pool.Reach system ok s₀ w)
    {t : Thread AppReq AppResp Exc AppReply} (there : t ∈ w.threads)
    {before after : List AppEvent} {e : AppEvent} (split : t.past = before ++ e :: after)
    (notWorker : App.isWorker e.req = false) :
    ∃ config ctx cmd, App.Permitted config ctx cmd before e.req := by
  obtain ⟨p, starts, run⟩ := reach.exec there
  rcases starts with ⟨config, ctx, cmd, rfl⟩ | ⟨config, tenantId, runId, rfl⟩
  · exact ⟨config, ctx, cmd, App.permitted_past run split⟩
  · have worker := App.worker_past run split
    rw [notWorker] at worker
    cases worker

omit [Sha256] in
theorem egress_notWorker {r : AppReq} {a : Action} (egress : egressOf r = some a) :
    App.isWorker r = false := by
  cases r with
  | gateway => rfl
  | _ => cases egress

/-- Behind every egress call of a reachable pool stands the load of its Action and a granted
reservation for it. -/
theorem egress_cause (reach : Pool.Reach system ok s₀ w) {e : AppEvent} (there : e ∈ w.events)
    {a : Action} (egress : egressOf e.req = some a) :
    ∃ ctx cmd action approval, a.core = action.core ∧ App.Loaded ctx cmd action approval w.events ∧
      ∃ id receipt, (⟨.gateway (.reserve (Gateway.reservationRequest action cmd.costUnits)),
        .ok ⟨.acquired, some id, receipt⟩⟩ : AppEvent) ∈ w.events := by
  obtain ⟨t, listed, past⟩ := List.mem_flatMap.mp there
  obtain ⟨before, after, split⟩ := List.append_of_mem past
  obtain ⟨config, ctx, cmd, permitted⟩ :=
    permitted_of_past reach listed split (egress_notWorker egress)
  obtain ⟨action, approval, cause⟩ := permitted.cause egress
  have sub : before ⊆ w.events := by
    intro x earlier
    refine Pool.mem_events_of_thread listed ?_
    rw [split]
    exact List.mem_append_left _ earlier
  exact ⟨ctx, cmd, action, approval, cause.same, cause.mono sub⟩

/-! ## The store along a step -/

/-- What a step does to the tables: one change of a command, or the record of a move of an
Action that was loaded. -/
theorem move_core (reach : Pool.Reach system ok s₀ w) (move : Pool.Move system w l w') :
    Change w.shared.store.core w'.shared.store.core ∨
    ∃ ctx cmd action approval, ∃ moved : Action, App.Loaded ctx cmd action approval w.events ∧
      moved.core = action.core ∧
      w'.shared.store.core = { w.shared.store.core with
        actions := w.shared.store.core.actions.set moved.actionId moved } := by
  cases move with
  | start => exact Or.inl .idle
  | crash => exact Or.inl .idle
  | outside ran =>
    obtain ⟨ports, env, fresh, rfl⟩ := ran
    exact Or.inl (Command.change fresh _)
  | @call i t r k ans s here alive next answered =>
    have listed := List.mem_of_getElem? here
    cases notWorker : App.isWorker r with
    | true => exact Or.inl (answered.worker_change notWorker)
    | false =>
      obtain ⟨config, ctx, cmd, permitted⟩ := permitted_of_thread reach listed next notWorker
      cases notRecord : App.isRecord r with
      | false => exact Or.inl (change_of_eq (answered.core_eq notRecord notWorker))
      | true =>
        cases r with
        | record facts =>
          obtain ⟨_, approval, loaded, _, verdict⟩ := permitted
          rcases answered.recorded with idle | saved
          · exact Or.inl (change_of_eq idle)
          · exact Or.inr ⟨ctx, cmd, facts.action, approval, facts.result.action,
              Pool.mem_events_of_thread listed loaded, verdict.core, saved⟩
        | _ => cases notRecord

/-- Actions are stored under their own ids. -/
def Core.ActionKeys (c : Core) : Prop := ∀ id a, c.actions.get? id = some a → a.actionId = id

/-- The row of an Action is still one of the same content. -/
def Core.Knows (c : Core) (a : Action) : Prop :=
  ∃ row, c.actions.get? a.actionId = some row ∧ row.core = a.core

namespace Core
variable {c c' : Core} {a : Action}

omit [Sha256] in
theorem Knows.set {moved : Action} (known : c.Knows a) (movedKnown : c.Knows moved) :
    Core.Knows { c with actions := c.actions.set moved.actionId moved } a := by
  obtain ⟨row, found, same⟩ := known
  obtain ⟨row', found', same'⟩ := movedKnown
  unfold Knows
  simp only [Dict.get?_set]
  split
  · rename_i here
    rw [here, found'] at found
    cases found
    exact ⟨moved, rfl, same'.symm.trans same⟩
  · exact ⟨row, found, same⟩

omit [Sha256] in
/-- A row that moves is known, as the row it replaces has its content. -/
theorem knows_of_row {id : Uuid} {moved : Action} (keys : c.ActionKeys)
    (found : c.actions.get? id = some a) (same : moved.core = a.core) : c.Knows moved := by
  refine ⟨a, ?_, same.symm⟩
  rw [Action.actionId_of_core same, keys id a found]
  exact found

omit [Sha256] in
theorem ActionKeys.set (keys : c.ActionKeys) (a : Action) :
    Core.ActionKeys { c with actions := c.actions.set a.actionId a } :=
  Dict.keys_set (f := fun a : Action => a.actionId) keys a

omit [Sha256] in
/-- A change keeps Actions under their ids and forgets none. -/
theorem ActionKeys.change (keys : c.ActionKeys) (change : Change c c') :
    c'.ActionKeys ∧ ∀ a, c.Knows a → c'.Knows a := by
  cases change with
  | @actionAdded _ _ b _ _ fresh =>
    refine ⟨keys.set b, fun a known => ?_⟩
    obtain ⟨row, found, same⟩ := known
    have other : a.actionId ≠ b.actionId := by
      intro here
      rw [here, fresh] at found
      cases found
    exact ⟨row, (Dict.get?_set_ne _ _ other).trans found, same⟩
  | @actionMoved _ _ moved found same =>
    exact ⟨keys.set moved, fun a known => known.set (knows_of_row keys found same)⟩
  | _ => exact ⟨keys, fun _ known => known⟩

end Core

/-- What holds of every reachable pool: the reservations and the gateway's calls agree, and
the store still knows every Action that was loaded. -/
structure Accounted (w : AppPool) : Prop where
  ledger : Gateway.Ledger w.shared.reservations (App.gatewayEvents w.events)
  keys : w.shared.store.core.ActionKeys
  known : ∀ ctx cmd action approval, App.Loaded ctx cmd action approval w.events →
    w.shared.store.core.Knows action

/-- The gateway's calls of a step are those its reservations saw. -/
theorem move_ledger (move : Pool.Move system w l w')
    (ledger : Gateway.Ledger w.shared.reservations (App.gatewayEvents w.events)) :
    Gateway.Ledger w'.shared.reservations (App.gatewayEvents w'.events) := by
  have grown := move.events_perm.filterMap App.gatewayEvent?
  cases move with
  | start | crash => exact ledger.perm grown
  | outside ran =>
    obtain ⟨ports, env, fresh, rfl⟩ := ran
    exact ledger.perm grown
  | @call i t r k ans s here alive next answered =>
    cases answered with
    | gateway answered => exact ledger.step answered grown
    | raised _ e =>
      cases r with
      | gateway r => exact ledger.step (.raised r e) grown
      | _ => exact ledger.perm grown
    | _ => exact ledger.perm grown

theorem reach_accounted {limit : Int} (reach : Pool.Reach system ok (World.initial limit) w) :
    Accounted w := by
  induction reach with
  | init =>
    exact ⟨.initial limit, by simp [Core.ActionKeys, World.initial, Store.core],
      fun _ _ _ _ loaded => absurd loaded List.not_mem_nil⟩
  | @next w w' l past move _ ih =>
    obtain ⟨keys, kept⟩ : w'.shared.store.core.ActionKeys ∧
        ∀ a, w.shared.store.core.Knows a → w'.shared.store.core.Knows a := by
      rcases move_core past move with change | ⟨ctx, cmd, action, approval, moved, loaded, same, saved⟩
      · exact ih.keys.change change
      · rw [saved]
        refine ⟨ih.keys.set moved, fun a known => known.set ?_⟩
        obtain ⟨row, found, content⟩ := ih.known ctx cmd action approval loaded
        exact ⟨row, by rw [Action.actionId_of_core same]; exact found, content.trans same.symm⟩
    refine ⟨?_, keys, fun ctx cmd action approval loaded => kept _ ?_⟩
    · exact move_ledger move ih.ledger
    · rcases move.mem_events.mp loaded with new | old
      · cases move with
        | call here alive next answered =>
          cases new
          exact Core.knows_of_row ih.keys answered.loaded.1 rfl
        | _ => cases new
      · exact ih.known ctx cmd action approval old

end

end Autonoesis
