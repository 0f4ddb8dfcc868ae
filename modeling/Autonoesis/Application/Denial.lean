import Autonoesis.Application.Completion
import Autonoesis.Application.Egress

/-! An Action that is persisted as denied, and the egress port. The gateway checks everything
that can deny an Action before it looks at the reservation of the Action's key, so a denial
and a reservation may both come about; where no step makes one beside the other, a denied
Action was never executed. -/

namespace Autonoesis
open Base

/-- A step that leaves denials and reservations apart: an Action is persisted as denied only
while its key has no reservation, and no call reserves the key of an Action that is. -/
structure Apart (w : AppPool) (l : AppLabel) (w' : AppPool) : Prop where
  denies : ∀ a ∈ w'.shared.store.actions.values, a.status = .denied →
    a ∈ w.shared.store.actions.values ∨ w.shared.reservations.record? a.reservationKey = none
  reserves : ∀ i request ans, l = .call i ⟨.gateway (.reserve request), ans⟩ →
    ∀ a ∈ w.shared.store.actions.values, a.status = .denied → a.reservationKey ≠ request.key

/-- The keys of denied Actions have no reservation. -/
def DeniedUnreserved (w : World) : Prop :=
  ∀ a ∈ w.store.actions.values, a.status = .denied → w.reservations.record? a.reservationKey = none

/-- A key without a record gets one only from a reserve of its own, lost or not. -/
theorem Gateway.Answers.absent {s s' : Reservations} {r : GatewayReq}
    {ans : Except Exc (GatewayResp r)} (answered : Gateway.Answers s r ans s')
    (consistent : s.Consistent) {key : String × String}
    (other : ∀ request, r = .reserve request → request.key ≠ key)
    (absent : s.record? key = none) : s'.record? key = none := by
  cases answered with
  | reserve request id | reserveLost request id =>
    refine Reservations.apply_absent consistent (.reserve request id) ?_ absent
    rintro _ _ ⟨⟩
    exact other request rfl
  | complete tenantId id receipt | completeLost tenantId id receipt =>
    exact Reservations.apply_absent consistent (.complete tenantId id receipt)
      (by rintro _ _ ⟨⟩) absent
  | raised | port => exact absent

section
variable [Sha256] {limit : Int} {w w' : AppPool} {l : AppLabel}

/-- A step either answers a call of the gateway, over an unchanged store, or leaves the
reservations as they are. -/
theorem move_reservations (move : Pool.Move system w l w') :
    w'.shared.reservations = w.shared.reservations ∨
    ∃ i r ans, l = .call i ⟨.gateway r, ans⟩ ∧ w'.shared.store = w.shared.store ∧
      Gateway.Answers w.shared.reservations r ans w'.shared.reservations := by
  cases move with
  | start | crash => exact Or.inl rfl
  | outside ran =>
    obtain ⟨ports, env, fresh, rfl⟩ := ran
    exact Or.inl rfl
  | call here alive next answered =>
    cases answered with
    | gateway answered => exact Or.inr ⟨_, _, _, rfl, rfl, answered⟩
    | _ => exact Or.inl rfl

theorem move_deniedUnreserved (move : Pool.Move system w l w') (apart : Apart w l w')
    (consistent : w.shared.reservations.Consistent) (inv : DeniedUnreserved w.shared) :
    DeniedUnreserved w'.shared := by
  intro a there denied
  rcases move_reservations move with same | ⟨i, r, ans, rfl, store, answered⟩
  · rw [same]
    rcases apart.denies a there denied with old | absent
    · exact inv a old denied
    · exact absent
  · rw [store] at there
    refine answered.absent consistent ?_ (inv a there denied)
    rintro request rfl same
    exact apart.reserves i request ans rfl a there denied same.symm

theorem reach_deniedUnreserved (reach : Pool.Reach system Apart (World.initial limit) w) :
    DeniedUnreserved w.shared := by
  induction reach with
  | init => exact List.forall_mem_nil _
  | next past move apart ih =>
    exact move_deniedUnreserved move apart (reach_accounted past).ledger.consistent ih

/-- However calls of `execute_governed_action`, crashes, changes of what the ports answer and
other commands interleave: as long as denials and reservations are apart, the egress port was
never called for an Action that is persisted as denied. -/
theorem denied_never_executed (reach : Pool.Reach system Apart (World.initial limit) w) :
    ∀ a ∈ w.shared.store.actions.values, a.status = .denied →
      ∀ e ∈ w.events, ∀ b, egressOf e.req = some b → b.actionId ≠ a.actionId := by
  intro a there denied e past b egress sameId
  have accounted := reach_accounted reach
  obtain ⟨ctx, cmd, action, approval, same, loaded, id, receipt, granted⟩ :=
    egress_cause reach past egress
  -- the row of the executed Action is the denied one
  obtain ⟨row, found, content⟩ := accounted.known ctx cmd action approval loaded
  obtain ⟨key, stored⟩ := (w.shared.store.actions.mem_values a).mp there
  have sameRow : a = row := by
    rw [← Action.actionId_of_core same, sameId, accounted.keys key a stored] at found
    exact Option.some.inj (stored.symm.trans found)
  have sameKey : a.reservationKey = action.reservationKey := by
    rw [sameRow]
    exact Action.reservationKey_of_core content
  have absent := reach_deniedUnreserved reach a there denied
  obtain ⟨record, reserved, _⟩ :=
    accounted.ledger.issued _ id receipt (App.mem_gatewayEvents.mpr granted)
  rw [sameKey] at absent
  cases absent.symm.trans reserved

end

namespace Sample

/-- Commands of a session, beside the threads of a pool. -/
def commands [Sha256] (steps : List (Uuid × Command)) (w : AppPool) : AppPool :=
  { w with shared := steps.foldl perform w.shared }

/-- Whether the commands draw unused identifiers and each passes a check. -/
def commandsMeet [Sha256] (check : AppPool → AppPool → Bool) :
    List (Uuid × Command) → AppPool → Bool
  | [], _ => true
  | step :: rest, w =>
    unused w.shared.store.core step.1 && unused w.shared.store.core (step.1 + 1) &&
      check w (commands [step] w) && commandsMeet check rest (commands [step] w)

theorem commands_reach [Sha256] {ok : AppPool → AppLabel → AppPool → Prop} {s₀ : World}
    {check : AppPool → AppPool → Bool} (steps : List (Uuid × Command)) {w : AppPool}
    (reach : Pool.Reach system ok s₀ w) (legal : ∀ w c w', check w w' = true → ok w (.outside c) w')
    (met : commandsMeet check steps w = true) : Pool.Reach system ok s₀ (commands steps w) := by
  induction steps generalizing w with
  | nil => exact reach
  | cons step rest ih =>
    simp only [commandsMeet, Bool.and_eq_true] at met
    obtain ⟨⟨⟨first, second⟩, checked⟩, later⟩ := met
    exact ih (reach.next (.outside (perform_command first second)) (legal _ _ _ checked)) later

/-- Whether no denied Action of the one pool has a reservation in the other. -/
def apart (w w' : AppPool) : Bool :=
  w'.shared.store.actions.values.all fun a =>
    a.status ≠ .denied || (w.shared.reservations.record? a.reservationKey).isNone

def apartCall (w : AppPool) (e : AppEvent) (w' : AppPool) : Bool :=
  apart w w' && match e.req with
    | .gateway (.reserve request) => w.shared.store.actions.values.all fun a =>
      a.status ≠ .denied || a.reservationKey ≠ request.key
    | _ => true

theorem denies_of_apart {w w' : AppPool} (met : apart w w' = true) :
    ∀ a ∈ w'.shared.store.actions.values, a.status = .denied →
      a ∈ w.shared.store.actions.values ∨ w.shared.reservations.record? a.reservationKey = none := by
  intro a there denied
  have here := List.all_eq_true.mp met a there
  simp only [denied, ne_eq, not_true_eq_false, decide_false, Bool.false_or,
    Option.isNone_iff_eq_none] at here
  exact Or.inr here

/-- A command of a session, before any thread has started. -/
def early (w w' : AppPool) : Bool := apart w w' && w.threads.isEmpty

theorem apart_outside (w : AppPool) (c : Command) (w' : AppPool) (met : early w w' = true) :
    Apart w (.outside c) w' := by
  simp only [early, Bool.and_eq_true] at met
  exact ⟨denies_of_apart met.1, by rintro _ _ _ ⟨⟩⟩

theorem apart_call (i : Nat) (w : AppPool) (e : AppEvent) (w' : AppPool)
    (met : apartCall w e w' = true) : Apart w (.call i e) w' := by
  simp only [apartCall, Bool.and_eq_true] at met
  refine ⟨denies_of_apart met.1, ?_⟩
  rintro _ request ans ⟨⟩ a there denied
  have here := List.all_eq_true.mp met.2 a there
  simpa [denied] using here

theorem program_starts [Sha256] (w : AppPool) :
    Pool.Move system w (.start program) { w with threads := w.threads ++ [⟨program, [], true⟩] } :=
  .start (Or.inl ⟨_, _, _, rfl⟩)

section
variable [Sha256]

/-- The Action is proposed and nothing called. -/
def preparedPool : AppPool := commands preparation ⟨World.initial 10, []⟩

/-- A call of the command, beside the threads of a pool. -/
def started (w : AppPool) : AppPool := { w with threads := w.threads ++ [⟨program, [], true⟩] }

end

theorem preparation_early :
    let _ := sha256
    commandsMeet early preparation ⟨World.initial 10, []⟩ = true := by
  decide +kernel

/-- The command executes its Action and crashes before that is recorded, the kill switch is
closed, and the command is tried again: the executed Action is persisted as denied. -/
theorem denied_after_egress :
    let _ := sha256
    ∃ w, Pool.Reach system (fun _ _ _ => True) (World.initial 10) w ∧
      ∃ a ∈ w.shared.store.actions.values, a.status = .denied ∧
        ∃ e ∈ w.events, (egressOf e.req).map (·.actionId) = some a.actionId := by
  intro _
  have r₁ : Pool.Reach system (fun _ _ _ => True) (World.initial 10)
      (commands preparation ⟨World.initial 10, []⟩) :=
    commands_reach _ .init (fun _ _ _ _ => trivial) preparation_early
  have r₂ := r₁.next (program_starts _) trivial
  have r₃ := r₂.advance (handle_answers false "r1") 0 (fun _ _ _ => trivial) 12
  have r₄ := r₃.halt 0 (fun _ _ => trivial)
  have r₅ := r₄.next (program_starts _) trivial
  have r₆ := r₅.advance (handle_answers true "r2") 1 (fun _ _ _ => trivial) 30
  exact ⟨_, r₆, by decide +kernel⟩

theorem apart_start (w : AppPool) (p : AppProg AppReply) (threads) :
    Apart w (.start p) { w with threads := threads } :=
  ⟨fun _ there _ => Or.inl there, by rintro _ _ _ ⟨⟩⟩

/-- A call that the kill switch stops: its Action is denied and was never executed. -/
theorem denied_never_executed_blocked :
    let _ := sha256
    ∃ w, Pool.Reach system Apart (World.initial 10) w ∧
      ∃ a ∈ w.shared.store.actions.values, a.status = .denied ∧
        ∀ e ∈ w.events, ∀ b, egressOf e.req = some b → b.actionId ≠ a.actionId := by
  intro _
  obtain ⟨met, a, there, denied⟩ :
      (started preparedPool).advanceMeets apartCall (handle true "r1") 0 30 = true ∧
      ∃ a ∈ ((started preparedPool).advance (handle true "r1") 0 30).shared.store.actions.values,
        a.status = .denied := by
    decide +kernel
  have r₁ : Pool.Reach system Apart (World.initial 10) preparedPool :=
    commands_reach _ .init apart_outside preparation_early
  have r₂ : Pool.Reach system Apart (World.initial 10) (started preparedPool) :=
    r₁.next (program_starts _) (apart_start _ _ _)
  have r₃ := r₂.advance_of_meets (handle_answers true "r1") 0 (apart_call 0) met
  exact ⟨_, r₃, a, there, denied, denied_never_executed r₃ a there denied⟩

end Sample

end Autonoesis
