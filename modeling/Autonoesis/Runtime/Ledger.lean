import Mathlib.Algebra.Order.BigOperators.Group.List
import Mathlib.Algebra.Order.Ring.Nat
import Mathlib.Data.List.Induction
import Autonoesis.Base.Pool
import Autonoesis.Runtime.Budget
import Autonoesis.Runtime.Gateway

/-! Calls of the gateway that share one reservation store: what the answered calls and the
store know of each other, and what follows for the egress port over every interleaving. -/

namespace Autonoesis.Gateway
open Base Prog

def isStore : GatewayReq → Bool
  | .reserve .. | .complete .. => true
  | _ => false

/-- How ports answer beside a reservation store: the store's own two methods by what they
compute, every other port by any value; and any port may raise, the store's before or
after its change is made. -/
inductive Answers (s : Reservations) :
    (r : GatewayReq) → Except Exc (GatewayResp r) → Reservations → Prop
  | reserve (request : ExecutionReservation) (id : String) (fresh : s.byId.get? id = none) :
      Answers s (.reserve request) (.ok (s.reserve request id).1) (s.reserve request id).2
  | reserveLost (request : ExecutionReservation) (id : String) (fresh : s.byId.get? id = none)
      (e : Exc) : Answers s (.reserve request) (.error e) (s.reserve request id).2
  | complete (tenantId id : String) (receipt : ToolReceipt) :
      Answers s (.complete tenantId id receipt) (s.complete id receipt).1
        (s.complete id receipt).2
  | completeLost (tenantId id : String) (receipt : ToolReceipt) (e : Exc) :
      Answers s (.complete tenantId id receipt) (.error e) (s.complete id receipt).2
  | raised (r : GatewayReq) (e : Exc) : Answers s r (.error e) s
  | port (r : GatewayReq) (ans : Except Exc (GatewayResp r)) (other : isStore r = false) :
      Answers s r ans s

/-- Whether the event is a reservation granted for `key`. -/
def acquiredFor (key : String × String) (e : GatewayEvent) : Bool :=
  match e with
  | ⟨.reserve request, .ok d⟩ => d.status = .acquired && request.key = key
  | _ => false

/-- What the answered calls and the store know of each other. -/
structure Ledger (s : Reservations) (es : List GatewayEvent) : Prop where
  consistent : s.Consistent
  granted : ∀ key, es.countP (acquiredFor key) ≤ (s.record? key).isSome.toNat
  issued : ∀ request id receipt,
    (⟨.reserve request, .ok ⟨.acquired, some id, receipt⟩⟩ : GatewayEvent) ∈ es →
    ∃ r, s.record? request.key = some r ∧ r.reservationId = id
  stored : ∀ key r receipt, s.record? key = some r → r.receipt = some receipt →
    ∃ tenantId ans, (⟨.complete tenantId r.reservationId receipt, ans⟩ : GatewayEvent) ∈ es
  cached : ∀ request d receipt, (⟨.reserve request, .ok d⟩ : GatewayEvent) ∈ es →
    d.status = .cached → d.receipt = some receipt →
    ∃ r, s.Holds request.key r ∧ r.receipt = some receipt

theorem Ledger.initial (limit : Int) : Ledger (Reservations.initial limit) [] where
  consistent := Reservations.initial_consistent limit
  granted := by simp
  issued := by simp
  stored := by
    intro key r receipt found
    simp [Reservations.initial, Reservations.record?] at found
  cached := by simp

theorem acquiredFor_eq_false {key : String × String} {e : GatewayEvent}
    (other : ∀ request d, e ≠ ⟨.reserve request, .ok d⟩) : acquiredFor key e = false := by
  unfold acquiredFor
  split
  · exact absurd rfl (other _ _)
  · rfl

/-- A reserve answers as the record it finds says. -/
theorem reserve_cached {s : Reservations} {request : ExecutionReservation} {id : String}
    {receipt : ToolReceipt} (status : (s.reserve request id).1.status = .cached)
    (stored : (s.reserve request id).1.receipt = some receipt) :
    ∃ r, s.Holds request.key r ∧ r.receipt = some receipt := by
  unfold Reservations.reserve at status stored
  split at status
  · rename_i existing found
    simp only [found] at stored
    refine ⟨existing, ?_⟩
    unfold Reservations.existingDecision at status stored
    split at status
    · cases status
    · rename_i same
      rw [if_neg same] at stored
      split at status
      · cases status
      · rename_i old held
        simp only [held] at stored
        split at status
        · cases status
        · rename_i settled
          rw [if_neg settled] at stored
          cases stored
          exact ⟨⟨found, by simp [held]⟩, held⟩
  · split at status <;> cases status

theorem reserve_acquired {s : Reservations} {request : ExecutionReservation} {id id' : String}
    {receipt : Option ToolReceipt} (c : s.Consistent)
    (granted : (s.reserve request id).1 = ⟨.acquired, some id', receipt⟩) :
    ∃ r, (s.apply (.reserve request id)).2.record? request.key = some r ∧ r.reservationId = id' := by
  obtain ⟨_, plain⟩ | ⟨_, _, same, _, _, e⟩ | ⟨_, _, _, _, _, other, _⟩ :=
    Reservations.apply_cases s (.reserve request id)
  · exact absurd (by rw [granted]) (plain _ rfl)
  · cases same
    have answer := (Prod.ext_iff.mp e).1
    simp only [Reservations.apply, Reservations.Answer.decided.injEq] at answer
    rw [answer] at granted
    cases granted
    exact ⟨⟨request, id, none⟩, by rw [e, Reservations.acquire_record? c, if_pos rfl], rfl⟩
  · cases other

theorem Ledger.perm {s : Reservations} {es es' : List GatewayEvent} (l : Ledger s es)
    (same : es'.Perm es) : Ledger s es' where
  consistent := l.consistent
  granted key := by rw [same.countP_eq]; exact l.granted key
  issued request id receipt there := l.issued request id receipt (same.mem_iff.mp there)
  stored key r receipt found held := by
    obtain ⟨tenantId, ans, there⟩ := l.stored key r receipt found held
    exact ⟨tenantId, ans, same.mem_iff.mpr there⟩
  cached request d receipt there := l.cached request d receipt (same.mem_iff.mp there)

/-- An event that decides no reservation leaves the ledger of an unchanged store. -/
theorem Ledger.silent {s : Reservations} {es es' : List GatewayEvent} {e : GatewayEvent}
    (l : Ledger s es) (grown : es'.Perm (e :: es))
    (other : ∀ request d, e ≠ ⟨.reserve request, .ok d⟩) : Ledger s es' where
  consistent := l.consistent
  granted key := by
    rw [grown.countP_eq, List.countP_cons_of_neg (by simp [acquiredFor_eq_false other])]
    exact l.granted key
  issued request id receipt there := by
    rcases List.mem_cons.mp (grown.mem_iff.mp there) with new | old
    · exact absurd new.symm (other _ _)
    · exact l.issued request id receipt old
  stored key r receipt found held := by
    obtain ⟨tenantId, ans, there⟩ := l.stored key r receipt found held
    exact ⟨tenantId, ans, grown.mem_iff.mpr (List.mem_cons_of_mem _ there)⟩
  cached request d receipt there := by
    rcases List.mem_cons.mp (grown.mem_iff.mp there) with new | old
    · exact absurd new.symm (other _ _)
    · exact l.cached request d receipt old

/-- One call of the store keeps the ledger, when the event it is seen as decides what the
store decided, if anything, and shows a completion as what it is. -/
theorem Ledger.op {s : Reservations} {es es' : List GatewayEvent} {e : GatewayEvent}
    (l : Ledger s es) (op : Reservations.Op) (fresh : op.Fresh s) (grown : es'.Perm (e :: es))
    (decides : ∀ request d, e = ⟨.reserve request, .ok d⟩ →
      ∃ id, op = .reserve request id ∧ d = (s.reserve request id).1)
    (completes : ∀ tenantId id receipt, op = .complete tenantId id receipt →
      e.req = .complete tenantId id receipt) : Ledger (s.apply op).2 es' where
  consistent := Reservations.apply_consistent l.consistent fresh
  granted key := by
    have before := l.granted key
    have after := Reservations.apply_grants l.consistent op key
    have counted : acquiredFor key e = true → Reservations.grants key (op, (s.apply op).1) = true := by
      intro acquired
      unfold acquiredFor at acquired
      split at acquired
      · obtain ⟨id, rfl, rfl⟩ := decides _ _ rfl
        exact acquired
      · cases acquired
    rw [grown.countP_eq, List.countP_cons, after]
    by_cases acquired : acquiredFor key e = true
    · rw [if_pos acquired, counted acquired]
      exact Nat.add_le_add_right before 1
    · rw [if_neg acquired]
      omega
  issued request id receipt there := by
    rcases List.mem_cons.mp (grown.mem_iff.mp there) with new | old
    · obtain ⟨drawn, rfl, answer⟩ := decides _ _ new.symm
      exact reserve_acquired l.consistent answer.symm
    · obtain ⟨r, found, same⟩ := l.issued request id receipt old
      obtain ⟨r', found', _, same'⟩ := Reservations.apply_record l.consistent found op
      exact ⟨r', found', same'.trans same⟩
  stored key r receipt found held := by
    obtain old | ⟨tenantId, new⟩ := Reservations.apply_receipt l.consistent found held
    · obtain ⟨tenantId, ans, there⟩ := l.stored key r receipt old held
      exact ⟨tenantId, ans, grown.mem_iff.mpr (List.mem_cons_of_mem _ there)⟩
    · have seen := completes _ _ _ new
      obtain ⟨req, ans⟩ := e
      cases seen
      exact ⟨tenantId, ans, grown.mem_iff.mpr List.mem_cons_self⟩
  cached request d receipt there status stored := by
    have held : ∃ r, s.Holds request.key r ∧ r.receipt = some receipt := by
      rcases List.mem_cons.mp (grown.mem_iff.mp there) with new | old
      · obtain ⟨drawn, rfl, rfl⟩ := decides _ _ new.symm
        exact reserve_cached status stored
      · exact l.cached request d receipt old status stored
    obtain ⟨r, held, same⟩ := held
    exact ⟨r, Reservations.apply_holds l.consistent held op, same⟩

/-- One answered call keeps the ledger. -/
theorem Ledger.step {s s' : Reservations} {es es' : List GatewayEvent} {r : GatewayReq}
    {ans : Except Exc (GatewayResp r)} (l : Ledger s es) (answered : Answers s r ans s')
    (grown : es'.Perm (⟨r, ans⟩ :: es)) : Ledger s' es' := by
  cases answered with
  | reserve request id fresh =>
    refine l.op (.reserve request id) fresh grown ?_ nofun
    rintro _ _ ⟨⟩
    exact ⟨id, rfl, rfl⟩
  | reserveLost request id fresh e =>
    exact l.op (.reserve request id) fresh grown (by rintro _ _ ⟨⟩) nofun
  | complete tenantId id receipt =>
    exact l.op (.complete tenantId id receipt) trivial grown (by rintro _ _ ⟨⟩)
      (by rintro _ _ _ ⟨⟩; rfl)
  | completeLost tenantId id receipt e =>
    exact l.op (.complete tenantId id receipt) trivial grown (by rintro _ _ ⟨⟩)
      (by rintro _ _ _ ⟨⟩; rfl)
  | raised r e => exact l.silent grown (by rintro _ _ ⟨⟩)
  | port r ans other => exact l.silent grown (by rintro _ _ ⟨⟩; cases other)

/-- Whether the event is a call of the egress port for the tenant and key of `key`. -/
def egressFor (key : String × String) (e : GatewayEvent) : Bool :=
  match e.req with
  | .egressExecute a _ _ => (a.tenantId.str, a.idempotencyKey) = key
  | _ => false

theorem isEgress_of_egressFor {key : String × String} {e : GatewayEvent}
    (h : egressFor key e = true) : isEgress e.req = true := by
  obtain ⟨r, ans⟩ := e
  cases r with
  | egressExecute => rfl
  | _ => cases h

theorem countP_le_one {l : List GatewayEvent} {f : GatewayEvent → Bool}
    (first : ∀ before e after, l = before ++ e :: after → f e = true →
      ∀ x ∈ before, f x = false) : l.countP f ≤ 1 := by
  induction l using List.reverseRecOn with
  | nil => simp
  | append_singleton init last ih =>
    rw [List.countP_append, List.countP_singleton]
    split
    · rename_i here
      have none := first init last [] rfl here
      rw [List.countP_eq_zero.mpr (by simpa using none)]
    · refine ih fun before e after split => first before e (after ++ [last]) ?_
      simp [split]

namespace Call
variable [Sha256] {c : Call} {h : List GatewayEvent} {q : GatewayProg GatewayResult}

/-- The key the call reserves under. -/
def key (c : Call) : String × String := c.reservation.key

theorem key_of_core {a : Action} (core : a.core = c.action.core) :
    (a.tenantId.str, a.idempotencyKey) = c.key := by
  have tenant : a.core.tenantId = c.action.core.tenantId := congrArg ActionFields.tenantId core
  have key : a.core.idempotencyKey = c.action.core.idempotencyKey :=
    congrArg ActionFields.idempotencyKey core
  exact congrArg₂ (fun t k => (Uuid.str t, k)) tenant key

/-- What is known of a run once it has called the egress port. -/
theorem permitted_egress (run : Exec c.prog h q) {e : GatewayEvent} (there : e ∈ h)
    (egress : isEgress e.req = true) :
    ∃ a tool credential, e.req = .egressExecute a tool credential ∧
      a.core = c.action.core ∧ ∃ id receipt, c.Reserved ⟨.acquired, some id, receipt⟩ h := by
  obtain ⟨before, after, split⟩ := List.append_of_mem there
  have permitted := permitted_past run split
  obtain ⟨r, ans⟩ := e
  cases r with
  | egressExecute a tool credential =>
    obtain ⟨_, ⟨id, receipt, acquired⟩, core, _⟩ := permitted
    refine ⟨a, tool, credential, rfl, core, id, receipt, ?_⟩
    rw [split]
    exact List.mem_append_left _ acquired
  | _ => cases egress

/-- A run calls the egress port at most as often as it is granted a reservation. -/
theorem egress_le_acquired (run : Exec c.prog h q) (key : String × String) :
    h.countP (egressFor key) ≤ h.countP (acquiredFor key) := by
  have once : h.countP (egressFor key) ≤ 1 := by
    refine countP_le_one fun before e after split here x earlier => ?_
    have none := without_before_egress run split (isEgress_of_egressFor here) x earlier
    cases found : egressFor key x with
    | false => rfl
    | true =>
      rw [isEgress_of_egressFor found] at none
      cases none
  rcases Nat.eq_zero_or_pos (h.countP (egressFor key)) with zero | pos
  · omega
  · obtain ⟨e, there, here⟩ := List.countP_pos_iff.mp pos
    obtain ⟨a, tool, credential, req, core, id, receipt, acquired⟩ :=
      permitted_egress run there (isEgress_of_egressFor here)
    have same : c.key = key := by
      rw [← key_of_core core]
      simpa [egressFor, req] using here
    have granted : 0 < h.countP (acquiredFor key) :=
      List.countP_pos_iff.mpr ⟨_, acquired, by simpa [acquiredFor, Call.key] using same⟩
    omega

end Call

section
variable [Sha256]

/-- Calls of the gateway over one reservation store. -/
def system : System Reservations Empty GatewayReq GatewayResp Exc GatewayResult where
  starts p := ∃ c : Call, p = c.prog
  answers := Answers
  outside _ _ _ := False

/-- What any schedule of calls reaches. -/
abbrev Reachable (limit : Int) := Pool.Reach system (fun _ _ _ => True) (Reservations.initial limit)

variable {limit : Int} {w : Pool Reservations GatewayReq GatewayResp Exc GatewayResult}

theorem reachable_ledger (reach : Reachable limit w) : Ledger w.shared w.events := by
  induction reach with
  | init => exact Ledger.initial limit
  | next _ move _ ih =>
    have grown := move.events_perm
    cases move with
    | start => exact ih.perm grown
    | call here alive next answered => exact ih.step answered grown
    | crash => exact ih.perm grown
    | outside moved => exact moved.elim

theorem egress_le_one (reach : Reachable limit w) (key : String × String) :
    w.events.countP (egressFor key) ≤ 1 := by
  have perThread : w.events.countP (egressFor key) ≤ w.events.countP (acquiredFor key) := by
    simp only [Pool.events, List.countP_flatMap]
    refine List.sum_le_sum fun t there => ?_
    obtain ⟨_, ⟨c, rfl⟩, run⟩ := reach.exec there
    exact c.egress_le_acquired run key
  have granted := (reachable_ledger reach).granted key
  have one := Bool.toNat_le (w.shared.record? key).isSome
  exact perThread.trans (granted.trans one)

/-- However calls interleave, crash or raise, the egress port is called at most once for a
tenant and an idempotency key. -/
theorem egress_at_most_once (reach : Reachable limit w) (tenantId : Uuid) (key : String) :
    w.events.countP (fun e => match e.req with
      | .egressExecute a _ _ => a.tenantId = tenantId && a.idempotencyKey = key
      | _ => false) ≤ 1 := by
  refine le_trans (List.countP_mono_left fun e _ here => ?_)
    (egress_le_one reach (tenantId.str, key))
  unfold egressFor
  split at here
  · simp only [Bool.and_eq_true, decide_eq_true_eq] at here
    simp [here.1, here.2]
  · cases here

end

namespace Sample

/-- The sample ports beside the store, which draws `id` for a new reservation. -/
def handle (id : String) (s : Reservations) :
    (r : GatewayReq) → Except Exc (GatewayResp r) × Reservations
  | .reserve request =>
    if s.byId.get? id = none then (.ok (s.reserve request id).1, (s.reserve request id).2)
    else (.error (.runtimeError "identifier is taken"), s)
  | .complete _ id receipt => s.complete id receipt
  | r => (answers r, s)

theorem handle_answers (id : String) (s : Reservations) (r : GatewayReq) :
    Answers s r (handle id s r).1 (handle id s r).2 := by
  cases r with
  | reserve request =>
    unfold handle
    split
    · rename_i fresh
      exact .reserve request id fresh
    · exact .raised _ _
  | complete tenantId id' receipt => exact .complete tenantId id' receipt
  | _ => exact .port _ _ rfl

/-- A second call with the key of one in flight: the egress port is called once. -/
theorem egress_at_most_once_retry :
    let _ := sha256
    ∃ w, Reachable 10 w ∧ w.events.countP (fun e => isReserve e.req) = 2 ∧
      w.events.countP (fun e => isEgress e.req) = 1 ∧
      w.events.countP (fun e => match e.req with
        | .egressExecute a _ _ => a.tenantId = 1 && a.idempotencyKey = "mail-1"
        | _ => false) ≤ 1 := by
  intro _
  have r₁ : Reachable 10 _ := .next .init (.start ⟨call, rfl⟩) trivial
  have r₂ := r₁.advance (handle_answers "r1") 0 (fun _ _ _ => trivial) 11
  have r₃ := r₂.next (.start ⟨call, rfl⟩) trivial
  have r₄ := r₃.advance (handle_answers "r2") 1 (fun _ _ _ => trivial) 20
  exact ⟨_, r₄, by decide, by decide, egress_at_most_once r₄ 1 "mail-1"⟩

end Sample

end Autonoesis.Gateway
