import Autonoesis.Base.Calls
import Autonoesis.Base.Served

/-!
# Methods as programs of requests

A method that runs several transactions, written as a program whose every request is one of
them. So a run can also be stopped between two requests, or beside others, and the method that
runs through is the program's interpretation.

A store that raises and a process that crashes leave the same behind when the program lets
exceptions through: what the requests that took effect have made of the store.
-/

namespace Base

namespace Prog

variable {Req : Type} {Resp : Req → Type} {ε α β σ : Type}

/-- The method a program is, each request as one transaction. -/
def calls (perform : (r : Req) → Tx σ ε (Resp r)) : Prog Req Resp ε α → Calls σ ε α
  | ret a => pure a
  | raise e => Calls.ofExcept (.error e)
  | call r k => fun s => (k ((perform r).commit s).1).calls perform ((perform r).commit s).2

section
variable (perform : (r : Req) → Tx σ ε (Resp r))

@[simp] theorem calls_pure (a : α) : (pure a : Prog Req Resp ε α).calls perform = pure a := rfl

@[simp] theorem calls_request (r : Req) :
    (request r : Prog Req Resp ε (Resp r)).calls perform = Calls.tx (perform r) := by
  funext s
  simp only [request, calls, Calls.tx]
  rcases (perform r).commit s with ⟨ans, s'⟩
  cases ans <;> rfl

@[simp] theorem calls_ofExcept (x : Except ε α) :
    (ofExcept x : Prog Req Resp ε α).calls perform = Calls.ofExcept x := by
  cases x <;> rfl

@[simp] theorem calls_bind (p : Prog Req Resp ε α) (f : α → Prog Req Resp ε β) :
    (p >>= f).calls perform = p.calls perform >>= fun a => (f a).calls perform := by
  rw [bind_eq]
  induction p with
  | ret a => rfl
  | raise e => rfl
  | call r k ih =>
    funext s
    exact congrFun (ih _) _

@[simp] theorem calls_forM (f : β → Prog Req Resp ε PUnit) (items : List β) :
    (forM items f).calls perform = forM items fun b => (f b).calls perform := by
  induction items with
  | nil => rfl
  | cons b rest ih =>
    rw [List.forM_cons, List.forM_cons, calls_bind, ih]

/-- The handler that performs each request. -/
def serve : Nat → σ → (r : Req) → Except ε (Resp r) × σ := fun _ s r => (perform r).commit s

/-- Nothing stops the program: the method has run. -/
theorem served_eq_ran (n : Nat) (p : Prog Req Resp ε α) (s : σ) :
    (served (serve perform) n p s).2 = Calls.ran (p.calls perform) s := by
  induction p generalizing n s with
  | ret a => rfl
  | raise e => rfl
  | call r k ih => exact ih _ _ _

/-! ## Stopped runs -/

/-- How a run is stopped: request number `request` raises, having taken effect or not, or the
process crashes when so many requests have taken effect. -/
inductive Stop (ε : Type) where
  | raises (request : Nat) (applied : Bool) (e : ε)
  | crash (requests : Nat)

/-- How many requests take effect. -/
def Stop.requests : Stop ε → Nat
  | raises request applied _ => if applied then request + 1 else request
  | crash requests => requests

/-- The handler whose request number `request` raises. -/
def faulty (request : Nat) (applied : Bool) (e : ε) : Nat → σ → (r : Req) →
    Except ε (Resp r) × σ :=
  fun n s r =>
    if n = request then (.error e, if applied then ((perform r).commit s).2 else s)
    else (perform r).commit s

/-- The store a stopped run leaves. -/
def left (stop : Stop ε) (p : Prog Req Resp ε α) (s : σ) : σ :=
  match stop with
  | .raises request applied e => (served (faulty perform request applied e) 0 p s).2.2
  | .crash requests => cutOff (serve perform) requests 0 p s

end

/-- A program that lets the exceptions of its requests through. -/
def Straight : Prog Req Resp ε α → Prop
  | ret _ => True
  | raise _ => True
  | call _ k => (∀ e, k (.error e) = raise e) ∧ ∀ ans, Straight (k ans)

theorem straight_request (r : Req) : (request r : Prog Req Resp ε (Resp r)).Straight := by
  refine ⟨fun _ => rfl, fun ans => ?_⟩
  cases ans <;> trivial

theorem straight_ofExcept (x : Except ε α) : (ofExcept x : Prog Req Resp ε α).Straight := by
  cases x <;> trivial

theorem straight_bind {p : Prog Req Resp ε α} {f : α → Prog Req Resp ε β} (first : p.Straight)
    (rest : ∀ a, (f a).Straight) : (p >>= f).Straight := by
  rw [bind_eq]
  induction p with
  | ret a => exact rest a
  | raise e => trivial
  | call r k ih =>
    refine ⟨fun e => ?_, fun ans => ih ans (first.2 ans)⟩
    show (k (.error e)).bind f = raise e
    rw [first.1 e]
    rfl

theorem straight_forM {f : β → Prog Req Resp ε PUnit} (each : ∀ b, (f b).Straight)
    (items : List β) : (items.forM f).Straight := by
  induction items with
  | nil => trivial
  | cons b rest ih => exact straight_bind (each b) fun _ => ih

variable {perform : (r : Req) → Tx σ ε (Resp r)}

theorem served_faulty {p : Prog Req Resp ε α} (straight : p.Straight) (applied : Bool) (e : ε)
    (n m : Nat) (s : σ) :
    (served (faulty perform (n + m) applied e) n p s).2.2 =
      cutOff (serve perform) (if applied then m + 1 else m) n p s := by
  induction p generalizing n m s with
  | ret a => cases applied <;> cases m <;> rfl
  | raise e' => cases applied <;> cases m <;> rfl
  | call r k ih =>
    cases m with
    | zero =>
      have raised : faulty perform (n + 0) applied e n s r =
          (.error e, if applied then ((perform r).commit s).2 else s) := if_pos rfl
      rw [served, raised, straight.1 e, served_raise]
      cases applied <;> rfl
    | succ m =>
      have answered : faulty perform (n + (m + 1)) applied e n s r = (perform r).commit s :=
        if_neg (by omega)
      rw [served, answered, show n + (m + 1) = n + 1 + m by omega, ih _ (straight.2 _)]
      cases applied <;> rfl

/-- A stopped run leaves what its requests that took effect have made of the store. -/
theorem left_eq {p : Prog Req Resp ε α} (straight : p.Straight) (stop : Stop ε) (s : σ) :
    left perform stop p s = cutOff (serve perform) stop.requests 0 p s := by
  cases stop with
  | crash requests => rfl
  | raises request applied e =>
    have faulted := @served_faulty _ _ _ _ _ perform _ straight applied e 0 request s
    rwa [Nat.zero_add] at faulted

/-! ## Where a run is stopped -/

theorem cutOff_zero (n : Nat) (p : Prog Req Resp ε α) (s : σ) :
    cutOff (serve perform) 0 n p s = s := by
  cases p <;> rfl

/-- A run cut off in a first part that returns, or later. -/
theorem cutOff_bind_ok {p : Prog Req Resp ε α} {f : α → Prog Req Resp ε β} {m n : Nat} {s s' : σ}
    {events : List (Event Req Resp ε)} {a : α}
    (run : served (serve perform) n p s = (events, .ok a, s')) :
    cutOff (serve perform) m n (p >>= f) s =
      if m ≤ events.length then cutOff (serve perform) m n p s
      else cutOff (serve perform) (m - events.length) (n + events.length) (f a) s' := by
  rw [bind_eq]
  induction p generalizing m n s events with
  | ret b =>
    cases run
    cases m with
    | zero => cases f a <;> rfl
    | succ m => rfl
  | raise e => cases run
  | call r k ih =>
    cases m with
    | zero => rfl
    | succ m =>
      rw [served] at run
      obtain ⟨rfl, rest⟩ := Prod.mk.inj run
      simp only [bind, cutOff]
      rw [ih _ (Prod.ext rfl rest)]
      simp only [List.length_cons, Nat.add_le_add_iff_right, Nat.add_sub_add_right,
        Nat.add_right_comm n 1, Nat.add_assoc]

/-- A run cut off in a first part that raises. -/
theorem cutOff_bind_error {p : Prog Req Resp ε α} {f : α → Prog Req Resp ε β} {m n : Nat}
    {s s' : σ} {events : List (Event Req Resp ε)} {e : ε}
    (run : served (serve perform) n p s = (events, .error e, s')) :
    cutOff (serve perform) m n (p >>= f) s = cutOff (serve perform) m n p s := by
  rw [bind_eq]
  induction p generalizing m n s events with
  | ret b => cases run
  | raise e => cases m <;> rfl
  | call r k ih =>
    cases m with
    | zero => rfl
    | succ m =>
      rw [served] at run
      exact ih _ (Prod.ext rfl (Prod.mk.inj run).2)

/-- Every request of the program leaves the store as it is. -/
def Quiet (perform : (r : Req) → Tx σ ε (Resp r)) : Prog Req Resp ε α → Prop
  | ret _ => True
  | raise _ => True
  | call r k => Tx.Keeps (fun s => s) (perform r) ∧ ∀ ans, Quiet perform (k ans)

theorem quiet_request {r : Req} (reads : Tx.Keeps (fun s => s) (perform r)) :
    (request r : Prog Req Resp ε (Resp r)).Quiet perform := by
  refine ⟨reads, fun ans => ?_⟩
  cases ans <;> trivial

theorem quiet_ofExcept (x : Except ε α) : (ofExcept x : Prog Req Resp ε α).Quiet perform := by
  cases x <;> trivial

theorem quiet_bind {p : Prog Req Resp ε α} {f : α → Prog Req Resp ε β} (first : p.Quiet perform)
    (rest : ∀ a, (f a).Quiet perform) : (p >>= f).Quiet perform := by
  rw [bind_eq]
  induction p with
  | ret a => exact rest a
  | raise e => trivial
  | call r k ih => exact ⟨first.1, fun ans => ih ans (first.2 ans)⟩

theorem quiet_forM {f : β → Prog Req Resp ε PUnit} (each : ∀ b, (f b).Quiet perform)
    (items : List β) : (items.forM f).Quiet perform := by
  induction items with
  | nil => trivial
  | cons b rest ih => exact quiet_bind (each b) fun _ => ih

theorem Quiet.served {p : Prog Req Resp ε α} (quiet : p.Quiet perform) (n : Nat) (s : σ) :
    (served (serve perform) n p s).2.2 = s := by
  induction p generalizing n s with
  | ret a => rfl
  | raise e => rfl
  | call r k ih => exact (ih _ (quiet.2 _) _ _).trans (quiet.1.commit s)

theorem Quiet.cutOff {p : Prog Req Resp ε α} (quiet : p.Quiet perform) (m n : Nat) (s : σ) :
    cutOff (serve perform) m n p s = s := by
  induction p generalizing m n s with
  | ret a => cases m <;> rfl
  | raise e => cases m <;> rfl
  | call r k ih =>
    cases m with
    | zero => rfl
    | succ m => exact (ih _ (quiet.2 _) m _ _).trans (quiet.1.commit s)

/-- A program that makes `count` requests whenever it returns. -/
def Makes (perform : (r : Req) → Tx σ ε (Resp r)) (count : Nat) (p : Prog Req Resp ε α) : Prop :=
  ∀ n s events a s', served (serve perform) n p s = (events, .ok a, s') → events.length = count

theorem makes_pure (a : α) : (pure a : Prog Req Resp ε α).Makes perform 0 := by
  intro n s events b s' run
  cases run
  rfl

theorem makes_ofExcept (x : Except ε α) : (ofExcept x : Prog Req Resp ε α).Makes perform 0 := by
  intro n s events a s' run
  rw [served_ofExcept] at run
  cases run
  rfl

theorem makes_bind {p : Prog Req Resp ε α} {f : α → Prog Req Resp ε β} {first second : Nat}
    (before : p.Makes perform first) (rest : ∀ a, (f a).Makes perform second) :
    (p >>= f).Makes perform (first + second) := by
  intro n s events b s' run
  rw [served_bind] at run
  split at run
  · rename_i past a s₁ ran
    obtain ⟨rfl, done⟩ := Prod.mk.inj run
    rw [List.length_append, rest a _ s₁ _ b s' (Prod.ext rfl done), before n s past a s₁ ran]
  · cases run

theorem makes_request_bind {r : Req} {f : Resp r → Prog Req Resp ε β} {count : Nat}
    (rest : ∀ a, (f a).Makes perform count) :
    (request r >>= f).Makes perform (count + 1) := by
  have one : (request r : Prog Req Resp ε (Resp r)).Makes perform 1 := by
    intro n s events a s' run
    rw [served_request] at run
    rw [← (Prod.mk.inj run).1]
    rfl
  rw [Nat.add_comm]
  exact makes_bind one rest

theorem makes_ofExcept_bind {x : Except ε α} {f : α → Prog Req Resp ε β} {count : Nat}
    (rest : ∀ a, (f a).Makes perform count) : (ofExcept x >>= f).Makes perform count := by
  rw [← Nat.zero_add count]
  exact makes_bind (makes_ofExcept x) rest

theorem makes_forM {f : β → Prog Req Resp ε PUnit} {count : Nat}
    (each : ∀ b, (f b).Makes perform count) (items : List β) :
    (items.forM f).Makes perform (items.length * count) := by
  induction items with
  | nil =>
    intro n s events a s' run
    cases run
    exact (Nat.zero_mul count).symm
  | cons b rest ih =>
    rw [List.length_cons, Nat.add_mul, Nat.one_mul, Nat.add_comm]
    exact makes_bind (each b) fun _ => ih

end Prog

end Base
