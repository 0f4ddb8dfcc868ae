import Autonoesis.Base.Prog

/-!
# Programs served by a handler

The whole run of a program whose calls are answered one by one: the `n`th call by the `n`th
handler, over a state. A run may be cut off after any number of its calls, and what those have
made of the state stays.
-/

namespace Base

namespace Prog

variable {Req : Type} {Resp : Req → Type} {ε α β σ : Type}

/-- The events, the result and the state of a whole run, whose next call is the `n`th. -/
def served (handle : Nat → σ → (r : Req) → Except ε (Resp r) × σ) :
    Nat → Prog Req Resp ε α → σ → List (Event Req Resp ε) × Except ε α × σ
  | _, ret a, s => ([], .ok a, s)
  | _, raise e, s => ([], .error e, s)
  | n, call r k, s =>
    let answer := handle n s r
    let rest := served handle (n + 1) (k answer.1) answer.2
    (⟨r, answer.1⟩ :: rest.1, rest.2)

/-- The state a run leaves that is cut off after its next `m` calls. -/
def cutOff (handle : Nat → σ → (r : Req) → Except ε (Resp r) × σ) :
    Nat → Nat → Prog Req Resp ε α → σ → σ
  | m + 1, n, call r k, s => cutOff handle m (n + 1) (k (handle n s r).1) (handle n s r).2
  | _, _, _, s => s

variable {handle : Nat → σ → (r : Req) → Except ε (Resp r) × σ} {s : σ} {n : Nat}

theorem served_raise (e : ε) :
    served handle n (raise e : Prog Req Resp ε α) s = ([], .error e, s) := rfl

theorem served_ofExcept (x : Except ε α) :
    served handle n (ofExcept x : Prog Req Resp ε α) s = ([], x, s) := by
  cases x <;> rfl

/-- The events of a part, then those of the rest if the part has returned. -/
theorem served_bind (p : Prog Req Resp ε α) (f : α → Prog Req Resp ε β) :
    served handle n (p >>= f) s = match served handle n p s with
      | (events, .ok a, s') =>
        let rest := served handle (n + events.length) (f a) s'
        (events ++ rest.1, rest.2)
      | (events, .error e, s') => (events, .error e, s') := by
  rw [bind_eq]
  induction p generalizing n s with
  | ret a => rfl
  | raise e => rfl
  | call r k ih =>
    simp only [bind, served, ih]
    cases run : served handle (n + 1) (k (handle n s r).1) (handle n s r).2 with
    | mk events rest =>
      obtain ⟨result, s'⟩ := rest
      cases result with
      | error e => rfl
      | ok a =>
        simp only [List.length_cons, List.cons_append]
        rw [Nat.add_right_comm, Nat.add_assoc]

theorem served_request (r : Req) : served handle n (request r : Prog Req Resp ε (Resp r)) s =
    ([⟨r, (handle n s r).1⟩], handle n s r) := by
  simp only [request, served]
  cases handle n s r with
  | mk answer s' => cases answer <;> rfl

/-- A call that is answered, and what follows it. -/
theorem served_request_bind {r : Req} {f : Resp r → Prog Req Resp ε β} {v : Resp r} {s' : σ}
    (answered : handle n s r = (.ok v, s')) : served handle n (request r >>= f) s =
      (⟨r, .ok v⟩ :: (served handle (n + 1) (f v) s').1, (served handle (n + 1) (f v) s').2) := by
  rw [served_bind, served_request, answered]
  rfl

/-- A call that raises ends the program. -/
theorem served_request_raised {r : Req} {f : Resp r → Prog Req Resp ε β} {e : ε} {s' : σ}
    (raised : handle n s r = (.error e, s')) :
    served handle n (request r >>= f) s = ([⟨r, .error e⟩], .error e, s') := by
  rw [served_bind, served_request, raised]

end Prog

end Base
