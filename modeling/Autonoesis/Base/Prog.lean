import Mathlib.Data.List.Basic

/-!
# Programs that call ports

A program of an asynchronous component, seen from outside: it returns, raises,
or calls a port and continues with whatever the port answers, a value or an
exception. The tree holds every continuation, so a statement about all runs of
a program is a statement about all behaviours of its ports.

* `Exec`: the runs of a program, with the history of answered calls;
* `Conforms`: a condition on each call and on the result, relative to that
  history, checked along every run; `conforms_exec` is its soundness;
* `replay`: the run in which the ports answer by a given table;
* `Path`: a run without interruption beside a state that the answers read and change;
* `embed`: a program over some of the ports of another.
-/

namespace Base

/-- A program over requests `Req`, answered in `Resp`, that may raise `ε`. -/
inductive Prog (Req : Type) (Resp : Req → Type) (ε α : Type) : Type
  | ret (a : α)
  | raise (e : ε)
  | call (r : Req) (k : Except ε (Resp r) → Prog Req Resp ε α)

/-- One answered call. -/
structure Event (Req : Type) (Resp : Req → Type) (ε : Type) where
  req : Req
  ans : Except ε (Resp req)

namespace Prog

variable {Req : Type} {Resp : Req → Type} {ε α β : Type}

def bind : Prog Req Resp ε α → (α → Prog Req Resp ε β) → Prog Req Resp ε β
  | ret a, f => f a
  | raise e, _ => raise e
  | call r k, f => call r (fun ans => (k ans).bind f)

instance : Monad (Prog Req Resp ε) where
  pure := ret
  bind := bind

/-- Run `p` and hand its exception, if any, to the continuation as a value. -/
def attempt : Prog Req Resp ε α → Prog Req Resp ε (Except ε α)
  | ret a => ret (.ok a)
  | raise e => ret (.error e)
  | call r k => call r (fun ans => (k ans).attempt)

/-- Call a port and return its value, or raise its exception. -/
def request (r : Req) : Prog Req Resp ε (Resp r) :=
  call r fun
    | .ok v => ret v
    | .error e => raise e

def ofExcept : Except ε α → Prog Req Resp ε α
  | .ok a => ret a
  | .error e => raise e

theorem bind_eq (p : Prog Req Resp ε α) (f : α → Prog Req Resp ε β) : p >>= f = p.bind f := rfl

theorem pure_eq (a : α) : (pure a : Prog Req Resp ε α) = ret a := rfl

/-- The runs of a program: `Exec p h q` when `p`, its calls answered as `h`
lists in order, is left with `q`. -/
inductive Exec : Prog Req Resp ε α → List (Event Req Resp ε) → Prog Req Resp ε α → Prop
  | start (p : Prog Req Resp ε α) : Exec p [] p
  | step {p : Prog Req Resp ε α} {h : List (Event Req Resp ε)} {r : Req}
      {k : Except ε (Resp r) → Prog Req Resp ε α} (past : Exec p h (call r k))
      (ans : Except ε (Resp r)) : Exec p (h ++ [⟨r, ans⟩]) (k ans)

/-- Along every run from history `h`, each call satisfies `P` and the result
satisfies `Q`, both read against the history at that point. -/
def Conforms (P : List (Event Req Resp ε) → Req → Prop)
    (Q : List (Event Req Resp ε) → Except ε α → Prop) :
    List (Event Req Resp ε) → Prog Req Resp ε α → Prop
  | h, ret a => Q h (.ok a)
  | h, raise e => Q h (.error e)
  | h, call r k => P h r ∧ ∀ ans, Conforms P Q (h ++ [⟨r, ans⟩]) (k ans)

section
variable {P : List (Event Req Resp ε) → Req → Prop}

theorem conforms_bind {Q : List (Event Req Resp ε) → Except ε β → Prop}
    {h : List (Event Req Resp ε)} {p : Prog Req Resp ε α} {f : α → Prog Req Resp ε β} :
    Conforms P Q h (p >>= f) ↔
      Conforms P (fun h' res => match res with
        | .ok a => Conforms P Q h' (f a)
        | .error e => Q h' (.error e)) h p := by
  rw [bind_eq]
  induction p generalizing h with
  | ret a => rfl
  | raise e => rfl
  | call r k ih =>
    simp only [bind, Conforms]
    exact and_congr_right fun _ => forall_congr' fun ans => ih ans

theorem conforms_attempt {Q : List (Event Req Resp ε) → Except ε (Except ε α) → Prop}
    {h : List (Event Req Resp ε)} {p : Prog Req Resp ε α} :
    Conforms P Q h p.attempt ↔ Conforms P (fun h' res => Q h' (.ok res)) h p := by
  induction p generalizing h with
  | ret a => rfl
  | raise e => rfl
  | call r k ih =>
    simp only [attempt, Conforms]
    exact and_congr_right fun _ => forall_congr' fun ans => ih ans

theorem conforms_request {r : Req} {Q : List (Event Req Resp ε) → Except ε (Resp r) → Prop}
    {h : List (Event Req Resp ε)} :
    Conforms P Q h (request r) ↔ P h r ∧ ∀ ans, Q (h ++ [⟨r, ans⟩]) ans := by
  simp only [request, Conforms]
  refine and_congr_right fun _ => forall_congr' fun ans => ?_
  cases ans <;> rfl

theorem conforms_ofExcept {Q : List (Event Req Resp ε) → Except ε α → Prop}
    {h : List (Event Req Resp ε)} {x : Except ε α} :
    Conforms P Q h (ofExcept x) ↔ Q h x := by
  cases x <;> rfl

theorem Conforms.mono {P' : List (Event Req Resp ε) → Req → Prop}
    {Q Q' : List (Event Req Resp ε) → Except ε α → Prop}
    (hP : ∀ h r, P h r → P' h r) (hQ : ∀ h res, Q h res → Q' h res)
    {h : List (Event Req Resp ε)} {p : Prog Req Resp ε α} (c : Conforms P Q h p) :
    Conforms P' Q' h p := by
  induction p generalizing h with
  | ret a => exact hQ _ _ c
  | raise e => exact hQ _ _ c
  | call r k ih => exact ⟨hP _ _ c.1, fun ans => ih ans (c.2 ans)⟩

theorem conforms_exec {Q : List (Event Req Resp ε) → Except ε α → Prop}
    {p q : Prog Req Resp ε α} {h : List (Event Req Resp ε)} (c : Conforms P Q [] p)
    (run : Exec p h q) : Conforms P Q h q := by
  induction run with
  | start => exact c
  | step past ans ih => exact ih.2 ans

/-- Every call in the history of a run was made under the condition. -/
theorem conforms_past {Q : List (Event Req Resp ε) → Except ε α → Prop}
    {p q : Prog Req Resp ε α} {h : List (Event Req Resp ε)} (c : Conforms P Q [] p)
    (run : Exec p h q) {before after : List (Event Req Resp ε)} {e : Event Req Resp ε}
    (split : h = before ++ e :: after) : P before e.req := by
  induction run generalizing after with
  | start => simp at split
  | step past ans ih =>
    rcases List.eq_nil_or_concat after with rfl | ⟨init, last, rfl⟩
    · obtain ⟨rfl, same⟩ := List.append_inj' split rfl
      cases same
      exact (conforms_exec c past).1
    · rw [List.concat_eq_append, ← List.cons_append, ← List.append_assoc] at split
      exact ih (List.append_inj' split rfl).1

/-- Along every run from history `h`, each call satisfies `P` and each returned
value satisfies `R`; a run that raises owes nothing. -/
structure Ensures (P : List (Event Req Resp ε) → Req → Prop)
    (R : List (Event Req Resp ε) → α → Prop) (h : List (Event Req Resp ε))
    (p : Prog Req Resp ε α) : Prop where
  conforms : Conforms P (fun h' res => ∀ a, res = .ok a → R h' a) h p

theorem ensures_ret {R : List (Event Req Resp ε) → α → Prop} {h : List (Event Req Resp ε)}
    {a : α} (result : R h a) : Ensures P R h (ret a) := by
  constructor
  rintro _ ⟨⟩
  exact result

theorem ensures_raise {R : List (Event Req Resp ε) → α → Prop} {h : List (Event Req Resp ε)}
    {e : ε} : Ensures P R h (raise e) :=
  ⟨nofun⟩

theorem ensures_ofExcept {R : List (Event Req Resp ε) → α → Prop}
    {h : List (Event Req Resp ε)} {x : Except ε α} (result : ∀ a, x = .ok a → R h a) :
    Ensures P R h (ofExcept x) :=
  ⟨conforms_ofExcept.mpr result⟩

theorem ensures_bind {R : List (Event Req Resp ε) → β → Prop}
    {S : List (Event Req Resp ε) → α → Prop} {h : List (Event Req Resp ε)}
    {p : Prog Req Resp ε α} {f : α → Prog Req Resp ε β} (first : Ensures P S h p)
    (rest : ∀ h' a, S h' a → Ensures P R h' (f a)) : Ensures P R h (p >>= f) := by
  refine ⟨conforms_bind.mpr (Conforms.mono (fun _ _ => id) ?_ first.conforms)⟩
  intro h' res done
  cases res with
  | ok a => exact (rest h' a (done a rfl)).conforms
  | error e => exact nofun

/-- A call, followed by what is done with its value. -/
theorem ensures_request_bind {R : List (Event Req Resp ε) → β → Prop}
    {h : List (Event Req Resp ε)} {r : Req} {f : Resp r → Prog Req Resp ε β} (here : P h r)
    (rest : ∀ v, Ensures P R (h ++ [⟨r, .ok v⟩]) (f v)) : Ensures P R h (request r >>= f) := by
  refine ⟨conforms_bind.mpr (conforms_request.mpr ⟨here, fun ans => ?_⟩)⟩
  cases ans with
  | ok v => exact (rest v).conforms
  | error e => exact nofun

/-- A `try` block, followed by what is done with its value or exception. -/
theorem ensures_attempt_bind {R : List (Event Req Resp ε) → β → Prop}
    {h : List (Event Req Resp ε)} {p : Prog Req Resp ε α} {f : Except ε α → Prog Req Resp ε β}
    (block : Conforms P (fun h' res => Ensures P R h' (f res)) h p) :
    Ensures P R h (p.attempt >>= f) :=
  ⟨conforms_bind.mpr (conforms_attempt.mpr
    (block.mono (fun _ _ => id) fun _ _ rest => rest.conforms))⟩

theorem ensures_ite {R : List (Event Req Resp ε) → α → Prop} {h : List (Event Req Resp ε)}
    {c : Prop} [Decidable c] {p q : Prog Req Resp ε α} (yes : c → Ensures P R h p)
    (no : ¬ c → Ensures P R h q) : Ensures P R h (if c then p else q) := by
  split
  · rename_i holds; exact yes holds
  · rename_i fails; exact no fails

theorem Ensures.mono {R R' : List (Event Req Resp ε) → α → Prop}
    {h : List (Event Req Resp ε)} {p : Prog Req Resp ε α} (weaker : ∀ h' a, R h' a → R' h' a)
    (c : Ensures P R h p) : Ensures P R' h p :=
  ⟨c.conforms.mono (fun _ _ => id) fun _ _ done a e => weaker _ _ (done a e)⟩

end

/-- The first `n` calls of a program whose ports answer by `oracle`. -/
def replay (oracle : (r : Req) → Except ε (Resp r)) :
    Nat → List (Event Req Resp ε) → Prog Req Resp ε α →
    List (Event Req Resp ε) × Prog Req Resp ε α
  | n + 1, h, call r k => replay oracle n (h ++ [⟨r, oracle r⟩]) (k (oracle r))
  | _, h, p => (h, p)

theorem replay_exec (oracle : (r : Req) → Except ε (Resp r)) {p q : Prog Req Resp ε α}
    {h : List (Event Req Resp ε)} (past : Exec p h q) (n : Nat) :
    Exec p (replay oracle n h q).1 (replay oracle n h q).2 := by
  induction n generalizing h q with
  | zero => cases q <;> exact past
  | succ n ih =>
    cases q with
    | ret a => exact past
    | raise e => exact past
    | call r k => exact ih (past.step (oracle r))

/-- Rename the requests of a program, reading the answers back. -/
def embed {Req' : Type} {Resp' : Req' → Type} (inj : Req → Req')
    (back : ∀ r, Resp' (inj r) → Resp r) : Prog Req Resp ε α → Prog Req' Resp' ε α
  | ret a => ret a
  | raise e => raise e
  | call r k => call (inj r) (fun ans => (k (ans.map (back r))).embed inj back)

/-- An embedded program keeps its conditions, read in the part of the history that is its
own, as far as an invariant of the whole history carries them over. -/
theorem conforms_embed {Req' : Type} {Resp' : Req' → Type} {inj : Req → Req'}
    {back : ∀ r, Resp' (inj r) → Resp r} {P : List (Event Req Resp ε) → Req → Prop}
    {Q : List (Event Req Resp ε) → Except ε α → Prop}
    {P' : List (Event Req' Resp' ε) → Req' → Prop}
    {Q' : List (Event Req' Resp' ε) → Except ε α → Prop}
    (view : List (Event Req' Resp' ε) → List (Event Req Resp ε))
    (snoc : ∀ h r ans, view (h ++ [⟨inj r, ans⟩]) = view h ++ [⟨r, ans.map (back r)⟩])
    (inv : List (Event Req' Resp' ε) → Prop)
    (keeps : ∀ h r ans, inv h → inv (h ++ [⟨inj r, ans⟩]))
    (made : ∀ h r, inv h → P (view h) r → P' h (inj r))
    (done : ∀ h res, inv h → Q (view h) res → Q' h res) {h : List (Event Req' Resp' ε)}
    {p : Prog Req Resp ε α} (here : inv h) (c : Conforms P Q (view h) p) :
    Conforms P' Q' h (p.embed inj back) := by
  induction p generalizing h with
  | ret a => exact done h _ here c
  | raise e => exact done h _ here c
  | call r k ih =>
    refine ⟨made h r here c.1, fun ans => ih _ (keeps h r ans here) ?_⟩
    rw [snoc]
    exact c.2 _

/-- An embedded program calls nothing but renamed requests. -/
theorem ensures_embed {Req' : Type} {Resp' : Req' → Type} {inj : Req → Req'}
    {back : ∀ r, Resp' (inj r) → Resp r} {P' : List (Event Req' Resp' ε) → Req' → Prop}
    (made : ∀ h r, P' h (inj r)) (h : List (Event Req' Resp' ε)) (p : Prog Req Resp ε α) :
    Ensures P' (fun _ _ => True) h (p.embed inj back) := by
  constructor
  induction p generalizing h with
  | ret a => exact fun _ _ => trivial
  | raise e => exact fun _ _ => trivial
  | call r k ih => exact ⟨made h r, fun ans => ih _ _⟩

/-- The runs of a program that nothing interrupts, from state `s₀`. -/
inductive Path {σ : Type} (answers : σ → (r : Req) → Except ε (Resp r) → σ → Prop)
    (p : Prog Req Resp ε α) (s₀ : σ) : List (Event Req Resp ε) → Prog Req Resp ε α → σ → Prop
  | start : Path answers p s₀ [] p s₀
  | step {h : List (Event Req Resp ε)} {r : Req} {k : Except ε (Resp r) → Prog Req Resp ε α}
      {ans : Except ε (Resp r)} {s s' : σ} (past : Path answers p s₀ h (call r k) s)
      (answered : answers s r ans s') : Path answers p s₀ (h ++ [⟨r, ans⟩]) (k ans) s'

/-- The first `n` calls of a program, answered by a handler that carries the state. -/
def drive {σ : Type} (handle : σ → (r : Req) → Except ε (Resp r) × σ) :
    Nat → List (Event Req Resp ε) → Prog Req Resp ε α → σ →
    List (Event Req Resp ε) × Prog Req Resp ε α × σ
  | n + 1, h, call r k, s =>
    drive handle n (h ++ [⟨r, (handle s r).1⟩]) (k (handle s r).1) (handle s r).2
  | _, h, p, s => (h, p, s)

theorem drive_path {σ : Type} {answers : σ → (r : Req) → Except ε (Resp r) → σ → Prop}
    {handle : σ → (r : Req) → Except ε (Resp r) × σ}
    (answered : ∀ s r, answers s r (handle s r).1 (handle s r).2) {p q : Prog Req Resp ε α}
    {s₀ s : σ} {h : List (Event Req Resp ε)} (past : Path answers p s₀ h q s) (n : Nat) :
    Path answers p s₀ (drive handle n h q s).1 (drive handle n h q s).2.1
      (drive handle n h q s).2.2 := by
  induction n generalizing h q s with
  | zero => cases q <;> exact past
  | succ n ih =>
    cases q with
    | ret a => exact past
    | raise e => exact past
    | call r k => exact ih (past.step (answered s r))

theorem Path.exec {σ : Type} {answers : σ → (r : Req) → Except ε (Resp r) → σ → Prop}
    {p q : Prog Req Resp ε α} {s₀ s : σ} {h : List (Event Req Resp ε)}
    (path : Path answers p s₀ h q s) : Exec p h q := by
  induction path with
  | start => exact .start p
  | step _ _ ih => exact ih.step _

end Prog

end Base
