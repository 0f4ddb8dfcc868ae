import Autonoesis.Base.Fence

/-!
# Calls that are counted

A program makes at most so many calls of one kind, whatever it is answered. The bound of a
program is made of those of its parts, and every thread that runs the program keeps it. Where only
one thread makes such calls at all, its bound is that of the whole pool.
-/

namespace Base

namespace Prog

variable {Req : Type} {Resp : Req → Type} {ε α β : Type} {counted : Req → Bool} {n m : Nat}

/-- The program has at most `n` counted calls left on every path. -/
def Within (counted : Req → Bool) : Nat → Prog Req Resp ε α → Prop
  | n, call r k => (counted r).toNat ≤ n ∧ ∀ ans, Within counted (n - (counted r).toNat) (k ans)
  | _, _ => True

/-- At most `n` of the calls are of the counted kind, however the program is answered. -/
structure CallsAtMost (counted : Req → Bool) (n : Nat) (p : Prog Req Resp ε α) : Prop where
  within : Within counted n p

theorem CallsAtMost.mono {p : Prog Req Resp ε α} (bound : CallsAtMost counted n p)
    (more : n ≤ m) : CallsAtMost counted m p := by
  obtain ⟨within⟩ := bound
  constructor
  induction p generalizing n m with
  | ret | raise => trivial
  | call r k ih =>
    refine ⟨Nat.le_trans within.1 more, fun ans => ?_⟩
    exact ih ans (Nat.sub_le_sub_right more _) (within.2 ans)

theorem CallsAtMost.bind {p : Prog Req Resp ε α} {f : α → Prog Req Resp ε β}
    (first : CallsAtMost counted n p) (rest : ∀ a, CallsAtMost counted m (f a)) :
    CallsAtMost counted (n + m) (p >>= f) := by
  obtain ⟨within⟩ := first
  constructor
  induction p generalizing n with
  | ret a => exact ((rest a).mono (Nat.le_add_left m n)).within
  | raise e => trivial
  | call r k ih =>
    refine ⟨Nat.le_trans within.1 (Nat.le_add_right n m), fun ans => ?_⟩
    rw [Nat.sub_add_comm within.1]
    exact ih ans (within.2 ans)

theorem CallsAtMost.attempt {p : Prog Req Resp ε α} (bound : CallsAtMost counted n p) :
    CallsAtMost counted n p.attempt := by
  obtain ⟨within⟩ := bound
  constructor
  induction p generalizing n with
  | ret | raise => trivial
  | call r k ih => exact ⟨within.1, fun ans => ih ans (within.2 ans)⟩

theorem callsAtMost_pure {a : α} : CallsAtMost counted n (pure a : Prog Req Resp ε α) :=
  ⟨trivial⟩

theorem callsAtMost_ofExcept {x : Except ε α} :
    CallsAtMost counted n (ofExcept x : Prog Req Resp ε α) := by
  cases x <;> exact ⟨trivial⟩

theorem callsAtMost_request {r : Req} :
    CallsAtMost counted (counted r).toNat (request r : Prog Req Resp ε (Resp r)) := by
  refine ⟨Nat.le_refl _, fun ans => ?_⟩
  cases ans <;> trivial

/-- A call that is not counted, and what follows. -/
theorem CallsAtMost.after {r : Req} {f : Resp r → Prog Req Resp ε β} (free : counted r = false)
    (rest : ∀ v, CallsAtMost counted n (f v)) : CallsAtMost counted n (request r >>= f) := by
  have bound := CallsAtMost.bind callsAtMost_request rest
  rw [free, Bool.toNat_false, Nat.zero_add] at bound
  exact bound

/-- A step that calls nothing, and what follows. -/
theorem CallsAtMost.afterExcept {x : Except ε α} {f : α → Prog Req Resp ε β}
    (rest : ∀ a, CallsAtMost counted n (f a)) : CallsAtMost counted n (ofExcept x >>= f) := by
  have bound := CallsAtMost.bind (callsAtMost_ofExcept (n := 0) (x := x)) rest
  rw [Nat.zero_add] at bound
  exact bound

/-- What a run has called counts against what it may still call. -/
theorem CallsAtMost.exec {p q : Prog Req Resp ε α} {h : List (Event Req Resp ε)}
    (bound : CallsAtMost counted n p) (run : Exec p h q) :
    ∃ left, h.countP (fun e => counted e.req) + left ≤ n ∧ CallsAtMost counted left q := by
  induction run with
  | start => exact ⟨n, by simp, bound⟩
  | @step h r k past ans ih =>
    obtain ⟨left, spent, here, rest⟩ := ih
    refine ⟨left - (counted r).toNat, ?_, ⟨rest ans⟩⟩
    rw [List.countP_append, List.countP_singleton]
    cases again : counted r with
    | false =>
      simp only [Bool.toNat_false, Nat.sub_zero]
      exact spent
    | true =>
      simp only [again, Bool.toNat_true, if_true] at here ⊢
      omega

/-- A run only adds to its history. -/
theorem Conforms.extends {P : List (Event Req Resp ε) → Req → Prop}
    {Q : List (Event Req Resp ε) → Except ε α → Prop} {h : List (Event Req Resp ε)}
    {p : Prog Req Resp ε α} (c : Conforms P Q h p) :
    Conforms P (fun h' res => h <+: h' ∧ Q h' res) h p := by
  induction p generalizing h with
  | ret a => exact ⟨List.prefix_refl h, c⟩
  | raise e => exact ⟨List.prefix_refl h, c⟩
  | call r k ih =>
    refine ⟨c.1, fun ans => (ih ans (c.2 ans)).mono (fun _ _ => id) ?_⟩
    rintro h' res ⟨later, done⟩
    exact ⟨(List.prefix_append h _).trans later, done⟩

end Prog

namespace Pool

variable {σ Req : Type} {Resp : Req → Type} {ε α : Type} {w : Pool σ Req Resp ε α}

theorem sum_le_of_one {ns : List Nat} {n : Nat} (each : ∀ (i : Nat) a, ns[i]? = some a → a ≤ n)
    (one : ∀ (i j : Nat) a b, ns[i]? = some a → ns[j]? = some b → 0 < a → 0 < b → i = j) :
    ns.sum ≤ n := by
  induction ns with
  | nil => exact Nat.zero_le n
  | cons a rest ih =>
    rw [List.sum_cons]
    rcases Nat.eq_zero_or_pos a with rfl | some_
    · rw [Nat.zero_add]
      refine ih (fun i b here => each (i + 1) b here) fun i j b c here there first second => ?_
      exact Nat.succ.inj (one (i + 1) (j + 1) b c here there first second)
    · have none : rest.sum = 0 := by
        refine List.sum_eq_zero_iff_forall_eq_nat.mpr fun b there => ?_
        obtain ⟨i, here⟩ := List.mem_iff_getElem?.mp there
        by_contra more
        have same := one 0 (i + 1) a b rfl here some_ (Nat.pos_of_ne_zero more)
        exact absurd same (Nat.succ_ne_zero i).symm
      rw [none, Nat.add_zero]
      exact each 0 a rfl

/-- Where one thread makes all the counted calls, its bound is that of the pool. -/
theorem countP_le_of_one {f : Event Req Resp ε → Bool} {n : Nat}
    (each : ∀ t ∈ w.threads, t.past.countP f ≤ n)
    (one : ∀ (i j : Nat) (t u : Thread Req Resp ε α), w.threads[i]? = some t →
      w.threads[j]? = some u → 0 < t.past.countP f →
        0 < u.past.countP f → i = j) : w.events.countP f ≤ n := by
  rw [events, List.countP_flatMap]
  refine sum_le_of_one ?_ ?_
  · intro i a here
    rw [List.getElem?_map, Option.map_eq_some_iff] at here
    obtain ⟨t, there, rfl⟩ := here
    exact each t (List.mem_of_getElem? there)
  · intro i j a b here there
    rw [List.getElem?_map, Option.map_eq_some_iff] at here there
    obtain ⟨t, here, rfl⟩ := here
    obtain ⟨u, there, rfl⟩ := there
    exact one i j t u here there

end Pool

end Base
