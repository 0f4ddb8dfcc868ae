import Mathlib.Data.List.Basic

/-!
# Objects with a status, a version and a log

Calls on a value return a new value or raise. Some of them are moves: they take the value to a
successor of its status, write one entry about it and raise the version by one. `Lifecycle.sound`
follows a value through any sequence of calls.
-/

namespace Base

/-- The entries lead from one status to another, an edge each. -/
inductive Path {σ ε : Type} (edge : σ → ε → σ → Prop) : σ → List ε → σ → Prop
  | nil (s : σ) : Path edge s [] s
  | cons {s t u : σ} {e : ε} {log : List ε} (first : edge s e t) (rest : Path edge t log u) :
      Path edge s (e :: log) u

/-- How calls act on values of one kind. -/
structure Lifecycle (α ι σ ε δ : Type) where
  call : α → ι → Except δ α
  status : α → σ
  version : α → Int
  log : α → List ε
  successors : σ → List σ
  /-- The entry tells of the step from the one status to the other. -/
  tells : σ → ε → σ → Prop
  isMove : ι → Bool
  moves : ∀ {a a' : α} {c : ι}, call a c = .ok a' → isMove c = true →
    status a' ∈ successors (status a) ∧ version a' = version a + 1 ∧
      ∃ e, tells (status a) e (status a') ∧ log a' = log a ++ [e]
  stays : ∀ {a a' : α} {c : ι}, call a c = .ok a' → isMove c = false →
    successors (status a) ≠ [] ∧ status a' = status a ∧ version a' = version a ∧ log a' = log a

namespace Lifecycle
variable {α ι σ ε δ : Type} (L : Lifecycle α ι σ ε δ)

def Edge (s : σ) (e : ε) (t : σ) : Prop := t ∈ L.successors s ∧ L.tells s e t

/-- The value a caller holds after a call, raised or not. -/
def attempt (a : α) (c : ι) : α :=
  match L.call a c with
  | .ok a' => a'
  | .error _ => a

def after (a : α) (calls : List ι) : α := calls.foldl L.attempt a

/-- How many of the calls are moves that succeed. -/
def moved : α → List ι → Nat
  | _, [] => 0
  | a, c :: rest => (if L.isMove c && (L.call a c).isOk then 1 else 0) + moved (L.attempt a c) rest

variable {L}

theorem attempt_ok {a a' : α} {c : ι} (ran : L.call a c = .ok a') : L.attempt a c = a' := by
  rw [attempt, ran]

theorem attempt_error {a : α} {c : ι} {e : δ} (raised : L.call a c = .error e) :
    L.attempt a c = a := by
  rw [attempt, raised]

theorem after_append (a : α) (calls more : List ι) :
    L.after a (calls ++ more) = L.after (L.after a calls) more :=
  List.foldl_append

/-- An invariant of the successful calls is one of all calls. -/
theorem inv_after {Inv : α → Prop} (keeps : ∀ {a a' c}, Inv a → L.call a c = .ok a' → Inv a') {a : α}
    (inv : Inv a) (calls : List ι) : Inv (L.after a calls) := by
  induction calls generalizing a with
  | nil => exact inv
  | cons c rest ih =>
    apply ih
    cases ran : L.call a c with
    | ok a' =>
      rw [attempt_ok ran]
      exact keeps inv ran
    | error e =>
      rw [attempt_error ran]
      exact inv

/-- The log of a value that has gone through some calls, its version, and what calls cannot do. -/
structure Sound (L : Lifecycle α ι σ ε δ) (a : α) (calls : List ι) (initial : σ)
    (opening : List ε) : Prop where
  path : ∃ entries, L.log (L.after a calls) = opening ++ entries ∧
    Path L.Edge initial entries (L.status (L.after a calls)) ∧ entries.length = L.moved a calls
  version : L.version (L.after a calls) = L.version a + L.moved a calls
  unchanged : ∀ c e, L.call (L.after a calls) c = .error e →
    L.attempt (L.after a calls) c = L.after a calls
  stuck : L.successors (L.status (L.after a calls)) = [] →
    ∀ c, ∃ e, L.call (L.after a calls) c = .error e

/-- The moves of a history, written as entries. -/
theorem leads_after (a : α) (calls : List ι) :
    ∃ entries, L.log (L.after a calls) = L.log a ++ entries ∧
      Path L.Edge (L.status a) entries (L.status (L.after a calls)) ∧
      entries.length = L.moved a calls ∧
      L.version (L.after a calls) = L.version a + L.moved a calls := by
  induction calls generalizing a with
  | nil =>
    refine ⟨[], ?_, .nil _, rfl, ?_⟩
    · simp [after]
    · simp [after, moved]
  | cons c rest ih =>
    obtain ⟨entries, logged, path, count, version⟩ := ih (L.attempt a c)
    change L.log (L.after a (c :: rest)) = _ at logged
    change Path L.Edge _ entries (L.status (L.after a (c :: rest))) at path
    change L.version (L.after a (c :: rest)) = _ at version
    rw [moved]
    cases ran : L.call a c with
    | error e =>
      rw [attempt_error ran] at logged path count version ⊢
      refine ⟨entries, logged, path, ?_, ?_⟩
      · simpa [Except.isOk, Except.toBool] using count
      · simpa [Except.isOk, Except.toBool] using version
    | ok a' =>
      rw [attempt_ok ran] at logged path count version ⊢
      cases move : L.isMove c with
      | false =>
        obtain ⟨_, status, same, log⟩ := L.stays ran move
        rw [log] at logged
        rw [status] at path
        rw [same] at version
        exact ⟨entries, logged, path, by simpa using count, by simpa using version⟩
      | true =>
        obtain ⟨legal, next, e, told, log⟩ := L.moves ran move
        rw [log, List.append_assoc] at logged
        refine ⟨e :: entries, logged, .cons ⟨legal, told⟩ path, ?_, ?_⟩
        · simp only [Except.isOk, Except.toBool, Bool.and_self, if_true, List.length_cons]
          omega
        · simp only [Except.isOk, Except.toBool, Bool.and_self, if_true]
          push_cast
          omega

theorem call_stuck {a : α} (none : L.successors (L.status a) = []) (c : ι) :
    ∃ e, L.call a c = .error e := by
  cases ran : L.call a c with
  | error e => exact ⟨e, rfl⟩
  | ok a' =>
    cases move : L.isMove c with
    | false => exact absurd none (L.stays ran move).1
    | true =>
      have legal := (L.moves ran move).1
      rw [none] at legal
      cases legal

theorem sound {a : α} {initial : σ} {opening : List ε} (status : L.status a = initial)
    (log : L.log a = opening) (calls : List ι) : L.Sound a calls initial opening := by
  obtain ⟨entries, logged, path, count, version⟩ := L.leads_after a calls
  rw [log] at logged
  rw [status] at path
  exact ⟨⟨entries, logged, path, count⟩, version, fun _ _ => attempt_error, call_stuck⟩

end Lifecycle

end Base
