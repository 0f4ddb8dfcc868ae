import Mathlib.Logic.Basic

/-!
# Transactions

A computation that reads and writes a state and may raise. A transaction that raises has
no state of its own to leave behind: whoever runs it keeps the state it started from.

The `_ok` lemmas invert a transaction that returned, one for each way of building one; with
them a program is taken apart by `simp only` into what it read and what it wrote.
-/

namespace Base

/-- A transaction over `σ` that may raise `ε`. -/
abbrev Tx (σ ε α : Type) := StateT σ (Except ε) α

namespace Tx

variable {σ ε α β : Type}

def raise (e : ε) : Tx σ ε α := fun _ => .error e

def ofExcept (x : Except ε α) : Tx σ ε α := fun s => x.map (·, s)

/-- Raise `e` when `c` holds. -/
def check (c : Bool) (e : ε) : Tx σ ε Unit := fun s => if c then .error e else .ok ((), s)

def read (f : σ → α) : Tx σ ε α := fun s => .ok (f s, s)

def write (f : σ → σ) : Tx σ ε Unit := fun s => .ok ((), f s)

/-- Run a transaction on its own: the state is kept as it was when it raises. -/
def commit (x : Tx σ ε α) (s : σ) : Except ε α × σ :=
  match x s with
  | .ok (a, s') => (.ok a, s')
  | .error e => (.error e, s)

/-- Run a transaction on its own and, when it returns, go on from its value and state. -/
def andThen (x : Tx σ ε α) (rest : α → σ → Except ε β × σ) (s : σ) : Except ε β × σ :=
  match x.commit s with
  | (.ok a, s') => rest a s'
  | (.error e, s') => (.error e, s')

variable {s : σ} {r : α × σ}

theorem bind_ok {x : Tx σ ε α} {f : α → Tx σ ε β} {r : β × σ} :
    (x >>= f) s = .ok r ↔ ∃ a s', x s = .ok (a, s') ∧ f a s' = .ok r := by
  simp only [bind, StateT.bind]
  cases h : x s with
  | error e => simp [Except.bind]
  | ok p =>
    obtain ⟨a, s'⟩ := p
    constructor
    · intro ran
      exact ⟨a, s', rfl, ran⟩
    · rintro ⟨_, _, ⟨⟩, ran⟩
      exact ran

/-- A first part that does the same here, and a rest that goes on the same. -/
theorem bind_at {x y : Tx σ ε α} {f g : α → Tx σ ε β} (first : x s = y s)
    (rest : ∀ a s', y s = .ok (a, s') → f a s' = g a s') : (x >>= f) s = (y >>= g) s := by
  simp only [bind, StateT.bind, first]
  cases ran : y s with
  | error e => rfl
  | ok p => exact rest p.1 p.2 ran

/-- A part that returns hands its value and state on. -/
theorem bind_run {x : Tx σ ε α} {f : α → Tx σ ε β} {a : α} {s' : σ} (ran : x s = .ok (a, s')) :
    (x >>= f) s = f a s' := by
  simp only [bind, StateT.bind, ran, Except.bind]

theorem pure_run (a : α) : (pure a : Tx σ ε α) s = .ok (a, s) := rfl

theorem pure_ok {a : α} : (pure a : Tx σ ε α) s = .ok r ↔ r = (a, s) := by
  rw [pure_run, Except.ok.injEq, eq_comm]

theorem raise_ok {e : ε} : (raise e : Tx σ ε α) s = .ok r ↔ False := by
  simp [raise]

theorem ofExcept_ok {x : Except ε α} : (ofExcept x : Tx σ ε α) s = .ok r ↔
    x = .ok r.1 ∧ r.2 = s := by
  obtain ⟨a, s'⟩ := r
  cases x with
  | error e => simp [ofExcept, Except.map]
  | ok b => simp [ofExcept, Except.map, eq_comm]

theorem check_ok {c : Bool} {e : ε} {r : Unit × σ} :
    (check c e : Tx σ ε Unit) s = .ok r ↔ c = false ∧ r.2 = s := by
  obtain ⟨⟨⟩, s'⟩ := r
  cases c <;> simp [check, eq_comm]

theorem read_ok {f : σ → α} : (read f : Tx σ ε α) s = .ok r ↔ r = (f s, s) := by
  simp only [read, Except.ok.injEq, eq_comm]

theorem write_ok {f : σ → σ} {r : Unit × σ} : (write f : Tx σ ε Unit) s = .ok r ↔ r.2 = f s := by
  obtain ⟨⟨⟩, s'⟩ := r
  simp [write, eq_comm]

theorem ite_ok {c : Prop} [Decidable c] {x y : Tx σ ε α} :
    (if c then x else y) s = .ok r ↔ (c ∧ x s = .ok r) ∨ (¬ c ∧ y s = .ok r) := by
  split <;> simp_all

theorem bind_check {c : Bool} {e : ε} {f : Unit → Tx σ ε β} (passes : c = false) :
    ((check c e : Tx σ ε Unit) >>= f) s = f () s :=
  bind_run (check_ok.mpr ⟨passes, rfl⟩ : (check c e : Tx σ ε Unit) s = .ok ((), s))

theorem bind_ofExcept {x : Except ε α} {f : α → Tx σ ε β} {a : α} (returns : x = .ok a) :
    ((ofExcept x : Tx σ ε α) >>= f) s = f a s :=
  bind_run (ofExcept_ok.mpr ⟨returns, rfl⟩ : (ofExcept x : Tx σ ε α) s = .ok (a, s))

/-- What a transaction leaves when run on its own. -/
theorem commit_cases (x : Tx σ ε α) (s : σ) :
    (∃ e, x.commit s = (.error e, s)) ∨ ∃ a s', x s = .ok (a, s') ∧ x.commit s = (.ok a, s') := by
  unfold commit
  cases h : x s with
  | error e => exact Or.inl ⟨e, rfl⟩
  | ok p => exact Or.inr ⟨p.1, p.2, rfl, rfl⟩

/-- A transaction that leaves `f` of the state as it was, when it returns. -/
structure Keeps {γ : Type} (f : σ → γ) (x : Tx σ ε α) : Prop where
  eq : ∀ {s a s'}, x s = .ok (a, s') → f s' = f s

section
variable {γ : Type} {f : σ → γ}

theorem keeps_bind {x : Tx σ ε α} {k : α → Tx σ ε β} (first : Keeps f x)
    (rest : ∀ a, Keeps f (k a)) : Keeps f (x >>= k) := by
  constructor
  intro s b s' h
  obtain ⟨a, s₁, ran, next⟩ := bind_ok.mp h
  rw [(rest a).eq next, first.eq ran]

theorem keeps_pure (a : α) : Keeps f (pure a : Tx σ ε α) := by
  constructor
  intro s b s' h
  cases pure_ok.mp h
  rfl

theorem keeps_raise (e : ε) : Keeps f (raise e : Tx σ ε α) :=
  ⟨fun h => (raise_ok.mp h).elim⟩

theorem keeps_ofExcept (x : Except ε α) : Keeps f (ofExcept x : Tx σ ε α) :=
  ⟨fun h => congrArg f (ofExcept_ok.mp h).2⟩

theorem keeps_check (c : Bool) (e : ε) : Keeps f (check c e : Tx σ ε Unit) :=
  ⟨fun h => congrArg f (check_ok.mp h).2⟩

theorem keeps_read (g : σ → α) : Keeps f (read g : Tx σ ε α) := by
  constructor
  intro s b s' h
  cases read_ok.mp h
  rfl

theorem keeps_write {g : σ → σ} (same : ∀ s, f (g s) = f s) : Keeps f (write g : Tx σ ε Unit) := by
  constructor
  intro s b s' h
  cases write_ok.mp h
  exact same s

theorem keeps_ite {c : Prop} [Decidable c] {x y : Tx σ ε α} (yes : Keeps f x) (no : Keeps f y) :
    Keeps f (if c then x else y) := by
  split
  · exact yes
  · exact no

theorem keeps_mapM {k : β → Tx σ ε α} (each : ∀ b, Keeps f (k b)) (items : List β) :
    Keeps f (items.mapM k) := by
  induction items with
  | nil => exact keeps_pure []
  | cons b rest ih =>
    rw [List.mapM_cons]
    exact keeps_bind (each b) fun _ => keeps_bind ih fun _ => keeps_pure _

theorem keeps_forM {k : β → Tx σ ε PUnit} (each : ∀ b, Keeps f (k b)) (items : List β) :
    Keeps f (items.forM k) := by
  induction items with
  | nil => exact keeps_pure _
  | cons b rest ih => exact keeps_bind (each b) fun _ => ih

theorem Keeps.commit {x : Tx σ ε α} (k : Keeps f x) (s : σ) : f (x.commit s).2 = f s := by
  obtain ⟨e, failed⟩ | ⟨a, s', ran, done⟩ := commit_cases x s
  · rw [failed]
  · rw [done]
    exact k.eq ran

theorem andThen_keeps {x : Tx σ ε α} {rest : α → σ → Except ε β × σ} (first : Keeps f x)
    (second : ∀ a s, f (rest a s).2 = f s) (s : σ) : f (x.andThen rest s).2 = f s := by
  unfold andThen
  obtain ⟨e, failed⟩ | ⟨a, s', ran, done⟩ := commit_cases x s
  · rw [failed]
  · rw [done]
    exact (second a s').trans (first.eq ran)

end

theorem forM_returns {k : β → Tx σ ε PUnit} {items : List β}
    (each : ∀ b ∈ items, k b s = .ok (⟨⟩, s)) : items.forM k s = .ok (⟨⟩, s) := by
  induction items with
  | nil => rfl
  | cons b rest ih =>
    refine bind_ok.mpr ⟨⟨⟩, s, each b List.mem_cons_self, ih fun c there => ?_⟩
    exact each c (List.mem_cons_of_mem b there)

/-- A list of reads that all returned. -/
theorem of_forM {k : β → Tx σ ε PUnit} (reads : ∀ b, Keeps (fun s => s) (k b)) {items : List β}
    {r : PUnit × σ} (ran : items.forM k s = .ok r) :
    r.2 = s ∧ ∀ b ∈ items, k b s = .ok (⟨⟩, s) := by
  induction items with
  | nil =>
    cases ran
    exact ⟨rfl, fun _ there => by cases there⟩
  | cons b rest ih =>
    obtain ⟨_, s₁, first, others⟩ := bind_ok.mp ran
    cases (reads b).eq first
    obtain ⟨same, each⟩ := ih others
    refine ⟨same, fun c there => ?_⟩
    rcases List.mem_cons.mp there with rfl | later
    · exact first
    · exact each c later

theorem mapM_returns {k : β → Tx σ ε α} {f : β → α} {items : List β}
    (each : ∀ b ∈ items, k b s = .ok (f b, s)) : items.mapM k s = .ok (items.map f, s) := by
  induction items with
  | nil => rfl
  | cons b rest ih =>
    rw [List.mapM_cons]
    refine bind_ok.mpr ⟨f b, s, each b List.mem_cons_self, bind_ok.mpr ⟨rest.map f, s, ?_, rfl⟩⟩
    exact ih fun c there => each c (List.mem_cons_of_mem b there)

/-- Reading by the keys of some items gives the items. -/
theorem mapM_keys_returns {k : β → Tx σ ε α} {key : α → β} {items : List α}
    (each : ∀ a ∈ items, k (key a) s = .ok (a, s)) :
    (items.map key).mapM k s = .ok (items, s) := by
  induction items with
  | nil => rfl
  | cons a rest ih =>
    rw [List.map_cons, List.mapM_cons]
    refine bind_ok.mpr ⟨a, s, each a List.mem_cons_self, bind_ok.mpr ⟨rest, s, ?_, rfl⟩⟩
    exact ih fun c there => each c (List.mem_cons_of_mem a there)

/-- What a list of reads returned was read one by one. -/
theorem mem_of_mapM {k : β → Tx σ ε α} (reads : ∀ b, Keeps (fun s => s) (k b)) {items : List β}
    {found : List α} {s' : σ} (ran : items.mapM k s = .ok (found, s')) {a : α}
    (there : a ∈ found) : ∃ b ∈ items, k b s = .ok (a, s) := by
  induction items generalizing found s' with
  | nil =>
    cases ran
    cases there
  | cons b rest ih =>
    rw [List.mapM_cons] at ran
    obtain ⟨first, s₁, read, ran⟩ := bind_ok.mp ran
    obtain ⟨others, s₂, reading, done⟩ := bind_ok.mp ran
    cases (reads b).eq read
    cases pure_ok.mp done
    rcases List.mem_cons.mp there with rfl | later
    · exact ⟨b, List.mem_cons_self, read⟩
    · obtain ⟨c, listed, had⟩ := ih reading later
      exact ⟨c, List.mem_cons_of_mem b listed, had⟩

/-! ## Invariants of a transaction -/

/-- Started in a state that satisfies `I`, the transaction leaves one that does, and what it
returns satisfies `Q`. -/
structure Under (I : σ → Prop) (x : Tx σ ε α) (Q : α → Prop) : Prop where
  run : ∀ {s a s'}, I s → x s = .ok (a, s') → I s' ∧ Q a

section
variable {I : σ → Prop} {Q : α → Prop} {R : β → Prop}

theorem Under.mono {Q' : α → Prop} {x : Tx σ ε α} (under : Under I x Q)
    (weaker : ∀ a, Q a → Q' a) : Under I x Q' :=
  ⟨fun inv ran => ⟨(under.run inv ran).1, weaker _ (under.run inv ran).2⟩⟩

theorem under_bind {x : Tx σ ε α} {k : α → Tx σ ε β} (first : Under I x Q)
    (rest : ∀ a, Q a → Under I (k a) R) : Under I (x >>= k) R := by
  constructor
  intro s b s' inv ran
  obtain ⟨a, s₁, before, after⟩ := bind_ok.mp ran
  obtain ⟨still, value⟩ := first.run inv before
  exact (rest a value).run still after

theorem Keeps.under {γ : Type} {f : σ → γ} {v : γ} {x : Tx σ ε α} (keeps : Keeps f x) :
    Under (fun s => f s = v) x fun _ => True :=
  ⟨fun inv ran => ⟨(keeps.eq ran).trans inv, trivial⟩⟩

/-- A part that leaves `f` of the state alone and whose value does not matter. -/
theorem Keeps.under_bind {γ : Type} {f : σ → γ} {v : γ} {x : Tx σ ε α} {k : α → Tx σ ε β}
    (first : Keeps f x) (rest : ∀ a, Under (fun s => f s = v) (k a) R) :
    Under (fun s => f s = v) (x >>= k) R :=
  Tx.under_bind first.under fun a _ => rest a

/-- A part that only reads and whose value does not matter. -/
theorem Keeps.skip {x : Tx σ ε α} {k : α → Tx σ ε β} (first : Keeps (fun s => s) x)
    (rest : ∀ a, Under I (k a) R) : Under I (x >>= k) R := by
  constructor
  intro s b s' inv ran
  obtain ⟨a, s₁, before, after⟩ := bind_ok.mp ran
  cases first.eq before
  exact (rest a).run inv after

theorem under_pure {a : α} (value : Q a) : Under I (pure a : Tx σ ε α) Q := by
  constructor
  intro s b s' inv ran
  cases pure_ok.mp ran
  exact ⟨inv, value⟩

theorem under_raise (e : ε) : Under I (raise e : Tx σ ε α) Q :=
  ⟨fun _ ran => (raise_ok.mp ran).elim⟩

theorem under_ofExcept {x : Except ε α} (value : ∀ a, x = .ok a → Q a) :
    Under I (ofExcept x : Tx σ ε α) Q := by
  constructor
  intro s a s' inv ran
  obtain ⟨returned, same⟩ := ofExcept_ok.mp ran
  cases same
  exact ⟨inv, value a returned⟩

theorem under_check {c : Bool} {e : ε} {Q : Unit → Prop} (value : c = false → Q ()) :
    Under I (check c e : Tx σ ε Unit) Q := by
  constructor
  intro s a s' inv ran
  obtain ⟨passed, same⟩ := check_ok.mp ran
  cases same
  exact ⟨inv, value passed⟩

theorem under_read {g : σ → α} (value : ∀ s, I s → Q (g s)) : Under I (read g : Tx σ ε α) Q := by
  constructor
  intro s a s' inv ran
  cases read_ok.mp ran
  exact ⟨inv, value s inv⟩

theorem under_write {g : σ → σ} {Q : Unit → Prop} (same : ∀ s, I s → I (g s)) (value : Q ()) :
    Under I (write g : Tx σ ε Unit) Q := by
  constructor
  intro s a s' inv ran
  cases write_ok.mp ran
  exact ⟨same s inv, value⟩

theorem under_ite {c : Prop} [Decidable c] {x y : Tx σ ε α} (yes : c → Under I x Q)
    (no : ¬ c → Under I y Q) : Under I (if c then x else y) Q := by
  split
  · exact yes (by assumption)
  · exact no (by assumption)

/-- Run on its own, the transaction keeps its invariant whether it returns or raises. -/
theorem Under.commit {x : Tx σ ε α} {s : σ} (under : Under I x Q) (inv : I s) :
    I (x.commit s).2 := by
  obtain ⟨e, failed⟩ | ⟨a, s', ran, done⟩ := commit_cases x s
  · rw [failed]
    exact inv
  · rw [done]
    exact (under.run inv ran).1

theorem Under.andThen {x : Tx σ ε α} {rest : α → σ → Except ε β × σ} {s : σ}
    (first : Under I x Q) (inv : I s) (second : ∀ a s', Q a → I s' → I (rest a s').2) :
    I (x.andThen rest s).2 := by
  unfold Tx.andThen
  obtain ⟨e, failed⟩ | ⟨a, s', ran, done⟩ := commit_cases x s
  · rw [failed]
    exact inv
  · rw [done]
    obtain ⟨still, value⟩ := first.run inv ran
    exact second a s' value still

end

/-! ## Two transactions side by side -/

/-- From these two states both transactions return the same value into related states, or both
raise. -/
structure Alike (R : σ → σ → Prop) (x y : Tx σ ε α) (s t : σ) : Prop where
  forth : ∀ {a s'}, x s = .ok (a, s') → ∃ t', y t = .ok (a, t') ∧ R s' t'
  back : ∀ {a t'}, y t = .ok (a, t') → ∃ s', x s = .ok (a, s') ∧ R s' t'

section
variable {R : σ → σ → Prop} {s t : σ}

theorem alike_bind {x y : Tx σ ε α} {f g : α → Tx σ ε β} (first : Alike R x y s t)
    (rest : ∀ a s' t', x s = .ok (a, s') → y t = .ok (a, t') → R s' t' →
      Alike R (f a) (g a) s' t') : Alike R (x >>= f) (y >>= g) s t := by
  constructor
  · intro b s' ran
    obtain ⟨a, s₁, before, after⟩ := bind_ok.mp ran
    obtain ⟨t₁, before', related⟩ := first.forth before
    obtain ⟨t', after', done⟩ := (rest a s₁ t₁ before before' related).forth after
    exact ⟨t', bind_ok.mpr ⟨a, t₁, before', after'⟩, done⟩
  · intro b t' ran
    obtain ⟨a, t₁, before, after⟩ := bind_ok.mp ran
    obtain ⟨s₁, before', related⟩ := first.back before
    obtain ⟨s', after', done⟩ := (rest a s₁ t₁ before' before related).back after
    exact ⟨s', bind_ok.mpr ⟨a, s₁, before', after'⟩, done⟩

/-- A first part that only reads: the rest starts from the same two states. -/
theorem alike_bind_read {x y : Tx σ ε α} {f g : α → Tx σ ε β} (first : Alike R x y s t)
    (reads : Keeps (fun s => s) x) (reads' : Keeps (fun s => s) y)
    (rest : ∀ a, x s = .ok (a, s) → Alike R (f a) (g a) s t) :
    Alike R (x >>= f) (y >>= g) s t := by
  refine alike_bind first fun a s' t' ran ran' _ => ?_
  cases reads.eq ran
  cases reads'.eq ran'
  exact rest a ran

theorem alike_pure (related : R s t) (a : α) : Alike R (pure a : Tx σ ε α) (pure a) s t := by
  constructor
  all_goals
    intro b s' ran
    cases pure_ok.mp ran
    exact ⟨_, rfl, related⟩

theorem alike_raise (e e' : ε) : Alike R (raise e : Tx σ ε α) (raise e') s t :=
  ⟨fun ran => (raise_ok.mp ran).elim, fun ran => (raise_ok.mp ran).elim⟩

theorem alike_ofExcept (related : R s t) (x : Except ε α) :
    Alike R (ofExcept x : Tx σ ε α) (ofExcept x) s t := by
  constructor
  · intro a s' ran
    obtain ⟨returned, rfl : s' = s⟩ := ofExcept_ok.mp ran
    exact ⟨t, ofExcept_ok.mpr ⟨returned, rfl⟩, related⟩
  · intro a t' ran
    obtain ⟨returned, rfl : t' = t⟩ := ofExcept_ok.mp ran
    exact ⟨s, ofExcept_ok.mpr ⟨returned, rfl⟩, related⟩

theorem alike_check (related : R s t) {c c' : Bool} (same : c = c') (e e' : ε) :
    Alike R (check c e : Tx σ ε Unit) (check c' e') s t := by
  cases same
  constructor
  all_goals
    intro a s' ran
    obtain ⟨passed, same⟩ := check_ok.mp ran
    cases same
    exact ⟨_, check_ok.mpr ⟨passed, rfl⟩, related⟩

/-- A check that only the second makes, and that it passes. -/
theorem alike_check_right {x : Tx σ ε β} {y : Unit → Tx σ ε β} {c : Bool} {e : ε}
    (passes : c = false) (rest : Alike R x (y ()) s t) :
    Alike R x (check c e >>= y) s t := by
  have skipped : (check c e >>= y : Tx σ ε β) t = y () t := by
    simp [check, passes, bind, StateT.bind, Except.bind]
  constructor
  · intro a s' ran
    obtain ⟨t', ran', related⟩ := rest.forth ran
    exact ⟨t', skipped.trans ran', related⟩
  · intro a t' ran
    exact rest.back (skipped.symm.trans ran)

theorem alike_read (related : R s t) {g : σ → α} (same : g s = g t) :
    Alike R (read g : Tx σ ε α) (read g) s t := by
  constructor
  all_goals
    intro a s' ran
    cases read_ok.mp ran
  · exact ⟨t, by rw [same]; rfl, related⟩
  · exact ⟨s, by rw [← same]; rfl, related⟩

theorem alike_write {g h : σ → σ} (related : R (g s) (h t)) :
    Alike R (write g : Tx σ ε Unit) (write h) s t := by
  constructor
  all_goals
    intro a s' ran
    cases write_ok.mp ran
    exact ⟨_, rfl, related⟩

theorem alike_mapM {k : β → Tx σ ε α} (reads : ∀ b, Keeps (fun s => s) (k b))
    (each : ∀ b, Alike R (k b) (k b) s t) (related : R s t) (items : List β) :
    Alike R (items.mapM k) (items.mapM k) s t := by
  induction items with
  | nil => exact alike_pure related []
  | cons b rest ih =>
    rw [List.mapM_cons]
    refine alike_bind_read (each b) (reads b) (reads b) fun a _ => ?_
    exact alike_bind_read ih (keeps_mapM reads rest) (keeps_mapM reads rest) fun _ _ =>
      alike_pure related _

/-- Both return. -/
theorem alike_returns {x y : Tx σ ε α} {a : α} {s' t' : σ} (ran : x s = .ok (a, s'))
    (ran' : y t = .ok (a, t')) (related : R s' t') : Alike R x y s t := by
  constructor
  · intro b s₁ h
    cases ran.symm.trans h
    exact ⟨t', ran', related⟩
  · intro b t₁ h
    cases ran'.symm.trans h
    exact ⟨s', ran, related⟩

/-- Run on their own, the two answer alike and leave related states. -/
theorem Alike.commit {x y : Tx σ ε α} (alike : Alike R x y s t) (related : R s t) :
    (x.commit s).1.toOption = (y.commit t).1.toOption ∧ R (x.commit s).2 (y.commit t).2 := by
  obtain ⟨e, failed⟩ | ⟨a, s', ran, done⟩ := commit_cases x s
  · obtain ⟨e', failed'⟩ | ⟨a, t', ran, done⟩ := commit_cases y t
    · rw [failed, failed']
      exact ⟨rfl, related⟩
    · obtain ⟨s', ran', _⟩ := alike.back ran
      have both : x.commit s = (.ok a, s') := by rw [Tx.commit, ran']
      rw [failed] at both
      cases both
  · obtain ⟨t', ran', after⟩ := alike.forth ran
    have both : y.commit t = (.ok a, t') := by rw [Tx.commit, ran']
    rw [done, both]
    exact ⟨rfl, after⟩

end

end Tx

end Base
