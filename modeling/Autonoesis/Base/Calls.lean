import Autonoesis.Base.Tx

/-!
# Sequences of transactions

A method that runs several transactions, each committed on its own: what it has written stays
when a later part raises. `bind_ran` takes such a method apart.
-/

namespace Base

/-- A method over a store `σ` that may raise `ε` after some of its transactions. -/
abbrev Calls (σ ε α : Type) := ExceptT ε (StateM σ) α

namespace Calls

variable {σ ε α β : Type}

def ran (x : Calls σ ε α) (s : σ) : Except ε α × σ := x s

/-- One transaction, committed when it returns. -/
def tx (x : Tx σ ε α) : Calls σ ε α := fun s => x.commit s

def ofExcept (x : Except ε α) : Calls σ ε α := fun s => (x, s)

def check (c : Bool) (e : ε) : Calls σ ε Unit := fun s => (if c then .error e else .ok (), s)

variable {s s' : σ}

theorem bind_ran {x : Calls σ ε α} {f : α → Calls σ ε β} {r : Except ε β} :
    ran (x >>= f) s = (r, s') ↔ (∃ e, ran x s = (.error e, s') ∧ r = .error e) ∨
      ∃ a t, ran x s = (.ok a, t) ∧ ran (f a) t = (r, s') := by
  cases h : ran x s with
  | mk first t =>
    have unfolded : ran (x >>= f) s = ExceptT.bindCont f first t := by
      change x s = (first, t) at h
      simp only [ran, bind, ExceptT.bind, ExceptT.mk, StateT.bind, h]
    rw [unfolded]
    cases first with
    | error e =>
      constructor
      · rintro ⟨⟩
        exact .inl ⟨e, rfl, rfl⟩
      · rintro (⟨_, ⟨⟩, rfl⟩ | ⟨_, _, ⟨⟩, _⟩)
        rfl
    | ok a =>
      constructor
      · intro rest
        exact .inr ⟨a, t, rfl, rest⟩
      · rintro (⟨_, ⟨⟩, _⟩ | ⟨_, _, ⟨⟩, rest⟩)
        exact rest

theorem pure_ran {a : α} {r : Except ε α} :
    ran (pure a) s = (r, s') ↔ r = .ok a ∧ s' = s := by
  constructor
  · rintro ⟨⟩
    exact ⟨rfl, rfl⟩
  · rintro ⟨rfl, rfl⟩
    rfl

theorem tx_ran {x : Tx σ ε α} {r : Except ε α} :
    ran (tx x) s = (r, s') ↔ (∃ e, x s = .error e ∧ r = .error e ∧ s' = s) ∨
      ∃ a, x s = .ok (a, s') ∧ r = .ok a := by
  simp only [ran, tx, Tx.commit]
  cases x s with
  | error e =>
    constructor
    · rintro ⟨⟩
      exact .inl ⟨e, rfl, rfl, rfl⟩
    · rintro (⟨_, ⟨⟩, rfl, rfl⟩ | ⟨_, ⟨⟩, _⟩)
      rfl
  | ok p =>
    obtain ⟨a, t⟩ := p
    constructor
    · rintro ⟨⟩
      exact .inr ⟨a, rfl, rfl⟩
    · rintro (⟨_, ⟨⟩, _⟩ | ⟨_, ⟨⟩, rfl⟩)
      rfl

theorem ofExcept_ran {x : Except ε α} {r : Except ε α} :
    ran (ofExcept x) s = (r, s') ↔ r = x ∧ s' = s := by
  constructor
  · rintro ⟨⟩
    exact ⟨rfl, rfl⟩
  · rintro ⟨rfl, rfl⟩
    rfl

theorem check_ran {c : Bool} {e : ε} {r : Except ε Unit} :
    ran (check c e) s = (r, s') ↔ r = (if c then .error e else .ok ()) ∧ s' = s :=
  ofExcept_ran

/-- A method that leaves the store as it is. -/
def Reads (x : Calls σ ε α) : Prop := ∀ s r t, ran x s = (r, t) → t = s

theorem reads_tx {x : Tx σ ε α} (reads : ∀ s a t, x s = .ok (a, t) → t = s) : Reads (tx x) := by
  intro s r t whole
  rcases tx_ran.mp whole with ⟨_, _, _, same⟩ | ⟨a, first, _⟩
  · exact same
  · exact reads s a t first

theorem reads_ofExcept (x : Except ε α) : Reads (ofExcept x : Calls σ ε α) :=
  fun _ _ _ whole => (ofExcept_ran.mp whole).2

theorem reads_check (c : Bool) (e : ε) : Reads (check c e : Calls σ ε Unit) :=
  fun _ _ _ whole => (check_ran.mp whole).2

theorem reads_pure (a : α) : Reads (pure a : Calls σ ε α) :=
  fun _ _ _ whole => (pure_ran.mp whole).2

theorem reads_bind {x : Calls σ ε α} {f : α → Calls σ ε β} (first : Reads x)
    (rest : ∀ a, Reads (f a)) : Reads (x >>= f) := by
  intro s r t whole
  rcases bind_ran.mp whole with ⟨e, raised, _⟩ | ⟨a, u, ran, next⟩
  · exact first _ _ _ raised
  · exact (rest a _ _ _ next).trans (first _ _ _ ran)

theorem reads_forM {f : β → Calls σ ε PUnit} (each : ∀ b, Reads (f b)) (items : List β) :
    Reads (items.forM f) := by
  induction items with
  | nil => exact reads_pure _
  | cons b rest ih => exact reads_bind (each b) fun _ => ih

/-- A first part that only reads: either it raises, or the rest runs where it began. -/
theorem bind_reads {x : Calls σ ε α} {f : α → Calls σ ε β} {r : Except ε β} (reads : Reads x)
    (whole : ran (x >>= f) s = (r, s')) :
    (s' = s ∧ ∃ e, r = .error e) ∨ ∃ a, ran x s = (.ok a, s) ∧ ran (f a) s = (r, s') := by
  rcases bind_ran.mp whole with ⟨e, raised, rfl⟩ | ⟨a, t, first, rest⟩
  · exact .inl ⟨reads _ _ _ raised, e, rfl⟩
  · obtain rfl := reads _ _ _ first
    exact .inr ⟨a, first, rest⟩

/-- The last write of a method, whose value is then returned. -/
theorem tx_pure_ran {x : Tx σ ε Unit} {a : α} {r : Except ε α}
    (whole : ran (tx x >>= fun _ => pure a) s = (r, s')) :
    (s' = s ∧ ∃ e, r = .error e) ∨ x s = .ok ((), s') ∧ r = .ok a := by
  rcases bind_ran.mp whole with ⟨e, raised, rfl⟩ | ⟨u, t, first, rest⟩
  · rcases tx_ran.mp raised with ⟨_, _, _, rfl⟩ | ⟨_, _, ⟨⟩⟩
    exact .inl ⟨rfl, e, rfl⟩
  · obtain ⟨rfl, rfl⟩ := pure_ran.mp rest
    rcases tx_ran.mp first with ⟨_, _, ⟨⟩, _⟩ | ⟨⟨⟩, wrote, _⟩
    exact .inr ⟨wrote, rfl⟩

theorem tx_of_ok {x : Tx σ ε α} {a : α} (ok : x s = .ok (a, s')) : ran (tx x) s = (.ok a, s') :=
  tx_ran.mpr (.inr ⟨a, ok, rfl⟩)

/-- A method goes on where its first part returns. -/
theorem bind_of_ok {x : Calls σ ε α} {f : α → Calls σ ε β} {a : α} (first : ran x s = (.ok a, s'))
    {r : Except ε β × σ} (rest : ran (f a) s' = r) : ran (x >>= f) s = r :=
  bind_ran.mpr (.inr ⟨a, s', first, rest⟩)

/-- A method leaves what its one part leaves. -/
theorem bind_pure_leaves (x : Calls σ ε α) (f : α → β) (s : σ) :
    (ran (do let a ← x; return f a) s).2 = (ran x s).2 := by
  cases whole : ran x s with
  | mk r t =>
    cases r with
    | error e =>
      have raised : ran (do let a ← x; return f a) s = (.error e, t) :=
        bind_ran.mpr (.inl ⟨e, whole, rfl⟩)
      rw [raised]
    | ok a =>
      have returned : ran (do let a ← x; return f a) s = (.ok (f a), t) := bind_of_ok whole rfl
      rw [returned]

theorem tx_ok {x : Tx σ ε α} {a : α} (whole : ran (tx x) s = (.ok a, s')) : x s = .ok (a, s') := by
  rcases tx_ran.mp whole with ⟨_, _, ⟨⟩, _⟩ | ⟨_, first, ⟨⟩⟩
  exact first

theorem ofExcept_ok {x : Except ε α} {a : α} (whole : ran (ofExcept x) s = (.ok a, s')) :
    x = .ok a :=
  (ofExcept_ran.mp whole).1.symm

theorem check_ok {c : Bool} {e : ε} {u : Unit} (whole : ran (check c e) s = (.ok u, s')) :
    c = false := by
  cases c with
  | false => rfl
  | true => cases (check_ran.mp whole).1

/-- A list of parts that only read returns when each of them does. -/
theorem forM_ran_ok {f : β → Calls σ ε PUnit} (items : List β) (s : σ)
    (each : ∀ b, Reads (f b)) :
    ran (items.forM f) s = (.ok ⟨⟩, s) ↔ ∀ b ∈ items, ran (f b) s = (.ok ⟨⟩, s) := by
  induction items with
  | nil => exact ⟨fun _ _ => nofun, fun _ => rfl⟩
  | cons b rest ih =>
    rw [List.forall_mem_cons, ← ih]
    constructor
    · intro whole
      obtain ⟨_, _, ⟨⟩⟩ | ⟨_, first, later⟩ := bind_reads (each b) whole
      exact ⟨first, later⟩
    · rintro ⟨first, later⟩
      exact bind_of_ok first later

end Calls

end Base
