import Autonoesis.Base.Versioned

/-!
# Rows that only move on

Where every update of a row leads to a later version of it that ranks higher and leaves some of its
fields alone, a table keeps what is known of it. A row that was there is still there or has been
replaced by rows that come after it, and an update that would reach a rank once more finds the row
beyond it.
-/

namespace Base.Versioned

variable {κ α β : Type} [DecidableEq κ]

/-- Every row stands under its own key. -/
def Keyed (key : α → κ) (d : Dict κ α) : Prop := ∀ k a, d.get? k = some a → key a = k

theorem Keyed.set {key : α → κ} {d : Dict κ α} (keyed : Keyed key d) (a : α) :
    Keyed key (d.set (key a) a) := by
  intro k b there
  by_cases same : k = key a
  · subst same
    cases (Dict.get?_set_self _ _ _).symm.trans there
    rfl
  · rw [Dict.get?_set_ne _ _ same] at there
    exact keyed k b there

/-- The rows of the one table are in the other. -/
def Keeps (d d' : Dict κ α) : Prop := ∀ k a, d.get? k = some a → d'.get? k = some a

theorem Keeps.refl (d : Dict κ α) : Keeps d d := fun _ _ => id

theorem Keeps.insert {d : Dict κ α} {k : κ} (absent : d.get? k = none) (a : α) :
    Keeps d (d.set k a) := by
  intro j b there
  by_cases same : j = k
  · subst same
    cases absent.symm.trans there
  · rw [Dict.get?_set_ne _ _ same]
    exact there

/-- What orders the versions of a row, and what they have in common. -/
structure Ranking (α β : Type) where
  version : α → Int
  rank : α → Nat
  fixed : α → β

namespace Ranking

variable (r : Ranking α β) {a b c : α} {d d' : Dict κ α} {k : κ}

/-- What a row may become: it stays, or a later version of it ranks higher. -/
def Onward (a b : α) : Prop :=
  b = a ∨ (r.version a < r.version b ∧ r.rank a < r.rank b ∧ r.fixed b = r.fixed a)

/-- The rows of the one table have moved on in the other. -/
def MovesOn (d d' : Dict κ α) : Prop :=
  ∀ k a, d.get? k = some a → ∃ b, d'.get? k = some b ∧ r.Onward a b

/-- The row of a key is this one, or came after it. -/
def Came (d : Dict κ α) (k : κ) (a : α) : Prop := ∃ b, d.get? k = some b ∧ r.Onward a b

variable {r}

theorem Onward.rank_le (onward : r.Onward a b) : r.rank a ≤ r.rank b := by
  rcases onward with rfl | ⟨_, further, _⟩
  · exact Nat.le_refl _
  · exact Nat.le_of_lt further

theorem Onward.fixed_eq (onward : r.Onward a b) : r.fixed b = r.fixed a := by
  rcases onward with rfl | ⟨_, _, same⟩
  · rfl
  · exact same

theorem Onward.trans (first : r.Onward a b) (rest : r.Onward b c) : r.Onward a c := by
  rcases first with rfl | ⟨later, further, same⟩
  · exact rest
  rcases rest with rfl | ⟨later', further', same'⟩
  · exact .inr ⟨later, further, same⟩
  · exact .inr ⟨Int.lt_trans later later', Nat.lt_trans further further', same'.trans same⟩

theorem MovesOn.refl (d : Dict κ α) : r.MovesOn d d := fun _ a there => ⟨a, there, .inl rfl⟩

/-- One row moves on. -/
theorem MovesOn.set (onward : ∀ old, d.get? k = some old → r.Onward old a) :
    r.MovesOn d (d.set k a) := by
  intro j b there
  by_cases same : j = k
  · subst same
    exact ⟨a, Dict.get?_set_self _ _ _, onward b there⟩
  · exact ⟨b, by rw [Dict.get?_set_ne _ _ same]; exact there, .inl rfl⟩

theorem Came.of_get? (there : d.get? k = some a) : r.Came d k a := ⟨a, there, .inl rfl⟩

theorem Came.set (d : Dict κ α) (k : κ) (a : α) : r.Came (d.set k a) k a :=
  .of_get? (Dict.get?_set_self _ _ _)

/-- What came stays behind. -/
theorem Came.movesOn (came : r.Came d k a) (moves : r.MovesOn d d') : r.Came d' k a := by
  obtain ⟨row, there, onward⟩ := came
  obtain ⟨row', there', further⟩ := moves k row there
  exact ⟨row', there', onward.trans further⟩

/-- A row that still has the version it was read at is the row that was read. -/
theorem Came.eq (came : r.Came d k a) (there : d.get? k = some b)
    (same : r.version b = r.version a) : b = a := by
  obtain ⟨row, here, rfl | ⟨later, _⟩⟩ := came
  · exact Option.some.inj (there.symm.trans here)
  · cases here.symm.trans there
    omega

theorem Came.rank_le (came : r.Came d k a) (there : d.get? k = some b) : r.rank a ≤ r.rank b := by
  obtain ⟨row, here, onward⟩ := came
  cases here.symm.trans there
  exact onward.rank_le

end Ranking

end Base.Versioned
