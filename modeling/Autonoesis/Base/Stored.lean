import Mathlib.Logic.Relation

/-!
# Values stored as rows

A value is inserted as a row of its own, and saving a later value overwrites some columns of that
row. What was stored last is read back when the row of a value is, and when no step from one
value to the next changes a column that a save leaves as it is.
-/

namespace Base

/-- How a value is inserted, what a save of a later one makes of its row, and how the row is
read. -/
structure RowCodec (α ρ ε : Type) where
  row : α → ρ
  save : ρ → α → ρ
  read : ρ → Except ε α
  save_row : ∀ a, save (row a) a = row a
  save_save : ∀ r a b, save (save r a) b = save r b

namespace RowCodec
variable {α ρ ε : Type} (c : RowCodec α ρ ε) (Saves : α → α → Prop)

/-- The rows that inserting a value and saving later ones leave, each with the value it stands
for. -/
inductive Written : ρ → α → Prop
  | inserted (a : α) : Written (c.row a) a
  | saved {r : ρ} {a b : α} (past : Written r a) (saves : Saves a b) : Written (c.save r b) b

/-- A save of `b` over the row of `a` makes the row of `b`. -/
def Keeps (a b : α) : Prop := c.save (c.row a) b = c.row b

/-- Whatever has been written of an accepted value is read back as the value. -/
def Lossless (Accepted : α → Prop) : Prop :=
  ∀ r a, c.Written Saves r a → Accepted a → c.read r = .ok a

variable {c Saves}

theorem Keeps.refl (a : α) : c.Keeps a a := c.save_row a

theorem Keeps.trans {a b d : α} (first : c.Keeps a b) (second : c.Keeps b d) : c.Keeps a d := by
  unfold Keeps at first second ⊢
  rw [← c.save_save _ b, first, second]

/-- Any number of steps keep what each of them keeps. -/
theorem keeps_of_transGen {step : α → α → Prop} (keeps : ∀ a b, step a b → c.Keeps a b) {a b : α}
    (steps : Relation.TransGen step a b) : c.Keeps a b := by
  induction steps with
  | single one => exact keeps _ _ one
  | tail _ one ih => exact ih.trans (keeps _ _ one)

theorem Written.eq_row (keeps : ∀ a b, Saves a b → c.Keeps a b) {r : ρ} {a : α}
    (written : c.Written Saves r a) : r = c.row a := by
  induction written with
  | inserted a => rfl
  | saved _ saves ih =>
    rw [ih]
    exact keeps _ _ saves

theorem lossless {Accepted : α → Prop} (keeps : ∀ a b, Saves a b → c.Keeps a b)
    (back : ∀ a, Accepted a → c.read (c.row a) = .ok a) : c.Lossless Saves Accepted := by
  intro r a written accepted
  rw [written.eq_row keeps]
  exact back a accepted

end RowCodec

end Base
