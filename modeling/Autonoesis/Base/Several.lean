import Mathlib.Data.Finset.Insert
import Mathlib.Data.List.Induction
import Autonoesis.Base.Dict

/-!
# Keys with several values

A scan that remembers the last value of every key and marks a key when the next value differs from
it. It marks exactly the keys with two different values, wherever these stand in the list.
-/

namespace Base

section
variable {ι κ α β : Type} [DecidableEq κ] [DecidableEq α] [DecidableEq β]
variable (key : ι → κ) (value : ι → α) (mark : κ → β)

/-- The last value of each key, and the marks of the keys whose value has changed. -/
structure Changes (κ α β : Type) where
  seen : Dict κ α := .empty
  marked : Finset β := ∅

def Changes.next (s : Changes κ α β) (i : ι) : Changes κ α β where
  seen := s.seen.set (key i) (value i)
  marked :=
    if (s.seen.get? (key i)).any (· ≠ value i) then insert (mark (key i)) s.marked else s.marked

def changes (items : List ι) : Changes κ α β := items.foldl (Changes.next key value mark) {}

theorem changes_append (items : List ι) (i : ι) :
    changes key value mark (items ++ [i]) =
      (changes key value mark items).next key value mark i := by
  simp [changes]

/-- The key has two items with different values. -/
def Several (items : List ι) (k : κ) : Prop :=
  ∃ i ∈ items, ∃ j ∈ items, key i = k ∧ key j = k ∧ value i ≠ value j

omit [DecidableEq κ] [DecidableEq α] in
theorem several_append {items : List ι} {a : ι} {k : κ} :
    Several key value (items ++ [a]) k ↔
      Several key value items k ∨ key a = k ∧ ∃ i ∈ items, key i = k ∧ value i ≠ value a := by
  constructor
  · rintro ⟨i, there, j, there', owned, owned', differ⟩
    rw [List.mem_append, List.mem_singleton] at there there'
    obtain there | rfl := there <;> obtain there' | rfl := there'
    · exact .inl ⟨i, there, j, there', owned, owned', differ⟩
    · exact .inr ⟨owned', i, there, owned, differ⟩
    · exact .inr ⟨owned, j, there', owned', differ.symm⟩
    · exact absurd rfl differ
  · rintro (⟨i, there, j, there', same⟩ | ⟨owned, i, there, owned', differ⟩)
    · exact ⟨i, List.mem_append_left _ there, j, List.mem_append_left _ there', same⟩
    · exact ⟨i, List.mem_append_left _ there, a, by simp, owned', owned, differ⟩

/-- A remembered value is that of an item, and a key without one has no items. -/
theorem seen_changes (items : List ι) (k : κ) :
    match (changes key value mark items).seen.get? k with
    | some v => ∃ i ∈ items, key i = k ∧ value i = v
    | none => ∀ i ∈ items, key i ≠ k := by
  induction items using List.reverseRecOn with
  | nil => intro i there; cases there
  | append_singleton before a ih =>
    rw [changes_append, Changes.next, Dict.get?_set]
    by_cases owned : k = key a
    · rw [if_pos owned]
      exact ⟨a, by simp, owned.symm, rfl⟩
    · rw [if_neg owned]
      cases known : (changes key value mark before).seen.get? k with
      | some v =>
        rw [known] at ih
        obtain ⟨i, there, same⟩ := ih
        exact ⟨i, List.mem_append_left _ there, same⟩
      | none =>
        rw [known] at ih
        intro i there
        obtain there | there := List.mem_append.mp there
        · exact ih i there
        · rw [List.mem_singleton.mp there]
          exact Ne.symm owned

/-- An item differs from the last value of its key only if the key has several values by then, and
if it differs from an earlier item and not from the last, these two differ already. -/
theorem marked_changes (items : List ι) (b : β) :
    b ∈ (changes key value mark items).marked ↔ ∃ k, Several key value items k ∧ mark k = b := by
  induction items using List.reverseRecOn with
  | nil => simp [changes, Several]
  | append_singleton before a ih =>
    have last := seen_changes key value mark before (key a)
    have split : (∃ k, Several key value (before ++ [a]) k ∧ mark k = b) ↔
        (∃ k, Several key value before k ∧ mark k = b) ∨
          mark (key a) = b ∧ ∃ i ∈ before, key i = key a ∧ value i ≠ value a := by
      simp only [several_append]
      constructor
      · rintro ⟨k, old | ⟨rfl, new⟩, marked⟩
        · exact .inl ⟨k, old, marked⟩
        · exact .inr ⟨marked, new⟩
      · rintro (⟨k, old, marked⟩ | ⟨marked, new⟩)
        · exact ⟨k, .inl old, marked⟩
        · exact ⟨key a, .inr ⟨rfl, new⟩, marked⟩
    rw [changes_append, Changes.next, split, ← ih]
    cases known : (changes key value mark before).seen.get? (key a) with
    | none =>
      rw [known] at last
      have fresh : ¬∃ i ∈ before, key i = key a ∧ value i ≠ value a :=
        fun ⟨i, there, owned, _⟩ => last i there owned
      simp [fresh]
    | some v =>
      rw [known] at last
      obtain ⟨l, there, owned, rfl⟩ := last
      by_cases differ : value l = value a
      · -- The value is the last one again: whatever differs from it differed from the last.
        rw [if_neg (by simp [differ])]
        refine ⟨.inl, ?_⟩
        rintro (old | ⟨rfl, i, there', owned', differ'⟩)
        · exact old
        · exact ih.mpr ⟨_, ⟨i, there', l, there, owned', owned, differ ▸ differ'⟩, rfl⟩
      · rw [if_pos (by simp [differ]), Finset.mem_insert, or_comm, eq_comm]
        have new : ∃ i ∈ before, key i = key a ∧ value i ≠ value a := ⟨l, there, owned, differ⟩
        simp [new]

/-- The order of the items does not matter. -/
theorem marked_perm {items items' : List ι} (same : items.Perm items') :
    (changes key value mark items).marked = (changes key value mark items').marked := by
  ext b
  simp only [marked_changes, Several, same.mem_iff]

end

end Base
