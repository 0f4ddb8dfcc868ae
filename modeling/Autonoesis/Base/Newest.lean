import Mathlib.Data.List.MinMax
import Autonoesis.Base.Dict

/-!
# Indexes rebuilt from a list

A loop that keeps the newest item of each group, a loop that assigns every item to its name, and
what a lookup in the dictionary they build finds.
-/

namespace Base

namespace Dict

variable {κ α : Type} [DecidableEq κ]

/-! ## The newest item of each group -/

section
variable {β : Type} [LinearOrder β] (group : α → κ) (age : α → β)

/-- Keep an item when its group has none that is as new. -/
def keepNewest (d : Dict κ α) (a : α) : Dict κ α :=
  match d.get? (group a) with
  | none => d.set (group a) a
  | some current => if age current < age a then d.set (group a) a else d

/-- What is kept of a group is its first newest item. -/
theorem get?_foldl_keepNewest (items : List α) (g : κ) :
    (items.foldl (keepNewest group age) .empty).get? g =
      (items.filter (group · = g)).argmax age := by
  induction items using List.reverseRecOn with
  | nil => rfl
  | append_singleton before a ih =>
    rw [List.foldl_append, List.filter_append]
    simp only [List.foldl_cons, List.foldl_nil, keepNewest]
    by_cases mine : group a = g
    · subst mine
      have last : [a].filter (group · = group a) = [a] := by simp
      rw [last, List.argmax_concat, ← ih]
      cases kept : (before.foldl (keepNewest group age) .empty).get? (group a) with
      | none => simp
      | some current =>
        by_cases newer : age current < age a
        · simp [newer]
        · simp [newer, kept]
    · have others : [a].filter (group · = g) = [] := by simp [mine]
      have other : g ≠ group a := fun same => mine same.symm
      rw [others, List.append_nil, ← ih]
      split
      · exact get?_set_ne _ _ other
      · split
        · exact get?_set_ne _ _ other
        · rfl

end

/-! ## The last item of each name -/

/-- Assigning items to their names keeps the last of each name. -/
theorem get?_foldl_set {name : α → κ} (items : List α) (d : Dict κ α) (k : κ) :
    (items.foldl (fun d a => d.set (name a) a) d).get? k =
      (items.reverse.find? (name · = k)).or (d.get? k) := by
  induction items generalizing d with
  | nil => rfl
  | cons a rest ih =>
    rw [List.foldl_cons, ih, List.reverse_cons, List.find?_append, get?_set]
    by_cases mine : name a = k
    · subst mine
      cases rest.reverse.find? (name · = name a) <;> simp
    · have other : ¬k = name a := fun same => mine same.symm
      cases rest.reverse.find? (name · = k) <;> simp [mine, other]

end Dict

/-- A first item that none exceeds is the first of the greatest. -/
theorem argmax_cons_of_le {α β : Type} [LinearOrder β] {age : α → β} {a : α} {rest : List α}
    (greatest : ∀ b ∈ rest, age b ≤ age a) : (a :: rest).argmax age = some a := by
  classical
  refine List.argmax_eq_some_iff.mpr ⟨List.mem_cons_self, ?_, fun b _ _ => ?_⟩
  · exact List.forall_mem_cons.mpr ⟨le_rfl, greatest⟩
  · rw [List.idxOf_cons_self]
    exact Nat.zero_le _

/-- The last item of a list of groups: of the last group that has one, the last. -/
theorem find?_reverse_flatMap {γ α κ : Type} [LinearOrder κ] {rank : γ → κ} {content : γ → List α}
    {P : α → Bool} {groups : List γ} (sorted : groups.Pairwise (rank · < rank ·)) {a : α} :
    (groups.flatMap content).reverse.find? P = some a ↔
      ∃ g ∈ groups, (content g).reverse.find? P = some a ∧
        ∀ g' ∈ groups, (∃ b ∈ content g', P b = true) → rank g' ≤ rank g := by
  induction groups with
  | nil => simp
  | cons first rest ih =>
    obtain ⟨above, sorted⟩ := List.pairwise_cons.mp sorted
    rw [List.flatMap_cons, List.reverse_append, List.find?_append, Option.or_eq_some_iff,
      ih sorted]
    constructor
    · rintro (⟨g, there, found, last⟩ | ⟨none, found⟩)
      · refine ⟨g, List.mem_cons_of_mem _ there, found, ?_⟩
        exact List.forall_mem_cons.mpr ⟨fun _ => (above g there).le, last⟩
      · refine ⟨first, List.mem_cons_self, found, ?_⟩
        refine List.forall_mem_cons.mpr ⟨fun _ => le_rfl, fun g' there ⟨b, listed, holds⟩ => ?_⟩
        have missing := List.find?_eq_none.mp none b
          (List.mem_reverse.mpr (List.mem_flatMap.mpr ⟨g', there, listed⟩))
        exact absurd holds missing
    · rintro ⟨g, there, found, last⟩
      obtain rfl | there := List.mem_cons.mp there
      · refine .inr ⟨List.find?_eq_none.mpr fun b listed holds => ?_, found⟩
        obtain ⟨g', there', inside⟩ := List.mem_flatMap.mp (List.mem_reverse.mp listed)
        exact absurd (last g' (List.mem_cons_of_mem _ there') ⟨b, inside, holds⟩)
          (not_le.mpr (above g' there'))
      · exact .inl ⟨g, there, found, fun g' there' => last g' (List.mem_cons_of_mem _ there')⟩

/-- The last item of a sorted list that has a property is the greatest that has it. -/
theorem le_of_find?_reverse {α κ : Type} [Preorder κ] {rank : α → κ} {P : α → Bool} {items : List α}
    (sorted : items.Pairwise (rank · ≤ rank ·)) {a b : α}
    (last : items.reverse.find? P = some a) (there : b ∈ items) (holds : P b = true) :
    rank b ≤ rank a := by
  obtain ⟨_, behind, before, split, none⟩ := List.find?_eq_some_iff_append.mp last
  have order : (behind ++ a :: before).Pairwise fun x y => rank y ≤ rank x := by
    rw [← split, List.pairwise_reverse]
    exact sorted
  have listed : b ∈ behind ++ a :: before := split ▸ List.mem_reverse.mpr there
  obtain inside | inside := List.mem_append.mp listed
  · have missing := none b inside
    simp [holds] at missing
  · obtain rfl | inside := List.mem_cons.mp inside
    · exact le_rfl
    · exact (List.pairwise_cons.mp (List.pairwise_append.mp order).2.1).1 b inside

end Base
