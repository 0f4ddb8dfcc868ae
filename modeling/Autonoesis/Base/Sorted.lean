import Mathlib.Data.List.Induction
import Mathlib.Data.List.Sort
import Autonoesis.Base.Dict

/-!
# Stable sorts and groups

A stable sort leaves the items of one rank in their order, so the first that has a property is the
first of the least rank at which one has it.
-/

namespace Base

section
variable {α β κ : Type} [LinearOrder κ] {rank : α → κ}

theorem sorted_insertionSort (rank : α → κ) (items : List α) :
    (items.insertionSort (rank · ≤ rank ·)).Pairwise (rank · ≤ rank ·) := by
  have total : Std.Total fun a b : α => rank a ≤ rank b := ⟨fun a b => le_total (rank a) (rank b)⟩
  have trans : IsTrans α fun a b => rank a ≤ rank b := ⟨fun _ _ _ below above => below.trans above⟩
  exact List.pairwise_insertionSort _ items

/-- Sorting keeps items of one rank in their order. -/
theorem filter_insertionSort (rank : α → κ) {k : κ} {P : α → Bool} (items : List α)
    (level : ∀ a, P a = true → rank a = k) :
    (items.insertionSort (rank · ≤ rank ·)).filter P = items.filter P := by
  have total : Std.Total fun a b : α => rank a ≤ rank b := ⟨fun a b => le_total (rank a) (rank b)⟩
  have trans : IsTrans α fun a b => rank a ≤ rank b := ⟨fun _ _ _ below above => below.trans above⟩
  have sorted : (items.filter P).Pairwise (rank · ≤ rank ·) := by
    apply List.pairwise_of_forall_mem_list
    intro a there b there'
    rw [level a (List.mem_filter.mp there).2, level b (List.mem_filter.mp there').2]
  have inside := (List.sublist_insertionSort sorted List.filter_sublist).filter P
  rw [List.filter_filter] at inside
  simp only [Bool.and_self] at inside
  refine (inside.eq_of_length ?_).symm
  exact (((List.perm_insertionSort _ items).filter _).length_eq).symm

/-- The first of a sorted list that has a value is the least that has one. -/
theorem le_of_findSome? {items : List α} (sorted : items.Pairwise (rank · ≤ rank ·))
    {f : α → Option β} {b : β} (found : items.findSome? f = some b) :
    ∃ a ∈ items, f a = some b ∧ ∀ a' ∈ items, f a' ≠ none → rank a ≤ rank a' := by
  obtain ⟨before, a, behind, split, value, none⟩ := List.findSome?_eq_some_iff.mp found
  subst split
  refine ⟨a, by simp, value, fun a' there has => ?_⟩
  obtain there | there := List.mem_append.mp there
  · exact absurd (none a' there) has
  · obtain rfl | there := List.mem_cons.mp there
    · exact le_rfl
    · exact (List.pairwise_cons.mp (List.pairwise_append.mp sorted).2.1).1 a' there

/-- The first item of its rank is found in the sorted list if it has a value and none below has. -/
theorem findSome?_insertionSort {items more : List α} {a : α} {f : α → Option β} {b : β}
    (first : items.filter (rank · = rank a) = a :: more) (value : f a = some b)
    (least : ∀ a' ∈ items, f a' ≠ none → rank a ≤ rank a') :
    (items.insertionSort (rank · ≤ rank ·)).findSome? f = some b := by
  have listed : a ∈ items := List.mem_of_mem_filter (first ▸ List.mem_cons_self)
  have listed : a ∈ items.insertionSort (rank · ≤ rank ·) := (List.mem_insertionSort _).mpr listed
  cases found : (items.insertionSort (rank · ≤ rank ·)).findSome? f with
  | none =>
    rw [List.findSome?_eq_none_iff.mp found a listed] at value
    cases value
  | some b' =>
    obtain ⟨before, a', behind, split, value', none⟩ := List.findSome?_eq_some_iff.mp found
    have order := sorted_insertionSort rank items
    rw [split] at order listed
    -- The item found has the same rank, and nothing of the rank stands in front of it.
    have below : rank a' ≤ rank a := by
      obtain there | there := List.mem_append.mp listed
      · rw [none a there] at value
        cases value
      · obtain rfl | there := List.mem_cons.mp there
        · exact le_rfl
        · exact (List.pairwise_cons.mp (List.pairwise_append.mp order).2.1).1 a there
    have there' : a' ∈ items := by
      rw [← List.mem_insertionSort (rank · ≤ rank ·), split]
      simp
    have same : rank a' = rank a :=
      le_antisymm below (least a' there' (by rw [value']; exact Option.some_ne_none b'))
    have level := filter_insertionSort rank (P := (rank · = rank a)) items
      fun _ => of_decide_eq_true
    rw [split, first, List.filter_append, List.filter_cons_of_pos (by simp [same])] at level
    cases front : before.filter (rank · = rank a) with
    | nil =>
      rw [front] at level
      cases level
      exact value'.symm.trans value
    | cons a'' rest =>
      rw [front] at level
      cases level
      have there : a ∈ before := List.mem_of_mem_filter (front ▸ List.mem_cons_self)
      rw [none a there] at value
      cases value

end

namespace Dict
variable {κ α : Type} [DecidableEq κ] (group : α → κ)

/-- Add an item behind those of its group. -/
def gather (d : Dict κ (List α)) (a : α) : Dict κ (List α) :=
  d.set (group a) ((d.get? (group a)).getD [] ++ [a])

/-- What is gathered of a group are its items in their order. -/
theorem get?_foldl_gather (items : List α) (k : κ) :
    (items.foldl (gather group) .empty).get? k =
      if items.filter (group · = k) = [] then none else some (items.filter (group · = k)) := by
  induction items using List.reverseRecOn with
  | nil => rfl
  | append_singleton before a ih =>
    rw [List.foldl_append, List.filter_append]
    simp only [List.foldl_cons, List.foldl_nil, gather, get?_set]
    by_cases mine : group a = k
    · subst mine
      rw [if_pos rfl, ih]
      by_cases empty : before.filter (group · = group a) = []
      · simp [empty]
      · simp [empty]
    · have other : ¬k = group a := fun same => mine same.symm
      simp [other, mine, ih]

end Dict

end Base
