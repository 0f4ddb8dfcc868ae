import Mathlib.Data.List.Dedup
import Mathlib.Data.List.Perm.Subperm
import Mathlib.Logic.Relation

/-!
# Recursive queries

`WITH RECURSIVE … UNION` answers in rounds: each round takes the rows that the last one added to
the rows they lead to, and adds those that are new. When the rows all come from a finite list the
rounds end, and the answer is everything that the first row leads to, whatever cycles there are.
-/

namespace Base

variable {α : Type}

/-- A row leads to another in any number of steps. -/
abbrev Leads (next : α → List α) : α → α → Prop := Relation.ReflTransGen fun x y => y ∈ next x

/-- What holds between two rounds: only what the last round added may lead to new rows. -/
structure Frontier (next : α → List α) (root : α) (result last : List α) : Prop where
  nodup : result.Nodup
  start : root ∈ result
  sound : ∀ y ∈ result, Leads next root y
  recent : ∀ y ∈ last, y ∈ result
  closed : ∀ x ∈ result, x ∉ last → ∀ y ∈ next x, y ∈ result

variable {next : α → List α} {root : α} {result last domain : List α}

theorem frontier_start : Frontier next root [root] [root] where
  nodup := List.nodup_singleton root
  start := List.mem_singleton_self root
  sound y there := by
    rw [List.mem_singleton.mp there]
  recent y there := there
  closed x there absent := absurd there absent

/-- With nothing left to follow the answer is everything that the first row leads to. -/
theorem Frontier.mem_iff (front : Frontier next root result []) (y : α) :
    y ∈ result ↔ Leads next root y := by
  constructor
  · exact front.sound y
  · intro leads
    induction leads with
    | refl => exact front.start
    | tail _ step ih => exact front.closed _ ih (List.not_mem_nil) _ step

theorem Frontier.within (front : Frontier next root result last) (start : root ∈ domain)
    (stays : ∀ x, ∀ y ∈ next x, y ∈ domain) : result.length ≤ domain.length := by
  apply (List.subperm_of_subset front.nodup ?_).length_le
  intro y there
  obtain rfl | ⟨x, _, step⟩ := (front.sound y there).cases_tail
  · exact start
  · exact stays x y step

section
variable [DecidableEq α]

/-- The rows one round adds: each new row once. -/
def newRows (next : α → List α) (result last : List α) : List α :=
  ((last.flatMap next).filter (· ∉ result)).dedup

/-- The query after at most so many more rounds; `last` are the rows of the last round. -/
def recursive (next : α → List α) : Nat → List α → List α → Option (List α)
  | _, result, [] => some result
  | 0, _, _ :: _ => none
  | rounds + 1, result, row :: last =>
    let added := newRows next result (row :: last)
    recursive next rounds (result ++ added) added

theorem mem_newRows {y : α} :
    y ∈ newRows next result last ↔ (∃ x ∈ last, y ∈ next x) ∧ y ∉ result := by
  simp [newRows]

theorem Frontier.round (front : Frontier next root result last) :
    Frontier next root (result ++ newRows next result last) (newRows next result last) where
  nodup := by
    apply List.Nodup.append front.nodup (List.nodup_dedup _)
    intro y there added
    exact (mem_newRows.mp added).2 there
  start := List.mem_append_left _ front.start
  sound y there := by
    rw [List.mem_append] at there
    obtain there | added := there
    · exact front.sound y there
    · obtain ⟨⟨x, mem, leads⟩, _⟩ := mem_newRows.mp added
      exact (front.sound x (front.recent x mem)).tail leads
  recent y added := List.mem_append_right _ added
  closed x there old y leads := by
    rw [List.mem_append] at there ⊢
    have known : x ∈ result := there.resolve_right old
    by_cases fresh : x ∈ last
    · by_cases seen : y ∈ result
      · exact .inl seen
      · exact .inr (mem_newRows.mpr ⟨⟨x, fresh, leads⟩, seen⟩)
    · exact .inl (front.closed x known fresh y leads)

/-- Every round but the last makes the answer longer, so the rounds end. -/
theorem recursive_frontier (start : root ∈ domain) (stays : ∀ x, ∀ y ∈ next x, y ∈ domain) :
    ∀ (rounds : Nat) {result last : List α}, Frontier next root result last →
      domain.length < rounds + result.length →
      ∃ rows, recursive next rounds result last = some rows ∧ Frontier next root rows [] := by
  intro rounds
  induction rounds with
  | zero =>
    intro result last front room
    have within := front.within start stays
    omega
  | succ rounds ih =>
    intro result last front room
    cases last with
    | nil => exact ⟨result, rfl, front⟩
    | cons row last =>
      have after := front.round
      rw [recursive]
      by_cases done : newRows next result (row :: last) = []
      · rw [done] at after ⊢
        exact ⟨_, by cases rounds <;> rfl, after⟩
      · have longer := List.length_pos_iff.mpr done
        apply ih after
        rw [List.length_append]
        omega

/-- The query ends with the least set of rows that has the first one and all they lead to, each
row once. -/
theorem recursive_leads (start : root ∈ domain) (stays : ∀ x, ∀ y ∈ next x, y ∈ domain)
    {rounds : Nat} (enough : domain.length ≤ rounds) :
    ∃ rows, recursive next rounds [root] [root] = some rows ∧ rows.Nodup ∧
      ∀ y, y ∈ rows ↔ Leads next root y := by
  obtain ⟨rows, ran, front⟩ := recursive_frontier start stays rounds frontier_start
    (Nat.lt_succ_of_le enough)
  exact ⟨rows, ran, front.nodup, front.mem_iff⟩

end

end Base
