import Mathlib.Data.List.Basic

/-!
# Tokens behind a mark

Two texts with a token of a fixed width each. When they agree, so do the tokens: if a character
that stands in neither front cuts the fronts off, or if the fronts are short and the token holds
none of the characters of its mark.
-/

namespace Base

variable {α : Type}

/-- What stands between the fronts starts with the separator, or is nothing. -/
theorem tail_of_cut {front front' rest rest' : List α} {separator : α}
    (free : separator ∉ front) (free' : separator ∉ front')
    (same : front ++ separator :: rest = front' ++ separator :: rest') : rest = rest' := by
  obtain ⟨between, rfl, tail⟩ | ⟨between, rfl, tail⟩ := List.append_eq_append_iff.mp same
  · cases between with
    | nil => exact (List.cons.inj tail).2
    | cons head between =>
      rw [List.cons_append, List.cons.injEq] at tail
      exact absurd (by simp [tail.1]) free'
  · cases between with
    | nil => exact (List.cons.inj tail).2.symm
    | cons head between =>
      rw [List.cons_append, List.cons.injEq] at tail
      exact absurd (by simp [tail.1]) free

theorem token_of_cut {front front' mark mark' token token' rest rest' : List α} {separator : α}
    (starts : mark = separator :: mark') (free : separator ∉ front) (free' : separator ∉ front')
    (width : token.length = token'.length)
    (same : front ++ (mark ++ (token ++ rest)) = front' ++ (mark ++ (token' ++ rest'))) :
    token = token' := by
  subst starts
  exact (List.append_inj (List.append_cancel_left (tail_of_cut free free' same)) width).1

/-- A character behind a short front stands in the token. -/
theorem mem_of_short {front token rest rest' : List α} {c : α}
    (short : front.length < token.length) (same : token ++ rest = front ++ c :: rest') :
    c ∈ token := by
  obtain ⟨between, rfl, _⟩ | ⟨between, rfl, tail⟩ := List.append_eq_append_iff.mp same
  · rw [List.length_append] at short
    omega
  · cases between with
    | nil =>
      rw [List.length_append, List.length_nil] at short
      omega
    | cons head between =>
      rw [List.cons_append, List.cons.injEq] at tail
      simp [tail.1]

/-- Behind a mark of a letter between two dashes no short part can be taken for more of the front. -/
theorem between_eq_nil {between token token' rest rest' : List α} {dash letter : α}
    (other : dash ≠ letter) (free : dash ∉ token) (free' : letter ∉ token)
    (short : between.length < token.length)
    (same : dash :: letter :: dash :: (token ++ rest) =
      between ++ dash :: letter :: dash :: (token' ++ rest')) : between = [] := by
  match between with
  | [] => rfl
  | [_] =>
    simp only [List.cons_append, List.nil_append, List.cons.injEq] at same
    exact absurd same.2.1.symm other
  | [_, _] =>
    simp only [List.cons_append, List.nil_append, List.cons.injEq] at same
    have long : ([] : List α).length < token.length := by
      simp only [List.length_cons, List.length_nil] at short ⊢
      omega
    exact absurd (mem_of_short long same.2.2.2) free'
  | _ :: _ :: _ :: more =>
    simp only [List.cons_append, List.cons.injEq] at same
    have long : more.length < token.length := by
      simp only [List.length_cons] at short
      omega
    exact absurd (mem_of_short long same.2.2.2) free

/-- The fronts may hold the dash, but are no longer than the token. -/
theorem token_of_marked {front front' token token' rest rest' : List α} {dash letter : α}
    (other : dash ≠ letter) (free : dash ∉ token) (free' : dash ∉ token')
    (letterFree : letter ∉ token) (letterFree' : letter ∉ token')
    (width : token.length = token'.length) (some : front ≠ []) (some' : front' ≠ [])
    (short : front.length ≤ token.length) (short' : front'.length ≤ token.length)
    (same : front ++ dash :: letter :: dash :: (token ++ rest) =
      front' ++ dash :: letter :: dash :: (token' ++ rest')) : token = token' := by
  have positive := List.length_pos_of_ne_nil some
  have positive' := List.length_pos_of_ne_nil some'
  have tokens : token ++ rest = token' ++ rest' := by
    obtain ⟨between, rfl, tail⟩ | ⟨between, rfl, tail⟩ := List.append_eq_append_iff.mp same
    · rw [List.length_append] at short'
      have none := between_eq_nil other free letterFree (by omega) tail
      rw [none] at tail
      simpa using tail
    · rw [List.length_append] at short
      have none := between_eq_nil other free' letterFree' (by omega) tail
      rw [none] at tail
      simpa using tail.symm
  exact (List.append_inj tokens width).1

end Base
