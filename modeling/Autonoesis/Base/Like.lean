import Mathlib.Data.List.Infix
import Autonoesis.Base.Text

/-!
# SQL's LIKE

In a pattern of `LIKE` a percent sign stands for any run of characters, an underscore for any
one, and a backslash takes the character after it as it is. A pattern made of a text and a
percent sign tests for that prefix exactly when the text has none of the three.
-/

namespace Base

inductive LikeItem where
  | run
  | one
  | exactly (c : Char)

namespace LikeItem

/-- The items of a pattern; there are none when it ends in its escape character. -/
def compile : List Char → Option (List LikeItem)
  | [] => some []
  | '%' :: rest => (compile rest).map (run :: ·)
  | '_' :: rest => (compile rest).map (one :: ·)
  | ['\\'] => none
  | '\\' :: c :: rest => (compile rest).map (exactly c :: ·)
  | c :: rest => (compile rest).map (exactly c :: ·)

def holds : List LikeItem → List Char → Bool
  | [], text => text.isEmpty
  | run :: items, text => text.tails.any (holds items)
  | one :: items, _ :: text => holds items text
  | exactly c :: items, d :: text => c = d && holds items text
  | _ :: _, [] => false

end LikeItem

/-- `text LIKE pattern`; `none` is the error of a pattern that ends in its escape character. -/
def like (text pattern : String) : Option Bool :=
  (LikeItem.compile pattern.toList).map (LikeItem.holds · text.toList)

/-- A character that means itself in a pattern. -/
def isLiteral (c : Char) : Bool := c ≠ '%' && c ≠ '_' && c ≠ '\\'

/-- The text has none of the characters that mean something else in a pattern. -/
def likeLiteral (text : String) : Bool := text.toList.all isLiteral

namespace LikeItem

theorem compile_literal {c : Char} (literal : isLiteral c = true) (rest : List Char) :
    compile (c :: rest) = (compile rest).map (exactly c :: ·) := by
  simp only [isLiteral, Bool.and_eq_true, decide_eq_true_eq] at literal
  rw [compile]
  · rintro ⟨⟩
    exact literal.1.1 rfl
  · rintro ⟨⟩
    exact literal.1.2 rfl
  · rintro ⟨⟩
    exact fun _ => literal.2 rfl
  · rintro _ _ ⟨⟩
    exact fun _ => literal.2 rfl

/-- Induction over a text and the items its pattern with a percent sign has. -/
theorem percent_induction {P : List Char → List LikeItem → Prop} (nil : P [] [run])
    (percent : ∀ text items, P text items → P ('%' :: text) (run :: items))
    (underscore : ∀ text items, P text items → P ('_' :: text) (one :: items))
    (escape : P ['\\'] [exactly '%'])
    (escaped : ∀ c text items, P text items → P ('\\' :: c :: text) (exactly c :: items))
    (literal : ∀ c text items, isLiteral c = true → P text items →
      P (c :: text) (exactly c :: items))
    (text : List Char) : ∃ items, compile (text ++ ['%']) = some items ∧ P text items := by
  induction text using compile.induct with
  | case1 => exact ⟨[run], rfl, nil⟩
  | case2 text ih =>
    obtain ⟨items, compiled, rest⟩ := ih
    exact ⟨run :: items, by simp [compile, compiled], percent text items rest⟩
  | case3 text ih =>
    obtain ⟨items, compiled, rest⟩ := ih
    exact ⟨one :: items, by simp [compile, compiled], underscore text items rest⟩
  | case4 => exact ⟨[exactly '%'], rfl, escape⟩
  | case5 c text ih =>
    obtain ⟨items, compiled, rest⟩ := ih
    exact ⟨exactly c :: items, by simp [compile, compiled], escaped c text items rest⟩
  | case6 c text isPercent isUnderscore isEscape isEscaped ih =>
    obtain ⟨items, compiled, rest⟩ := ih
    have means : isLiteral c = true := by
      simp only [isLiteral, Bool.and_eq_true, decide_eq_true_eq]
      refine ⟨⟨isPercent, isUnderscore⟩, ?_⟩
      intro same
      cases text with
      | nil => exact isEscape same rfl
      | cons d text => exact isEscaped d text same rfl
    refine ⟨exactly c :: items, ?_, literal c text items means rest⟩
    rw [List.cons_append, compile_literal means, compiled]
    rfl

/-- A text the items hold of. -/
def sample : List LikeItem → List Char
  | [] => []
  | run :: items => 'x' :: sample items
  | one :: items => 'x' :: sample items
  | exactly c :: items => c :: sample items

theorem holds_sample (items : List LikeItem) : holds items (sample items) = true := by
  induction items with
  | nil => rfl
  | cons item items ih =>
    cases item with
    | run =>
      simp only [sample, holds, List.any_eq_true, List.mem_tails]
      exact ⟨sample items, List.suffix_cons 'x' (sample items), ih⟩
    | one => exact ih
    | exactly c => simp [sample, holds, ih]

/-- The items of a text of literals hold of the texts it is a prefix of. -/
theorem holds_literal (text other : List Char) :
    holds (text.map exactly ++ [run]) other = text.isPrefixOf other := by
  induction text generalizing other with
  | nil =>
    simp only [List.map_nil, List.nil_append, holds, List.isPrefixOf, List.any_eq_true,
      List.mem_tails]
    exact ⟨[], List.nil_suffix, rfl⟩
  | cons c text ih =>
    cases other with
    | nil => rfl
    | cons d other =>
      rw [List.map_cons, List.cons_append, holds, ih, List.isPrefixOf, beq_eq_decide]

theorem compile_literals {text : List Char} (literal : text.all isLiteral = true) :
    compile (text ++ ['%']) = some (text.map exactly ++ [run]) := by
  induction text with
  | nil => rfl
  | cons c text ih =>
    simp only [List.all_cons, Bool.and_eq_true] at literal
    rw [List.cons_append, compile_literal literal.1, ih literal.2]
    rfl

/-- What tells a text's pattern from the test for a prefix: a sample of no more than one
character beyond the text, which the text is no prefix of. -/
structure Apart (text : List Char) (items : List LikeItem) : Prop where
  short : (sample items).length ≤ text.length + 1
  shown : 'x' ∈ sample items ∨ '%' ∈ sample items
  escape : ¬ '\\' :: text <+: sample items
  differs : text.all isLiteral = false → ¬ text <+: sample items

theorem apart (text : List Char) :
    ∃ items, compile (text ++ ['%']) = some items ∧ Apart text items := by
  apply percent_induction
  · exact ⟨by decide, .inl (by decide), by decide, nofun⟩
  · rintro text items ⟨short, shown, -, -⟩
    refine ⟨Nat.succ_le_succ short, .inl List.mem_cons_self, ?_, ?_⟩
    · simp [sample]
    · simp [sample]
  · rintro text items ⟨short, shown, -, -⟩
    refine ⟨Nat.succ_le_succ short, .inl List.mem_cons_self, ?_, ?_⟩
    · simp [sample]
    · simp [sample]
  · exact ⟨by decide, .inr (by decide), by decide, by decide⟩
  · rintro c text items ⟨short, shown, escape, -⟩
    have long : (sample items).length < ('\\' :: c :: text).length := by
      simp only [List.length_cons]
      omega
    refine ⟨by simp only [sample, List.length_cons]; omega,
      shown.imp (List.mem_cons_of_mem c) (List.mem_cons_of_mem c), ?_, ?_⟩
    · rw [sample, List.cons_prefix_cons]
      rintro ⟨-, inside⟩
      exact absurd inside.length_le (Nat.not_le_of_lt long)
    · intro _
      rw [sample, List.cons_prefix_cons]
      rintro ⟨rfl, inside⟩
      exact escape inside
  · rintro c text items literal ⟨short, shown, escape, differs⟩
    refine ⟨Nat.succ_le_succ short,
      shown.imp (List.mem_cons_of_mem c) (List.mem_cons_of_mem c), ?_, ?_⟩
    · rw [sample, List.cons_prefix_cons]
      rintro ⟨rfl, -⟩
      exact absurd literal (by decide)
    · intro special
      rw [List.all_cons, literal, Bool.true_and] at special
      rw [sample, List.cons_prefix_cons]
      exact fun inside => differs special inside.2

end LikeItem

/-- A literal text with a percent sign after it tests for the prefix. -/
theorem like_prefix {head : String} (literal : likeLiteral head = true) (text : String) :
    like text (head ++ "%") = some (startsWith text head) := by
  simp only [like, String.toList_append]
  rw [show "%".toList = ['%'] from rfl, LikeItem.compile_literals literal, Option.map_some,
    LikeItem.holds_literal]
  rfl

/-- Any other text with a percent sign after it matches a text that has another prefix. -/
theorem like_other {head : String} (special : likeLiteral head = false) :
    ∃ text, isBlank text = false ∧ like text (head ++ "%") = some true ∧
      startsWith text head = false := by
  obtain ⟨items, compiled, -, shown, -, differs⟩ := LikeItem.apart head.toList
  refine ⟨String.ofList (LikeItem.sample items), ?_, ?_, ?_⟩
  · rw [isBlank, String.toList_ofList, List.all_eq_false]
    obtain inside | inside := shown
    · exact ⟨'x', inside, by decide⟩
    · exact ⟨'%', inside, by decide⟩
  · simp only [like, String.toList_append, String.toList_ofList]
    rw [show "%".toList = ['%'] from rfl, compiled, Option.map_some, LikeItem.holds_sample]
  · rw [startsWith, String.toList_ofList, Bool.eq_false_iff, ne_eq, List.isPrefixOf_iff_prefix]
    exact differs special

example : like "tenant_1/x" "tenant\\_1%" = some true ∧ like "tenantX1/x" "tenant_1%" = some true :=
  by decide

end Base
