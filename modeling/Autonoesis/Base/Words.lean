import Mathlib.Data.List.DropRight
import Autonoesis.Base.Text

/-!
# Words and numbers in a text

`str.split()`, `str.partition` and the decimal digits that `\d` matches and `int` reads.
-/

namespace Base

/-- The code points of the digit zero, each followed by the other nine. -/
def zeros : List Nat :=
  [48, 1632, 1776, 1984, 2406, 2534, 2662, 2790, 2918, 3046, 3174, 3302, 3430, 3558, 3664, 3792,
    3872, 4160, 4240, 6112, 6160, 6470, 6608, 6784, 6800, 6992, 7088, 7232, 7248, 42528, 43216,
    43264, 43472, 43504, 43600, 44016, 65296, 66720, 68912, 69734, 69872, 69942, 70096, 70384,
    70736, 70864, 71248, 71360, 71472, 71904, 72016, 72784, 73040, 73120, 73552, 92768, 92864,
    93008, 120782, 120792, 120802, 120812, 120822, 123200, 123632, 124144, 125264, 130032]

/-- The value of a decimal digit of any script. -/
def decimalValue (c : Char) : Option Nat :=
  (zeros.find? fun low => low ≤ c.toNat && c.toNat < low + 10).map (c.toNat - ·)

/-- `int(text)` for a text of decimal digits. -/
def readDecimal (text : List Char) : Option Nat :=
  if text.isEmpty then none
  else (text.mapM decimalValue).map (·.foldl (fun n d => 10 * n + d) 0)

/-- The parts of a text in front of the first `c` and behind it. -/
def partition (c : Char) (text : List Char) : List Char × List Char :=
  (text.takeWhile (· ≠ c), (text.dropWhile (· ≠ c)).drop 1)

theorem not_mem_partition {c : Char} {text : List Char} : c ∉ (partition c text).1 := by
  intro there
  simpa using List.mem_takeWhile_imp there

/-- The part of a text behind the first occurrence of `part`. -/
def behind (part : List Char) : List Char → List Char
  | [] => []
  | c :: rest =>
    if part.isPrefixOf (c :: rest) then (c :: rest).drop part.length else behind part rest

theorem behind_append {part : List Char} (some : part ≠ []) (text : List Char) :
    behind part (part ++ text) = text := by
  obtain ⟨c, rest, rfl⟩ := List.exists_cons_of_ne_nil some
  rw [List.cons_append, behind, ← List.cons_append, if_pos, List.drop_left]
  exact List.isPrefixOf_iff_prefix.mpr (List.prefix_append _ _)

/-! ## Stripped texts -/

theorem dropWhile_strip (s : String) : (strip s).toList.dropWhile isSpace = (strip s).toList := by
  rw [List.dropWhile_eq_self_iff]
  intro some
  simp only [strip, String.toList_ofList] at some ⊢
  have leads : ((s.toList.dropWhile isSpace).reverse.dropWhile isSpace).reverse <+:
      s.toList.dropWhile isSpace := by
    rw [← List.reverse_suffix, List.reverse_reverse]
    exact List.dropWhile_suffix _
  rw [leads.getElem some]
  exact List.dropWhile_get_zero_not _ _ (Nat.lt_of_lt_of_le some leads.length_le)

theorem strip_strip (s : String) : strip (strip s) = strip s := by
  conv_lhs => rw [strip]
  rw [dropWhile_strip]
  simp only [strip, String.toList_ofList, List.reverse_reverse, List.dropWhile_idempotent]

theorem mem_strip {c : Char} {s : String} (there : c ∈ (strip s).toList) : c ∈ s.toList := by
  simp only [strip, String.toList_ofList, List.mem_reverse] at there
  have inside := (List.dropWhile_sublist _).subset there
  exact (List.dropWhile_sublist _).subset (List.mem_reverse.mp inside)

/-- `text.split()`, with the characters of the word that is being read. -/
def wordsFrom (word : List Char) : List Char → List (List Char)
  | [] => if word.isEmpty then [] else [word]
  | c :: rest =>
    if isSpace c then
      if word.isEmpty then wordsFrom [] rest else word :: wordsFrom [] rest
    else wordsFrom (word ++ [c]) rest

/-- `text.split()`. -/
def words (text : String) : List String := (wordsFrom [] text.toList).map String.ofList

example : words " >=1.0.0\t <2.0.0 " = [">=1.0.0", "<2.0.0"] := by decide +kernel

/-- A text without blanks is one word. -/
theorem wordsFrom_plain {word text : List Char} (plain : ∀ c ∈ text, isSpace c = false)
    (some : word ++ text ≠ []) : wordsFrom word text = [word ++ text] := by
  induction text generalizing word with
  | nil =>
    rw [List.append_nil] at some ⊢
    simp [wordsFrom, some]
  | cons c rest ih =>
    obtain ⟨here, later⟩ := List.forall_mem_cons.mp plain
    have joined : word ++ c :: rest = (word ++ [c]) ++ rest := by simp
    rw [wordsFrom, here, joined]
    exact ih later (by simp)

/-! ## Texts without blanks -/

theorem words_plain {text : String} (plain : ∀ c ∈ text.toList, isSpace c = false)
    (some : text ≠ "") : words text = [text] := by
  have chars : [] ++ text.toList ≠ [] := by simpa using some
  rw [words, wordsFrom_plain plain chars]
  simp

/-- A digit is no blank. -/
theorem isSpace_of_digit {c : Char} (digit : (decimalValue c).isSome = true) :
    isSpace c = false := by
  have places : ∀ low ∈ zeros, low = 48 ∨ 1632 ≤ low ∧ low + 10 ≤ 5760 ∨
      5761 ≤ low ∧ low + 10 ≤ 8192 ∨ 12289 ≤ low := by
    decide
  simp only [decimalValue, Option.isSome_map, List.find?_isSome, Bool.and_eq_true,
    decide_eq_true_eq] at digit
  obtain ⟨low, there, above, below⟩ := digit
  have place := places low there
  simp only [isSpace, Bool.or_eq_false_iff, Bool.and_eq_false_iff, decide_eq_false_iff_not]
  omega

theorem isSome_of_mapM {α β : Type} {f : α → Option β} {items : List α} {values : List β}
    (read : items.mapM f = some values) : ∀ a ∈ items, (f a).isSome = true := by
  induction items generalizing values with
  | nil => simp
  | cons a rest ih =>
    simp only [List.mapM_cons, Option.bind_eq_bind, Option.bind_eq_some_iff] at read
    obtain ⟨value, first, others, later, _⟩ := read
    exact List.forall_mem_cons.mpr ⟨Option.isSome_iff_exists.mpr ⟨value, first⟩, ih later⟩

theorem digits_of_readDecimal {text : List Char} (read : (readDecimal text).isSome = true) :
    ∀ c ∈ text, (decimalValue c).isSome = true := by
  unfold readDecimal at read
  split at read
  · cases read
  · rw [Option.isSome_map] at read
    obtain ⟨values, read⟩ := Option.isSome_iff_exists.mp read
    exact isSome_of_mapM read

/-- What a text is split into, together with the separator, is all there was. -/
theorem mem_splitOn {c d : Char} {text : List Char} (there : d ∈ text) :
    d = c ∨ ∃ part ∈ text.splitOn c, d ∈ part := by
  have whole : text = [c].intercalate (text.splitOn c) := (List.intercalate_splitOn c).symm
  rw [whole] at there
  generalize text.splitOn c = parts at there
  induction parts with
  | nil => simp [List.intercalate] at there
  | cons part rest ih =>
    cases rest with
    | nil =>
      have inside : d ∈ part := by simpa [List.intercalate] using there
      exact .inr ⟨part, List.mem_singleton_self part, inside⟩
    | cons next rest =>
      have places : d ∈ part ∨ d = c ∨ d ∈ [c].intercalate (next :: rest) := by
        simpa [List.intercalate, List.intersperse_cons_cons] using there
      obtain inside | same | later := places
      · exact .inr ⟨part, List.mem_cons_self, inside⟩
      · exact .inl same
      · exact (ih later).imp_right fun ⟨p, listed, inside⟩ =>
          ⟨p, List.mem_cons_of_mem _ listed, inside⟩

end Base
