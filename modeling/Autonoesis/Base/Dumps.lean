import Autonoesis.Base.Text

/-!
# What the printers write

Hexadecimal digits determine their number, and a dump is one line of text: control
characters are escaped inside strings and nothing else writes one.
-/

namespace Base

theorem not_mem_intercalate {c : Char} {sep : String} {parts : List String}
    (outside : c ∉ sep.toList) (each : ∀ s ∈ parts, c ∉ s.toList) :
    c ∉ (sep.intercalate parts).toList := by
  induction parts with
  | nil => simp
  | cons first rest ih =>
    obtain ⟨here, there⟩ := List.forall_mem_cons.mp each
    cases rest with
    | nil => simpa using here
    | cons second rest =>
      rw [String.intercalate_cons_cons]
      simp only [String.toList_append, List.mem_append, not_or]
      exact ⟨⟨here, outside⟩, ih there⟩

theorem isHexDigit_hexDigit {n : Nat} (small : n < 16) : isHexDigit (hexDigit n) = true := by
  decide +revert

theorem hexDigit_injective {m n : Nat} (small : m < 16) (small' : n < 16)
    (same : hexDigit m = hexDigit n) : m = n := by
  have all : ∀ m < 16, ∀ n < 16, hexDigit m = hexDigit n → m = n := by decide +kernel
  exact all m small n small' same

theorem isHexDigit_of_mem_hexDigits {c : Char} {width n : Nat} (there : c ∈ hexDigits width n) :
    isHexDigit c = true := by
  simp only [hexDigits, List.mem_reverse, List.mem_map] at there
  obtain ⟨i, _, rfl⟩ := there
  exact isHexDigit_hexDigit (Nat.mod_lt _ (by decide))

theorem newline_not_mem_hexDigits (width n : Nat) : '\n' ∉ hexDigits width n :=
  fun there => absurd (isHexDigit_of_mem_hexDigits there) (by decide)

theorem hexDigits_succ (width n : Nat) :
    hexDigits (width + 1) n = hexDigit (n / 16 ^ width % 16) :: hexDigits width n := by
  simp [hexDigits, List.range_succ]

theorem length_hexDigits (width n : Nat) : (hexDigits width n).length = width := by
  simp [hexDigits]

/-- The digits determine the number up to their width. -/
theorem hexDigits_inj {width m n : Nat} (same : hexDigits width m = hexDigits width n) :
    m % 16 ^ width = n % 16 ^ width := by
  induction width with
  | zero => simp [Nat.mod_one]
  | succ width ih =>
    rw [hexDigits_succ, hexDigits_succ, List.cons.injEq] at same
    have digit := hexDigit_injective (Nat.mod_lt _ (by decide)) (Nat.mod_lt _ (by decide)) same.1
    rw [Nat.mod_pow_succ, Nat.mod_pow_succ, digit, ih same.2]

namespace Json

theorem newline_not_mem_escapeChar (ascii : Bool) (c : Char) : '\n' ∉ escapeChar ascii c := by
  have escaped (n : Nat) : '\n' ∉ unicodeEscape n := by
    simpa [unicodeEscape] using newline_not_mem_hexDigits 4 n
  have plain (other : ¬c.toNat = 10) : '\n' ∉ [c] := by
    intro there
    rw [List.mem_singleton] at there
    exact other (there ▸ rfl)
  simp only [escapeChar]
  split_ifs with _ _ newline
  all_goals first
    | decide
    | exact escaped _
    | exact List.not_mem_append (escaped _) (escaped _)
    | exact plain newline

theorem newline_not_mem_quote (ascii : Bool) (s : String) : '\n' ∉ (quote ascii s).toList := by
  have inside : '\n' ∉ s.toList.flatMap (escapeChar ascii) := by
    simp only [List.mem_flatMap, not_exists, not_and]
    exact fun c _ => newline_not_mem_escapeChar ascii c
  simpa [quote] using inside

theorem newline_not_mem_decimal (n : Int) : '\n' ∉ (toString n).toList := by
  have digits (m : Nat) : '\n' ∉ m.repr.toList := by
    rw [Nat.toList_repr]
    intro there
    have := Nat.isDigit_of_mem_toDigits (by decide) (by decide) there
    exact absurd this (by decide)
  cases n with
  | ofNat m => exact digits m
  | negSucc m =>
    change '\n' ∉ ("-" ++ (m + 1).repr).toList
    simpa using digits (m + 1)

theorem newline_not_mem_float {finite : Bool} {s : String} (text : isFloatText finite s = true) :
    '\n' ∉ s.toList := by
  cases finite with
  | false =>
    simp only [isFloatText, Bool.false_eq_true, if_false, decide_eq_true_eq] at text
    rcases List.mem_cons.mp text with rfl | text
    · decide
    rcases List.mem_cons.mp text with rfl | text
    · decide
    rw [List.mem_singleton.mp text]
    decide
  | true =>
    intro there
    simp only [isFloatText, if_true, Bool.and_eq_true, List.all_eq_true] at text
    exact absurd (text.2 _ there) (by decide)

mutual

theorem newline_not_mem_dumps (ascii : Bool) : ∀ v : Json, '\n' ∉ (dumps ascii v).toList
  | .null => by simp [dumps]
  | .bool true => by simp [dumps]
  | .bool false => by simp [dumps]
  | .int n => newline_not_mem_decimal n
  | .float _ _ text => newline_not_mem_float text
  | .str s => newline_not_mem_quote ascii s
  | .arr items => by
    have inside := @not_mem_intercalate _ "," _ (by decide)
      (newline_not_mem_dumpsItems ascii items)
    simpa [dumps] using inside
  | .obj fields => by
    have inside := @not_mem_intercalate _ "," _ (by decide)
      (newline_not_mem_members ascii fields)
    simpa [dumps] using inside

theorem newline_not_mem_dumpsItems (ascii : Bool) :
    ∀ items : List Json, ∀ s ∈ dumpsItems ascii items, '\n' ∉ s.toList
  | [] => fun _ there => absurd there List.not_mem_nil
  | v :: rest => List.forall_mem_cons.mpr
      ⟨newline_not_mem_dumps ascii v, newline_not_mem_dumpsItems ascii rest⟩

theorem newline_not_mem_dumpsFields (ascii : Bool) :
    ∀ fields : List (String × Json), ∀ f ∈ dumpsFields ascii fields, '\n' ∉ f.2.toList
  | [] => fun _ there => absurd there List.not_mem_nil
  | (_, v) :: rest => List.forall_mem_cons.mpr
      ⟨newline_not_mem_dumps ascii v, newline_not_mem_dumpsFields ascii rest⟩

theorem newline_not_mem_members (ascii : Bool) (fields : List (String × Json)) :
    ∀ s ∈ (sortFields (dumpsFields ascii fields)).map fun f => quote ascii f.1 ++ ":" ++ f.2,
      '\n' ∉ s.toList := by
  intro s there
  obtain ⟨f, member, rfl⟩ := List.mem_map.mp there
  have value := newline_not_mem_dumpsFields ascii fields f
    (List.mem_insertionSort _ |>.mp member)
  have key := newline_not_mem_quote ascii f.1
  simp [key, value]

end

end Json

end Base
