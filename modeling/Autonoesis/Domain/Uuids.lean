import Mathlib.Tactic.Ring
import Autonoesis.Domain.Values

/-!
# Reading UUIDs

`UUID(text)` reads back what `str` wrote, and also accepts other spellings.
-/

namespace Autonoesis
open Base

/-- A text without every occurrence of `part`, as `str.replace(part, "")`; `skip` characters of
an occurrence are still to be dropped. -/
def dropText (part : List Char) : Nat → List Char → List Char
  | _, [] => []
  | skip + 1, _ :: rest => dropText part skip rest
  | 0, c :: rest =>
    if part.isPrefixOf (c :: rest) then dropText part (part.length - 1) rest
    else c :: dropText part 0 rest

def hexValue (c : Char) : Option Nat :=
  let n := c.toNat
  if 48 ≤ n && n ≤ 57 then some (n - 48)
  else if 97 ≤ n && n ≤ 102 then some (n - 87)
  else if 65 ≤ n && n ≤ 70 then some (n - 55)
  else none

/-- `UUID(text)`: thirty-two hexadecimal digits, with the URN part, the braces and the dashes
optional. Spellings that only `int(text, 16)` knows (`0x`, a sign, underscores, blanks, digits of
other scripts) are refused. -/
def Uuid.parse (text : String) : Except Exc Uuid :=
  let plain := dropText "uuid:".toList 0 (dropText "urn:".toList 0 text.toList)
  let brace (c : Char) : Bool := c = '{' || c = '}'
  let bare := ((plain.dropWhile brace).reverse.dropWhile brace).reverse.filter (· ≠ '-')
  match bare.mapM hexValue with
  | some digits =>
    if digits.length = 32 then .ok (BitVec.ofNat 128 (digits.foldl (fun n d => 16 * n + d) 0))
    else .error (.valueError "badly formed hexadecimal UUID string")
  | none => .error (.valueError "badly formed hexadecimal UUID string")

theorem dropText_absent {head : Char} {tail text : List Char} (absent : head ∉ text) :
    dropText (head :: tail) 0 text = text := by
  induction text with
  | nil => rfl
  | cons c rest ih =>
    simp only [List.mem_cons, not_or] at absent
    simp [dropText, List.isPrefixOf, absent.1, ih absent.2]

theorem dropWhile_none {drop : Char → Bool} {text : List Char}
    (none : ∀ c ∈ text, drop c = false) : text.dropWhile drop = text := by
  cases text with
  | nil => rfl
  | cons c rest => simp [none c List.mem_cons_self]

theorem hexValue_hexDigit {n : Nat} (small : n < 16) : hexValue (hexDigit n) = some n := by
  have all : ∀ n < 16, hexValue (hexDigit n) = some n := by decide +kernel
  exact all n small

/-- Hexadecimal digits are read back as the number they were written for. -/
theorem mapM_hexDigits (width n : Nat) :
    ∃ digits, (hexDigits width n).mapM hexValue = some digits ∧ digits.length = width ∧
      ∀ start, digits.foldl (fun n d => 16 * n + d) start =
        start * 16 ^ width + n % 16 ^ width := by
  induction width with
  | zero => exact ⟨[], rfl, rfl, fun start => by simp [Nat.mod_one]⟩
  | succ width ih =>
    obtain ⟨digits, read, long, value⟩ := ih
    refine ⟨n / 16 ^ width % 16 :: digits, ?_, by simp [long], fun start => ?_⟩
    · rw [hexDigits_succ, List.mapM_cons, hexValue_hexDigit (Nat.mod_lt _ (by decide)), read]
      rfl
    · rw [List.foldl_cons, value, Nat.mod_pow_succ, Nat.pow_succ]
      ring

theorem Uuid.absent_str {c : Char} (other : c ≠ '-') (digit : isHexDigit c = false) (u : Uuid) :
    c ∉ u.str.toList := by
  intro there
  obtain dash | hex := Uuid.str_chars there
  · exact other dash
  · rw [digit] at hex
    cases hex

/-- `UUID(str(uuid))` is the UUID. -/
@[simp] theorem Uuid.parse_str (u : Uuid) : Uuid.parse u.str = .ok u := by
  have braces : ∀ c ∈ u.str.toList, (decide (c = '{') || decide (c = '}')) = false := by
    intro c there
    by_contra brace
    simp only [Bool.not_eq_false, Bool.or_eq_true, decide_eq_true_eq] at brace
    obtain rfl | rfl := brace
    · exact Uuid.absent_str (by decide) (by decide) u there
    · exact Uuid.absent_str (by decide) (by decide) u there
  have urn : dropText "urn:".toList 0 u.str.toList = u.str.toList :=
    dropText_absent (Uuid.absent_str (by decide) (by decide) u)
  have uuid : dropText "uuid:".toList 0 u.str.toList = u.str.toList :=
    dropText_absent (Uuid.absent_str (by decide) (by decide) u)
  have back : ∀ c ∈ u.str.toList.reverse, (decide (c = '{') || decide (c = '}')) = false :=
    fun c there => braces c (List.mem_reverse.mp there)
  simp only [parse, urn, uuid, dropWhile_none braces, dropWhile_none back, List.reverse_reverse,
    filter_str]
  obtain ⟨digits, read, long, value⟩ := mapM_hexDigits 32 u.toNat
  have wide : u.toNat < 16 ^ 32 := Nat.lt_of_lt_of_eq u.isLt (Nat.pow_mul 2 4 32)
  rw [read]
  simp only [long, if_true, value, Nat.zero_mul, Nat.zero_add, Nat.mod_eq_of_lt wide,
    BitVec.ofNat_toNat, BitVec.setWidth_eq]

end Autonoesis
