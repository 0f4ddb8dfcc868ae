import Mathlib.Algebra.Ring.Nat
import Mathlib.Data.List.Sort

/-!
# Text and JSON as Python prints them

The few string operations of Python's `str` that validation code relies on, and
`json.dumps` with sorted keys and no blanks. A float is carried by the text
`repr` gives it, which is what `dumps` writes.
-/

namespace Base

/-- The code points `str.isspace` accepts, which `str.strip` removes. -/
def isSpace (c : Char) : Bool :=
  let n := c.toNat
  (9 ≤ n && n ≤ 13) || (28 ≤ n && n ≤ 32) || n = 133 || n = 160 || n = 5760 ||
    (8192 ≤ n && n ≤ 8202) || n = 8232 || n = 8233 || n = 8239 || n = 8287 || n = 12288

/-- `not value.strip()`. -/
def isBlank (s : String) : Bool := s.toList.all isSpace

/-- `value.strip()`. -/
def strip (s : String) : String :=
  String.ofList (((s.toList.dropWhile isSpace).reverse.dropWhile isSpace).reverse)

/-- `value.startswith(head)`. -/
def startsWith (s head : String) : Bool := head.toList.isPrefixOf s.toList

/-! ## The length of a text

A text is stored as bytes, and every character begins with one of them: counted so, the length
of a long text is evaluated without decoding it. -/

theorem countP_utf8EncodeChar (c : Char) :
    (String.utf8EncodeChar c).countP (·.IsUTF8FirstByte) = 1 := by
  have begins (i : Nat) (inside : i < (String.utf8EncodeChar c).length) :
      (String.utf8EncodeChar c)[i].IsUTF8FirstByte ↔ i = 0 :=
    UInt8.isUTF8FirstByte_getElem_utf8EncodeChar
  cases bytes : String.utf8EncodeChar c with
  | nil => exact absurd bytes String.utf8EncodeChar_ne_nil
  | cons first rest =>
    simp only [bytes] at begins
    have none : ∀ b ∈ rest, ¬ decide b.IsUTF8FirstByte = true := by
      intro b there
      obtain ⟨i, inside, rfl⟩ := List.mem_iff_getElem.mp there
      simpa using begins (i + 1) (Nat.succ_lt_succ inside)
    have one : first.IsUTF8FirstByte := (begins 0 (Nat.succ_pos _)).mpr rfl
    rw [List.countP_cons, List.countP_eq_zero.mpr none, if_pos (decide_eq_true one)]

def countFirstBytes (s : String) : Nat := s.toByteArray.data.toList.countP (·.IsUTF8FirstByte)

theorem countFirstBytes_eq (s : String) : countFirstBytes s = s.length := by
  have encoded : s.toByteArray = s.toList.utf8Encode := by
    rw [← String.toByteArray_ofList, String.ofList_toList]
  have bytes : s.toByteArray.data.toList = s.toList.flatMap String.utf8EncodeChar := by
    rw [encoded, List.utf8Encode, List.data_toByteArray, List.toList_toArray]
  rw [countFirstBytes, bytes, List.countP_flatMap, ← String.length_toList]
  simp [Function.comp_def, countP_utf8EncodeChar]

instance decidableLengthEq (s : String) (n : Nat) : Decidable (s.length = n) :=
  decidable_of_iff (countFirstBytes s = n) (by rw [countFirstBytes_eq])

instance decidableLtLength (s : String) (n : Nat) : Decidable (n < s.length) :=
  decidable_of_iff (n < countFirstBytes s) (by rw [countFirstBytes_eq])

/-- To decide something of all the characters of a text, look at these and not at all there are. -/
theorem chars_of_all {P : Char → Prop} [DecidablePred P] {text : List Char}
    (all : text.all (fun c => P c) = true) : ∀ c ∈ text, P c :=
  fun c there => of_decide_eq_true (List.all_eq_true.mp all c there)

def hexDigit (n : Nat) : Char :=
  if n < 10 then Char.ofNat (48 + n) else Char.ofNat (87 + n)

/-- The `width` lowest hexadecimal digits of `n`, most significant first. -/
def hexDigits (width n : Nat) : List Char :=
  ((List.range width).map fun i => hexDigit (n / 16 ^ i % 16)).reverse

def isHexDigit (c : Char) : Bool :=
  let n := c.toNat
  (48 ≤ n && n ≤ 57) || (97 ≤ n && n ≤ 102)

/-- The shape every constructor demands of a SHA-256 digest. -/
def isSha256Hex (s : String) : Bool := s.toList.length = 64 && s.toList.all isHexDigit

/-- What `repr` writes of a float: a decimal literal, or a name that is not JSON. -/
def isFloatText (finite : Bool) (s : String) : Bool :=
  if finite then s ≠ "" && s.toList.all (fun c => c.isDigit || c ∈ ['.', 'e', '+', '-'])
  else s ∈ ["NaN", "Infinity", "-Infinity"]

inductive Json where
  | null
  | bool (b : Bool)
  | int (n : Int)
  | float (repr : String) (finite : Bool) (text : isFloatText finite repr = true)
  | str (s : String)
  | arr (items : List Json)
  | obj (fields : List (String × Json))
  deriving BEq

namespace Json

def unicodeEscape (n : Nat) : List Char := '\\' :: 'u' :: hexDigits 4 n

/-- One character of a JSON string; `ascii` is the `ensure_ascii` option. -/
def escapeChar (ascii : Bool) (c : Char) : List Char :=
  let n := c.toNat
  if n = 34 then ['\\', '"']
  else if n = 92 then ['\\', '\\']
  else if n = 10 then ['\\', 'n']
  else if n = 13 then ['\\', 'r']
  else if n = 9 then ['\\', 't']
  else if n = 12 then ['\\', 'f']
  else if n = 8 then ['\\', 'b']
  else if n < 32 then unicodeEscape n
  else if ascii && 127 ≤ n then
    if n < 65536 then unicodeEscape n
    else unicodeEscape (55296 + (n - 65536) / 1024) ++ unicodeEscape (56320 + (n - 65536) % 1024)
  else [c]

def quote (ascii : Bool) (s : String) : String :=
  "\"" ++ String.ofList (s.toList.flatMap (escapeChar ascii)) ++ "\""

def sortFields (fields : List (String × String)) : List (String × String) :=
  fields.insertionSort fun a b => a.1 ≤ b.1

mutual
/-- `json.dumps(value, sort_keys=True, separators=(",", ":"))`. -/
def dumps (ascii : Bool) : Json → String
  | null => "null"
  | bool true => "true"
  | bool false => "false"
  | int n => toString n
  | float r _ _ => r
  | str s => quote ascii s
  | arr items => "[" ++ ",".intercalate (dumpsItems ascii items) ++ "]"
  | obj fields =>
    "\x7b" ++ ",".intercalate
      ((sortFields (dumpsFields ascii fields)).map fun f => quote ascii f.1 ++ ":" ++ f.2) ++
    "\x7d"
def dumpsItems (ascii : Bool) : List Json → List String
  | [] => []
  | v :: rest => dumps ascii v :: dumpsItems ascii rest
def dumpsFields (ascii : Bool) : List (String × Json) → List (String × String)
  | [] => []
  | (k, v) :: rest => (k, dumps ascii v) :: dumpsFields ascii rest
end

end Json

end Base
