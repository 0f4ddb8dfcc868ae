import Autonoesis.Base.Reading

/-!
# Bytes as hexadecimal text

`value.hex()` and `bytes.fromhex(text)`, which also reads capital letters and skips blanks between
the bytes.
-/

namespace Base

def hexByte (b : UInt8) : List Char := [hexDigit (b.toNat / 16), hexDigit (b.toNat % 16)]

/-- `value.hex()`. -/
def bytesHex (bytes : ByteArray) : String := String.ofList (bytes.data.toList.flatMap hexByte)

def hexNibble (c : Char) : Option Nat :=
  if '0' ≤ c ∧ c ≤ '9' then some (c.toNat - 48)
  else if 'a' ≤ c ∧ c ≤ 'f' then some (c.toNat - 87)
  else if 'A' ≤ c ∧ c ≤ 'F' then some (c.toNat - 55)
  else none

def isAsciiSpace (c : Char) : Bool := c = ' ' || 9 ≤ c.toNat && c.toNat ≤ 13

def readHex : List Char → Option (List UInt8)
  | [] => some []
  | [c] => if isAsciiSpace c then some [] else none
  | c :: d :: rest =>
    if isAsciiSpace c then readHex (d :: rest)
    else match hexNibble c, hexNibble d with
      | some high, some low => (readHex rest).map (UInt8.ofNat (16 * high + low) :: ·)
      | _, _ => none

/-- `bytes.fromhex(text)`. -/
def bytesFromHex (text : String) : Option ByteArray :=
  (readHex text.toList).map fun bytes => ⟨bytes.toArray⟩

theorem hexNibble_hexDigit {n : Nat} (small : n < 16) :
    hexNibble (hexDigit n) = some n ∧ isAsciiSpace (hexDigit n) = false := by
  decide +revert

theorem readHex_hexByte (b : UInt8) (rest : List Char) :
    readHex (hexByte b ++ rest) = (readHex rest).map (b :: ·) := by
  have bound := b.toNat_lt
  obtain ⟨high, plain⟩ := hexNibble_hexDigit (n := b.toNat / 16) (by omega)
  have low := (hexNibble_hexDigit (n := b.toNat % 16) (by omega)).1
  have whole : 16 * (b.toNat / 16) + b.toNat % 16 = b.toNat := Nat.div_add_mod _ _
  simp [hexByte, readHex, high, low, plain, whole]

/-- Bytes are read back from their text. -/
@[simp] theorem bytesFromHex_bytesHex (bytes : ByteArray) :
    bytesFromHex (bytesHex bytes) = some bytes := by
  have read : ∀ list : List UInt8, readHex (list.flatMap hexByte) = some list := by
    intro list
    induction list with
    | nil => rfl
    | cons b rest ih => rw [List.flatMap_cons, readHex_hexByte, ih, Option.map_some]
  rw [bytesFromHex, bytesHex, String.toList_ofList, read]
  rfl

end Base
