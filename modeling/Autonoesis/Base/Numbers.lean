import Autonoesis.Base.Codec
import Autonoesis.Base.Loads

/-!
# Numbers

A number of Python that is written to JSON: an `int`, or a `float` carried by the text of its
`repr`. The text of a finite float spells a decimal that lies on the same side of zero and of one as
the float, and these are the bounds it is compared with.
-/

namespace Base

inductive Number where
  | int (n : Int)
  | float (repr : String) (finite : Bool) (text : isFloatText finite repr = true)

instance (n : Nat) : OfNat Number n := ⟨.int n⟩

/-- The decimal a text spells. -/
def decimal (text : List Char) : Rat :=
  let mantissa := text.takeWhile (· ≠ 'e')
  let exponent := ((text.dropWhile (· ≠ 'e')).drop 1).filter (· ≠ '+')
  let fraction := (mantissa.dropWhile (· ≠ '.')).drop 1
  (Json.integer (mantissa.filter (· ≠ '.')) : Rat) *
    10 ^ (Json.integer exponent - fraction.length)

example : decimal "-12.5e+02".toList = -1250 := by decide +kernel

namespace Number

def isFinite : Number → Bool
  | int _ => true
  | float _ finite _ => finite

/-- `x <= bound`; of the floats that are not finite only minus infinity is below a bound. -/
def le (x : Number) (bound : Rat) : Bool :=
  match x with
  | int n => n ≤ bound
  | float repr true _ => decimal repr.toList ≤ bound
  | float repr false _ => repr = "-Infinity"

/-- `bound <= x`. -/
def ge (x : Number) (bound : Rat) : Bool :=
  match x with
  | int n => bound ≤ n
  | float repr true _ => bound ≤ decimal repr.toList
  | float repr false _ => repr = "Infinity"

/-- The number itself, where it is finite. -/
def value : Number → Rat
  | int n => n
  | float repr true _ => decimal repr.toList
  | float _ false _ => 0

/-- `0 <= x <= 1`. -/
def isUnit (x : Number) : Bool := x.ge 0 && x.le 1

def json : Number → Json
  | int n => .int n
  | float repr finite text => .float repr finite text

end Number

def Json.asNumber {ε : Type} [ReadErrors ε] : Json → Except ε Number
  | .int n => .ok (.int n)
  | .float repr finite text => .ok (.float repr finite text)
  | _ => .error ReadErrors.mistyped

@[simp] theorem Json.asNumber_json {ε : Type} [ReadErrors ε] (x : Number) :
    (asNumber x.json : Except ε Number) = .ok x := by
  cases x <;> rfl

@[simp] theorem Json.asOption_number {ε : Type} [ReadErrors ε] (x : Option Number) :
    (asOption asNumber (optional Number.json x) : Except ε (Option Number)) = .ok x :=
  asOption_optional (fun x _ => asNumber_json x) (fun x _ => by cases x <;> nofun)

end Base
