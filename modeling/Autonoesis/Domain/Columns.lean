import Autonoesis.Base.Codec
import Autonoesis.Base.Payload
import Autonoesis.Domain.Timestamps
import Autonoesis.Domain.Uuids

/-!
# Values as stored

What the codecs of the SQL repository have in common: how they write and read identifiers,
timestamps, members of an enumeration and payloads.
-/

namespace Autonoesis
open Base

instance : ReadErrors Exc where
  missing key := .keyError ("'" ++ key ++ "'")
  mistyped := ⟨"TypeError", [.exception], "unexpected type"⟩

/-- `str(value)` in a column. -/
def Uuid.json (u : Uuid) : Json := .str u.str

/-- `UUID(value)`. -/
def asUuid : Json → Except Exc Uuid
  | .str text => Uuid.parse text
  | _ => .error ReadErrors.mistyped

/-- `value.isoformat()` in a column. -/
def Instant.json (t : Instant) : Json := .str t.isoformat

/-- `datetime.fromisoformat(value)`. -/
def asInstant : Json → Except Exc Instant
  | .str text => Instant.fromisoformat text
  | _ => .error ReadErrors.mistyped

/-- The member of an enumeration that has this value, as calling its class finds it. -/
def memberOf {α : Type} (name : String) (members : List α) (value : α → String) (text : String) :
    Except Exc α :=
  match members.find? (value · = text) with
  | some member => .ok member
  | none => .error (.valueError ("'" ++ text ++ "' is not a valid " ++ name))

@[simp] theorem asUuid_json (u : Uuid) : asUuid u.json = .ok u := by
  simp only [Uuid.json, asUuid, Uuid.parse_str]

@[simp] theorem asInstant_json (t : Instant) : asInstant t.json = .ok t := by
  simp only [Instant.json, asInstant, Instant.fromisoformat_isoformat]

theorem Uuid.truthy_json (u : Uuid) : u.json.truthy = true := by
  have nonempty : u.str ≠ "" := by
    intro empty
    have digits := u.filter_str
    rw [empty] at digits
    have long := congrArg List.length digits
    rw [length_hexDigits] at long
    cases long
  simp [Uuid.json, Json.truthy, nonempty]

theorem Instant.truthy_json (t : Instant) : t.json.truthy = true := by
  have nonempty : t.isoformat ≠ "" := by
    intro empty
    have text := Instant.toList_isoformat t
    rw [empty] at text
    simp at text
  simp [Instant.json, Json.truthy, nonempty]

@[simp] theorem asList_uuids (ids : List Uuid) :
    Json.asList asUuid (.arr (ids.map (·.json))) = .ok ids :=
  Json.asList_map fun u _ => asUuid_json u

@[simp] theorem given_uuid (u : Option Uuid) :
    Json.given asUuid (Json.optional Uuid.json u) = .ok u :=
  Json.given_optional (fun v _ => asUuid_json v) (fun v _ => v.truthy_json)

@[simp] theorem given_instant (t : Option Instant) :
    Json.given asInstant (Json.optional Instant.json t) = .ok t :=
  Json.given_optional (fun v _ => asInstant_json v) (fun v _ => v.truthy_json)

/-- A member is found by its value when no member before it has that value. -/
theorem memberOf_value {α : Type} {name : String} {members : List α} {value : α → String} {a : α}
    (there : a ∈ members) (different : ∀ b ∈ members, value b = value a → b = a) :
    memberOf name members value (value a) = .ok a := by
  unfold memberOf
  cases found : members.find? (value · = value a) with
  | none =>
    have missing := List.find?_eq_none.mp found a there
    simp at missing
  | some b =>
    have same : value b = value a := by simpa using List.find?_some found
    rw [different b (List.mem_of_find?_eq_some found) same]

/-- An enumeration of texts. -/
class StrEnum (α : Type) where
  name : String
  members : List α
  value : α → String
  complete : ∀ a, a ∈ members
  distinct : ∀ a b, value a = value b → a = b

section
variable {α : Type} [StrEnum α]

/-- Calling the class of an enumeration. -/
def ofValue (text : String) : Except Exc α :=
  memberOf (StrEnum.name α) StrEnum.members StrEnum.value text

def memberJson (a : α) : Json := .str (StrEnum.value a)

def asMember : Json → Except Exc α
  | .str text => ofValue text
  | _ => .error ReadErrors.mistyped

@[simp] theorem ofValue_value (a : α) : ofValue (StrEnum.value a) = .ok a :=
  memberOf_value (StrEnum.complete a) fun b _ => StrEnum.distinct b a

@[simp] theorem asMember_json (a : α) : asMember (memberJson a) = .ok a := ofValue_value a

@[simp] theorem asOption_member (a : Option α) :
    Json.asOption asMember (Json.optional memberJson a) = .ok a :=
  Json.asOption_optional (fun v _ => asMember_json v) (fun _ _ => nofun)

end

/-- A payload in a JSON column; the driver wraps the exception of `json.dumps`. -/
def payloadJson (value : Payload) : Except Exc Json :=
  match Any.storedRecord value with
  | .ok members => .ok (.obj members)
  | .error message => .error ⟨"StatementError", [.exception], "(builtins.TypeError) " ++ message⟩

def asPayload (value : Json) : Except Exc Payload := Any.ofRecord <$> value.asObj

@[simp] theorem payloadJson_ofRecord (members : List (String × Json)) :
    payloadJson (Any.ofRecord members) = .ok (.obj members) := by
  rw [payloadJson, Any.storedRecord_ofRecord]

@[simp] theorem asPayload_obj (members : List (String × Json)) :
    asPayload (.obj members) = .ok (Any.ofRecord members) := rfl

@[simp] theorem asOption_payload (members : Option (List (String × Json))) :
    Json.asOption asPayload (Json.optional .obj members) = .ok (members.map Any.ofRecord) := by
  cases members <;> rfl

/-- What a column gives back is a JSON value. -/
theorem asPayload_ok {value : Json} {payload : Payload} (returned : asPayload value = .ok payload) :
    Any.IsJson payload := by
  cases value with
  | obj members =>
    cases returned
    exact ⟨members, rfl⟩
  | _ => cases returned

end Autonoesis
