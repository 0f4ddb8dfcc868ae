import Autonoesis.Base.Loops
import Autonoesis.Base.Payload

/-! Constrained values shared by the domain aggregates, with the exceptions and
identifiers of the runtime underneath. Timestamps are timezone-aware instants in
microseconds; a naive timestamp, which every constructor rejects, is not represented. -/

namespace Autonoesis
open Base

/-- The exception classes some handler of the platform names. -/
inductive ExcClass where
  | exception
  | lookupError
  | valueError
  | permissionError
  | runtimeError
  | timeoutError
  | concurrencyConflict
  deriving DecidableEq

/-- A raised exception: its type name, the classes it is an instance of and its
text. An exception outside `exception`, such as a cancellation, is caught by no
`except Exception`. -/
structure Exc where
  name : String
  classes : List ExcClass
  message : String
  deriving DecidableEq

namespace Exc

def isA (e : Exc) (c : ExcClass) : Bool := decide (c ∈ e.classes)

def valueError (message : String) : Exc := ⟨"ValueError", [.valueError, .exception], message⟩
def permissionError (message : String) : Exc :=
  ⟨"PermissionError", [.permissionError, .exception], message⟩
def runtimeError (message : String) : Exc :=
  ⟨"RuntimeError", [.runtimeError, .exception], message⟩
def lookupError (message : String) : Exc := ⟨"LookupError", [.lookupError, .exception], message⟩
def keyError (message : String) : Exc := ⟨"KeyError", [.lookupError, .exception], message⟩
def invalidStateTransition (message : String) : Exc :=
  ⟨"InvalidStateTransition", [.valueError, .exception], message⟩
def recordNotFound (message : String) : Exc :=
  ⟨"RecordNotFound", [.lookupError, .exception], message⟩
def tenantBoundaryViolation (message : String) : Exc :=
  ⟨"TenantBoundaryViolation", [.permissionError, .exception], message⟩
def concurrencyConflict (message : String) : Exc :=
  ⟨"ConcurrencyConflict", [.concurrencyConflict, .runtimeError, .exception], message⟩
def typeError (message : String) : Exc := ⟨"TypeError", [.exception], message⟩
def overflowError (message : String) : Exc := ⟨"OverflowError", [.exception], message⟩
def recursionError (message : String) : Exc :=
  ⟨"RecursionError", [.runtimeError, .exception], message⟩

end Exc

/-- Raise `e` when `c` holds. -/
def raiseIf (c : Bool) (e : Exc) : Except Exc Unit := if c then .error e else .ok ()

@[simp] theorem raiseIf_eq_ok {c : Bool} {e : Exc} {u : Unit} :
    raiseIf c e = .ok u ↔ c = false := by
  cases c <;> simp [raiseIf]

/-- The checks of a constructor, in order: the first condition that holds raises. -/
def checks : List (Bool × Exc) → Except Exc Unit
  | [] => .ok ()
  | (c, e) :: rest => if c then .error e else checks rest

@[simp] theorem checks_nil : checks [] = .ok () := rfl

@[simp] theorem checks_cons {c : Bool} {e : Exc} {rest : List (Bool × Exc)} {u : Unit} :
    checks ((c, e) :: rest) = .ok u ↔ c = false ∧ checks rest = .ok u := by
  cases c <;> simp [checks]

theorem checks_error {items : List (Bool × Exc)} {e : Exc} (raised : checks items = .error e) :
    ∃ c, (c, e) ∈ items := by
  induction items with
  | nil => cases raised
  | cons first rest ih =>
    obtain ⟨c, e'⟩ := first
    cases c with
    | true =>
      cases raised
      exact ⟨true, List.mem_cons_self⟩
    | false =>
      obtain ⟨c, there⟩ := ih raised
      exact ⟨c, List.mem_cons_of_mem _ there⟩

/-- Build a value from the proof that its constructor's checks passed. -/
def guarded {α : Type} (check : Except Exc Unit) (build : check = .ok () → α) : Except Exc α :=
  match check, build with
  | .ok (), build => .ok (build rfl)
  | .error e, _ => .error e

theorem guarded_eq_ok {α : Type} {check : Except Exc Unit} {build : check = .ok () → α} {a : α} :
    guarded check build = .ok a ↔ ∃ h, build h = a := by
  cases check with
  | ok u => simp [guarded]
  | error e => simp [guarded]

theorem guarded_eq_error {α : Type} {check : Except Exc Unit} {build : check = .ok () → α}
    {e : Exc} : guarded check build = .error e ↔ check = .error e := by
  cases check with
  | ok u => simp [guarded]
  | error e => simp [guarded]

/-- What is read off a value however it was built. -/
theorem guarded_bind {α β : Type} {check : Except Exc Unit} {build : check = .ok () → α}
    {read : α → Except Exc β} {b : Except Exc β} (same : ∀ h, read (build h) = b) :
    guarded check build >>= read = check >>= fun _ => b := by
  cases check with
  | ok u => exact same rfl
  | error e => rfl

/-- Build a value that its constructor only checks. -/
def checked {α : Type} (check : α → Except Exc Unit) (a : α) : Except Exc α := do
  check a
  return a

theorem checked_ok {α : Type} {check : α → Except Exc Unit} {a : α} (passed : check a = .ok ()) :
    checked check a = .ok a := by
  rw [checked, passed]
  rfl

theorem eq_of_checked {α : Type} {check : α → Except Exc Unit} {a b : α}
    (built : checked check a = .ok b) : b = a := by
  obtain ⟨_, _, same⟩ := bind_eq_ok.mp built
  cases same
  rfl

abbrev Uuid := BitVec 128

theorem Uuid.lawfulBEq : LawfulBEq Uuid := inferInstance

/-- `str(uuid)`. -/
def Uuid.str (u : Uuid) : String :=
  let d := hexDigits 32 u.toNat
  String.ofList (d.take 8 ++ ['-'] ++ (d.drop 8).take 4 ++ ['-'] ++ (d.drop 12).take 4 ++ ['-'] ++
    (d.drop 16).take 4 ++ ['-'] ++ d.drop 20)

/-- The digits of a UUID are its text without the dashes. -/
theorem Uuid.filter_str (u : Uuid) :
    u.str.toList.filter (· ≠ '-') = hexDigits 32 u.toNat := by
  have digits {part : List Char} (inside : ∀ c ∈ part, c ∈ hexDigits 32 u.toNat) :
      part.filter (· ≠ '-') = part := by
    refine List.filter_eq_self.mpr fun c there => decide_eq_true ?_
    rintro rfl
    exact absurd (isHexDigit_of_mem_hexDigits (inside _ there)) (by decide)
  have dash : ['-'].filter (· ≠ '-') = [] := by decide
  simp only [str, String.toList_ofList, List.filter_append, dash, List.append_nil]
  rw [digits fun _ h => List.mem_of_mem_take h,
    digits fun _ h => List.mem_of_mem_drop (List.mem_of_mem_take h),
    digits fun _ h => List.mem_of_mem_drop (List.mem_of_mem_take h),
    digits fun _ h => List.mem_of_mem_drop (List.mem_of_mem_take h),
    digits fun _ h => List.mem_of_mem_drop h]
  have join (n k : Nat) (l : List Char) : (l.drop n).take k ++ l.drop (n + k) = l.drop n := by
    rw [← List.drop_drop, List.take_append_drop]
  simp only [List.append_assoc]
  rw [join 16 4, join 12 4, join 8 4, List.take_append_drop]

theorem Uuid.str_injective {u v : Uuid} (same : u.str = v.str) : u = v := by
  have digits : hexDigits 32 u.toNat = hexDigits 32 v.toNat := by
    rw [← filter_str, same, filter_str]
  have number := hexDigits_inj digits
  have wide (w : Uuid) : w.toNat < 16 ^ 32 :=
    Nat.lt_of_lt_of_eq w.isLt (Nat.pow_mul 2 4 32)
  rw [Nat.mod_eq_of_lt (wide u), Nat.mod_eq_of_lt (wide v)] at number
  exact BitVec.eq_of_toNat_eq number

theorem Uuid.str_chars {u : Uuid} {c : Char} (there : c ∈ u.str.toList) :
    c = '-' ∨ isHexDigit c = true := by
  by_cases dash : c = '-'
  · exact .inl dash
  · have kept : c ∈ u.str.toList.filter (· ≠ '-') := by simpa [dash] using there
    rw [filter_str] at kept
    exact .inr (isHexDigit_of_mem_hexDigits kept)

theorem Uuid.newline_not_mem_str (u : Uuid) : '\n' ∉ u.str.toList :=
  fun there => (str_chars there).elim (by decide) (by decide)

theorem Uuid.isBlank_str (u : Uuid) : isBlank u.str = false := by
  have dash : '-' ∈ u.str.toList := by simp [str]
  exact List.all_eq_false.mpr ⟨'-', dash, by decide⟩

def systemActorId : Uuid := 0

/-- Microseconds since the epoch, UTC. -/
abbrev Instant := Int

def days (n : Int) : Int := n * 86400000000

namespace Instant

/-- The year, month and day of a day count since the epoch. -/
def civil (day : Int) : Int × Int × Int :=
  let z := day + 719468
  let era := z / 146097
  let doe := z % 146097
  let yoe := (doe - doe / 1460 + doe / 36524 - doe / 146096) / 365
  let doy := doe - (365 * yoe + yoe / 4 - yoe / 100)
  let mp := (5 * doy + 2) / 153
  let month := if mp < 10 then mp + 3 else mp - 9
  (yoe + era * 400 + if month ≤ 2 then 1 else 0, month, doy - (153 * mp + 2) / 5 + 1)

/-- `n` in decimal, with leading zeros up to `width`. -/
def padded (width : Nat) (n : Int) : String :=
  let digits := (toString n).toList
  String.ofList (List.replicate (width - digits.length) '0' ++ digits)

/-- `datetime.isoformat()` of an aware timestamp in UTC. -/
def isoformat (t : Instant) : String :=
  let (year, month, day) := civil (t / 86400000000)
  let ofDay := t % 86400000000
  let seconds := ofDay / 1000000
  let micros := ofDay % 1000000
  padded 4 year ++ "-" ++ padded 2 month ++ "-" ++ padded 2 day ++ "T" ++
    padded 2 (seconds / 3600) ++ ":" ++ padded 2 (seconds / 60 % 60) ++ ":" ++
    padded 2 (seconds % 60) ++ (if micros = 0 then "" else "." ++ padded 6 micros) ++ "+00:00"

/-- `datetime.min` and `datetime.max`. -/
def first : Instant := -62135596800000000
def last : Instant := 253402300799999999

/-- `n` days are a `timedelta`, and so many days later there is a `datetime`. -/
def HasDayAfter (t : Instant) (n : Int) : Prop :=
  (-999999999 ≤ n ∧ n ≤ 999999999) ∧ first ≤ t + days n ∧ t + days n ≤ last

instance (t : Instant) (n : Int) : Decidable (t.HasDayAfter n) :=
  inferInstanceAs (Decidable (_ ∧ _))

/-- `t + timedelta(days=n)`. -/
def plusDays (t : Instant) (n : Int) : Except Exc Instant := do
  checks [
    (n < -2147483648 || 2147483647 < n,
      .overflowError "Python int too large to convert to C int"),
    (n < -999999999 || 999999999 < n,
      .overflowError ("days=" ++ toString n ++ "; must have magnitude <= 999999999")),
    (t + days n < first || last < t + days n, .overflowError "date value out of range")]
  return t + days n

theorem plusDays_eq_ok {t later : Instant} {n : Int} :
    t.plusDays n = .ok later ↔ t.HasDayAfter n ∧ later = t + days n := by
  simp only [plusDays, HasDayAfter, bind_eq_ok, checks_cons, checks_nil, Bool.or_eq_false_iff,
    decide_eq_false_iff_not, not_lt]
  constructor
  · rintro ⟨_, ⟨_, magnitude, range, _⟩, same⟩
    exact ⟨⟨magnitude, range⟩, (Except.ok.inj same).symm⟩
  · rintro ⟨⟨magnitude, range⟩, rfl⟩
    exact ⟨(), ⟨by omega, magnitude, range, trivial⟩, rfl⟩

theorem plusDays_raises {t : Instant} {n : Int} (none : ¬ t.HasDayAfter n) :
    ∃ e, t.plusDays n = .error e := by
  cases ran : t.plusDays n with
  | error e => exact ⟨e, rfl⟩
  | ok later => exact absurd (plusDays_eq_ok.mp ran).1 none

end Instant

example : Instant.isoformat 1709210096000007 = "2024-02-29T12:34:56.000007+00:00" := by
  decide +kernel

/-- SHA-256 as the platform uses it: text in, hexadecimal digest out. -/
class Sha256 where
  hexdigest : String → String

inductive RiskTier where
  | low | medium | high | critical
  deriving DecidableEq

def RiskTier.value : RiskTier → String
  | low => "low"
  | medium => "medium"
  | high => "high"
  | critical => "critical"

inductive BudgetUnit where
  | costUnits | tokens | usdMicros
  deriving DecidableEq

inductive DataClassification where
  | pub | internal | confidential | restricted
  deriving DecidableEq

def DataClassification.value : DataClassification → String
  | pub => "public"
  | internal => "internal"
  | confidential => "confidential"
  | restricted => "restricted"

inductive ExecutionMode where
  | autonomous | supervised | humanOnly | shadow
  deriving DecidableEq

def ExecutionMode.value : ExecutionMode → String
  | autonomous => "autonomous"
  | supervised => "supervised"
  | humanOnly => "human_only"
  | shadow => "shadow"

/-- An amount with its unit; a negative amount cannot be built. -/
structure BudgetAmount where
  amount : Nat
  unit : BudgetUnit := .costUnits
  deriving DecidableEq

structure DataPolicy where
  maximumClassification : DataClassification := .internal
  allowedRegions : List String := []
  retentionDays : Int := 30
  deriving DecidableEq

def DataPolicy.check (p : DataPolicy) : Except Exc Unit :=
  checks [
    (p.retentionDays ≤ 0, .valueError "data retention must be positive"),
    (p.allowedRegions.any isBlank, .valueError "data policy regions must not be empty"),
    (!decide p.allowedRegions.Nodup, .valueError "data policy regions must be unique")]

mutual
/-- `_validate_json`. -/
def validateJson (depth : Nat) : Json → Except Exc Unit
  | .float _ finite _ =>
    if 32 < depth then .error (.valueError "JSON value exceeds maximum nesting depth")
    else raiseIf (!finite) (.valueError "JSON numbers must be finite")
  | .arr items =>
    if 32 < depth then .error (.valueError "JSON value exceeds maximum nesting depth")
    else validateItems (depth + 1) items
  | .obj fields =>
    if 32 < depth then .error (.valueError "JSON value exceeds maximum nesting depth")
    else validateFields (depth + 1) fields
  | .null | .bool _ | .int _ | .str _ =>
    raiseIf (32 < depth) (.valueError "JSON value exceeds maximum nesting depth")
def validateItems (depth : Nat) : List Json → Except Exc Unit
  | [] => .ok ()
  | v :: rest => do
    validateJson depth v
    validateItems depth rest
def validateFields (depth : Nat) : List (String × Json) → Except Exc Unit
  | [] => .ok ()
  | (k, v) :: rest => do
    raiseIf (k = "") (.valueError "JSON object keys must be non-empty strings")
    validateJson depth v
    validateFields depth rest
end

/-- What `JsonObject` demands of the object it is built from. -/
def JsonObject.check (fields : List (String × Json)) : Except Exc Unit := do
  validateJson 0 (.obj fields)
  raiseIf (1048576 < (Json.dumps false (.obj fields)).utf8ByteSize)
    (.valueError "JSON object exceeds one MiB")

/-- A canonical JSON object, held by its text. -/
structure JsonObject where
  canonical : String
  valid : ∃ fields, JsonObject.check fields = .ok () ∧ canonical = Json.dumps false (.obj fields)
  deriving DecidableEq

theorem JsonObject.empty_valid : ∃ fields, JsonObject.check fields = .ok () ∧
    "\x7b\x7d" = Json.dumps false (.obj fields) :=
  ⟨[], by decide +kernel, by decide +kernel⟩

def JsonObject.fromValue (fields : List (String × Json)) : Except Exc JsonObject :=
  guarded (JsonObject.check fields) fun h => ⟨Json.dumps false (.obj fields), fields, h, rfl⟩

/-- `JsonObject.to_value`: a canonical text is that of an object. -/
def JsonObject.toValue (j : JsonObject) : List (String × Json) :=
  match Json.loads j.canonical with
  | some (.obj fields) => fields
  | _ => []

theorem validateFields_ok {depth : Nat} {fields : List (String × Json)} :
    validateFields depth fields = .ok () ↔
      ∀ f ∈ fields, f.1 ≠ "" ∧ validateJson depth f.2 = .ok () := by
  induction fields with
  | nil => simp [validateFields]
  | cons f rest ih =>
    obtain ⟨k, v⟩ := f
    rw [validateFields, List.forall_mem_cons, ← ih]
    simp only [bind_eq_ok, raiseIf_eq_ok, decide_eq_false_iff_not]
    constructor
    · rintro ⟨_, key, _, value, others⟩
      exact ⟨⟨key, value⟩, others⟩
    · rintro ⟨⟨key, value⟩, others⟩
      exact ⟨(), key, (), value, others⟩

mutual

/-- A valid value is still valid when it was dumped and loaded. -/
theorem validateJson_loaded : ∀ (v : Json) (depth : Nat),
    validateJson depth v = .ok () → validateJson depth (Json.loaded v) = .ok ()
  | .null, _, valid => valid
  | .bool _, _, valid => valid
  | .int _, _, valid => valid
  | .str _, _, valid => valid
  | .float _ false _, _, valid => valid
  | .float token true text, depth, valid => by
    rw [Json.loaded]
    split_ifs
    · simp only [validateJson] at valid ⊢
      split_ifs at valid with deep
      simp [deep]
    · exact valid
  | .arr items, depth, valid => by
    rw [Json.loaded, validateJson]
    rw [validateJson] at valid
    split_ifs at valid ⊢
    exact validateItems_loaded items _ valid
  | .obj fields, depth, valid => by
    rw [Json.loaded, validateJson]
    rw [validateJson] at valid
    split_ifs at valid ⊢
    have each := validateFields_loaded fields _ valid
    exact validateFields_ok.mpr fun f there => each f (List.mem_insertionSort _ |>.mp there)

theorem validateItems_loaded : ∀ (items : List Json) (depth : Nat),
    validateItems depth items = .ok () → validateItems depth (Json.loadedItems items) = .ok ()
  | [], _, valid => valid
  | v :: rest, depth, valid => by
    rw [validateItems, bind_eq_ok] at valid
    obtain ⟨_, first, others⟩ := valid
    rw [Json.loadedItems, validateItems, validateJson_loaded v depth first]
    exact validateItems_loaded rest depth others

theorem validateFields_loaded : ∀ (fields : List (String × Json)) (depth : Nat),
    validateFields depth fields = .ok () →
      ∀ f ∈ Json.loadedFields fields, f.1 ≠ "" ∧ validateJson depth f.2 = .ok ()
  | [], _, _ => fun _ there => absurd there List.not_mem_nil
  | (k, v) :: rest, depth, valid => by
    obtain ⟨⟨key, first⟩, others⟩ := List.forall_mem_cons.mp (validateFields_ok.mp valid)
    rw [Json.loadedFields]
    exact List.forall_mem_cons.mpr ⟨⟨key, validateJson_loaded v depth first⟩,
      validateFields_loaded rest depth (validateFields_ok.mpr others)⟩

end

theorem JsonObject.check_loaded {fields members : List (String × Json)}
    (valid : check fields = .ok ()) (back : Json.loaded (.obj fields) = .obj members) :
    check members = .ok () := by
  simp only [check, bind_eq_ok, raiseIf_eq_ok] at valid ⊢
  obtain ⟨_, shape, size⟩ := valid
  have same := Json.dumps_loaded false (.obj fields)
  rw [back] at same
  exact ⟨(), back ▸ validateJson_loaded (.obj fields) 0 shape, same ▸ size⟩

/-- The value of an object makes the object again. -/
@[simp] theorem JsonObject.fromValue_toValue (j : JsonObject) : fromValue j.toValue = .ok j := by
  obtain ⟨text, fields, valid, rfl⟩ := j
  have back : Json.loaded (.obj fields) =
      .obj (Json.sortMembers (Json.loadedFields fields)) := by rw [Json.loaded]
  have value : (⟨_, fields, valid, rfl⟩ : JsonObject).toValue =
      Json.sortMembers (Json.loadedFields fields) := by
    simp only [toValue, Json.loads_dumps, back]
  have same := Json.dumps_loaded false (.obj fields)
  rw [back] at same
  rw [value, fromValue, guarded_eq_ok]
  exact ⟨check_loaded valid back, by simp only [same]⟩

def JsonObject.digest [Sha256] (j : JsonObject) : String := Sha256.hexdigest j.canonical

end Autonoesis
