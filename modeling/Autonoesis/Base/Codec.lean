import Autonoesis.Base.Loops
import Autonoesis.Base.Text

/-!
# Reading JSON values back

Readers for the fields, lists and optional values of a JSON object, and when one of them gives
back what was written. A reader fails on a key that is not there and on a value of another
type; `ReadErrors` says with what.
-/

namespace Base

@[simp] theorem ok_bind {ε α β : Type} (a : α) (f : α → Except ε β) :
    (Except.ok a : Except ε α) >>= f = f a := rfl

class ReadErrors (ε : Type) where
  missing : String → ε
  mistyped : ε

namespace Json
variable {ε α β : Type}

/-- The value under a key. -/
def field? (key : String) : Json → Option Json
  | .obj fields => fields.lookup key
  | _ => none

@[simp] theorem field?_nil (key : String) : field? key (.obj []) = none := rfl

@[simp] theorem field?_cons (key k : String) (v : Json) (rest : List (String × Json)) :
    field? key (.obj ((k, v) :: rest)) = if key = k then some v else field? key (.obj rest) := by
  by_cases same : key = k
  · simp [field?, same]
  · have other : (key == k) = false := beq_eq_false_iff_ne.mpr same
    simp [field?, List.lookup_cons, other, same]

/-- Whether Python takes the value for true. -/
def truthy : Json → Bool
  | .null => false
  | .bool b => b
  | .int n => n ≠ 0
  | .float repr _ _ => repr ∉ ["0.0", "-0.0"]
  | .str s => s ≠ ""
  | .arr items => !items.isEmpty
  | .obj fields => !fields.isEmpty

/-- `value or {}`. -/
def orEmpty (value : Json) : Json := if value.truthy then value else .obj []

@[simp] theorem orEmpty_cons (f : String × Json) (rest : List (String × Json)) :
    orEmpty (.obj (f :: rest)) = .obj (f :: rest) := rfl

/-- `None`, or the value as written. -/
def optional (write : α → Json) : Option α → Json
  | some a => write a
  | none => .null

theorem mapM_map {γ : Type} {read : γ → Except ε α} {write : β → γ} {f : β → α} {items : List β}
    (back : ∀ b ∈ items, read (write b) = .ok (f b)) :
    (items.map write).mapM read = .ok (items.map f) := by
  induction items with
  | nil => rfl
  | cons b rest ih =>
    obtain ⟨first, others⟩ := List.forall_mem_cons.mp back
    rw [List.map_cons, List.mapM_cons, first, ih others]
    rfl

/-- The value, or `None`. -/
def asOption (read : Json → Except ε α) : Json → Except ε (Option α)
  | .null => .ok none
  | v => some <$> read v

/-- The value if it is true, else `None`. -/
def given (read : Json → Except ε α) (value : Json) : Except ε (Option α) :=
  if value.truthy then some <$> read value else .ok none

/-- An optional value is read back when the value is and is not written as `None`. -/
theorem asOption_optional {read : Json → Except ε α} {write : α → Json} {a : Option α}
    (back : ∀ v ∈ a, read (write v) = .ok v) (plain : ∀ v ∈ a, write v ≠ .null) :
    asOption read (optional write a) = .ok a := by
  cases a with
  | none => rfl
  | some v =>
    change asOption read (write v) = .ok (some v)
    have read' := back v rfl
    cases written : write v with
    | null => exact absurd written (plain v rfl)
    | _ =>
      rw [written] at read'
      simp [asOption, read', Functor.map, Except.map]

/-- An optional value that is written as something true is read back when the value is. -/
theorem given_optional {read : Json → Except ε α} {write : α → Json} {a : Option α}
    (back : ∀ v ∈ a, read (write v) = .ok v) (plain : ∀ v ∈ a, (write v).truthy = true) :
    given read (optional write a) = .ok a := by
  cases a with
  | none => rfl
  | some v =>
    change given read (write v) = .ok (some v)
    rw [given, if_pos (plain v rfl), back v rfl]
    rfl

section
variable [ReadErrors ε]

def asBool : Json → Except ε Bool
  | .bool b => .ok b
  | _ => .error ReadErrors.mistyped

def asInt : Json → Except ε Int
  | .int n => .ok n
  | _ => .error ReadErrors.mistyped

def asStr : Json → Except ε String
  | .str s => .ok s
  | _ => .error ReadErrors.mistyped

def asObj : Json → Except ε (List (String × Json))
  | .obj fields => .ok fields
  | _ => .error ReadErrors.mistyped

/-- `tuple(read(item) for item in value)`. -/
def asList (read : Json → Except ε α) : Json → Except ε (List α)
  | .arr items => items.mapM read
  | _ => .error ReadErrors.mistyped

/-- `value[key]`. -/
def at_ (key : String) (read : Json → Except ε α) (value : Json) : Except ε α :=
  match value.field? key with
  | some v => read v
  | none => .error (ReadErrors.missing key)

/-- `value.get(key, default)`. -/
def getD (key : String) (default : α) (read : Json → Except ε α) (value : Json) : Except ε α :=
  match value.field? key with
  | some v => read v
  | none => .ok default

/-- `value.get(key)`. -/
def get? (key : String) (read : Json → Except ε α) (value : Json) : Except ε (Option α) :=
  value.getD key none (asOption read)

/-- `read(value[key]) if value.get(key) else None`. -/
def ifGiven (key : String) (read : Json → Except ε α) (value : Json) : Except ε (Option α) :=
  value.getD key none (given read)

/-- `f(**value)`: the object has the keywords that `f` requires, and no other that it does not
know. -/
def keywords (required optional : List String) : Json → Except ε Unit
  | .obj fields =>
    if required.all (· ∈ fields.map (·.1)) && fields.all (·.1 ∈ required ++ optional) then .ok ()
    else .error ReadErrors.mistyped
  | _ => .error ReadErrors.mistyped

theorem keywords_obj {required optional : List String} {fields : List (String × Json)}
    (known : fields.map (·.1) = required ++ optional) :
    (keywords required optional (.obj fields) : Except ε Unit) = .ok () := by
  have every : required.all (· ∈ fields.map (·.1)) = true := by
    rw [known]
    exact List.all_eq_true.mpr fun key there =>
      decide_eq_true (List.mem_append_left optional there)
  have each : fields.all (·.1 ∈ required ++ optional) = true := by
    rw [← known]
    exact List.all_eq_true.mpr fun f there => decide_eq_true (List.mem_map_of_mem there)
  rw [keywords, every, each]
  rfl

@[simp] theorem asBool_bool (b : Bool) : (asBool (.bool b) : Except ε Bool) = .ok b := rfl
@[simp] theorem asInt_int (n : Int) : (asInt (.int n) : Except ε Int) = .ok n := rfl
@[simp] theorem asStr_str (s : String) : (asStr (.str s) : Except ε String) = .ok s := rfl

@[simp] theorem asOption_str (s : Option String) :
    (asOption asStr (optional .str s) : Except ε (Option String)) = .ok s :=
  asOption_optional (fun _ _ => rfl) (fun _ _ => nofun)

@[simp] theorem asOption_int (n : Option Int) :
    (asOption asInt (optional .int n) : Except ε (Option Int)) = .ok n :=
  asOption_optional (fun _ _ => rfl) (fun _ _ => nofun)

@[simp] theorem asOption_bool (b : Option Bool) :
    (asOption asBool (optional .bool b) : Except ε (Option Bool)) = .ok b :=
  asOption_optional (fun _ _ => rfl) (fun _ _ => nofun)

@[simp] theorem asObj_obj (fields : List (String × Json)) :
    (asObj (.obj fields) : Except ε (List (String × Json))) = .ok fields := rfl

@[simp] theorem asOption_obj (fields : Option (List (String × Json))) :
    (asOption asObj (optional .obj fields) : Except ε (Option (List (String × Json)))) =
      .ok fields :=
  asOption_optional (fun _ _ => rfl) (fun _ _ => nofun)

/-- A list is read back when each of its items is. -/
theorem asList_map {read : Json → Except ε α} {write : α → Json} {items : List α}
    (back : ∀ a ∈ items, read (write a) = .ok a) :
    asList read (.arr (items.map write)) = .ok items := by
  have read' := mapM_map (f := id) back
  rwa [List.map_id] at read'

/-- A list is read back when each of its items is, also where writing one may fail. -/
theorem asList_mapM {write : α → Except ε Json} {read : Json → Except ε α} {items : List α}
    (back : ∀ a ∈ items, ∃ v, write a = .ok v ∧ read v = .ok a) :
    ∃ vs, items.mapM write = .ok vs ∧ asList read (.arr vs) = .ok items := by
  induction items with
  | nil => exact ⟨[], rfl, rfl⟩
  | cons a rest ih =>
    obtain ⟨⟨v, written, first⟩, others⟩ := List.forall_mem_cons.mp back
    obtain ⟨vs, loop, later⟩ := ih others
    refine ⟨v :: vs, ?_, ?_⟩
    · rw [List.mapM_cons, written, loop]
      rfl
    · rw [asList] at later ⊢
      rw [List.mapM_cons, first, later]
      rfl

@[simp] theorem asList_texts (texts : List String) :
    (asList asStr (.arr (texts.map .str)) : Except ε (List String)) = .ok texts :=
  asList_map fun _ _ => rfl

/-! What is read comes from somewhere. -/

theorem read_of_at {key : String} {read : Json → Except ε α} {value : Json} {a : α}
    (returned : value.at_ key read = .ok a) : ∃ v, read v = .ok a := by
  unfold at_ at returned
  split at returned
  · exact ⟨_, returned⟩
  · cases returned

omit [ReadErrors ε] in
theorem read_of_getD {key : String} {default : α} {read : Json → Except ε α} {value : Json} {a : α}
    (returned : value.getD key default read = .ok a) : a = default ∨ ∃ v, read v = .ok a := by
  unfold getD at returned
  split at returned
  · exact .inr ⟨_, returned⟩
  · cases returned
    exact .inl rfl

omit [ReadErrors ε] in
theorem read_of_asOption {read : Json → Except ε α} {value : Json} {a : Option α}
    (returned : asOption read value = .ok a) : ∀ b ∈ a, ∃ v, read v = .ok b := by
  intro b there
  unfold asOption at returned
  split at returned
  · cases returned
    cases there
  · cases done : read value with
    | error e =>
      rw [done] at returned
      cases returned
    | ok b' =>
      rw [done] at returned
      cases returned
      cases there
      exact ⟨_, done⟩

theorem read_of_asList {read : Json → Except ε α} {value : Json} {items : List α}
    (returned : asList read value = .ok items) : ∀ a ∈ items, ∃ v, read v = .ok a := by
  unfold asList at returned
  split at returned
  · intro a there
    obtain ⟨v, _, done⟩ := mapM_mem returned a there
    exact ⟨v, done⟩
  · cases returned

end

end Json

end Base
