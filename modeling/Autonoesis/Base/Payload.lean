import Mathlib.Algebra.BigOperators.Group.List.Basic
import Autonoesis.Base.Loops
import Autonoesis.Base.Numbers
import Autonoesis.Base.Reading

/-!
# Values of any type

What a `dict[str, Any]` of Python may hold is more than JSON: tuples, dictionaries whose keys are
not texts, values of any other type. `json.dumps` writes a tuple as a list and a key as a text and
refuses the other values, and a JSON column gives back what was written. So what is read from one is
a JSON value, and a JSON value is read as it was.
-/

namespace Base

/-- A key of a dictionary; a float is a finite one. -/
inductive AnyKey where
  | str (s : String)
  | int (n : Int)
  | bool (b : Bool)
  | float (repr : String) (text : isFloatText true repr = true)
  | none
  | other (typeName : String)

inductive Any where
  | null
  | bool (b : Bool)
  | int (n : Int)
  | float (repr : String) (finite : Bool) (text : isFloatText finite repr = true)
  | str (s : String)
  | list (items : List Any)
  | tuple (items : List Any)
  | dict (fields : List (AnyKey × Any))
  | other (typeName : String)

/-- A `dict[str, Any]`. -/
abbrev Payload := List (String × Any)

/-- The value of a payload. -/
def Any.record (fields : Payload) : Any := .dict (fields.map fun f => (.str f.1, f.2))

/-! ## What is written -/

namespace AnyKey

def typeName : AnyKey → String
  | str _ => "str"
  | int _ => "int"
  | bool _ => "bool"
  | float _ _ => "float"
  | none => "NoneType"
  | other typeName => typeName

/-- The text a key is written as, or the text of the `TypeError`. -/
def text : AnyKey → Except String String
  | str s => .ok s
  | int n => .ok (toString n)
  | bool true => .ok "true"
  | bool false => .ok "false"
  | float repr _ => .ok repr
  | none => .ok "null"
  | other typeName =>
    .error ("keys must be str, int, float, bool or None, not " ++ typeName)

def number : AnyKey → Option Rat
  | int n => some n
  | bool b => some (if b then 1 else 0)
  | float repr _ => some (decimal repr.toList)
  | _ => Option.none

def comparable : AnyKey → AnyKey → Bool
  | str _, str _ => true
  | a, b => a.number.isSome && b.number.isSome

/-- `a <= b`, of comparable keys. -/
def le : AnyKey → AnyKey → Bool
  | str a, str b => a ≤ b
  | a, b => a.number.getD 0 ≤ b.number.getD 0

end AnyKey

/-- `sorted(items)`, by keys that are all comparable, or the text of the `TypeError`. -/
def sortItems {α : Type} : List (AnyKey × α) → Except String (List (AnyKey × α))
  | [] => .ok []
  | first :: rest =>
    match rest.find? fun item => !item.1.comparable first.1 with
    | some item => .error ("'<' not supported between instances of '" ++ item.1.typeName ++
        "' and '" ++ first.1.typeName ++ "'")
    | none => .ok ((first :: rest).insertionSort fun a b => a.1.le b.1)

/-- A member of a written dictionary. -/
def memberText (colon : String) (item : AnyKey × String) : Except String String := do
  return Json.quote true (← item.1.text) ++ colon ++ item.2

namespace Any

mutual
/-- `json.dumps(value, sort_keys=True, separators=(comma, colon))`, or the text of the
`TypeError`. -/
def dumps (comma colon : String) : Any → Except String String
  | null => .ok "null"
  | bool true => .ok "true"
  | bool false => .ok "false"
  | int n => .ok (toString n)
  | float repr _ _ => .ok repr
  | str s => .ok (Json.quote true s)
  | list items => do return "[" ++ comma.intercalate (← dumpsItems comma colon items) ++ "]"
  | tuple items => do return "[" ++ comma.intercalate (← dumpsItems comma colon items) ++ "]"
  | dict fields => do
    let items ← sortItems (← dumpsFields comma colon fields)
    return "\x7b" ++ comma.intercalate (← items.mapM (memberText colon)) ++ "\x7d"
  | other typeName => .error ("Object of type " ++ typeName ++ " is not JSON serializable")
def dumpsItems (comma colon : String) : List Any → Except String (List String)
  | [] => .ok []
  | v :: rest => do return (← dumps comma colon v) :: (← dumpsItems comma colon rest)
def dumpsFields (comma colon : String) :
    List (AnyKey × Any) → Except String (List (AnyKey × String))
  | [] => .ok []
  | (k, v) :: rest => do return (k, ← dumps comma colon v) :: (← dumpsFields comma colon rest)
end

example : dumps ", " ": " (.record [("b", .tuple [.int 1, .null]), ("a", .bool true)]) =
    .ok "\x7b\"a\": true, \"b\": [1, null]\x7d" := by decide +kernel

example : dumps "," ":" (.dict [(.int 10, .null), (.int 9, .other "datetime")]) =
    .error "Object of type datetime is not JSON serializable" := by decide +kernel

end Any

/-! ## What is refused -/

def AnyKey.isText : AnyKey → Bool
  | other _ => false
  | _ => true

theorem AnyKey.text_returns {k : AnyKey} : (∃ s, k.text = .ok s) ↔ k.isText = true := by
  cases k with
  | bool b => cases b <;> simp [text, isText]
  | _ => simp [text, isText]

def sortable : List AnyKey → Bool
  | [] => true
  | first :: rest => rest.all (·.comparable first)

theorem sortItems_returns {α : Type} {items : List (AnyKey × α)} :
    (∃ sorted, sortItems items = .ok sorted) ↔ sortable (items.map Prod.fst) = true := by
  cases items with
  | nil => simp [sortItems, sortable]
  | cons first rest =>
    rw [sortItems]
    cases found : rest.find? fun item => !item.1.comparable first.1 with
    | some item =>
      have clash := List.find?_some found
      have there := List.mem_of_find?_eq_some found
      simp only [reduceCtorEq, exists_false, false_iff, sortable, List.map_cons, List.all_map]
      rw [Bool.not_eq_true, List.all_eq_false]
      exact ⟨item, there, by simpa using clash⟩
    | none =>
      simpa [sortable] using found

theorem sortItems_perm {α : Type} {items sorted : List (AnyKey × α)}
    (returned : sortItems items = .ok sorted) : sorted.Perm items := by
  cases items with
  | nil =>
    cases returned
    exact .refl _
  | cons first rest =>
    rw [sortItems] at returned
    split at returned
    · cases returned
    · cases returned
      exact List.perm_insertionSort _ _

namespace Any

mutual
/-- `json.dumps` writes the value. -/
def serializable : Any → Bool
  | null => true
  | bool _ => true
  | int _ => true
  | float _ _ _ => true
  | str _ => true
  | list items => allSerializable items
  | tuple items => allSerializable items
  | dict fields => sortable (fields.map Prod.fst) && (fields.map Prod.fst).all (·.isText) &&
    fieldsSerializable fields
  | other _ => false
def allSerializable : List Any → Bool
  | [] => true
  | v :: rest => serializable v && allSerializable rest
def fieldsSerializable : List (AnyKey × Any) → Bool
  | [] => true
  | (_, v) :: rest => serializable v && fieldsSerializable rest
end

theorem dumpsFields_keys {comma colon : String} {fields : List (AnyKey × Any)}
    {items : List (AnyKey × String)} (dumped : dumpsFields comma colon fields = .ok items) :
    items.map Prod.fst = fields.map Prod.fst := by
  induction fields generalizing items with
  | nil =>
    cases dumped
    rfl
  | cons field rest ih =>
    obtain ⟨text, _, dumped⟩ := bind_eq_ok.mp dumped
    obtain ⟨others, loop, dumped⟩ := bind_eq_ok.mp dumped
    cases dumped
    rw [List.map_cons, List.map_cons, ih loop]

theorem memberText_returns (colon : String) {item : AnyKey × String} :
    (∃ text, memberText colon item = .ok text) ↔ item.1.isText = true := by
  rw [← AnyKey.text_returns]
  constructor
  · rintro ⟨_, made⟩
    obtain ⟨key, written, _⟩ := bind_eq_ok.mp made
    exact ⟨key, written⟩
  · rintro ⟨key, written⟩
    exact ⟨_, bind_eq_ok.mpr ⟨key, written, rfl⟩⟩

mutual

/-- Whether a value is written does not depend on the separators. -/
theorem dumps_returns (comma colon : String) :
    ∀ v : Any, (∃ text, dumps comma colon v = .ok text) ↔ v.serializable = true
  | null => by simp [dumps, serializable]
  | bool true => by simp [dumps, serializable]
  | bool false => by simp [dumps, serializable]
  | int _ => by simp [dumps, serializable]
  | float _ _ _ => by simp [dumps, serializable]
  | str _ => by simp [dumps, serializable]
  | other _ => by simp [dumps, serializable]
  | list items => by
    rw [dumps, serializable, ← dumpsItems_returns comma colon items]
    simp [bind_eq_ok, pure, Except.pure]
  | tuple items => by
    rw [dumps, serializable, ← dumpsItems_returns comma colon items]
    simp [bind_eq_ok, pure, Except.pure]
  | dict fields => by
    rw [dumps, serializable, Bool.and_eq_true, ← dumpsFields_returns comma colon fields]
    simp only [bind_eq_ok]
    constructor
    · rintro ⟨_, items, each, sorted, order, members, texts, _⟩
      have keys := dumpsFields_keys each
      have written := mapM_returns.mp ⟨members, texts⟩
      refine ⟨Bool.and_eq_true_iff.mpr ⟨?_, ?_⟩, items, each⟩
      · rw [← keys]
        exact sortItems_returns.mp ⟨sorted, order⟩
      · rw [← keys, List.all_map, List.all_eq_true]
        intro item there
        exact (memberText_returns colon).mp (written item ((sortItems_perm order).mem_iff.mpr there))
    · rintro ⟨keys, items, each⟩
      obtain ⟨order, written⟩ := Bool.and_eq_true_iff.mp keys
      rw [← dumpsFields_keys each] at order written
      obtain ⟨sorted, order⟩ := sortItems_returns.mpr order
      obtain ⟨members, texts⟩ := mapM_returns.mpr fun item there =>
        (memberText_returns colon).mpr <| by
          rw [List.all_map, List.all_eq_true] at written
          exact written item ((sortItems_perm order).mem_iff.mp there)
      exact ⟨_, items, each, sorted, order, members, texts, rfl⟩

theorem dumpsItems_returns (comma colon : String) : ∀ items : List Any,
    (∃ texts, dumpsItems comma colon items = .ok texts) ↔ allSerializable items = true
  | [] => by simp [dumpsItems, allSerializable]
  | v :: rest => by
    rw [dumpsItems, allSerializable, Bool.and_eq_true, ← dumps_returns comma colon v,
      ← dumpsItems_returns comma colon rest]
    simp [bind_eq_ok, pure, Except.pure]

theorem dumpsFields_returns (comma colon : String) : ∀ fields : List (AnyKey × Any),
    (∃ items, dumpsFields comma colon fields = .ok items) ↔ fieldsSerializable fields = true
  | [] => by simp [dumpsFields, fieldsSerializable]
  | (k, v) :: rest => by
    rw [dumpsFields, fieldsSerializable, Bool.and_eq_true, ← dumps_returns comma colon v,
      ← dumpsFields_returns comma colon rest]
    simp [bind_eq_ok, pure, Except.pure]

end

theorem allSerializable_eq (items : List Any) :
    allSerializable items = items.all (·.serializable) := by
  induction items with
  | nil => rfl
  | cons v rest ih => rw [allSerializable, ih, List.all_cons]

theorem fieldsSerializable_eq (fields : List (AnyKey × Any)) :
    fieldsSerializable fields = fields.all (·.2.serializable) := by
  induction fields with
  | nil => rfl
  | cons field rest ih =>
    obtain ⟨k, v⟩ := field
    rw [fieldsSerializable, ih, List.all_cons]

theorem sortable_texts {α : Type} (fields : List (String × α)) :
    sortable (fields.map fun f => .str f.1) = true := by
  cases fields <;> simp [sortable, AnyKey.comparable]

/-- The keys of a payload are texts. -/
theorem serializable_record (fields : Payload) :
    (record fields).serializable = fields.all (·.2.serializable) := by
  have keys : (fields.map fun f => ((.str f.1, f.2) : AnyKey × Any)).map Prod.fst =
      fields.map fun f => .str f.1 := by
    rw [List.map_map]
    rfl
  have texts : (fields.map fun f => AnyKey.str f.1).all (·.isText) = true := by
    simp [AnyKey.isText]
  rw [record, serializable, keys, sortable_texts, texts, fieldsSerializable_eq, List.all_map]
  rfl

/-! ## What is stored -/

mutual
/-- What a JSON column gives back, or the text of the `TypeError`. -/
def stored : Any → Except String Json
  | null => .ok .null
  | bool b => .ok (.bool b)
  | int n => .ok (.int n)
  | float repr finite text => .ok (.float repr finite text)
  | str s => .ok (.str s)
  | list items => do return .arr (← storedItems items)
  | tuple items => do return .arr (← storedItems items)
  | dict fields => do return .obj (← storedFields fields)
  | other typeName => .error ("Object of type " ++ typeName ++ " is not JSON serializable")
def storedItems : List Any → Except String (List Json)
  | [] => .ok []
  | v :: rest => do return (← stored v) :: (← storedItems rest)
def storedFields : List (AnyKey × Any) → Except String (List (String × Json))
  | [] => .ok []
  | (k, v) :: rest => do return (← k.text, ← stored v) :: (← storedFields rest)
end

mutual
/-- A JSON value, as it is read. -/
def ofJson : Json → Any
  | .null => .null
  | .bool b => .bool b
  | .int n => .int n
  | .float repr finite text => .float repr finite text
  | .str s => .str s
  | .arr items => .list (ofItems items)
  | .obj fields => .dict (ofFields fields)
def ofItems : List Json → List Any
  | [] => []
  | v :: rest => ofJson v :: ofItems rest
def ofFields : List (String × Json) → List (AnyKey × Any)
  | [] => []
  | (k, v) :: rest => (.str k, ofJson v) :: ofFields rest
end

mutual

/-- A JSON value is read as it was. -/
theorem stored_ofJson : ∀ v : Json, stored (ofJson v) = .ok v
  | .null => by rw [ofJson, stored]
  | .bool _ => by rw [ofJson, stored]
  | .int _ => by rw [ofJson, stored]
  | .float _ _ _ => by rw [ofJson, stored]
  | .str _ => by rw [ofJson, stored]
  | .arr items => by
    rw [ofJson, stored, storedItems_ofItems items]
    rfl
  | .obj fields => by
    rw [ofJson, stored, storedFields_ofFields fields]
    rfl

theorem storedItems_ofItems : ∀ items : List Json, storedItems (ofItems items) = .ok items
  | [] => by rw [ofItems, storedItems]
  | v :: rest => by
    rw [ofItems, storedItems, stored_ofJson v, storedItems_ofItems rest]
    rfl

theorem storedFields_ofFields :
    ∀ fields : List (String × Json), storedFields (ofFields fields) = .ok fields
  | [] => by rw [ofFields, storedFields]
  | (k, v) :: rest => by
    rw [ofFields, storedFields, stored_ofJson v, storedFields_ofFields rest]
    rfl

end

theorem keys_ofFields (fields : List (String × Json)) :
    (ofFields fields).map Prod.fst = fields.map fun f => .str f.1 := by
  induction fields with
  | nil => rfl
  | cons field rest ih =>
    obtain ⟨k, v⟩ := field
    rw [ofFields, List.map_cons, ih, List.map_cons]

mutual

theorem serializable_ofJson : ∀ v : Json, (ofJson v).serializable = true
  | .null => by rw [ofJson, serializable]
  | .bool _ => by rw [ofJson, serializable]
  | .int _ => by rw [ofJson, serializable]
  | .float _ _ _ => by rw [ofJson, serializable]
  | .str _ => by rw [ofJson, serializable]
  | .arr items => by
    rw [ofJson, serializable]
    exact allSerializable_ofItems items
  | .obj fields => by
    rw [ofJson, serializable, keys_ofFields, sortable_texts, fieldsSerializable_ofFields fields]
    simp [AnyKey.isText]

theorem allSerializable_ofItems : ∀ items : List Json, allSerializable (ofItems items) = true
  | [] => by rw [ofItems, allSerializable]
  | v :: rest => by
    rw [ofItems, allSerializable, serializable_ofJson v, allSerializable_ofItems rest]
    rfl

theorem fieldsSerializable_ofFields :
    ∀ fields : List (String × Json), fieldsSerializable (ofFields fields) = true
  | [] => by rw [ofFields, fieldsSerializable]
  | (k, v) :: rest => by
    rw [ofFields, fieldsSerializable, serializable_ofJson v, fieldsSerializable_ofFields rest]
    rfl

end

/-- What a column makes of a payload. -/
def storedRecord (fields : Payload) : Except String (List (String × Json)) :=
  fields.mapM fun f => do return (f.1, ← f.2.stored)

/-- A payload, as it is read. -/
def ofRecord (members : List (String × Json)) : Payload := members.map fun f => (f.1, ofJson f.2)

/-- The values of the payload are JSON values. -/
def IsJson (fields : Payload) : Prop := ∃ members, fields = ofRecord members

theorem storedRecord_ofRecord (members : List (String × Json)) :
    storedRecord (ofRecord members) = .ok members := by
  refine mapM_eq_ok.mpr (List.forall₂_map_left_iff.mpr (List.forall₂_same.mpr fun f _ => ?_))
  rw [stored_ofJson]
  rfl

theorem IsJson.serializable {fields : Payload} (json : IsJson fields) :
    (record fields).serializable = true := by
  obtain ⟨members, rfl⟩ := json
  rw [serializable_record, ofRecord, List.all_map, List.all_eq_true]
  exact fun f _ => serializable_ofJson f.2

/-! ## The length of a dump -/

/-- The length of what is written, if anything is. -/
def dumpLength (comma colon : String) (v : Any) : Nat :=
  match dumps comma colon v with
  | .ok text => text.length
  | .error _ => 0

theorem dumpLength_eq {comma colon : String} {v : Any} {text : String}
    (written : dumps comma colon v = .ok text) : dumpLength comma colon v = text.length := by
  rw [dumpLength, written]

theorem length_intercalate (sep : String) {parts : List String} (some_ : parts ≠ []) :
    (sep.intercalate parts).length + sep.length =
      (parts.map fun part => part.length + sep.length).sum := by
  induction parts with
  | nil => exact absurd rfl some_
  | cons first rest ih =>
    cases rest with
    | nil => simp
    | cons second rest =>
      rw [String.intercalate_cons_cons, String.length_append, String.length_append, List.map_cons,
        List.sum_cons, ← ih (List.cons_ne_nil _ _)]
      omega

theorem dumpsItems_eq (comma colon : String) (items : List Any) :
    dumpsItems comma colon items = items.mapM (dumps comma colon) := by
  induction items with
  | nil => rfl
  | cons v rest ih =>
    rw [dumpsItems, List.mapM_cons, ih]

theorem dumpsFields_eq (comma colon : String) (fields : List (AnyKey × Any)) :
    dumpsFields comma colon fields =
      fields.mapM fun f => do return (f.1, ← dumps comma colon f.2) := by
  induction fields with
  | nil => rfl
  | cons f rest ih =>
    obtain ⟨k, v⟩ := f
    rw [dumpsFields, List.mapM_cons, ih]
    cases dumps comma colon v <;> rfl

theorem map_eq_of_forall₂ {α β γ : Type} {f : α → γ} {g : β → γ} {items : List α} {results : List β}
    (each : List.Forall₂ (fun a b => f a = g b) items results) : items.map f = results.map g := by
  induction each with
  | nil => rfl
  | cons first _ ih => rw [List.map_cons, List.map_cons, first, ih]

theorem dumpLength_list (comma colon : String) {items : List Any} (some_ : items ≠ [])
    (written : (list items).serializable = true) :
    dumpLength comma colon (list items) + comma.length =
      2 + (items.map fun v => dumpLength comma colon v + comma.length).sum := by
  obtain ⟨text, dumped⟩ := (dumps_returns comma colon _).mpr written
  rw [dumpLength_eq dumped]
  rw [dumps, dumpsItems_eq] at dumped
  obtain ⟨texts, each, made⟩ := bind_eq_ok.mp dumped
  cases made
  have parts := mapM_eq_ok.mp each
  have nonempty : texts ≠ [] := by
    rintro rfl
    cases parts
    exact some_ rfl
  have lengths := length_intercalate comma nonempty
  have same : items.map (fun v => dumpLength comma colon v + comma.length) =
      texts.map fun part => part.length + comma.length :=
    map_eq_of_forall₂ (parts.imp fun v part one => by rw [dumpLength_eq one])
  have bracket : "[".length = 1 ∧ "]".length = 1 := ⟨rfl, rfl⟩
  rw [same, ← lengths, String.length_append, String.length_append]
  omega

/-- A dumped payload is as long as its members, whatever their order. -/
theorem dumpLength_record (comma colon : String) {fields : Payload} (some_ : fields ≠ [])
    (written : (record fields).serializable = true) :
    dumpLength comma colon (record fields) + comma.length =
      2 + (fields.map fun f => (Json.quote true f.1).length + colon.length +
        dumpLength comma colon f.2 + comma.length).sum := by
  obtain ⟨text, dumped⟩ := (dumps_returns comma colon _).mpr written
  rw [dumpLength_eq dumped]
  rw [record, dumps, dumpsFields_eq] at dumped
  obtain ⟨items, each, dumped⟩ := bind_eq_ok.mp dumped
  obtain ⟨sorted, order, dumped⟩ := bind_eq_ok.mp dumped
  obtain ⟨members, texts, made⟩ := bind_eq_ok.mp dumped
  cases made
  -- what one item adds to the text, and what one field does
  let added (item : AnyKey × String) : Nat :=
    (match item.1.text with | .ok key => (Json.quote true key).length | .error _ => 0) +
      colon.length + item.2.length + comma.length
  have membered : sorted.map added = members.map fun member => member.length + comma.length := by
    refine map_eq_of_forall₂ ((mapM_eq_ok.mp texts).imp fun item member one => ?_)
    obtain ⟨key, text, made⟩ := bind_eq_ok.mp one
    cases made
    simp only [added, text, String.length_append]
  have itemized : (fields.map fun f => (Json.quote true f.1).length + colon.length +
      dumpLength comma colon f.2 + comma.length) = items.map added := by
    refine map_eq_of_forall₂ ?_
    refine (List.forall₂_map_left_iff.mp (mapM_eq_ok.mp each)).imp fun f item one => ?_
    obtain ⟨text, written, made⟩ := bind_eq_ok.mp one
    cases made
    simp only [added, AnyKey.text, dumpLength_eq written]
  have perm := sortItems_perm order
  have nonempty : members ≠ [] := by
    rintro rfl
    have empty : sorted = [] := List.map_eq_nil_iff.mp membered
    rw [empty, List.nil_perm] at perm
    rw [perm, List.map_nil, List.map_eq_nil_iff] at itemized
    exact some_ itemized
  have lengths := length_intercalate comma nonempty
  have brace : "\x7b".length = 1 ∧ "\x7d".length = 1 := ⟨rfl, rfl⟩
  rw [itemized, ← (perm.map added).sum_eq, membered, ← lengths, String.length_append,
    String.length_append]
  omega

/-- A dumped text is longer than the text, by its quotes at least. -/
theorem length_quote_ge (ascii : Bool) (s : String) :
    s.length + 2 ≤ (Json.quote ascii s).length := by
  have inside := Json.length_escaped ascii s.toList
  rw [String.length_toList] at inside
  rw [← (Json.quote ascii s).length_toList, Json.toList_quote]
  simp only [List.length_cons, List.length_append, List.length_nil]
  omega

end Any

end Base
