import Autonoesis.Base.Reading

/-!
# Loading what was dumped

`json.loads` on the texts that `json.dumps` writes without blanks. A number stays as its text has
it: an integer when `str` writes it so, else a float, which is carried by its text. What comes back
of a value is the value with the members of its objects in the order of their keys
(`loads_dumps`), and it is dumped as the same text (`dumps_loaded`).
-/

namespace Base.Json

/-- Whether a number, `null`, `true` or `false` goes on with this character. -/
def inToken (c : Char) : Bool := c ∉ [',', ']', '\x7d']

/-- The integer with these digits. -/
def integer : List Char → Int
  | '-' :: digits => -(Nat.ofDigitChars 10 digits 0 : Nat)
  | digits => Nat.ofDigitChars 10 digits 0

def number (token : String) : Option Json :=
  if toString (integer token.toList) = token then some (.int (integer token.toList))
  else if text : isFloatText true token = true then some (.float token true text)
  else none

def scalar (token : String) : Option Json :=
  if token = "null" then some .null
  else if token = "true" then some (.bool true)
  else if token = "false" then some (.bool false)
  else if text : isFloatText false token = true then some (.float token false text)
  else number token

/-- The string up to the quote that ends it, and the text behind it. -/
def readString : Nat → List Char → Option (List Char × List Char)
  | 0, _ => none
  | fuel + 1, text =>
    if text.head? = some '"' then some ([], text.tail)
    else do
      let (c, rest) ← unescape text
      let (s, rest) ← readString fuel rest
      return (c :: s, rest)

mutual
/-- The first value of the text, and the text behind it. -/
def readValue : Nat → List Char → Option (Json × List Char)
  | fuel + 1, c :: rest =>
    if c = '"' then do
      let (s, rest) ← readString fuel rest
      return (.str (String.ofList s), rest)
    else if c = '[' then
      if rest.head? = some ']' then some (.arr [], rest.tail)
      else do
        let (items, rest) ← readItems fuel rest
        return (.arr items, rest)
    else if c = '\x7b' then
      if rest.head? = some '\x7d' then some (.obj [], rest.tail)
      else do
        let (fields, rest) ← readFields fuel rest
        return (.obj fields, rest)
    else do
      let v ← scalar (String.ofList ((c :: rest).takeWhile inToken))
      return (v, (c :: rest).dropWhile inToken)
  | _, _ => none

/-- The items up to the bracket that ends them. -/
def readItems : Nat → List Char → Option (List Json × List Char)
  | 0, _ => none
  | fuel + 1, text => do
    let (v, rest) ← readValue fuel text
    match rest with
    | c :: rest =>
      if c = ',' then do
        let (more, rest) ← readItems fuel rest
        return (v :: more, rest)
      else if c = ']' then return ([v], rest)
      else none
    | [] => none

/-- The members up to the brace that ends them. -/
def readFields : Nat → List Char → Option (List (String × Json) × List Char)
  | 0, _ => none
  | fuel + 1, text => do
    let (key, rest) ← readString fuel text.tail
    let (v, rest) ← readValue fuel rest.tail
    match rest with
    | c :: rest =>
      if c = ',' then do
        let (more, rest) ← readFields fuel rest
        return ((String.ofList key, v) :: more, rest)
      else if c = '\x7d' then return ([(String.ofList key, v)], rest)
      else none
    | [] => none
end

/-- `json.loads(text)`. -/
def loads (text : String) : Option Json :=
  match readValue text.toList.length text.toList with
  | some (v, []) => some v
  | _ => none

def sortMembers {α : Type} (fields : List (String × α)) : List (String × α) :=
  fields.insertionSort fun a b => a.1 ≤ b.1

mutual
/-- What comes back of a value. -/
def loaded : Json → Json
  | .float token true text =>
    if toString (integer token.toList) = token then .int (integer token.toList)
    else .float token true text
  | .arr items => .arr (loadedItems items)
  | .obj fields => .obj (sortMembers (loadedFields fields))
  | v => v
def loadedItems : List Json → List Json
  | [] => []
  | v :: rest => loaded v :: loadedItems rest
def loadedFields : List (String × Json) → List (String × Json)
  | [] => []
  | (k, v) :: rest => (k, loaded v) :: loadedFields rest
end

/-! ## The parts of a value -/

theorem dumpsItems_eq (ascii : Bool) (items : List Json) :
    dumpsItems ascii items = items.map (dumps ascii) := by
  induction items with
  | nil => rfl
  | cons v rest ih => rw [dumpsItems, ih, List.map_cons]

theorem dumpsFields_eq (ascii : Bool) (fields : List (String × Json)) :
    dumpsFields ascii fields = fields.map fun f => (f.1, dumps ascii f.2) := by
  induction fields with
  | nil => rfl
  | cons f rest ih =>
    obtain ⟨k, v⟩ := f
    rw [dumpsFields, ih, List.map_cons]

theorem loadedItems_eq (items : List Json) : loadedItems items = items.map loaded := by
  induction items with
  | nil => rfl
  | cons v rest ih => rw [loadedItems, ih, List.map_cons]

theorem loadedFields_eq (fields : List (String × Json)) :
    loadedFields fields = fields.map fun f => (f.1, loaded f.2) := by
  induction fields with
  | nil => rfl
  | cons f rest ih =>
    obtain ⟨k, v⟩ := f
    rw [loadedFields, ih, List.map_cons]

/-- Sorting by the keys does not look at what stands behind them. -/
theorem sortMembers_map {α β : Type} (g : α → β) (fields : List (String × α)) :
    sortMembers (fields.map fun f => (f.1, g f.2)) =
      (sortMembers fields).map fun f => (f.1, g f.2) :=
  (List.map_insertionSort (r := fun a b : String × α => a.1 ≤ b.1)
    (s := fun a b : String × β => a.1 ≤ b.1) _ _ fun _ _ _ _ => Iff.rfl).symm

theorem sortMembers_sorted {α : Type} (fields : List (String × α)) :
    sortMembers (sortMembers fields) = sortMembers fields := by
  have total : Std.Total fun a b : String × α => a.1 ≤ b.1 := ⟨fun a b => String.le_total a.1 b.1⟩
  have trans : IsTrans (String × α) fun a b => a.1 ≤ b.1 := ⟨fun _ _ _ => String.le_trans⟩
  exact (List.pairwise_insertionSort _ fields).insertionSort_eq

/-! ## What comes back is dumped the same -/

theorem dumps_float (ascii : Bool) {token : String} (text : isFloatText true token = true) :
    dumps ascii (loaded (.float token true text)) = token := by
  rw [loaded]
  split_ifs with whole
  · exact whole
  · rfl

mutual

theorem dumps_loaded (ascii : Bool) : ∀ v : Json, dumps ascii (loaded v) = dumps ascii v
  | .null => rfl
  | .bool _ => rfl
  | .int _ => rfl
  | .float _ false _ => rfl
  | .float _ true text => dumps_float ascii text
  | .str _ => rfl
  | .arr items => by
    rw [loaded, dumps, dumps, dumpsItems_loaded]
  | .obj fields => by
    have inside := dumpsFields_loaded ascii fields
    rw [loaded, dumps, dumps, ← inside]
    simp only [sortFields, dumpsFields_eq]
    rw [← sortMembers, ← sortMembers, sortMembers_map, sortMembers_map, sortMembers_sorted]

theorem dumpsItems_loaded (ascii : Bool) :
    ∀ items : List Json, dumpsItems ascii (loadedItems items) = dumpsItems ascii items
  | [] => rfl
  | v :: rest => by
    rw [loadedItems, dumpsItems, dumpsItems, dumps_loaded, dumpsItems_loaded]

theorem dumpsFields_loaded (ascii : Bool) :
    ∀ fields : List (String × Json),
      dumpsFields ascii (loadedFields fields) = dumpsFields ascii fields
  | [] => rfl
  | (k, v) :: rest => by
    rw [loadedFields, dumpsFields, dumpsFields, dumps_loaded, dumpsFields_loaded]

end

/-! ## Tokens -/

theorem integer_toString (n : Int) : integer (toString n).toList = n := by
  have digits (m : Nat) : Nat.ofDigitChars 10 m.repr.toList 0 = m := by
    rw [Nat.toList_repr]
    exact Nat.ofDigitChars_toDigits (by decide) (by decide)
  cases n with
  | ofNat m =>
    change integer m.repr.toList = m
    unfold integer
    split
    · next rest text =>
      have minus : '-' ∈ m.repr.toList := text ▸ List.mem_cons_self
      rw [Nat.toList_repr] at minus
      exact absurd (Nat.isDigit_of_mem_toDigits (by decide) (by decide) minus) (by decide)
    · rw [digits]
  | negSucc m =>
    have text : ("-" ++ (m + 1).repr).toList = '-' :: (m + 1).repr.toList := by simp
    change integer ("-" ++ (m + 1).repr).toList = Int.negSucc m
    rw [text, integer, digits]
    omega

/-- Nothing in the text goes on with the token before it. -/
def Ends (rest : List Char) : Prop := rest.takeWhile inToken = []

theorem Ends.cons {c : Char} {rest : List Char} (stop : inToken c = false) : Ends (c :: rest) := by
  simp [Ends, stop]

theorem takeWhile_token {token rest : List Char} (inside : ∀ c ∈ token, inToken c = true)
    (ends : Ends rest) : (token ++ rest).takeWhile inToken = token := by
  rw [List.takeWhile_append_of_pos inside, ends, List.append_nil]

theorem dropWhile_token {token rest : List Char} (inside : ∀ c ∈ token, inToken c = true)
    (ends : Ends rest) : (token ++ rest).dropWhile inToken = rest := by
  have whole := List.takeWhile_append_dropWhile (p := inToken) (l := rest)
  rw [ends, List.nil_append] at whole
  rw [List.dropWhile_append_of_pos inside, whole]

/-- Neither the text of a string, a list or an object, nor what ends an item of one. -/
def isPlain (c : Char) : Bool := c ∉ [',', ']', '\x7d', '"', '[', '\x7b']

theorem inToken_of_plain {c : Char} (plain : isPlain c = true) : inToken c = true := by
  simp only [isPlain, inToken, List.mem_cons, not_or, decide_eq_true_eq] at plain ⊢
  exact ⟨plain.1, plain.2.1, plain.2.2.1, List.not_mem_nil⟩

/-- A value whose text is a single token. -/
structure Token (ascii : Bool) (v : Json) : Prop where
  plain : ∀ c ∈ (dumps ascii v).toList, isPlain c = true
  nonempty : (dumps ascii v).toList ≠ []
  read : scalar (dumps ascii v) = some (loaded v)

theorem plain_number {token : String} (text : isFloatText true token = true) :
    ∀ c ∈ token.toList, isPlain c = true := by
  simp only [isFloatText, if_true, Bool.and_eq_true, List.all_eq_true] at text
  intro c there
  have char := text.2 c there
  by_contra special
  simp only [isPlain, decide_eq_true_eq, not_not, List.mem_cons, List.not_mem_nil,
    or_false] at special
  rcases special with rfl | rfl | rfl | rfl | rfl | rfl <;> exact absurd char (by decide)

theorem nonempty_number {token : String} (text : isFloatText true token = true) :
    token.toList ≠ [] := by
  simp only [isFloatText, if_true, Bool.and_eq_true, decide_eq_true_eq] at text
  exact fun empty => text.1 (String.toList_eq_nil_iff.mp empty)

/-- The names are not numbers. -/
theorem scalar_number {token : String} (text : isFloatText true token = true) :
    scalar token = number token := by
  have other {name : String} (named : isFloatText true name = false) : token ≠ name := by
    rintro rfl
    rw [text] at named
    cases named
  have special : ¬isFloatText false token = true := by
    simp only [isFloatText, Bool.false_eq_true, if_false, decide_eq_true_eq, List.mem_cons,
      List.not_mem_nil, or_false, not_or]
    exact ⟨other (by decide), other (by decide), other (by decide)⟩
  rw [scalar, if_neg (other (by decide)), if_neg (other (by decide)), if_neg (other (by decide)),
    dif_neg special]

theorem token_float (ascii : Bool) {token : String} (text : isFloatText true token = true) :
    Token ascii (.float token true text) where
  plain := plain_number text
  nonempty := nonempty_number text
  read := by
    rw [dumps, scalar_number text, number, loaded]
    split_ifs
    · rfl
    · rfl

theorem isFloatText_toString (n : Int) : isFloatText true (toString n) = true := by
  have digit {m : Nat} {c : Char} (there : c ∈ m.repr.toList) : c.isDigit = true := by
    rw [Nat.toList_repr] at there
    exact Nat.isDigit_of_mem_toDigits (by decide) (by decide) there
  have written (m : Nat) : m.repr ≠ "" := by
    intro empty
    have none := congrArg String.toList empty
    rw [Nat.toList_repr] at none
    exact Nat.toDigits_ne_nil none
  simp only [isFloatText, if_true, Bool.and_eq_true, List.all_eq_true, decide_eq_true_eq,
    Bool.or_eq_true]
  cases n with
  | ofNat m => exact ⟨written m, fun c there => .inl (digit there)⟩
  | negSucc m =>
    change "-" ++ (m + 1).repr ≠ "" ∧ ∀ c ∈ ("-" ++ (m + 1).repr).toList, _
    refine ⟨by simp, fun c there => ?_⟩
    rw [String.toList_append, List.mem_append] at there
    rcases there with sign | rest
    · exact .inr (by simpa using Or.inr (Or.inr (Or.inr (by simpa using sign))))
    · exact .inl (digit rest)

theorem token_int (ascii : Bool) (n : Int) : Token ascii (.int n) where
  plain := plain_number (isFloatText_toString n)
  nonempty := nonempty_number (isFloatText_toString n)
  read := by
    rw [dumps, scalar_number (isFloatText_toString n), number, integer_toString, if_pos rfl, loaded]
    all_goals nofun

theorem token_special (ascii : Bool) {token : String} (text : isFloatText false token = true) :
    Token ascii (.float token false text) := by
  have named : token ∈ ["NaN", "Infinity", "-Infinity"] := by
    simpa only [isFloatText, Bool.false_eq_true, if_false, decide_eq_true_eq] using text
  have names : ∀ name ∈ ["NaN", "Infinity", "-Infinity"],
      name.toList.all isPlain = true ∧ name.toList ≠ [] := by decide
  obtain ⟨plain, nonempty⟩ := names token named
  refine ⟨List.all_eq_true.mp plain, nonempty, ?_⟩
  simp only [List.mem_cons, List.not_mem_nil, or_false] at named
  rcases named with rfl | rfl | rfl <;> rfl

/-! ## Strings -/

theorem readString_escaped {ascii : Bool} (s rest : List Char) {fuel : Nat}
    (enough : s.length < fuel) :
    readString fuel (s.flatMap (escapeChar ascii) ++ '"' :: rest) = some (s, rest) := by
  induction s generalizing fuel with
  | nil =>
    obtain ⟨fuel, rfl⟩ := Nat.exists_eq_add_one_of_ne_zero (Nat.ne_zero_of_lt enough)
    rfl
  | cons c s ih =>
    obtain ⟨fuel, rfl⟩ := Nat.exists_eq_add_one_of_ne_zero (Nat.ne_zero_of_lt enough)
    have later := ih (Nat.lt_of_succ_lt_succ enough)
    obtain ⟨d, tail, head, other⟩ : ∃ d tail, escapeChar ascii c = d :: tail ∧ d ≠ '"' :=
      escapeChar_head c
    have text : (c :: s).flatMap (escapeChar ascii) ++ '"' :: rest =
        escapeChar ascii c ++ (s.flatMap (escapeChar ascii) ++ '"' :: rest) := by
      rw [List.flatMap_cons, List.append_assoc]
    have inside : ¬(escapeChar ascii c ++
        (s.flatMap (escapeChar ascii) ++ '"' :: rest)).head? = some '"' := by
      simp [head, other]
    rw [text, readString, if_neg inside, unescape_escapeChar]
    simp only [Option.bind_eq_bind, Option.bind_some, later]
    rfl

/-- A string is no longer than its text. -/
theorem length_escaped (ascii : Bool) (s : List Char) :
    s.length ≤ (s.flatMap (escapeChar ascii)).length := by
  induction s with
  | nil => exact Nat.le_refl _
  | cons c s ih =>
    obtain ⟨d, tail, head, _⟩ : ∃ d tail, escapeChar ascii c = d :: tail ∧ d ≠ '"' :=
      escapeChar_head c
    rw [List.flatMap_cons, head]
    simp only [List.length_cons, List.length_append]
    omega

/-! ## Values -/

/-- However the text goes on behind it, the value is read back. -/
structure Reads (ascii : Bool) (v : Json) : Prop where
  opens : ∃ c more, (dumps ascii v).toList = c :: more ∧ c ≠ ']'
  read : ∀ fuel rest, Ends rest → (dumps ascii v).toList.length ≤ fuel →
    readValue fuel ((dumps ascii v).toList ++ rest) = some (loaded v, rest)

theorem Token.reads {ascii : Bool} {v : Json} (token : Token ascii v) : Reads ascii v := by
  obtain ⟨c, more, text⟩ := List.exists_cons_of_ne_nil token.nonempty
  have inside : ∀ c ∈ (dumps ascii v).toList, inToken c = true :=
    fun c there => inToken_of_plain (token.plain c there)
  have plain := token.plain c (text ▸ List.mem_cons_self)
  simp only [isPlain, decide_eq_true_eq, List.mem_cons, not_or] at plain
  obtain ⟨_, closes, _, quotes, bracket, brace, _⟩ := plain
  refine ⟨⟨c, more, text, closes⟩, fun fuel rest ends enough => ?_⟩
  rw [text, List.length_cons] at enough
  obtain ⟨fuel, rfl⟩ : ∃ n, fuel = n + 1 := Nat.exists_eq_add_one_of_ne_zero (by omega)
  have taken := takeWhile_token inside ends
  have left := dropWhile_token inside ends
  have read := token.read
  rw [text, List.cons_append] at taken left
  rw [text, List.cons_append, readValue, if_neg quotes, if_neg bracket, if_neg brace, taken, left,
    ← text, String.ofList_toList, read]
  rfl

theorem reads_str (ascii : Bool) (s : String) : Reads ascii (.str s) := by
  have long := length_escaped ascii s.toList
  refine ⟨⟨_, _, toList_quote s, by decide⟩, fun fuel rest _ enough => ?_⟩
  rw [dumps, toList_quote] at enough ⊢
  simp only [List.length_cons, List.length_append, List.length_nil] at enough
  obtain ⟨fuel, rfl⟩ : ∃ n, fuel = n + 1 := Nat.exists_eq_add_one_of_ne_zero (by omega)
  have read : readString fuel (s.toList.flatMap (escapeChar ascii) ++ '"' :: rest) =
      some (s.toList, rest) := readString_escaped s.toList rest (by omega)
  rw [List.cons_append, List.append_assoc, List.singleton_append, readValue, if_pos rfl, read]
  simp [loaded]

theorem readItems_dumps {ascii : Bool} {items : List Json} (nonempty : items ≠ [])
    (each : ∀ v ∈ items, Reads ascii v) {fuel : Nat} (rest : List Char)
    (enough : (",".intercalate (items.map (dumps ascii))).toList.length < fuel) :
    readItems fuel ((",".intercalate (items.map (dumps ascii))).toList ++ ']' :: rest) =
      some (items.map loaded, rest) := by
  induction items generalizing fuel with
  | nil => exact absurd rfl nonempty
  | cons v items ih =>
    obtain ⟨first, others⟩ := List.forall_mem_cons.mp each
    obtain ⟨fuel, rfl⟩ := Nat.exists_eq_add_one_of_ne_zero (Nat.ne_zero_of_lt enough)
    cases items with
    | nil =>
      have value := first.read fuel (']' :: rest) (Ends.cons (by decide))
        (by simpa using Nat.le_of_lt_succ enough)
      simp only [List.map_cons, List.map_nil, String.intercalate_singleton, readItems, value]
      rfl
    | cons w items =>
      simp only [List.map_cons, String.intercalate_cons_cons, String.toList_append,
        List.append_assoc, List.length_append] at enough ih ⊢
      have comma : ",".toList = [','] := rfl
      rw [comma] at enough ⊢
      simp only [List.length_cons, List.length_nil] at enough
      have value := first.read fuel (',' :: ((",".intercalate (dumps ascii w ::
        items.map (dumps ascii))).toList ++ ']' :: rest)) (Ends.cons (by decide)) (by omega)
      have later := @ih (by simp) others fuel (by omega)
      simp only [List.singleton_append, readItems, value, Option.bind_eq_bind, Option.bind_some,
        if_pos, later]
      rfl

/-- One member: its key, and its value behind the colon. -/
def memberDump (ascii : Bool) (f : String × Json) : String :=
  quote ascii f.1 ++ ":" ++ dumps ascii f.2

theorem readMember {ascii : Bool} {f : String × Json} (value : Reads ascii f.2) {fuel : Nat}
    {rest : List Char} (ends : Ends rest) (enough : (memberDump ascii f).toList.length ≤ fuel) :
    ∃ behind,
      readString fuel ((memberDump ascii f).toList ++ rest).tail = some (f.1.toList, behind) ∧
      readValue fuel behind.tail = some (loaded f.2, rest) := by
  have long := length_escaped ascii f.1.toList
  simp only [memberDump, String.toList_append, toList_quote, List.length_append,
    List.length_cons, List.length_nil, List.cons_append, List.append_assoc,
    List.tail_cons] at enough ⊢
  refine ⟨_, readString_escaped f.1.toList _ (by omega), ?_⟩
  exact value.read fuel rest ends (by omega)

theorem readFields_dumps {ascii : Bool} {fields : List (String × Json)} (nonempty : fields ≠ [])
    (each : ∀ f ∈ fields, Reads ascii f.2) {fuel : Nat} (rest : List Char)
    (enough : (",".intercalate (fields.map (memberDump ascii))).toList.length < fuel) :
    readFields fuel ((",".intercalate (fields.map (memberDump ascii))).toList ++ '\x7d' :: rest) =
      some (fields.map fun f => (f.1, loaded f.2), rest) := by
  induction fields generalizing fuel with
  | nil => exact absurd rfl nonempty
  | cons f fields ih =>
    obtain ⟨first, others⟩ := List.forall_mem_cons.mp each
    obtain ⟨fuel, rfl⟩ := Nat.exists_eq_add_one_of_ne_zero (Nat.ne_zero_of_lt enough)
    cases fields with
    | nil =>
      simp only [List.map_cons, List.map_nil, String.intercalate_singleton] at enough ⊢
      have ends : Ends ('\x7d' :: rest) := Ends.cons (by decide)
      obtain ⟨behind, key, value⟩ := readMember first ends (Nat.le_of_lt_succ enough)
      simp only [readFields, key, value, Option.bind_eq_bind, Option.bind_some,
        String.ofList_toList]
      rfl
    | cons g fields =>
      simp only [List.map_cons, String.intercalate_cons_cons, String.toList_append,
        List.append_assoc, List.length_append] at enough ih ⊢
      have comma : ",".toList = [','] := rfl
      rw [comma] at enough ⊢
      simp only [List.length_cons, List.length_nil] at enough
      have ends : Ends (',' :: ((",".intercalate (memberDump ascii g ::
        fields.map (memberDump ascii))).toList ++ '\x7d' :: rest)) := Ends.cons (by decide)
      obtain ⟨behind, key, value⟩ := @readMember ascii f first fuel _ ends (by omega)
      have later := @ih (by simp) others fuel (by omega)
      simp only [List.singleton_append, readFields, key, value, Option.bind_eq_bind,
        Option.bind_some, if_pos, later, String.ofList_toList]
      rfl

theorem reads_arr {ascii : Bool} {items : List Json} (each : ∀ v ∈ items, Reads ascii v) :
    Reads ascii (.arr items) := by
  have text : (dumps ascii (.arr items)).toList =
      '[' :: ((",".intercalate (items.map (dumps ascii))).toList ++ [']']) := by
    simp [dumps, dumpsItems_eq]
  refine ⟨⟨_, _, text, by decide⟩, fun fuel rest _ enough => ?_⟩
  rw [text] at enough ⊢
  simp only [List.length_cons, List.length_append, List.length_nil] at enough
  obtain ⟨fuel, rfl⟩ : ∃ n, fuel = n + 1 := Nat.exists_eq_add_one_of_ne_zero (by omega)
  rw [List.cons_append, List.append_assoc, List.singleton_append, readValue,
    if_neg (by decide), if_pos rfl, loaded, loadedItems_eq]
  cases items with
  | nil => rfl
  | cons v items =>
    have later := @readItems_dumps ascii _ (by simp) each fuel rest (by omega)
    have goesOn : ¬((",".intercalate ((v :: items).map (dumps ascii))).toList ++
        ']' :: rest).head? = some ']' := by
      obtain ⟨c, more, first, other⟩ := (each v List.mem_cons_self).opens
      cases items with
      | nil => simp [first, other]
      | cons w items => simp [String.intercalate_cons_cons, first, other]
    rw [if_neg goesOn, later]
    rfl

theorem reads_obj {ascii : Bool} {fields : List (String × Json)}
    (each : ∀ f ∈ fields, Reads ascii f.2) : Reads ascii (.obj fields) := by
  have text : (dumps ascii (.obj fields)).toList =
      '\x7b' :: ((",".intercalate ((sortMembers fields).map (memberDump ascii))).toList ++
        ['\x7d']) := by
    have sorted : sortFields (dumpsFields ascii fields) =
        (sortMembers fields).map fun f => (f.1, dumps ascii f.2) := by
      rw [dumpsFields_eq, sortFields, ← sortMembers, sortMembers_map]
    simp [dumps, sorted, memberDump, Function.comp_def]
  have back : loaded (.obj fields) =
      .obj ((sortMembers fields).map fun f => (f.1, loaded f.2)) := by
    rw [loaded, loadedFields_eq, sortMembers_map]
  have sorted : ∀ f ∈ sortMembers fields, Reads ascii f.2 :=
    fun f there => each f (List.mem_insertionSort _ |>.mp there)
  refine ⟨⟨_, _, text, by decide⟩, fun fuel rest _ enough => ?_⟩
  rw [text] at enough ⊢
  simp only [List.length_cons, List.length_append, List.length_nil] at enough
  obtain ⟨fuel, rfl⟩ : ∃ n, fuel = n + 1 := Nat.exists_eq_add_one_of_ne_zero (by omega)
  rw [List.cons_append, List.append_assoc, List.singleton_append, readValue,
    if_neg (by decide), if_neg (by decide), if_pos rfl, back]
  generalize sortMembers fields = members at sorted enough
  cases members with
  | nil => rfl
  | cons f members =>
    have later := @readFields_dumps ascii _ (by simp) sorted fuel rest (by omega)
    have goesOn : ¬((",".intercalate ((f :: members).map (memberDump ascii))).toList ++
        '\x7d' :: rest).head? = some '\x7d' := by
      cases members with
      | nil => simp [memberDump, toList_quote]
      | cons g members => simp [String.intercalate_cons_cons, memberDump, toList_quote]
    rw [if_neg goesOn, later]
    rfl

mutual

theorem reads_dumps (ascii : Bool) : ∀ v : Json, Reads ascii v
  | .null => Token.reads ⟨chars_of_all (by decide +revert), by decide +revert, rfl⟩
  | .bool true => Token.reads ⟨chars_of_all (by decide +revert), by decide +revert, rfl⟩
  | .bool false => Token.reads ⟨chars_of_all (by decide +revert), by decide +revert, rfl⟩
  | .int n => (token_int ascii n).reads
  | .float _ true text => (token_float ascii text).reads
  | .float _ false text => (token_special ascii text).reads
  | .str s => reads_str ascii s
  | .arr items => reads_arr (reads_items ascii items)
  | .obj fields => reads_obj (reads_fields ascii fields)

theorem reads_items (ascii : Bool) : ∀ items : List Json, ∀ v ∈ items, Reads ascii v
  | [] => fun _ there => absurd there List.not_mem_nil
  | v :: rest => List.forall_mem_cons.mpr ⟨reads_dumps ascii v, reads_items ascii rest⟩

theorem reads_fields (ascii : Bool) :
    ∀ fields : List (String × Json), ∀ f ∈ fields, Reads ascii f.2
  | [] => fun _ there => absurd there List.not_mem_nil
  | (_, v) :: rest => List.forall_mem_cons.mpr ⟨reads_dumps ascii v, reads_fields ascii rest⟩

end

/-- Loading undoes dumping. -/
theorem loads_dumps (ascii : Bool) (v : Json) : loads (dumps ascii v) = some (loaded v) := by
  have read := (reads_dumps ascii v).read _ [] rfl (Nat.le_refl _)
  rw [List.append_nil] at read
  rw [loads, read]

end Base.Json
