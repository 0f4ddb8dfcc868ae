import Mathlib.Data.List.Forall2
import Autonoesis.Base.Dumps

/-!
# Reading dumps back

Where a dumped string or object stands in front of other text, the text itself says
where it ends. A string is read character by character (`unescape`), an object up to the
brace that closes it (`cutObject`). An object whose keys are known is then read back
member by member (`members_agree`).
-/

namespace Base

/-- Whatever follows the two texts, they end in the same place when the wholes agree. -/
def Delimited (v v' : List Char) : Prop :=
  ∀ rest rest', v ++ rest = v' ++ rest' → v = v' ∧ rest = rest'

theorem Delimited.refl (v : List Char) : Delimited v v :=
  fun _ _ same => ⟨rfl, List.append_cancel_left same⟩

namespace Json

/-! ## Strings -/

def hexValue (c : Char) : Nat := if c.toNat < 58 then c.toNat - 48 else c.toNat - 87

theorem hexValue_hexDigit {n : Nat} (small : n < 16) : hexValue (hexDigit n) = n := by
  decide +revert

def fromHex (digits : List Char) : Nat := digits.foldl (fun n c => 16 * n + hexValue c) 0

theorem hexDigits_four (n : Nat) :
    hexDigits 4 n = [hexDigit (n / 4096 % 16), hexDigit (n / 256 % 16), hexDigit (n / 16 % 16),
      hexDigit (n % 16)] := by
  simp [hexDigits, List.range_succ]

theorem fromHex_hexDigits {n : Nat} (small : n < 65536) : fromHex (hexDigits 4 n) = n := by
  have digit (m : Nat) : hexValue (hexDigit (m % 16)) = m % 16 :=
    hexValue_hexDigit (Nat.mod_lt _ (by decide))
  simp only [hexDigits_four, fromHex, List.foldl_cons, List.foldl_nil, digit]
  omega

/-- The character behind a backslash that is not `u`. -/
def shortEscape (c : Char) : Char :=
  if c = 'n' then '\n'
  else if c = 'r' then '\r'
  else if c = 't' then '\t'
  else if c = 'f' then Char.ofNat 12
  else if c = 'b' then Char.ofNat 8
  else c

/-- The four digits behind `\u`, and a second four when they are half of a pair. -/
def unescapeUnicode (text : List Char) : Char × List Char :=
  let n := fromHex (text.take 4)
  if 55296 ≤ n ∧ n < 56320 then
    let low := fromHex ((text.drop 6).take 4)
    (Char.ofNat (65536 + 1024 * (n - 55296) + (low - 56320)), text.drop 10)
  else (Char.ofNat n, text.drop 4)

/-- The first character of a string's text, and the text behind it. -/
def unescape : List Char → Option (Char × List Char)
  | [] => none
  | c :: rest =>
    if c ≠ '\\' then some (c, rest)
    else match rest with
      | [] => none
      | k :: rest => some (if k = 'u' then unescapeUnicode rest else (shortEscape k, rest))

theorem take_hexDigits (n : Nat) (rest : List Char) : (hexDigits 4 n ++ rest).take 4 = hexDigits 4 n := by
  rw [List.take_append_of_le_length (by rw [length_hexDigits]),
    List.take_of_length_le (by rw [length_hexDigits])]

theorem drop_hexDigits (n : Nat) (rest : List Char) : (hexDigits 4 n ++ rest).drop 4 = rest := by
  rw [List.drop_append_of_le_length (by rw [length_hexDigits]),
    List.drop_of_length_le (by rw [length_hexDigits]), List.nil_append]

/-- A character is not half of a surrogate pair. -/
theorem not_surrogate (c : Char) : ¬(55296 ≤ c.toNat ∧ c.toNat < 57344) := by
  rcases c.valid with low | high
  · exact fun pair => absurd low (Nat.not_lt.mpr pair.1)
  · exact fun pair => absurd high.1 (Nat.not_lt.mpr (Nat.le_of_lt_succ pair.2))

theorem unescapeUnicode_one {c : Char} (small : c.toNat < 65536) (rest : List Char) :
    unescapeUnicode (hexDigits 4 c.toNat ++ rest) = (c, rest) := by
  have plain : ¬(55296 ≤ c.toNat ∧ c.toNat < 56320) :=
    fun pair => not_surrogate c ⟨pair.1, by omega⟩
  simp only [unescapeUnicode, take_hexDigits, drop_hexDigits, fromHex_hexDigits small,
    if_neg plain, Char.ofNat_toNat]

theorem unescapeUnicode_pair {c : Char} (large : ¬c.toNat < 65536) (rest : List Char) :
    unescapeUnicode (hexDigits 4 (55296 + (c.toNat - 65536) / 1024) ++
      unicodeEscape (56320 + (c.toNat - 65536) % 1024) ++ rest) = (c, rest) := by
  have bound : c.toNat < 1114112 := by
    rcases c.valid with low | high
    · exact Nat.lt_trans low (by decide)
    · exact high.2
  have high : fromHex (hexDigits 4 (55296 + (c.toNat - 65536) / 1024)) =
      55296 + (c.toNat - 65536) / 1024 := fromHex_hexDigits (by omega)
  have low : fromHex (hexDigits 4 (56320 + (c.toNat - 65536) % 1024)) =
      56320 + (c.toNat - 65536) % 1024 := fromHex_hexDigits (by omega)
  have pair : 55296 ≤ 55296 + (c.toNat - 65536) / 1024 ∧
      55296 + (c.toNat - 65536) / 1024 < 56320 := by omega
  have six (x y : List Char) : (hexDigits 4 (55296 + (c.toNat - 65536) / 1024) ++
      (('\\' :: 'u' :: x) ++ y)).drop 6 = x ++ y := by
    rw [show (6 : Nat) = 4 + 2 from rfl, ← List.drop_drop, drop_hexDigits]
    rfl
  have ten (l : List Char) : l.drop 10 = (l.drop 6).drop 4 := by
    rw [List.drop_drop]
  have code : 65536 + 1024 * ((c.toNat - 65536) / 1024) + (c.toNat - 65536) % 1024 = c.toNat := by
    omega
  simp only [unescapeUnicode, unicodeEscape, List.append_assoc, take_hexDigits, high, if_pos pair,
    six, ten, low, drop_hexDigits, Nat.add_sub_cancel_left, code, Char.ofNat_toNat]

/-- Reading undoes escaping. -/
theorem unescape_escapeChar {ascii : Bool} (c : Char) (rest : List Char) :
    unescape (escapeChar ascii c ++ rest) = some (c, rest) := by
  have named {n : Nat} (code : c.toNat = n) : c = Char.ofNat n := by
    rw [← code, Char.ofNat_toNat]
  have unicode (text : List Char) :
      unescape ('\\' :: 'u' :: text) = some (unescapeUnicode text) := rfl
  simp only [escapeChar]
  split_ifs with quote slash newline ret tab feed back control wide small
  · rw [named quote]; rfl
  · rw [named slash]; rfl
  · rw [named newline]; rfl
  · rw [named ret]; rfl
  · rw [named tab]; rfl
  · rw [named feed]; rfl
  · rw [named back]; rfl
  · simp only [unicodeEscape, List.cons_append, unicode]
    rw [unescapeUnicode_one (by omega)]
  · simp only [unicodeEscape, List.cons_append, unicode]
    rw [unescapeUnicode_one small]
  · rw [unicodeEscape, List.cons_append, List.cons_append, List.cons_append, List.cons_append,
      unicode, unescapeUnicode_pair small]
  · have plain : c ≠ '\\' := fun same => slash (same ▸ rfl)
    simp [unescape, plain]

/-- The shapes an escaped character takes. -/
theorem escapeChar_cases {ascii : Bool} (c : Char) :
    (∃ k, escapeChar ascii c = ['\\', k]) ∨ (∃ n, escapeChar ascii c = unicodeEscape n) ∨
    (∃ m n, escapeChar ascii c = unicodeEscape m ++ unicodeEscape n) ∨
    (escapeChar ascii c = [c] ∧ c ≠ '\\' ∧ c ≠ '"') := by
  generalize shape : escapeChar ascii c = text
  simp only [escapeChar] at shape
  split_ifs at shape with marks slash <;> subst shape
  all_goals first
    | exact .inl ⟨_, rfl⟩
    | exact .inr (.inl ⟨_, rfl⟩)
    | exact .inr (.inr (.inl ⟨_, _, rfl⟩))
    | exact .inr (.inr (.inr ⟨rfl, fun same => slash (same ▸ rfl), fun same => marks (same ▸ rfl)⟩))

theorem escapeChar_head {ascii : Bool} (c : Char) : ∃ d rest, escapeChar ascii c = d :: rest ∧ d ≠ '"' := by
  rcases escapeChar_cases c with ⟨k, shape⟩ | ⟨n, shape⟩ | ⟨m, n, shape⟩ | ⟨shape, _, plain⟩
  · exact ⟨_, _, shape, by decide⟩
  · exact ⟨_, _, shape, by decide⟩
  · exact ⟨_, _, shape, by decide⟩
  · exact ⟨_, _, shape, plain⟩

/-- The text between two quotes says which string it is and where it ends. -/
theorem escaped_delimited {s s' : List Char} {rest rest' : List Char}
    (same : s.flatMap (escapeChar true) ++ '"' :: rest =
      s'.flatMap (escapeChar true) ++ '"' :: rest') : s = s' ∧ rest = rest' := by
  induction s generalizing s' with
  | nil =>
    cases s' with
    | nil => simpa using same
    | cons c' s' =>
      obtain ⟨d, tail, head, other⟩ := escapeChar_head c'
      rw [List.flatMap_cons, head] at same
      simp only [List.flatMap_nil, List.nil_append, List.cons_append, List.cons.injEq] at same
      exact absurd same.1.symm other
  | cons c s ih =>
    cases s' with
    | nil =>
      obtain ⟨d, tail, head, other⟩ := escapeChar_head c
      rw [List.flatMap_cons, head] at same
      simp only [List.flatMap_nil, List.nil_append, List.cons_append, List.cons.injEq] at same
      exact absurd same.1 other
    | cons c' s' =>
      simp only [List.flatMap_cons, List.append_assoc] at same
      have first := congrArg unescape same
      rw [unescape_escapeChar, unescape_escapeChar, Option.some.injEq, Prod.mk.injEq] at first
      obtain ⟨rfl, later⟩ := first
      obtain ⟨rfl, rest⟩ := ih later
      exact ⟨rfl, rest⟩

theorem toList_quote {ascii : Bool} (s : String) :
    (quote ascii s).toList = '"' :: (s.toList.flatMap (escapeChar ascii) ++ ['"']) := by
  simp [quote]

theorem quote_delimited (s s' : String) :
    Delimited (quote true s).toList (quote true s').toList := by
  intro rest rest' same
  simp only [toList_quote, List.cons_append, List.append_assoc, List.nil_append, List.cons.injEq,
    true_and] at same
  obtain ⟨chars, rest⟩ := escaped_delimited same
  rw [String.toList_inj.mp chars]
  exact ⟨rfl, rest⟩

theorem quote_injective {s s' : String} (same : quote true s = quote true s') : s = s' := by
  have text := congrArg String.toList same
  rw [toList_quote, toList_quote, List.cons.injEq] at text
  exact String.toList_inj.mp (escaped_delimited text.2).1

/-! ## Objects -/

inductive ScanMode where
  | plain
  | string
  | escaped

/-- The text up to the brace that closes the outermost object, and the text behind it;
`depth` objects are open. -/
def cutObject : Nat → ScanMode → List Char → List Char × List Char
  | _, _, [] => ([], [])
  | depth, .plain, c :: rest =>
    if c = '\x7b' then (cutObject (depth + 1) .plain rest).map (c :: ·) id
    else if c = '\x7d' then
      if depth ≤ 1 then ([c], rest) else (cutObject (depth - 1) .plain rest).map (c :: ·) id
    else (cutObject depth (if c = '"' then .string else .plain) rest).map (c :: ·) id
  | depth, .string, c :: rest =>
    (cutObject depth (if c = '\\' then .escaped else if c = '"' then .plain else .string)
      rest).map (c :: ·) id
  | depth, .escaped, c :: rest => (cutObject depth .string rest).map (c :: ·) id

/-- Inside an object the scan passes over the text. -/
def Passed (text : List Char) : Prop :=
  ∀ depth rest, 1 ≤ depth →
    cutObject depth .plain (text ++ rest) = (cutObject depth .plain rest).map (text ++ ·) id

theorem passed_nil : Passed [] := fun _ _ _ => rfl

theorem Passed.append {x y : List Char} (first : Passed x) (second : Passed y) :
    Passed (x ++ y) := by
  intro depth rest inside
  rw [List.append_assoc, first _ _ inside, second _ _ inside]
  simp only [Prod.map, id, List.append_assoc]

theorem passed_char {c : Char} (plain : c ≠ '\x7b' ∧ c ≠ '\x7d' ∧ c ≠ '"') : Passed [c] := by
  intro depth rest _
  obtain ⟨opens, closes, quotes⟩ := plain
  rw [List.singleton_append, cutObject, if_neg opens, if_neg closes, if_neg quotes]
  rfl

theorem passed_plain {text : List Char}
    (plain : ∀ c ∈ text, c ≠ '\x7b' ∧ c ≠ '\x7d' ∧ c ≠ '"') : Passed text := by
  induction text with
  | nil => exact passed_nil
  | cons c rest ih =>
    obtain ⟨here, there⟩ := List.forall_mem_cons.mp plain
    exact (passed_char here).append (ih there)

theorem Passed.braces {text : List Char} (inner : Passed text) :
    Passed ('\x7b' :: (text ++ ['\x7d'])) := by
  intro depth rest inside
  rw [List.cons_append, cutObject, if_pos rfl, List.append_assoc, inner _ _ (by omega),
    List.singleton_append, cutObject, if_neg (by decide), if_pos rfl, if_neg (by omega),
    Nat.add_sub_cancel]
  simp [Prod.map]

/-- An escaped character keeps the scan inside its string. -/
theorem cutObject_escapeChar (depth : Nat) (c : Char) (rest : List Char) :
    cutObject depth .string (escapeChar true c ++ rest) =
      (cutObject depth .string rest).map (escapeChar true c ++ ·) id := by
  have letters {text : List Char} (plain : ∀ d ∈ text, isHexDigit d = true) (rest : List Char) :
      cutObject depth .string (text ++ rest) = (cutObject depth .string rest).map (text ++ ·) id := by
    induction text with
    | nil => rfl
    | cons d text ih =>
      obtain ⟨here, there⟩ := List.forall_mem_cons.mp plain
      have slash : d ≠ '\\' := by rintro rfl; exact absurd here (by decide)
      have quotes : d ≠ '"' := by rintro rfl; exact absurd here (by decide)
      rw [List.cons_append, cutObject, if_neg slash, if_neg quotes, ih there]
      rfl
  have short (k : Char) (rest : List Char) : cutObject depth .string ('\\' :: k :: rest) =
      (cutObject depth .string rest).map ([ '\\', k ] ++ ·) id := rfl
  have unicode (n : Nat) (rest : List Char) : cutObject depth .string (unicodeEscape n ++ rest) =
      (cutObject depth .string rest).map (unicodeEscape n ++ ·) id := by
    rw [unicodeEscape, List.cons_append, List.cons_append, short,
      letters fun _ => isHexDigit_of_mem_hexDigits]
    rfl
  rcases escapeChar_cases c with ⟨k, shape⟩ | ⟨n, shape⟩ | ⟨m, n, shape⟩ | ⟨shape, slash, quotes⟩
  · rw [shape]
    exact short k rest
  · rw [shape, unicode]
  · rw [shape, List.append_assoc, unicode, unicode]
    simp only [Prod.map, id, List.append_assoc]
  · rw [shape, List.singleton_append, cutObject, if_neg slash, if_neg quotes]
    rfl

theorem passed_quote (s : String) : Passed (quote true s).toList := by
  have inside (depth : Nat) (chars rest : List Char) :
      cutObject depth .string (chars.flatMap (escapeChar true) ++ rest) =
        (cutObject depth .string rest).map (chars.flatMap (escapeChar true) ++ ·) id := by
    induction chars with
    | nil => rfl
    | cons c chars ih =>
      rw [List.flatMap_cons, List.append_assoc, cutObject_escapeChar, ih]
      simp only [Prod.map, id, List.append_assoc]
  intro depth rest _
  rw [toList_quote, List.cons_append, cutObject, if_neg (by decide), if_neg (by decide),
    if_pos rfl, List.append_assoc, inside, List.singleton_append, cutObject, if_neg (by decide),
    if_pos rfl]
  simp [Prod.map]

theorem passed_intercalate {parts : List String} (each : ∀ s ∈ parts, Passed s.toList) :
    Passed (",".intercalate parts).toList := by
  induction parts with
  | nil => simpa using passed_nil
  | cons first rest ih =>
    obtain ⟨here, there⟩ := List.forall_mem_cons.mp each
    cases rest with
    | nil => simpa using here
    | cons second rest =>
      rw [String.intercalate_cons_cons, String.toList_append, String.toList_append]
      exact (here.append (passed_char (by decide))).append (ih there)

theorem passed_decimal (n : Int) : Passed (toString n).toList := by
  have digits (m : Nat) : Passed m.repr.toList := by
    rw [Nat.toList_repr]
    refine passed_plain fun c there => ?_
    have digit := Nat.isDigit_of_mem_toDigits (by decide) (by decide) there
    refine ⟨?_, ?_, ?_⟩ <;> rintro rfl <;> exact absurd digit (by decide)
  cases n with
  | ofNat m => exact digits m
  | negSucc m =>
    change Passed ("-" ++ (m + 1).repr).toList
    rw [String.toList_append]
    exact (passed_char (by decide)).append (digits (m + 1))

theorem passed_float {finite : Bool} {s : String} (text : isFloatText finite s = true) :
    Passed s.toList := by
  cases finite with
  | false =>
    simp only [isFloatText, Bool.false_eq_true, if_false, decide_eq_true_eq, List.mem_cons,
      List.not_mem_nil, or_false] at text
    obtain rfl | rfl | rfl := text
    · exact passed_plain (chars_of_all (by decide))
    · exact passed_plain (chars_of_all (by decide))
    · exact passed_plain (chars_of_all (by decide))
  | true =>
    refine passed_plain fun c there => ?_
    simp only [isFloatText, if_true, Bool.and_eq_true, List.all_eq_true] at text
    have char := text.2 _ there
    refine ⟨?_, ?_, ?_⟩ <;> rintro rfl <;> exact absurd char (by decide)

mutual

theorem passed_dumps : ∀ v : Json, Passed (dumps true v).toList
  | .null => passed_plain (chars_of_all (by decide))
  | .bool true => passed_plain (chars_of_all (by decide))
  | .bool false => passed_plain (chars_of_all (by decide))
  | .int n => passed_decimal n
  | .float _ _ text => passed_float text
  | .str s => passed_quote s
  | .arr items => by
    have inside := passed_intercalate (passed_dumpsItems items)
    simp only [dumps, String.toList_append]
    exact ((passed_char (by decide)).append inside).append (passed_char (by decide))
  | .obj fields => by
    have inside := passed_intercalate (passed_members fields)
    simpa [dumps] using inside.braces

theorem passed_dumpsItems :
    ∀ items : List Json, ∀ s ∈ dumpsItems true items, Passed s.toList
  | [] => fun _ there => absurd there List.not_mem_nil
  | v :: rest => List.forall_mem_cons.mpr ⟨passed_dumps v, passed_dumpsItems rest⟩

theorem passed_dumpsFields :
    ∀ fields : List (String × Json), ∀ f ∈ dumpsFields true fields, Passed f.2.toList
  | [] => fun _ there => absurd there List.not_mem_nil
  | (_, v) :: rest => List.forall_mem_cons.mpr ⟨passed_dumps v, passed_dumpsFields rest⟩

theorem passed_members (fields : List (String × Json)) :
    ∀ s ∈ (sortFields (dumpsFields true fields)).map fun f => quote true f.1 ++ ":" ++ f.2,
      Passed s.toList := by
  intro s there
  obtain ⟨f, member, rfl⟩ := List.mem_map.mp there
  have value := passed_dumpsFields fields f (List.mem_insertionSort _ |>.mp member)
  rw [String.toList_append, String.toList_append]
  exact ((passed_quote f.1).append (passed_char (by decide))).append value

end

/-- The dump of an object ends at the brace that closes it. -/
theorem cutObject_dumps (fields : List (String × Json)) (rest : List Char) :
    cutObject 0 .plain ((dumps true (.obj fields)).toList ++ rest) =
      ((dumps true (.obj fields)).toList, rest) := by
  have inside := passed_intercalate (passed_members fields)
  have text : (dumps true (.obj fields)).toList = '\x7b' :: ((",".intercalate
      ((sortFields (dumpsFields true fields)).map fun f => quote true f.1 ++ ":" ++ f.2)).toList ++
      ['\x7d']) := by
    simp [dumps]
  rw [text, List.cons_append, cutObject, if_pos rfl, List.append_assoc, inside _ _ (by omega),
    List.singleton_append, cutObject, if_neg (by decide), if_pos rfl, if_pos (by omega)]
  rfl

theorem obj_delimited (fields fields' : List (String × Json)) :
    Delimited (dumps true (.obj fields)).toList (dumps true (.obj fields')).toList := by
  intro rest rest' same
  have cut := congrArg (cutObject 0 .plain) same
  rwa [cutObject_dumps, cutObject_dumps, Prod.mk.injEq] at cut

/-! ## Members -/

/-- The members of an object, one key after the other with its dumped value. -/
def memberText (members : List (String × String)) : String :=
  ",".intercalate (members.map fun f => quote true f.1 ++ ":" ++ f.2)

/-- Two objects with the same keys and the same text have the same values, when each pair
of values is delimited. -/
theorem members_agree {members members' : List (String × String)} {rest rest' : List Char}
    (keys : members.map Prod.fst = members'.map Prod.fst)
    (each : List.Forall₂ (fun f f' => Delimited f.2.toList f'.2.toList) members members')
    (same : (memberText members).toList ++ rest = (memberText members').toList ++ rest') :
    members = members' ∧ rest = rest' := by
  induction each with
  | nil => exact ⟨rfl, by simpa [memberText] using same⟩
  | @cons f f' more more' delimited others ih =>
    obtain ⟨k, v⟩ := f
    obtain ⟨k', v'⟩ := f'
    simp only [List.map_cons, List.cons.injEq] at keys
    obtain ⟨rfl, keys⟩ := keys
    cases others with
    | nil =>
      simp only [memberText, List.map_cons, List.map_nil, String.intercalate_singleton,
        String.toList_append, List.append_assoc, List.append_cancel_left_eq] at same
      obtain ⟨value, rest⟩ := delimited _ _ same
      cases String.toList_inj.mp value
      exact ⟨rfl, rest⟩
    | cons next others =>
      simp only [memberText, List.map_cons, String.intercalate_cons_cons, String.toList_append,
        List.append_assoc, List.append_cancel_left_eq] at same
      obtain ⟨value, behind⟩ := delimited _ _ same
      rw [List.append_cancel_left_eq] at behind
      obtain ⟨members, rest⟩ := ih keys (by
        simpa only [memberText, List.map_cons] using behind)
      cases String.toList_inj.mp value
      exact ⟨by rw [members], rest⟩

end Json

end Base
