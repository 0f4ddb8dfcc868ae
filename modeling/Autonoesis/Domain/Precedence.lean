import Autonoesis.Domain.Versions

/-!
# Precedence of versions

`SemVer.Version` and its `Precedes` are Semantic Versioning 2.0.0 as its rules state it, without
build metadata, which no version of a manifest carries. Results:

* `semverKey_text`: the key of a version is made of its numbers and identifiers;
* `precedes_iff`: precedence is the order of the keys;
* `compareVersions_sound`: comparing versions is a total preorder, agrees with precedence, and
  decides the comparators of a version spec.
-/

namespace Autonoesis
open Base

namespace SemVer

/-- An identifier of a prerelease. -/
inductive Identifier where
  | numeric (n : ℕ)
  | alphanumeric (text : List Char)

namespace Identifier

/-- Letters, digits and hyphens, not all of them digits. A numeric identifier has no leading zeros
by the way it is written. -/
def Valid : Identifier → Prop
  | numeric _ => True
  | alphanumeric text =>
    (∀ c ∈ text, c.isAlphanum = true ∨ c = '-') ∧ ∃ c ∈ text, c.isDigit = false

def chars : Identifier → List Char
  | numeric n => Nat.toDigits 10 n
  | alphanumeric text => text

/-- Numbers numerically, texts in ASCII order, and a number before a text. -/
inductive Precedes : Identifier → Identifier → Prop
  | number {m n : ℕ} (less : m < n) : Precedes (numeric m) (numeric n)
  | kind (n : ℕ) (text : List Char) : Precedes (numeric n) (alphanumeric text)
  | text {s t : List Char} (less : s < t) : Precedes (alphanumeric s) (alphanumeric t)

end Identifier

/-- The first identifiers that differ decide; if there are none, fewer identifiers come first. -/
inductive FieldsPrecede : List Identifier → List Identifier → Prop
  | fewer (i : Identifier) (rest : List Identifier) : FieldsPrecede [] (i :: rest)
  | first {i j : Identifier} {rest rest' : List Identifier} (less : i.Precedes j) :
    FieldsPrecede (i :: rest) (j :: rest')
  | later {i : Identifier} {rest rest' : List Identifier} (less : FieldsPrecede rest rest') :
    FieldsPrecede (i :: rest) (i :: rest')

structure Version where
  major : ℕ
  minor : ℕ
  patch : ℕ
  prerelease : List Identifier := []

namespace Version

def Valid (v : Version) : Prop := ∀ i ∈ v.prerelease, i.Valid

def core (v : Version) : List Char :=
  ['.'].intercalate [Nat.toDigits 10 v.major, Nat.toDigits 10 v.minor, Nat.toDigits 10 v.patch]

def fields (v : Version) : List Char := ['.'].intercalate (v.prerelease.map Identifier.chars)

/-- The version as it is written. -/
def text (v : Version) : String :=
  String.ofList (v.core ++ if v.prerelease.isEmpty then [] else '-' :: v.fields)

/-- A prerelease precedes its release. -/
inductive ReleasePrecedes : List Identifier → List Identifier → Prop
  | prerelease (i : Identifier) (rest : List Identifier) : ReleasePrecedes (i :: rest) []
  | fields {i j : Identifier} {rest rest' : List Identifier}
    (less : FieldsPrecede (i :: rest) (j :: rest')) : ReleasePrecedes (i :: rest) (j :: rest')

/-- Major, minor and patch numerically and in this order, then the prerelease. -/
def Precedes (v w : Version) : Prop :=
  v.major < w.major ∨ v.major = w.major ∧ (v.minor < w.minor ∨ v.minor = w.minor ∧
    (v.patch < w.patch ∨ v.patch = w.patch ∧ ReleasePrecedes v.prerelease w.prerelease))

end Version

/-! ## Reading what was written -/

theorem decimalValue_of_digit {c : Char} (digit : c.isDigit = true) :
    decimalValue c = some (c.toNat - '0'.toNat) := by
  have bounds : 48 ≤ c.toNat ∧ c.toNat < 58 := by
    simp only [Char.isDigit, Bool.and_eq_true, decide_eq_true_eq, ge_iff_le,
      UInt32.le_iff_toNat_le] at digit
    have same : c.toNat = c.val.toNat := rfl
    simp at digit
    omega
  simp [decimalValue, zeros, bounds]

theorem readDecimal_toDigits (n : ℕ) : readDecimal (Nat.toDigits 10 n) = some n := by
  have digits : ∀ c ∈ Nat.toDigits 10 n, c.isDigit = true :=
    fun c there => Nat.isDigit_of_mem_toDigits (by decide) (by decide) there
  have read {text : List Char} (digits : ∀ c ∈ text, c.isDigit = true) :
      text.mapM decimalValue = some (text.map fun c => c.toNat - '0'.toNat) := by
    induction text with
    | nil => rfl
    | cons c rest ih =>
      obtain ⟨here, others⟩ := List.forall_mem_cons.mp digits
      rw [List.mapM_cons, decimalValue_of_digit here, ih others]
      rfl
  have value := Nat.ofDigitChars_toDigits (b := 10) (n := n) (by decide) (by decide)
  rw [Nat.ofDigitChars_eq_foldl] at value
  rw [readDecimal, if_neg (by simp [Nat.toDigits_ne_nil]), read digits, Option.map_some,
    List.foldl_map, value]

/-- What is not all digits is no number. -/
theorem readDecimal_alphanumeric {text : List Char}
    (valid : (Identifier.alphanumeric text).Valid) : readDecimal text = none := by
  obtain ⟨chars, c, there, other⟩ := valid
  by_contra number
  have digits := digits_of_readDecimal (Option.isSome_iff_ne_none.mpr number) c there
  have places : ∀ low ∈ zeros, low = 48 ∨ 1632 ≤ low := by decide
  simp only [decimalValue, Option.isSome_map, List.find?_isSome, Bool.and_eq_true,
    decide_eq_true_eq] at digits
  obtain ⟨low, listed, above, below⟩ := digits
  have letter : c.toNat < 128 := by
    rcases chars c there with alpha | rfl
    · exact Nat.lt_of_le_of_lt (bounds_of_isAlphanum alpha).2 (by decide)
    · decide
  have none : ¬(48 ≤ c.toNat ∧ c.toNat < 58) := by
    intro bounds
    simp only [Char.isDigit, Bool.and_eq_false_iff, decide_eq_false_iff_not, ge_iff_le,
      UInt32.le_iff_toNat_le] at other
    have same : c.toNat = c.val.toNat := rfl
    simp at other
    omega
  rcases places low listed with rfl | far
  · exact none ⟨above, below⟩
  · omega

theorem dash_not_mem_digits (n : ℕ) : '-' ∉ Nat.toDigits 10 n :=
  fun there => absurd (Nat.isDigit_of_mem_toDigits (by decide) (by decide) there) (by decide)

theorem dot_not_mem_digits (n : ℕ) : '.' ∉ Nat.toDigits 10 n :=
  fun there => absurd (Nat.isDigit_of_mem_toDigits (by decide) (by decide) there) (by decide)

namespace Identifier

/-- The place of an identifier in the order of the source. -/
def key : Identifier → ℕ ⊕ₗ String
  | numeric n => Sum.inlₗ n
  | alphanumeric text => Sum.inrₗ (String.ofList text)

theorem identifierKey_chars {i : Identifier} (valid : i.Valid) : identifierKey i.chars = i.key := by
  cases i with
  | numeric n => rw [chars, identifierKey, readDecimal_toDigits]; rfl
  | alphanumeric text => rw [chars, identifierKey, readDecimal_alphanumeric valid]; rfl

theorem dot_not_mem_chars {i : Identifier} (valid : i.Valid) : '.' ∉ i.chars := by
  cases i with
  | numeric n => exact dot_not_mem_digits n
  | alphanumeric text =>
    intro there
    rcases valid.1 _ there with letter | same
    · exact absurd letter (by decide)
    · exact absurd same (by decide)

theorem chars_ne_nil {i : Identifier} (valid : i.Valid) : i.chars ≠ [] := by
  cases i with
  | numeric n => exact Nat.toDigits_ne_nil
  | alphanumeric text =>
    obtain ⟨_, c, there, _⟩ := valid
    exact List.ne_nil_of_mem there

theorem prereleaseChar_chars {i : Identifier} (valid : i.Valid) :
    ∀ c ∈ i.chars, isPrereleaseChar c = true := by
  intro c there
  cases i with
  | numeric n =>
    have digit : c.isDigit = true := Nat.isDigit_of_mem_toDigits (by decide) (by decide) there
    simp [isPrereleaseChar, Char.isAlphanum, digit]
  | alphanumeric text =>
    rcases valid.1 c there with letter | rfl
    · simp [isPrereleaseChar, letter]
    · decide

theorem precedes_iff {i j : Identifier} : i.Precedes j ↔ i.key < j.key := by
  cases i with
  | numeric m =>
    cases j with
    | numeric n =>
      rw [key, key, Sum.Lex.inl_lt_inl_iff]
      exact ⟨fun less => by cases less; assumption, .number⟩
    | alphanumeric t => exact iff_of_true (.kind m t) (Sum.Lex.inl_lt_inr _ _)
  | alphanumeric s =>
    cases j with
    | numeric n => exact iff_of_false nofun Sum.Lex.not_inr_lt_inl
    | alphanumeric t =>
      rw [key, key, Sum.Lex.inr_lt_inr_iff, String.lt_iff_toList_lt, String.toList_ofList,
        String.toList_ofList]
      exact ⟨fun less => by cases less; assumption, .text⟩

theorem key_injective {i j : Identifier} (same : i.key = j.key) : i = j := by
  cases i with
  | numeric m =>
    cases j with
    | numeric n => rw [Sum.inl.inj same]
    | alphanumeric t => cases same
  | alphanumeric s =>
    cases j with
    | numeric n => cases same
    | alphanumeric t => rw [String.ofList_injective (Sum.inr.inj same)]

end Identifier

theorem fieldsPrecede_iff {is js : List Identifier} :
    FieldsPrecede is js ↔ is.map Identifier.key < js.map Identifier.key := by
  induction is generalizing js with
  | nil =>
    cases js with
    | nil => exact iff_of_false nofun (lt_irrefl _)
    | cons j rest => exact iff_of_true (.fewer j rest) (List.nil_lt_cons _ _)
  | cons i rest ih =>
    cases js with
    | nil => exact iff_of_false nofun (List.not_lt_nil _)
    | cons j rest' =>
      rw [List.map_cons, List.map_cons, List.cons_lt_cons_iff, ← ih, ← Identifier.precedes_iff]
      constructor
      · intro less
        cases less with
        | first less => exact .inl less
        | later less => exact .inr ⟨rfl, less⟩
      · rintro (less | ⟨same, less⟩)
        · exact .first less
        · cases Identifier.key_injective same
          exact .later less

namespace Version

/-- The place of a version in the order of the source. -/
def key (v : Version) : SemverKey :=
  toLex ([v.major, v.minor, v.patch],
    toLex (if v.prerelease.isEmpty then 1 else 0, v.prerelease.map Identifier.key))

theorem dash_not_mem_core (v : Version) : '-' ∉ v.core := by
  simp [core, List.intercalate, dash_not_mem_digits]

theorem partition_text (v : Version) : partition '-' v.text.toList = (v.core, v.fields) := by
  have plain : ∀ c ∈ v.core, decide (c ≠ '-') = true := by
    intro c there
    refine decide_eq_true fun same => ?_
    exact v.dash_not_mem_core (same ▸ there)
  rw [text, String.toList_ofList, partition, List.takeWhile_append_of_pos plain,
    List.dropWhile_append_of_pos plain]
  cases empty : v.prerelease with
  | nil => simp [fields, empty, List.intercalate]
  | cons i rest => simp

theorem splitOn_core (v : Version) : v.core.splitOn '.' =
    [Nat.toDigits 10 v.major, Nat.toDigits 10 v.minor, Nat.toDigits 10 v.patch] := by
  apply List.splitOn_intercalate
  · simp [dot_not_mem_digits]
  · simp

theorem splitOn_fields {v : Version} (valid : v.Valid) (some : v.prerelease ≠ []) :
    v.fields.splitOn '.' = v.prerelease.map Identifier.chars := by
  apply List.splitOn_intercalate
  · intro part there
    obtain ⟨i, listed, rfl⟩ := List.mem_map.mp there
    exact Identifier.dot_not_mem_chars (valid i listed)
  · simpa using some

theorem fields_eq_nil {v : Version} (valid : v.Valid) :
    v.fields = [] ↔ v.prerelease = [] := by
  constructor
  · intro empty
    by_contra some
    obtain ⟨i, rest, shape⟩ := List.exists_cons_of_ne_nil some
    have split := splitOn_fields valid some
    have single : ([] : List Char).splitOn '.' = [[]] := by decide
    rw [empty, single, shape, List.map_cons, List.cons.injEq] at split
    exact Identifier.chars_ne_nil (valid i (shape ▸ List.mem_cons_self)) split.1.symm
  · intro empty
    simp [fields, empty, List.intercalate]

/-- The key of a version is made of its numbers and identifiers. -/
theorem semverKey_text {v : Version} (valid : v.Valid) : semverKey v.text = .ok v.key := by
  have number (n : ℕ) : readNumber (Nat.toDigits 10 n) = .ok n := by
    rw [readNumber, readDecimal_toDigits]
  have numbers : (v.core.splitOn '.').mapM readNumber = .ok [v.major, v.minor, v.patch] := by
    rw [splitOn_core, List.mapM_cons, List.mapM_cons, List.mapM_cons, number, number, number]
    rfl
  simp only [semverKey, partition_text, numbers, key]
  by_cases release : v.prerelease = []
  · simp [(fields_eq_nil valid).mpr release, release]
  · have behind : v.fields.isEmpty = false := by
      simpa using fun empty => release ((fields_eq_nil valid).mp empty)
    have prerelease : v.prerelease.isEmpty = false := by simpa using release
    have keys : (v.fields.splitOn '.').map identifierKey = v.prerelease.map Identifier.key := by
      rw [splitOn_fields valid release, List.map_map]
      exact List.map_congr_left fun i there => Identifier.identifierKey_chars (valid i there)
    simp only [behind, prerelease, keys, Bool.false_eq_true, if_false]
    rfl

/-- Manifests accept every valid version. -/
theorem isSemver_text {v : Version} (valid : v.Valid) : isSemver v.text = true := by
  have digits (n : ℕ) : (readDecimal (Nat.toDigits 10 n)).isSome = true := by
    rw [readDecimal_toDigits]
    rfl
  have chars : ∀ c ∈ v.fields, isPrereleaseChar c = true := by
    intro c there
    by_cases release : v.prerelease = []
    · rw [(fields_eq_nil valid).mpr release] at there
      cases there
    · obtain rfl | ⟨part, listed, inside⟩ := mem_splitOn (c := '.') there
      · decide
      · rw [splitOn_fields valid release] at listed
        obtain ⟨i, there, rfl⟩ := List.mem_map.mp listed
        exact Identifier.prereleaseChar_chars (valid i there) c inside
  have dash : '-' ∈ v.text.toList → v.fields ≠ [] := by
    intro dashed empty
    have release := (fields_eq_nil valid).mp empty
    have text : v.text.toList = v.core := by simp [text, release]
    exact v.dash_not_mem_core (text ▸ dashed)
  simp only [isSemver, partition_text, splitOn_core, Bool.and_eq_true, Bool.or_eq_true,
    List.all_eq_true, Bool.not_eq_true']
  refine ⟨⟨rfl, by simp [digits]⟩, ?_⟩
  by_cases dashed : '-' ∈ v.text.toList
  · exact .inr ⟨by simpa using dash dashed, chars⟩
  · exact .inl (by simpa using dashed)

theorem releasePrecedes_iff {is js : List Identifier} :
    ReleasePrecedes is js ↔
      (toLex (if is.isEmpty then 1 else 0, is.map Identifier.key) : ℕ ×ₗ List (ℕ ⊕ₗ String)) <
        toLex (if js.isEmpty then 1 else 0, js.map Identifier.key) := by
  rw [Prod.Lex.toLex_lt_toLex]
  cases is with
  | nil =>
    refine iff_of_false nofun ?_
    cases js <;> simp
  | cons i rest =>
    cases js with
    | nil => exact iff_of_true (.prerelease i rest) (by simp)
    | cons j rest' =>
      have same : ReleasePrecedes (i :: rest) (j :: rest') ↔
          FieldsPrecede (i :: rest) (j :: rest') :=
        ⟨fun less => by cases less; assumption, .fields⟩
      rw [same, fieldsPrecede_iff]
      simp

/-- Precedence is the order of the keys. -/
theorem precedes_iff {v w : Version} : v.Precedes w ↔ v.key < w.key := by
  have keys : v.key < w.key ↔ [v.major, v.minor, v.patch] < [w.major, w.minor, w.patch] ∨
      [v.major, v.minor, v.patch] = [w.major, w.minor, w.patch] ∧
        (toLex (if v.prerelease.isEmpty then 1 else 0, v.prerelease.map Identifier.key) :
          ℕ ×ₗ List (ℕ ⊕ₗ String)) <
          toLex (if w.prerelease.isEmpty then 1 else 0, w.prerelease.map Identifier.key) :=
    Prod.Lex.toLex_lt_toLex
  rw [keys, ← releasePrecedes_iff, Precedes]
  simp only [List.cons_lt_cons_iff, List.cons.injEq, and_true, lt_irrefl, and_false, or_false]
  grind

end Version

end SemVer

/-! ## Comparing -/

theorem versionKey_text {v : SemVer.Version} (valid : v.Valid) : versionKey v.text = v.key := by
  rw [versionKey, SemVer.Version.semverKey_text valid]

/-- What a comparator asks of the comparison with its target. -/
def Comparator.Asks : Comparator → Int → Prop
  | eq, r => r = 0
  | ge, r => 0 ≤ r
  | le, r => r ≤ 0
  | gt, r => 0 < r
  | lt, r => r < 0

/-- The version is not after the other one. -/
def NotAfter (left right : String) : Prop := ∃ r ≤ 0, compareVersions left right = .ok r

section
variable {a b c : String} (semver : isSemver a = true) (semver' : isSemver b = true)
include semver semver'

theorem compareVersions_neg : ∃ r, compareVersions a b = .ok r ∧ compareVersions b a = .ok (-r) ∧
    (r = -1 ∨ r = 0 ∨ r = 1) := by
  rw [compareVersions_ok semver semver', compareVersions_ok semver' semver]
  rcases lt_trichotomy (versionKey a) (versionKey b) with less | same | more
  · exact ⟨-1, by rw [if_pos less], by rw [if_neg (lt_asymm less), if_pos less]; rfl, .inl rfl⟩
  · exact ⟨0, by simp [same], by simp [same], .inr (.inl rfl)⟩
  · exact ⟨1, by rw [if_neg (lt_asymm more), if_pos more], by rw [if_pos more], .inr (.inr rfl)⟩

theorem notAfter_iff : NotAfter a b ↔ versionKey a ≤ versionKey b := by
  simp only [NotAfter, compareVersions_ok semver semver', Except.ok.injEq]
  rcases lt_trichotomy (versionKey a) (versionKey b) with less | same | more
  · simp [less, less.le]
  · simp [same]
  · simp [more, lt_asymm more, not_le_of_gt more]

/-- A comparator holds as the comparison says. -/
theorem holds_iff (operator : Comparator) :
    operator.holds (versionKey a) (versionKey b) = true ↔
      ∃ r, compareVersions a b = .ok r ∧ operator.Asks r := by
  simp only [compareVersions_ok semver semver', Except.ok.injEq, exists_eq_left']
  rcases lt_trichotomy (versionKey a) (versionKey b) with less | same | more
  · cases operator <;>
      simp [Comparator.holds, Comparator.Asks, less, less.ne, less.le, lt_asymm less,
        not_le_of_gt less]
  · cases operator <;> simp [Comparator.holds, Comparator.Asks, same]
  · cases operator <;>
      simp [Comparator.holds, Comparator.Asks, more, more.ne', more.le, lt_asymm more,
        not_le_of_gt more]

end

/-- A version does not start like an operator. -/
theorem splitOperator_semver {target : String} (semver : isSemver target = true) :
    splitOperator target.toList = (.eq, target.toList) := by
  cases text : target.toList with
  | nil => rfl
  | cons c rest =>
    have first : c = '-' ∨ c = '.' ∨ (decimalValue c).isSome = true := by
      simp only [isSemver, Bool.and_eq_true, List.all_eq_true] at semver
      obtain ⟨⟨_, digits⟩, _⟩ := semver
      by_cases dash : c = '-'
      · exact .inl dash
      · have inside : c ∈ (partition '-' target.toList).1 := by
          simp [partition, text, dash]
        obtain dot | ⟨part, listed, there⟩ := mem_splitOn (c := '.') inside
        · exact .inr (.inl dot)
        · exact .inr (.inr (digits_of_readDecimal (digits part listed) c there))
    unfold splitOperator
    split
    all_goals first
      | rfl
      | (rename_i same; cases same; exact absurd first (by decide))

/-- Without an operator a version spec asks for equal precedence. -/
theorem specItem_semver {target : String} (semver : isSemver target = true) :
    specItem target = some (.eq, target) := by
  simp [specItem, splitOperator_semver semver, semver]

/-- Comparing versions that manifests accept never raises and is a total preorder, it agrees with
precedence, and a version spec is met when each of its comparators holds in that order. -/
theorem compareVersions_sound :
    (∀ a b, isSemver a = true → isSemver b = true → ∃ r, compareVersions a b = .ok r ∧
      compareVersions b a = .ok (-r) ∧ (r = -1 ∨ r = 0 ∨ r = 1)) ∧
    (∀ a, isSemver a = true → compareVersions a a = .ok 0) ∧
    (∀ a b c, isSemver a = true → isSemver b = true → isSemver c = true →
      NotAfter a b → NotAfter b c → NotAfter a c) ∧
    (∀ v w : SemVer.Version, v.Valid → w.Valid → isSemver v.text = true ∧
      (compareVersions v.text w.text = .ok (-1) ↔ v.Precedes w) ∧
      (compareVersions v.text w.text = .ok 1 ↔ w.Precedes v)) ∧
    (∀ target, isSemver target = true → specItem target = some (.eq, target)) ∧
    (∀ version item operator target, isSemver version = true →
      specItem item = some (operator, target) →
      ∃ met, versionSatisfiesOne version item = .ok met ∧ (met = true ↔
        target = "*" ∨ ∃ r, compareVersions version target = .ok r ∧ operator.Asks r)) ∧
    (∀ spec version, isVersionSpec spec = true → isSemver version = true →
      ∃ met, versionSatisfies spec version = .ok met ∧ (met = true ↔
        ∀ item ∈ words spec, versionSatisfiesOne version item = .ok true)) := by
  refine ⟨fun a b => compareVersions_neg, fun a semver => ?_, fun a b c ha hb hc => ?_,
    fun v w valid valid' => ?_, fun target => specItem_semver,
    fun version item operator target semver found => ?_, fun spec version valid semver => ?_⟩
  · simp [compareVersions_ok semver semver]
  · rw [notAfter_iff ha hb, notAfter_iff hb hc, notAfter_iff ha hc]
    exact le_trans
  · have semver := SemVer.Version.isSemver_text valid
    have semver' := SemVer.Version.isSemver_text valid'
    refine ⟨semver, ?_⟩
    rw [compareVersions_ok semver semver', versionKey_text valid, versionKey_text valid',
      SemVer.Version.precedes_iff, SemVer.Version.precedes_iff]
    rcases lt_trichotomy v.key w.key with less | same | more
    · simp [less, lt_asymm less]
    · simp [same]
    · simp [more, lt_asymm more]
  · have one : versionSatisfiesOne version item = .ok _ :=
      versionSatisfiesOne_ok semver (by rw [found]; rfl)
    rw [found] at one
    refine ⟨_, one, ?_⟩
    obtain any | semver' := semver_of_specItem found
    · simp [any]
    · simp [holds_iff semver semver']
  · refine ⟨_, versionSatisfies_ok valid semver, ?_⟩
    simp only [isVersionSpec, Bool.and_eq_true, List.all_eq_true] at valid
    simp only [satisfies, List.all_eq_true]
    refine forall₂_congr fun item listed => ?_
    rw [versionSatisfiesOne_ok semver (valid.2 item listed), Except.ok.injEq]

theorem alpha_notAfter : NotAfter "1.0.0-alpha.2" "1.0.0" := by
  apply compareVersions_sound.2.2.1 "1.0.0-alpha.2" "1.0.0-alpha.10" "1.0.0"
  · decide +kernel
  · decide +kernel
  · decide +kernel
  · exact ⟨-1, by decide, by decide +kernel⟩
  · exact ⟨-1, by decide, by decide +kernel⟩

end Autonoesis
