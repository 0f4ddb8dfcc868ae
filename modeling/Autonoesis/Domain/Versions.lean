import Mathlib.Data.List.Lex
import Mathlib.Data.Prod.Lex
import Mathlib.Data.String.Basic
import Mathlib.Data.Sum.Order
import Autonoesis.Base.Words
import Autonoesis.Domain.Manifest

/-!
# Versions of capability packs

What a manifest has to be for `parse_manifest` to accept it, how versions are ordered, and the
version specs of dependencies. `int` reads digits of any length here.
-/

namespace Autonoesis
open Base

def manifestError (message : String) : Exc :=
  ⟨"ManifestError", [.valueError, .exception], message⟩

/-! ## The order of versions -/

/-- What `_SEMVER` allows behind the dash. -/
def isPrereleaseChar (c : Char) : Bool := c.isAlphanum || c = '.' || c = '-'

/-- `_SEMVER.fullmatch`. -/
def isSemver (version : String) : Bool :=
  let (core, prerelease) := partition '-' version.toList
  let parts := core.splitOn '.'
  parts.length = 3 && parts.all (fun part => (readDecimal part).isSome) &&
    (!version.toList.contains '-' || !prerelease.isEmpty && prerelease.all isPrereleaseChar)

/-- The numbers of a version, whether it is a release, and the identifiers of its prerelease, of
which a number is less than a text. Two versions with equally many numbers compare like the flat
tuples of the source. -/
abbrev SemverKey := List ℕ ×ₗ ℕ ×ₗ List (ℕ ⊕ₗ String)

def identifierKey (item : List Char) : ℕ ⊕ₗ String :=
  match readDecimal item with
  | some n => Sum.inlₗ n
  | none => Sum.inrₗ (String.ofList item)

/-- `int(part)`, which has no limit on the digits here. -/
def readNumber (part : List Char) : Except Exc ℕ :=
  match readDecimal part with
  | some n => .ok n
  | none => .error (.valueError
      ("invalid literal for int() with base 10: '" ++ String.ofList part ++ "'"))

/-- `_semver_key`. -/
def semverKey (version : String) : Except Exc SemverKey := do
  let (core, prerelease) := partition '-' version.toList
  let numbers ← (core.splitOn '.').mapM readNumber
  if prerelease.isEmpty then return toLex (numbers, toLex (1, []))
  else return toLex (numbers, toLex (0, (prerelease.splitOn '.').map identifierKey))

/-- `compare_versions`. -/
def compareVersions (left right : String) : Except Exc Int := do
  let keyLeft ← semverKey left
  let keyRight ← semverKey right
  return if keyLeft < keyRight then -1 else if keyRight < keyLeft then 1 else 0

/-- The key of a version that has one. -/
def versionKey (version : String) : SemverKey :=
  match semverKey version with
  | .ok key => key
  | .error _ => toLex ([], toLex (0, []))

/-- The place of a manifest in the order of versions. -/
def CapabilityPackManifest.rank (m : CapabilityPackManifest) : SemverKey := versionKey m.version

example : compareVersions "1.10.0" "1.9.0" = .ok 1 ∧
    compareVersions "1.0.0-rc.2" "1.0.0-rc.10" = .ok (-1) ∧
    compareVersions "1.0.0-rc" "1.0.0" = .ok (-1) ∧
    compareVersions "01.0.0" "1.0.0" = .ok 0 := by
  decide +kernel

/-- A version that `_SEMVER` accepts has a key. -/
theorem semverKey_ok {version : String} (semver : isSemver version = true) :
    semverKey version = .ok (versionKey version) := by
  have numbers : ∃ ns, ((partition '-' version.toList).1.splitOn '.').mapM readNumber =
      .ok ns := by
    simp only [isSemver, Bool.and_eq_true, List.all_eq_true] at semver
    obtain ⟨⟨_, digits⟩, _⟩ := semver
    generalize (partition '-' version.toList).1.splitOn '.' = parts at digits
    induction parts with
    | nil => exact ⟨[], rfl⟩
    | cons part rest ih =>
      obtain ⟨first, others⟩ := List.forall_mem_cons.mp digits
      obtain ⟨n, read⟩ := Option.isSome_iff_exists.mp first
      obtain ⟨ns, later⟩ := ih others
      have head : readNumber part = .ok n := by
        simp only [readNumber, read]
      exact ⟨n :: ns, by rw [List.mapM_cons, head, later]; rfl⟩
  obtain ⟨ns, numbers⟩ := numbers
  have some : ∃ key, semverKey version = .ok key := by
    simp only [semverKey, numbers]
    cases (partition '-' version.toList).2.isEmpty with
    | true => exact ⟨_, rfl⟩
    | false => exact ⟨_, rfl⟩
  obtain ⟨key, found⟩ := some
  rw [versionKey, found]

theorem bounds_of_isAlphanum {c : Char} (alphanumeric : c.isAlphanum = true) :
    48 ≤ c.toNat ∧ c.toNat ≤ 122 := by
  have bounds : (decide (c.val ≥ 'A'.val ∧ c.val ≤ 'Z'.val) ||
      (decide (c.val ≥ 'a'.val) && decide (c.val ≤ 'z'.val)) ||
      (decide (c.val ≥ '0'.val) && decide (c.val ≤ '9'.val))) = true := alphanumeric
  simp only [Bool.or_eq_true, Bool.and_eq_true, decide_eq_true_eq, ge_iff_le,
    UInt32.le_iff_toNat_le] at bounds
  have same : c.toNat = c.val.toNat := rfl
  simp at bounds
  omega

theorem isSpace_of_prereleaseChar {c : Char} (allowed : isPrereleaseChar c = true) :
    isSpace c = false := by
  simp only [isPrereleaseChar, Bool.or_eq_true, decide_eq_true_eq] at allowed
  have place : c.toNat = 46 ∨ c.toNat = 45 ∨ 48 ≤ c.toNat ∧ c.toNat ≤ 122 := by
    obtain (letter | rfl) | rfl := allowed
    · exact .inr (.inr (bounds_of_isAlphanum letter))
    · exact .inl rfl
    · exact .inr (.inl rfl)
  simp only [isSpace, Bool.or_eq_false_iff, Bool.and_eq_false_iff, decide_eq_false_iff_not]
  omega

/-- A version has no blanks. -/
theorem semver_plain {version : String} (semver : isSemver version = true) :
    ∀ c ∈ version.toList, isSpace c = false := by
  simp only [isSemver, partition, Bool.and_eq_true, List.all_eq_true, Bool.or_eq_true] at semver
  obtain ⟨⟨_, digits⟩, prerelease⟩ := semver
  intro c there
  rw [← List.takeWhile_append_dropWhile (p := (· ≠ '-')) (l := version.toList),
    List.mem_append] at there
  obtain core | behind := there
  · obtain rfl | ⟨part, listed, inside⟩ := mem_splitOn (c := '.') core
    · decide
    · exact isSpace_of_digit (digits_of_readDecimal (digits part listed) c inside)
  · have first := List.head?_dropWhile_not (· ≠ '-') version.toList
    have whole := List.takeWhile_append_dropWhile (p := (· ≠ '-')) (l := version.toList)
    revert first whole behind prerelease
    cases version.toList.dropWhile (· ≠ '-') with
    | nil => exact fun _ behind => nomatch behind
    | cons d more =>
      intro prerelease behind first whole
      obtain rfl : d = '-' := by simpa using first
      have dashed : version.toList.contains '-' = true := by
        rw [List.contains_iff_mem, ← whole]
        exact List.mem_append_right _ List.mem_cons_self
      obtain rfl | inside := List.mem_cons.mp behind
      · decide
      · have chars := prerelease.resolve_left (by rw [dashed]; decide)
        exact isSpace_of_prereleaseChar (chars.2 c inside)

theorem compareVersions_ok {left right : String} (semver : isSemver left = true)
    (semver' : isSemver right = true) :
    compareVersions left right =
      .ok (if versionKey left < versionKey right then -1
        else if versionKey right < versionKey left then 1 else 0) := by
  simp only [compareVersions, semverKey_ok semver, semverKey_ok semver']
  rfl

/-! ## Version specs -/

inductive Comparator where
  | eq | ge | le | gt | lt

def Comparator.holds (left right : SemverKey) : Comparator → Bool
  | eq => left = right
  | gt => right < left
  | ge => right ≤ left
  | lt => left < right
  | le => left ≤ right

/-- The operator of a comparator, which may be left out, and what stands behind it. -/
def splitOperator : List Char → Comparator × List Char
  | '=' :: target => (.eq, target)
  | '>' :: '=' :: target => (.ge, target)
  | '<' :: '=' :: target => (.le, target)
  | '>' :: target => (.gt, target)
  | '<' :: target => (.lt, target)
  | target => (.eq, target)

/-- `_VERSION_SPEC_ITEM.fullmatch`: the operator and the target. -/
def specItem (item : String) : Option (Comparator × String) :=
  let (operator, rest) := splitOperator item.toList
  let target := String.ofList rest
  if target = "*" || isSemver target then some (operator, target) else none

/-- `_version_satisfies_one`. -/
def versionSatisfiesOne (version item : String) : Except Exc Bool :=
  match specItem item with
  | none => .error (manifestError ("dependency version spec is invalid: " ++ item))
  | some (operator, target) =>
    if isSemver version then
      if target = "*" then .ok true
      else do
        let left ← semverKey version
        let right ← semverKey target
        return operator.holds left right
    else .error (manifestError ("version must use semantic versioning: " ++ version))

/-- `version_satisfies`. -/
def versionSatisfies (spec version : String) : Except Exc Bool :=
  if (words spec).isEmpty then .error (manifestError "dependency version spec is invalid: empty")
  else do
    let results ← (words spec).mapM (versionSatisfiesOne version)
    return results.all id

/-- What the constructor of a dependency demands of its version spec. -/
def isVersionSpec (spec : String) : Bool :=
  !(words spec).isEmpty && (words spec).all fun item => (specItem item).isSome

/-- Whether a version with this key meets every comparator of the spec. -/
def satisfies (spec : String) (key : SemverKey) : Bool :=
  (words spec).all fun item =>
    match specItem item with
    | some (operator, target) => target = "*" || operator.holds key (versionKey target)
    | none => false

theorem semver_of_specItem {item target : String} {operator : Comparator}
    (found : specItem item = some (operator, target)) :
    target = "*" ∨ isSemver target = true := by
  unfold specItem at found
  generalize splitOperator item.toList = parts at found
  obtain ⟨operator', rest⟩ := parts
  dsimp only at found
  split at found
  · rename_i accepted
    cases found
    simpa using accepted
  · cases found

theorem versionSatisfiesOne_ok {version item : String} (semver : isSemver version = true)
    (valid : (specItem item).isSome = true) :
    versionSatisfiesOne version item = .ok (match specItem item with
      | some (operator, target) => target = "*" || operator.holds (versionKey version)
          (versionKey target)
      | none => false) := by
  obtain ⟨⟨operator, target⟩, found⟩ := Option.isSome_iff_exists.mp valid
  simp only [versionSatisfiesOne, found, semver, if_true]
  by_cases any : target = "*"
  · simp [any]
  · have target_semver := (semver_of_specItem found).resolve_left any
    simp only [any, if_false, semverKey_ok semver, semverKey_ok target_semver, decide_false,
      Bool.false_or]
    rfl

/-- A valid spec is met or not by the order of the version alone. -/
theorem versionSatisfies_ok {spec version : String} (valid : isVersionSpec spec = true)
    (semver : isSemver version = true) :
    versionSatisfies spec version = .ok (satisfies spec (versionKey version)) := by
  simp only [isVersionSpec, Bool.and_eq_true, Bool.not_eq_true', List.all_eq_true] at valid
  obtain ⟨nonempty, items⟩ := valid
  unfold versionSatisfies satisfies
  rw [nonempty]
  generalize words spec = comparators at items
  have results : comparators.mapM (versionSatisfiesOne version) = .ok (comparators.map fun item =>
      match specItem item with
      | some (operator, target) => target = "*" || operator.holds (versionKey version)
          (versionKey target)
      | none => false) := by
    induction comparators with
    | nil => rfl
    | cons item rest ih =>
      obtain ⟨first, others⟩ := List.forall_mem_cons.mp items
      rw [List.mapM_cons, versionSatisfiesOne_ok semver first, ih others]
      rfl
  rw [results]
  change (Except.ok ((comparators.map _).all id) : Except Exc Bool) = _
  rw [List.all_map]
  rfl

/-! ## What `parse_manifest` accepts -/

def isLower (c : Char) : Bool := 'a' ≤ c && c ≤ 'z'

/-- `_IDENTIFIER.fullmatch`: words of lower-case letters and digits, the first of which starts with
a letter. -/
def isIdentifier (text : String) : Bool :=
  text.toList.head?.any isLower &&
    (text.toList.splitOnP fun c => c = '.' || c = '_' || c = '-').all fun word =>
      !word.isEmpty && word.all fun c => isLower c || c.isDigit

def isNameStart (c : Char) : Bool := c.isAlpha || c = '_'

/-- `_ENTRY_POINT.fullmatch`. -/
def isEntryPoint (text : String) : Bool :=
  let (module, function) := partition ':' text.toList
  module.head?.any isNameStart && module.all (fun c => c.isAlphanum || c = '_' || c = '.') &&
    function.head?.any isNameStart && function.all fun c => c.isAlphanum || c = '_'

/-- The first name of the module of an entry point. -/
def moduleRoot (entryPoint : String) : String :=
  String.ofList (partition '.' (partition ':' entryPoint.toList).1).1

/-- `_ARTIFACT_URI.fullmatch`. -/
def isArtifactUri (text : String) : Bool :=
  let (scheme, rest) := partition ':' text.toList
  match rest with
  | '/' :: '/' :: path =>
    scheme.head?.any isLower &&
      scheme.all (fun c => isLower c || c.isDigit || c = '+' || c = '.' || c = '-') &&
      !path.isEmpty && path.length ≤ 400 &&
      path.all fun c => c.isAlphanum || c = '.' || c = '_' || c = '~' || c = '/' || c = '-'
  | _ => false

/-- `_SIGNATURE_HEX.fullmatch`. -/
def isSignatureHex (text : String) : Bool := text.toList.length = 128 && text.toList.all isHexDigit

def PackDependency.check (d : PackDependency) : Except Exc Unit :=
  checks [
    (!isIdentifier d.packId, manifestError "dependencies.pack_id must be a normalized identifier"),
    (!isVersionSpec d.versionSpec,
      manifestError ("dependency version spec is invalid: " ++ d.versionSpec))]

/-- `_require_string_list`. -/
def requireStringList (value : List String) (field : String) : Except Exc Unit :=
  checks [
    (value.any (!isIdentifier ·), manifestError (field ++ " must be a normalized identifier")),
    (!decide value.Nodup, manifestError (field ++ " must not contain duplicates"))]

section
variable (checkSchema : Json → Except Exc Unit)

def GoalTypeManifest.check (g : GoalTypeManifest) : Except Exc Unit := do
  checkSchema g.inputSchema
  checks [
    (g.defaultBudget.value ≤ 0, manifestError "default_budget must be a positive integer"),
    (!isIdentifier g.goalType, manifestError "goal_type must be a normalized identifier"),
    (!isIdentifier g.agent, manifestError "agent must be a normalized identifier"),
    (!isIdentifier g.evaluationSuite,
      manifestError "evaluation_suite must be a normalized identifier"),
    (!isIdentifier g.defaultPolicy, manifestError "default_policy must be a normalized identifier")]

/-- The checks of `parse_manifest` on the values of the fields, in its order. `checkSchema` is
`Draft202012Validator.check_schema`. -/
def CapabilityPackManifest.check (m : CapabilityPackManifest) : Except Exc Unit := do
  let root := String.ofList (m.packId.toList.map fun c => if c = '-' then '_' else c)
  checks [
    (m.apiVersion ≠ "autonoesis/v1alpha1",
      manifestError "unsupported capability manifest api_version"),
    (!isSemver m.version, manifestError "version must use semantic versioning"),
    (!isEntryPoint m.pythonEntryPoint, manifestError "python_entry_point must be module:function"),
    (!isIdentifier m.packId, manifestError "pack_id must be a normalized identifier"),
    (moduleRoot m.pythonEntryPoint ≠ root,
      manifestError "python_entry_point must be owned by the capability pack module"),
    (m.evaluationSubject.any (!isEntryPoint ·),
      manifestError "evaluation_subject must be module:function"),
    (m.evaluationSubject.any (moduleRoot · ≠ root),
      manifestError "evaluation_subject must be owned by the capability pack module"),
    (m.artifactUri.any (!isArtifactUri ·),
      manifestError "artifact_uri must be a bounded URI with an explicit scheme"),
    (m.artifactDigest.any (!isSha256Hex ·),
      manifestError "artifact_digest must be a lowercase sha256 hex digest"),
    (m.signature.any (!isSignatureHex ·),
      manifestError "signature must be a lowercase hex ed25519 signature"),
    (m.sbomRef.any (!isArtifactUri ·),
      manifestError "sbom_ref must be a bounded URI with an explicit scheme"),
    (m.sbomDigest.any (!isSha256Hex ·),
      manifestError "sbom_digest must be a lowercase sha256 hex digest")]
  m.dependencies.forM PackDependency.check
  checks [
    (!decide (m.dependencies.map (·.packId)).Nodup,
      manifestError "dependencies must be unique per pack"),
    (m.goalTypes.isEmpty, manifestError "goal_types must be a non-empty list")]
  m.goalTypes.forM (GoalTypeManifest.check checkSchema)
  checks [(!decide (m.goalTypes.map (·.goalType)).Nodup, manifestError "goal types must be unique")]
  requireStringList m.skills "skills"
  requireStringList m.tools "tools"
  requireStringList m.policies "policies"
  requireStringList m.evaluationSuites "evaluation_suites"

/-- What the rest relies on of a manifest that `parse_manifest` has accepted. -/
theorem CapabilityPackManifest.accepted {m : CapabilityPackManifest}
    (parsed : m.check checkSchema = .ok ()) :
    isSemver m.version = true ∧
      (∀ d ∈ m.dependencies, isIdentifier d.packId = true ∧ isVersionSpec d.versionSpec = true) ∧
      (m.goalTypes.map (·.goalType)).Nodup := by
  simp only [check, bind_eq_ok] at parsed
  obtain ⟨_, fields, _, dependencies, _, _, _, _, _, unique, _⟩ := parsed
  refine ⟨?_, fun d there => ?_, by simpa using unique⟩
  · simp at fields
    exact fields.2.1
  · have dependency := forM_eq_ok.mp dependencies d there
    simpa [PackDependency.check] using dependency

theorem CapabilityPackManifest.identifier {m : CapabilityPackManifest}
    (parsed : m.check checkSchema = .ok ()) : isIdentifier m.packId = true := by
  simp only [check, bind_eq_ok] at parsed
  obtain ⟨_, fields, _⟩ := parsed
  simp at fields
  exact fields.2.2.2.1

end

end Autonoesis
