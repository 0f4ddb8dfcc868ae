import Autonoesis.Application.Verification
import Autonoesis.Base.Dict
import Mathlib.Data.List.TakeWhile

/-!
# Evidence artifacts

`MinioEvidenceStore` over an S3 bucket reached through `Boto3ObjectStore`. A key is written
once: an object that is there is kept, and its version answered again.
-/

namespace Autonoesis.Artifacts
open Base

/-! ## The object store -/

/-- An object as `head_object` and `get_object` see it. -/
structure S3Object where
  body : String
  sha256 : String
  serverSideEncryption : String
  objectLockMode : String
  versionId : Option String

/-- The objects, by bucket and key. -/
abbrev Objects := Dict (String × String) S3Object

/-- A version, or none where the provider answers an empty one. -/
def given (version : Option String) : Option String := version.filter (· ≠ "")

/-- `Boto3ObjectStore.put`, with the version the provider gives a new object. -/
def put (objects : Objects) (bucket key data sha256 : String) (version : Option String) :
    Except Exc (Option String × Objects) :=
  match objects.get? (bucket, key) with
  | some current => do
    raiseIf (current.sha256 ≠ sha256)
      (.valueError "content-addressed Evidence key has conflicting metadata")
    raiseIf (current.serverSideEncryption ≠ "AES256")
      (.valueError "existing Evidence object is not server-side encrypted")
    raiseIf (current.objectLockMode ≠ "COMPLIANCE")
      (.valueError "existing Evidence object is not compliance locked")
    return (given current.versionId, objects)
  | none =>
    return (given version,
      objects.set (bucket, key) ⟨data, sha256, "AES256", "COMPLIANCE", version⟩)

/-- `Boto3ObjectStore.get`. -/
def get (objects : Objects) (bucket key : String) (versionId : Option String) : Option String :=
  match objects.get? (bucket, key) with
  | some current =>
    match given versionId with
    | some version => if current.versionId = some version then some current.body else none
    | none => some current.body
  | none => none

/-! ## The locations of artifacts -/

/-- The characters that end the network location of a URL. -/
def endsLocation (c : Char) : Bool := c = '/' || c = '?' || c = '#'

/-- `_location`: the bucket and the key of an `s3` URL. -/
def location (uri : String) : Except Exc (String × String) :=
  let unsupported := .error (.valueError ("unsupported Evidence artifact URI: " ++ uri))
  match uri.toList with
  | 's' :: '3' :: ':' :: '/' :: '/' :: rest =>
    let netloc := rest.takeWhile (!endsLocation ·)
    let path := (rest.dropWhile (!endsLocation ·)).takeWhile fun c => !(c = '?' || c = '#')
    let key := path.dropWhile (· = '/')
    if netloc.isEmpty || key.isEmpty then unsupported
    else .ok (String.ofList netloc, String.ofList key)
  | _ => unsupported

/-- The key of an artifact in the namespace of its tenant. -/
def keyOf (tenantId evidenceId : Uuid) (contentDigest : String) : String :=
  "tenants/" ++ tenantId.str ++ "/evidence/" ++ evidenceId.str ++ "/" ++ contentDigest

/-- `_location_for`. -/
def locationFor (bucket : String) (d : EvidenceArtifactDescriptor) :
    Except Exc (String × String) := do
  let (found, key) ← location d.artifactUri
  raiseIf (found ≠ bucket || key ≠ keyOf d.tenantId d.evidenceId d.contentDigest)
    (.lookupError "Evidence artifact is unavailable in the tenant namespace")
  return (found, key)

/-! ## The evidence store -/

def describe (bucket : String) (tenantId evidenceId : Uuid) (contentDigest : String)
    (classification : DataClassification) (sizeBytes : Int) (retainedUntil : Instant) :
    EvidenceArtifactDescriptor where
  tenantId := tenantId
  evidenceId := evidenceId
  artifactUri := "s3://" ++ bucket ++ "/" ++ keyOf tenantId evidenceId contentDigest
  contentDigest := contentDigest
  classification := classification
  sizeBytes := sizeBytes
  retainedUntil := retainedUntil

section
variable [Sha256]

def store (bucket : String) (objects : Objects) (version : Option String)
    (d : EvidenceArtifactDescriptor) (content : String) :
    Except Exc (EvidenceArtifactDescriptor × Objects) := do
  let actual := Sha256.hexdigest content
  raiseIf (actual ≠ d.contentDigest || (content.utf8ByteSize : Int) ≠ d.sizeBytes)
    (.valueError "Evidence content does not match its immutable descriptor")
  let (bucket, key) ← locationFor bucket d
  let (versionId, objects) ← put objects bucket key content actual version
  return ({ d with versionId := versionId }, objects)

def retrieveVerified (bucket : String) (objects : Objects) (d : EvidenceArtifactDescriptor) :
    Except Exc String := do
  let (bucket, key) ← locationFor bucket d
  match get objects bucket key d.versionId with
  | none => .error (.lookupError "Evidence artifact is missing")
  | some content =>
    raiseIf (Sha256.hexdigest content ≠ d.contentDigest)
      (.valueError "Evidence artifact digest verification failed")
    return content

end

theorem store_descriptor [Sha256] {bucket content : String} {objects objects' : Objects}
    {version : Option String} {d stored : EvidenceArtifactDescriptor}
    (ran : store bucket objects version d content = .ok (stored, objects')) :
    ∃ v, stored = { d with versionId := v } := by
  simp only [store, bind_eq_ok] at ran
  obtain ⟨_, _, ⟨_, _⟩, _, ⟨v, _⟩, _, done⟩ := ran
  cases done
  exact ⟨v, rfl⟩

/-! ## What is stored is found again -/

/-- A name that can stand between the scheme and the path of a URL. -/
def Plain (bucket : String) : Prop := bucket ≠ "" ∧ ∀ c ∈ bucket.toList, endsLocation c = false

theorem hexDigit_inPath {c : Char} (hex : isHexDigit c = true) : c ≠ '?' ∧ c ≠ '#' := by
  constructor
  all_goals
    rintro rfl
    cases hex

theorem str_inPath {u : Uuid} {c : Char} (there : c ∈ u.str.toList) : c ≠ '?' ∧ c ≠ '#' := by
  rcases Uuid.str_chars there with rfl | hex
  · decide
  · exact hexDigit_inPath hex

theorem keyOf_inPath {tenantId evidenceId : Uuid} {digest : String}
    (hex : isSha256Hex digest = true) :
    ∀ c ∈ (keyOf tenantId evidenceId digest).toList, c ≠ '?' ∧ c ≠ '#' := by
  simp only [isSha256Hex, Bool.and_eq_true, List.all_eq_true] at hex
  have literal : ∀ c ∈ "tenants/".toList ++ "/evidence/".toList ++ "/".toList,
      c ≠ '?' ∧ c ≠ '#' := chars_of_all (by decide)
  intro c there
  simp only [keyOf, String.toList_append, List.mem_append] at there literal
  rcases there with ((((first | tenant) | second) | evidence) | slash) | digit
  · exact literal c (.inl (.inl first))
  · exact str_inPath tenant
  · exact literal c (.inl (.inr second))
  · exact str_inPath evidence
  · exact literal c (.inr slash)
  · exact hexDigit_inPath (hex.2 c digit)

/-- The URL of a described artifact leads back to its bucket and key. -/
theorem location_described {bucket : String} (plain : Plain bucket) {tenantId evidenceId : Uuid}
    {digest : String} (hex : isSha256Hex digest = true) :
    location ("s3://" ++ bucket ++ "/" ++ keyOf tenantId evidenceId digest) =
      .ok (bucket, keyOf tenantId evidenceId digest) := by
  obtain ⟨named, inside⟩ := plain
  have uri : ("s3://" ++ bucket ++ "/" ++ keyOf tenantId evidenceId digest).toList =
      's' :: '3' :: ':' :: '/' :: '/' ::
        (bucket.toList ++ '/' :: (keyOf tenantId evidenceId digest).toList) := by
    simp only [String.toList_append, List.append_assoc]
    rfl
  have netloc : ∀ c ∈ bucket.toList, (!endsLocation c) = true := by
    intro c there
    rw [inside c there]
    rfl
  have path : ∀ c ∈ '/' :: (keyOf tenantId evidenceId digest).toList,
      (!(c = '?' || c = '#')) = true := by
    intro c there
    rcases List.mem_cons.mp there with rfl | there
    · decide
    · simpa using keyOf_inPath hex c there
  obtain ⟨rest, first⟩ : ∃ rest, (keyOf tenantId evidenceId digest).toList = 't' :: rest :=
    ⟨_, by simp only [keyOf, String.toList_append]; rfl⟩
  have bucketEmpty : bucket.toList ≠ [] := fun empty => named (String.toList_inj.mp empty)
  have ends : (!endsLocation '/') = false := by decide
  have slash (c : Char) : ('/' :: c :: rest).dropWhile (· = '/') = (c :: rest).dropWhile (· = '/') :=
    List.dropWhile_cons_of_pos (by decide)
  simp only [location, uri]
  rw [List.takeWhile_append_of_pos netloc, List.dropWhile_append_of_pos netloc,
    List.takeWhile_cons_of_neg (by rw [ends]; decide),
    List.dropWhile_cons_of_neg (by rw [ends]; decide), List.takeWhile_eq_self_iff.mpr path, first,
    slash, List.dropWhile_cons_of_neg (by decide), ← first, List.append_nil]
  have keyEmpty : (keyOf tenantId evidenceId digest).toList ≠ [] := by
    rw [first]
    exact List.cons_ne_nil _ _
  rw [if_neg (by simp [bucketEmpty, keyEmpty]), String.ofList_toList, String.ofList_toList]

/-- A descriptor as `describe` makes it, for content of a SHA-256 digest. -/
structure Described (bucket : String) (d : EvidenceArtifactDescriptor) : Prop where
  uri : d.artifactUri =
    "s3://" ++ bucket ++ "/" ++ keyOf d.tenantId d.evidenceId d.contentDigest
  digest : isSha256Hex d.contentDigest = true

/-- Where the artifact is, and what is there. -/
def objectAt (bucket : String) (objects : Objects) (d : EvidenceArtifactDescriptor) :
    Option S3Object :=
  objects.get? (bucket, keyOf d.tenantId d.evidenceId d.contentDigest)

theorem objectAt_empty (bucket : String) (d : EvidenceArtifactDescriptor) :
    objectAt bucket .empty d = none := rfl

/-- The object is the artifact the descriptor describes. -/
structure Intact [Sha256] (d : EvidenceArtifactDescriptor) (o : S3Object) : Prop where
  content : Sha256.hexdigest o.body = d.contentDigest
  size : (o.body.utf8ByteSize : Int) = d.sizeBytes
  sha256 : o.sha256 = d.contentDigest
  encrypted : o.serverSideEncryption = "AES256"
  locked : o.objectLockMode = "COMPLIANCE"

section
variable [Sha256] {bucket : String} (plain : Plain bucket) {objects : Objects}
  {d : EvidenceArtifactDescriptor} (described : Described bucket d)
include plain described

omit [Sha256] in
theorem locationFor_described :
    locationFor bucket d = .ok (bucket, keyOf d.tenantId d.evidenceId d.contentDigest) := by
  unfold locationFor
  rw [described.uri, location_described plain described.digest]
  simp [raiseIf, bind, Except.bind, pure, Except.pure]

/-- A new artifact is put under its key. -/
theorem store_absent (absent : objectAt bucket objects d = none) {content : String}
    (digest : Sha256.hexdigest content = d.contentDigest)
    (size : (content.utf8ByteSize : Int) = d.sizeBytes) (version : Option String) :
    store bucket objects version d content = .ok ({ d with versionId := given version },
      objects.set (bucket, keyOf d.tenantId d.evidenceId d.contentDigest)
        ⟨content, d.contentDigest, "AES256", "COMPLIANCE", version⟩) := by
  unfold objectAt at absent
  simp [store, locationFor_described plain described, put, absent, digest, size, raiseIf, bind,
    Except.bind, pure, Except.pure]

/-- An artifact that is there is kept. -/
theorem store_intact {o : S3Object} (there : objectAt bucket objects d = some o)
    (intact : Intact d o) {content : String} (digest : Sha256.hexdigest content = d.contentDigest)
    (size : (content.utf8ByteSize : Int) = d.sizeBytes) (version : Option String) :
    store bucket objects version d content =
      .ok ({ d with versionId := given o.versionId }, objects) := by
  unfold objectAt at there
  simp [store, locationFor_described plain described, put, there, digest, size, intact.sha256,
    intact.encrypted, intact.locked, raiseIf, bind, Except.bind, pure, Except.pure]

theorem retrieve_absent (absent : objectAt bucket objects d = none) :
    retrieveVerified bucket objects d = .error (.lookupError "Evidence artifact is missing") := by
  unfold objectAt at absent
  simp [retrieveVerified, locationFor_described plain described, get, absent, bind, Except.bind]

/-- An artifact that is there is read back, under its version or without one. -/
theorem retrieve_found {o : S3Object} (there : objectAt bucket objects d = some o)
    (content : Sha256.hexdigest o.body = d.contentDigest)
    (version : d.versionId = none ∨ d.versionId = given o.versionId) :
    retrieveVerified bucket objects d = .ok o.body := by
  have found : get objects bucket (keyOf d.tenantId d.evidenceId d.contentDigest) d.versionId =
      some o.body := by
    unfold objectAt at there
    rcases version with none | same
    · simp [get, there, none, given]
    · cases version : o.versionId with
      | none => simp [get, there, same, version, given]
      | some v =>
        by_cases empty : v = "" <;>
          simp [get, there, same, version, given, Option.filter, empty]
  simp [retrieveVerified, locationFor_described plain described, found, content, raiseIf,
    bind, Except.bind, pure, Except.pure]

/-- A stored artifact is read back under the version it was stored with. -/
theorem retrieve_stored {o : S3Object} (there : objectAt bucket objects d = some o)
    (intact : Intact d o) :
    retrieveVerified bucket objects { d with versionId := given o.versionId } = .ok o.body :=
  retrieve_found (d := { d with versionId := given o.versionId }) plain
    ⟨described.uri, described.digest⟩ there intact.content (.inr rfl)

end

end Autonoesis.Artifacts
