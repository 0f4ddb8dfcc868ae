import Autonoesis.Application.PackService
import Autonoesis.Base.Hex
import Autonoesis.Base.Signatures
import Autonoesis.Domain.Digests

/-!
# The supply chain of capability packs

Signing attaches the source, the content digest, the SBOM and last the signature, which is over all
of them. The gate in front of an install demands every one of these and accepts no manifest but the
one that was signed.
-/

namespace Autonoesis
open Base

/-- A raw Ed25519 key, private or public. -/
abbrev RawKey := { bytes : ByteArray // bytes.size = 32 }

/-- The Ed25519 of the `cryptography` package. To be accepted is to be loaded and verified without
`InvalidSignature` or `ValueError`. -/
abbrev Ed25519 := Signatures RawKey RawKey ByteArray ByteArray

namespace Ed25519
variable [Ed25519]

def publicKey (key : RawKey) : RawKey := Signatures.publicKey ByteArray ByteArray key

def sign (key : RawKey) (message : ByteArray) : ByteArray := Signatures.sign RawKey key message

def verify (key : RawKey) (signature message : ByteArray) : Bool :=
  Signatures.verify RawKey key signature message

abbrev Exact : Prop := Signatures.Exact RawKey RawKey ByteArray ByteArray

theorem verify_sign (exact : Exact) (key : RawKey) (message : ByteArray) :
    verify (publicKey key) (sign key message) message = true :=
  Signatures.Exact.verify_sign exact key message

end Ed25519

/-! ## Signing -/

/-- `_load_private_key`. -/
def loadPrivateKey (privateKeyHex : String) : Except Exc RawKey :=
  match bytesFromHex privateKeyHex with
  | none => .error (manifestError "signing key must be lowercase hex")
  | some raw =>
    if size : raw.size = 32 then .ok ⟨raw, size⟩
    else .error (manifestError "signing key must be a raw 32-byte ed25519 key")

section
variable [Ed25519]

def publicKeyHex (privateKeyHex : String) : Except Exc String := do
  let key ← loadPrivateKey privateKeyHex
  return bytesHex (Ed25519.publicKey key).1

def signManifestPayload (manifest : CapabilityPackManifest) (privateKeyHex : String) :
    Except Exc CapabilityPackManifest := do
  let key ← loadPrivateKey privateKeyHex
  let signature := bytesHex (Ed25519.sign key (canonicalSignatureBytes manifest))
  return { manifest with signature }

/-- Whether the key in the list accepts the signature. -/
def keyAccepts (manifest : CapabilityPackManifest) (signature publicHex : String) : Bool :=
  match bytesFromHex publicHex, bytesFromHex signature with
  | some raw, some signature =>
    if size : raw.size = 32 then
      Ed25519.verify ⟨raw, size⟩ signature (canonicalSignatureBytes manifest)
    else false
  | _, _ => false

def verifyManifestSignature (manifest : CapabilityPackManifest) (publicKeysHex : List String) :
    Bool :=
  match manifest.signature with
  | none => false
  | some signature => publicKeysHex.any (keyAccepts manifest signature)

/-- `artifact_uri or f"artifact://packs/{manifest.pack_id}/{manifest.version}"`. -/
def attachedUri (manifest : CapabilityPackManifest) (artifactUri : Option String) : String :=
  match artifactUri with
  | none | some "" => "artifact://packs/" ++ manifest.packId ++ "/" ++ manifest.version
  | some uri => uri

def supplyChainFields [Sha256] (manifest : CapabilityPackManifest)
    (privateKeyHex sbomRef sbomDigest : String) (artifactUri : Option String := none) :
    Except Exc CapabilityPackManifest :=
  signManifestPayload
    { manifest with
      artifactUri := some (attachedUri manifest artifactUri)
      artifactDigest := some (manifestContentDigest manifest)
      sbomRef := some sbomRef
      sbomDigest := some sbomDigest }
    privateKeyHex

end

/-! ## The gate -/

def supplyChainVerificationError (message : String) : Exc :=
  ⟨"SupplyChainVerificationError", [.permissionError, .exception], message⟩

structure StrictSupplyChainVerifier where
  allowedSources : List String
  publicKeysHex : List String
  sources : allowedSources ≠ []
  keys : publicKeysHex ≠ []

namespace StrictSupplyChainVerifier

/-- The constructor; a source ends with one slash. -/
def make (allowedSources publicKeysHex : List String) : Except Exc StrictSupplyChainVerifier :=
  if sources : allowedSources = [] then
    .error (.valueError "supply chain verifier requires at least one allowed source")
  else if keys : publicKeysHex = [] then
    .error (.valueError "supply chain verifier requires at least one public key")
  else
    .ok {
      allowedSources := allowedSources.map fun source =>
        String.ofList (source.toList.reverse.dropWhile (· = '/')).reverse ++ "/"
      publicKeysHex := publicKeysHex
      sources := by simpa using sources
      keys := keys }

/-- `artifact_uri.startswith(self._allowed_sources)`. -/
def allows (v : StrictSupplyChainVerifier) (uri : String) : Bool :=
  v.allowedSources.any (startsWith uri)

/-- The message that `verify_install` raises its error with, if it does. -/
def objection [Ed25519] [Sha256] (v : StrictSupplyChainVerifier)
    (manifest : CapabilityPackManifest) : Option String :=
  match manifest.artifactUri with
  | none => some "capability pack declares no artifact URI; refusing install"
  | some uri =>
    if !v.allows uri then some ("capability pack source is not allowlisted: " ++ uri)
    else match manifest.artifactDigest with
    | none => some "capability pack declares no artifact digest; refusing install"
    | some digest =>
      let expected := manifestContentDigest manifest
      if digest ≠ expected then
        some ("capability pack content digest mismatch: manifest content changed after " ++
          "digesting (expected " ++ digest ++ ", computed " ++ expected ++ ")")
      else if !verifyManifestSignature manifest v.publicKeysHex then
        some ("capability pack signature is missing or does not verify against any " ++
          "allowlisted publisher key")
      else if manifest.sbomRef.isNone || manifest.sbomDigest.isNone then
        some "capability pack must attach an SBOM reference and digest"
      else none

def verifyInstall [Ed25519] [Sha256] (v : StrictSupplyChainVerifier)
    (manifest : CapabilityPackManifest) : Except Exc Unit :=
  match v.objection manifest with
  | some message => .error (supplyChainVerificationError message)
  | none => .ok ()

end StrictSupplyChainVerifier

/-! ## What is accepted -/

section
variable [Ed25519]

theorem keyAccepts_iff {manifest : CapabilityPackManifest} {signature publicHex : String} :
    keyAccepts manifest signature publicHex = true ↔
      ∃ (key : RawKey) (raw : ByteArray), bytesFromHex publicHex = some key.1 ∧
        bytesFromHex signature = some raw ∧
        Ed25519.verify key raw (canonicalSignatureBytes manifest) = true := by
  unfold keyAccepts
  constructor
  · intro accepted
    split at accepted
    · rename_i bytes raw publics signs
      split_ifs at accepted with size
      exact ⟨⟨bytes, size⟩, raw, publics, signs, accepted⟩
    · cases accepted
  · rintro ⟨key, raw, publics, signs, accepted⟩
    rw [publics, signs]
    simp only [dif_pos key.2]
    exact accepted

theorem verifyManifestSignature_iff {manifest : CapabilityPackManifest} {keys : List String} :
    verifyManifestSignature manifest keys = true ↔
      ∃ signature ∈ manifest.signature, ∃ publicHex ∈ keys,
        keyAccepts manifest signature publicHex = true := by
  unfold verifyManifestSignature
  cases manifest.signature with
  | none => simp
  | some signature => simp

/-- A manifest that is signed with a listed key is accepted. -/
theorem signManifestPayload_accepted (exact : Ed25519.Exact) (m : CapabilityPackManifest)
    {privateKeyHex publicHex : String} {keys : List String}
    (loaded : publicKeyHex privateKeyHex = .ok publicHex)
    (listed : ∃ entry ∈ keys, bytesFromHex entry = bytesFromHex publicHex) :
    ∃ signature : String, signManifestPayload m privateKeyHex = .ok { m with signature } ∧
      verifyManifestSignature { m with signature } keys = true := by
  simp only [publicKeyHex, bind_eq_ok] at loaded
  obtain ⟨key, loaded, same⟩ := loaded
  cases same
  obtain ⟨entry, there, reads⟩ := listed
  rw [bytesFromHex_bytesHex] at reads
  refine ⟨bytesHex (Ed25519.sign key (canonicalSignatureBytes m)), ?_, ?_⟩
  · rw [signManifestPayload, loaded]
    rfl
  · rw [verifyManifestSignature_iff]
    refine ⟨_, rfl, entry, there, keyAccepts_iff.mpr
      ⟨Ed25519.publicKey key, _, reads, bytesFromHex_bytesHex _, ?_⟩⟩
    rw [canonicalSignatureBytes_signed m (some _)]
    exact Ed25519.verify_sign exact key (canonicalSignatureBytes m)

/-- One signature is not accepted for two manifests that differ in anything else. -/
theorem signature_covers (exact : Ed25519.Exact) {m m' : CapabilityPackManifest}
    {keys : List String} (accepted : verifyManifestSignature m keys = true)
    (accepted' : verifyManifestSignature m' keys = true) (same : m'.signature = m.signature) :
    m'.unsigned.reread = m.unsigned.reread := by
  obtain ⟨signature, there, _, _, first⟩ := verifyManifestSignature_iff.mp accepted
  obtain ⟨signature', there', _, _, second⟩ := verifyManifestSignature_iff.mp accepted'
  rw [same, there] at there'
  cases there'
  obtain ⟨_, raw, _, signs, first⟩ := keyAccepts_iff.mp first
  obtain ⟨_, raw', _, signs', second⟩ := keyAccepts_iff.mp second
  rw [signs] at signs'
  cases signs'
  exact (canonicalSignatureBytes_eq_iff m' m).mp (exact.verify_unique second first)

namespace StrictSupplyChainVerifier
variable [Sha256] {v : StrictSupplyChainVerifier} {m : CapabilityPackManifest}

/-- What an accepted manifest has. -/
structure Complete (v : StrictSupplyChainVerifier) (m : CapabilityPackManifest) : Prop where
  uri : ∃ uri, m.artifactUri = some uri ∧ v.allows uri = true
  digest : m.artifactDigest = some (manifestContentDigest m)
  signature : verifyManifestSignature m v.publicKeysHex = true
  sbomRef : m.sbomRef ≠ none
  sbomDigest : m.sbomDigest ≠ none

theorem objection_eq_none : v.objection m = none ↔ v.Complete m := by
  constructor
  · intro accepted
    unfold objection at accepted
    cases there : m.artifactUri with
    | none =>
      rw [there] at accepted
      cases accepted
    | some uri =>
      cases attached : m.artifactDigest with
      | none =>
        simp only [there, attached] at accepted
        split_ifs at accepted
      | some digest =>
        simp only [there, attached] at accepted
        split_ifs at accepted with denied content unsigned bare
        rw [Bool.or_eq_true, Option.isNone_iff_eq_none, Option.isNone_iff_eq_none, not_or] at bare
        exact ⟨⟨uri, there, by simpa using denied⟩, by rw [attached, not_not.mp content],
          by simpa using unsigned, bare.1, bare.2⟩
  · rintro ⟨⟨uri, there, allowed⟩, digest, signed, ref, sbom⟩
    simp [objection, there, allowed, digest, signed, ref, sbom]

theorem verifyInstall_eq_ok : v.verifyInstall m = .ok () ↔ v.Complete m := by
  rw [← objection_eq_none, verifyInstall]
  cases v.objection m with
  | none => simp
  | some message => simp

/-- A manifest that is not complete is refused with the error of the gate. -/
theorem verifyInstall_refused (incomplete : ¬v.Complete m) :
    ∃ message, v.verifyInstall m = .error (supplyChainVerificationError message) := by
  rw [← objection_eq_none] at incomplete
  obtain ⟨message, objected⟩ := Option.ne_none_iff_exists'.mp incomplete
  exact ⟨message, by rw [verifyInstall, objected]⟩

/-- What is signed and attached for an allowed source and a listed key is complete. -/
theorem supplyChainFields_complete (exact : Ed25519.Exact) {manifest : CapabilityPackManifest}
    {privateKeyHex publicHex sbomRef sbomDigest : String} {artifactUri : Option String}
    (loaded : publicKeyHex privateKeyHex = .ok publicHex)
    (listed : ∃ entry ∈ v.publicKeysHex, bytesFromHex entry = bytesFromHex publicHex)
    (allowed : v.allows (attachedUri manifest artifactUri) = true) :
    ∃ attached, supplyChainFields manifest privateKeyHex sbomRef sbomDigest artifactUri =
      .ok attached ∧ v.Complete attached := by
  obtain ⟨signature, signed, accepted⟩ := signManifestPayload_accepted exact
    { manifest with
      artifactUri := some (attachedUri manifest artifactUri)
      artifactDigest := some (manifestContentDigest manifest)
      sbomRef := some sbomRef
      sbomDigest := some sbomDigest } loaded listed
  refine ⟨_, signed, ⟨_, rfl, allowed⟩, ?_, accepted, Option.some_ne_none _,
    Option.some_ne_none _⟩
  rw [manifestContentDigest_eq, manifestContentDigest_eq]
  rfl

/-- Behind the gate only complete manifests are installed. -/
theorem installPack_complete {identity : IdentityContext} {store store' : Store}
    (installed : PackService.installPack (some v.verifyInstall) identity m store =
      (.ok (), store')) : v.Complete m := by
  rw [← verifyInstall_eq_ok]
  cases verified : v.verifyInstall m with
  | ok u => rfl
  | error e =>
    simp only [PackService.installPack, PackService.checked, verified] at installed
    cases installed

/-- What is signed with a listed key for an allowed source is accepted; the signature of an accepted
manifest makes no other one acceptable; and nothing that is attached may be missing. -/
theorem supply_chain_gate (exact : Ed25519.Exact) (v : StrictSupplyChainVerifier) :
    (∀ manifest privateKeyHex publicHex sbomRef sbomDigest artifactUri,
      publicKeyHex privateKeyHex = .ok publicHex →
      (∃ entry ∈ v.publicKeysHex, bytesFromHex entry = bytesFromHex publicHex) →
      v.allows (attachedUri manifest artifactUri) = true →
        ∃ attached, supplyChainFields manifest privateKeyHex sbomRef sbomDigest artifactUri =
          .ok attached ∧ v.verifyInstall attached = .ok ()) ∧
    (∀ m m', v.verifyInstall m = .ok () → m'.signature = m.signature →
      m'.unsigned.reread ≠ m.unsigned.reread →
        ∃ message, v.verifyInstall m' = .error (supplyChainVerificationError message)) ∧
    ∀ m, (m.artifactUri = none ∨ m.artifactDigest = none ∨ m.signature = none ∨
        m.sbomRef = none ∨ m.sbomDigest = none ∨
        ∃ uri, m.artifactUri = some uri ∧ v.allows uri = false) →
      ∃ message, v.verifyInstall m = .error (supplyChainVerificationError message) := by
  refine ⟨?_, ?_, ?_⟩
  · intro manifest privateKeyHex publicHex sbomRef sbomDigest artifactUri loaded listed allowed
    obtain ⟨attached, made, complete⟩ := supplyChainFields_complete exact loaded listed allowed
    exact ⟨attached, made, verifyInstall_eq_ok.mpr complete⟩
  · intro m m' accepted same differs
    apply verifyInstall_refused
    intro complete
    exact differs
      (signature_covers exact (verifyInstall_eq_ok.mp accepted).signature complete.signature same)
  · intro m missing
    apply verifyInstall_refused
    rintro ⟨⟨uri, there, allowed⟩, digest, signature, ref, sbom⟩
    obtain ⟨_, signed, _⟩ := verifyManifestSignature_iff.mp signature
    simp_all

end StrictSupplyChainVerifier

end

/-! A key, and the manifest that is signed with it. -/

namespace StrictSupplyChainVerifier.Sample
open CapabilityPackManifest.Sample

def privateHex : String := "0102030405060708090a0b0c0d0e0f101112131415161718191a1b1c1d1e1f20"

def publicHex : String := "79b5562e8fe654f94078b112e8a98ba7901f853ae695bed7e0e3910bad049664"

def privateKey : RawKey := ⟨(bytesFromHex privateHex).getD .empty, by decide +kernel⟩

def publicKey : RawKey := ⟨(bytesFromHex publicHex).getD .empty, by decide +kernel⟩

def attached : CapabilityPackManifest :=
  { weather with
    artifactUri := some "artifact://packs/weather/1.0.0"
    artifactDigest := some "40ed9b256a1ca92eade0651ca266bc5d0a0d842b438f2a16544e50bb02ce7bc4"
    sbomRef := some "artifact://sbom/weather/1.0.0"
    sbomDigest := some "98f3ae1ef67113d8140d4f6cb8d2830070e21ea48f091be519659846c771a374" }

/-- The signature of the manifest with the private key. -/
def signature : ByteArray := (bytesFromHex (
  "08461949a45f65b0c3a96e167bd9d9a7265d9d50abb822fb3f388142d2c2b9cb" ++
  "d8fb2fc7ffe7ec86e74475bea4c1769417bbe414678b887e1f208be91b2e350e")).getD .empty

/-- A zero, the key and the message. -/
def written (key : RawKey) (message : ByteArray) : ByteArray :=
  ⟨(0 :: (key.1.data.toList ++ message.data.toList)).toArray⟩

/-- Keys and messages are compared byte by byte. -/
@[reducible] def sameBytes : DecidableEq ByteArray := ByteArray.instDecidableEq

attribute [local instance] sameBytes

/-- Ed25519 on the key and the manifest above; every other signature holds what was signed. -/
def signWith (key : RawKey) (message : ByteArray) : ByteArray :=
  if key = privateKey ∧ message = canonicalSignatureBytes attached then signature
  else written key message

@[reducible] def ed25519 : Ed25519 where
  publicKey := Equiv.swap privateKey publicKey
  sign := signWith
  verify key raw message :=
    decide (signWith (Equiv.swap privateKey publicKey key) message = raw)

attribute [local instance] ed25519 sha256

theorem written_injective {key key' : RawKey} {message message' : ByteArray}
    (same : written key message = written key' message') : key = key' ∧ message = message' := by
  have bytes {b b' : ByteArray} (same : b.data.toList = b'.data.toList) : b = b' :=
    ByteArray.ext (Array.toList_inj.mp same)
  have lists := congrArg (·.data.toList) same
  simp only [written, List.cons.injEq, true_and] at lists
  have size : key.1.data.toList.length = key'.1.data.toList.length := key.2.trans key'.2.symm
  obtain ⟨keys, messages⟩ := List.append_inj lists size
  exact ⟨Subtype.ext (bytes keys), bytes messages⟩

theorem written_ne_signature (key : RawKey) (message : ByteArray) :
    written key message ≠ signature := by
  intro same
  have first := congrArg (·.data.toList.head?) same
  have eight : signature.data.toList.head? = some 8 := by decide +kernel
  simp [written, eight] at first

theorem exact : Ed25519.Exact where
  verify_iff key raw message := by
    have twice (key : RawKey) :
        Equiv.swap privateKey publicKey (Equiv.swap privateKey publicKey key) = key := by
      have undone := Equiv.symm_apply_apply (Equiv.swap privateKey publicKey) key
      rwa [Equiv.symm_swap] at undone
    constructor
    · intro accepted
      exact ⟨Equiv.swap privateKey publicKey key, twice key, of_decide_eq_true accepted⟩
    · rintro ⟨secret, rfl, made⟩
      apply decide_eq_true
      exact (congrArg (signWith · message) (twice secret)).trans made
  signed key key' message message' same := by
    change signWith key message = signWith key' message' at same
    unfold signWith at same
    split_ifs at same with here there there
    · rw [here.1, here.2, there.1, there.2]
      exact ⟨rfl, rfl⟩
    · exact absurd same.symm (written_ne_signature _ _)
    · exact absurd same (written_ne_signature _ _)
    · obtain ⟨rfl, rfl⟩ := written_injective same
      exact ⟨rfl, rfl⟩

def verifier : StrictSupplyChainVerifier where
  allowedSources := ["artifact://packs/"]
  publicKeysHex := [publicHex]
  sources := by simp
  keys := by simp

theorem weather_supplied : ∃ attached,
    supplyChainFields weather privateHex "artifact://sbom/weather/1.0.0"
      "98f3ae1ef67113d8140d4f6cb8d2830070e21ea48f091be519659846c771a374" = .ok attached ∧
    verifier.verifyInstall attached = .ok () ∧
    (∃ message, verifier.verifyInstall { attached with tools := "shell" :: attached.tools } =
      .error (supplyChainVerificationError message)) ∧
    ∃ message, verifier.verifyInstall { attached with sbomRef := none } =
      .error (supplyChainVerificationError message) := by
  obtain ⟨accepts, covers, demands⟩ := supply_chain_gate exact verifier
  obtain ⟨attached, made, accepted⟩ := accepts weather privateHex publicHex
    "artifact://sbom/weather/1.0.0"
    "98f3ae1ef67113d8140d4f6cb8d2830070e21ea48f091be519659846c771a374" none
    (by decide +kernel) ⟨publicHex, List.mem_singleton_self _, rfl⟩ (by decide +kernel)
  refine ⟨attached, made, accepted, covers attached _ accepted rfl ?_, demands _ (by simp)⟩
  intro same
  exact absurd (congrArg (·.tools) same) (List.cons_ne_self _ _)

end StrictSupplyChainVerifier.Sample

end Autonoesis
