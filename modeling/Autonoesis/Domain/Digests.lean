import Autonoesis.Base.Members
import Autonoesis.Domain.Parsing

/-!
# What digests and signatures cover

The signature of a manifest is over the dump of its payload without the signature, and its content
digest over the dump without the signature, the artifact and the SBOM. Either text determines every
field that is not left out.
-/

namespace Autonoesis
open Base

/-- `payload.pop(field, None)`. -/
def popField (field : String) : Json → Json
  | .obj fields => .obj (fields.filter (·.1 ≠ field))
  | v => v

def canonicalUnsignedPayload (m : CapabilityPackManifest) : Json :=
  popField "signature" (manifestPayload m)

def manifestContentDigest [Sha256] (m : CapabilityPackManifest) : String :=
  let payload := ["artifact_digest", "sbom_digest", "artifact_uri", "sbom_ref"].foldl
    (fun payload field => popField field payload) (canonicalUnsignedPayload m)
  Sha256.hexdigest (payload.dumps false)

def canonicalSignatureBytes (m : CapabilityPackManifest) : ByteArray :=
  ((canonicalUnsignedPayload m).dumps false).toUTF8

/-- The goal type with its schema as dictionaries compare, without the order of their members. -/
def GoalTypeManifest.reread (g : GoalTypeManifest) : GoalTypeManifest :=
  { g with inputSchema := g.inputSchema.loaded }

namespace CapabilityPackManifest

def reread (m : CapabilityPackManifest) : CapabilityPackManifest :=
  { m with goalTypes := m.goalTypes.map (·.reread) }

/-- The manifest without its signature. -/
def unsigned (m : CapabilityPackManifest) : CapabilityPackManifest := { m with signature := none }

/-- The manifest without the fields that are attached for its supply chain. -/
def bare (m : CapabilityPackManifest) : CapabilityPackManifest :=
  { m with
    signature := none, artifactUri := none, artifactDigest := none, sbomRef := none,
    sbomDigest := none }

end CapabilityPackManifest

/-! ## The fields that are left out -/

theorem optionalPayload_cons (name : String) (value : Option String)
    (rest : List (String × Option String)) :
    optionalPayload ((name, value) :: rest) =
      (value.map fun v => (name, Json.str v)).toList ++ optionalPayload rest := by
  cases value <;> rfl

/-- To pop a field that is attached is not to have attached it. -/
theorem popField_payload {field : String} {m m' : CapabilityPackManifest} (base : m'.base = m.base)
    (based : ∀ f ∈ m.base, f.1 ≠ field)
    (extra : optionalPayload (m.extra.filter (·.1 ≠ field)) = optionalPayload m'.extra) :
    popField field (manifestPayload m) = manifestPayload m' := by
  have attached : ∀ entries : List (String × Option String),
      (optionalPayload entries).filter (·.1 ≠ field) =
        optionalPayload (entries.filter (·.1 ≠ field)) := by
    intro entries
    induction entries with
    | nil => rfl
    | cons entry rest ih =>
      obtain ⟨name, value⟩ := entry
      rw [optionalPayload_cons, List.filter_append, ih, List.filter_cons]
      split_ifs with other
      · rw [optionalPayload_cons]
        cases value <;> simp_all
      · cases value <;> simp_all
  rw [CapabilityPackManifest.payload_eq, CapabilityPackManifest.payload_eq, popField,
    List.filter_append, attached, List.filter_eq_self.mpr fun f there => decide_eq_true (based f there),
    extra, base]

theorem canonicalUnsignedPayload_eq (m : CapabilityPackManifest) :
    canonicalUnsignedPayload m = manifestPayload m.unsigned :=
  popField_payload rfl (by simp [CapabilityPackManifest.base])
    (by simp [CapabilityPackManifest.extra, CapabilityPackManifest.unsigned, optionalPayload_cons])

theorem manifestContentDigest_eq [Sha256] (m : CapabilityPackManifest) :
    manifestContentDigest m = Sha256.hexdigest ((manifestPayload m.bare).dumps false) := by
  have digest : popField "artifact_digest" (manifestPayload m.unsigned) =
      manifestPayload { m.unsigned with artifactDigest := none } :=
    popField_payload rfl (by simp [CapabilityPackManifest.base])
      (by simp [CapabilityPackManifest.extra, optionalPayload_cons])
  have sbomDigest : popField "sbom_digest"
        (manifestPayload { m.unsigned with artifactDigest := none }) =
      manifestPayload { m.unsigned with artifactDigest := none, sbomDigest := none } :=
    popField_payload rfl (by simp [CapabilityPackManifest.base])
      (by simp [CapabilityPackManifest.extra, optionalPayload_cons])
  have uri : popField "artifact_uri"
        (manifestPayload { m.unsigned with artifactDigest := none, sbomDigest := none }) =
      manifestPayload
        { m.unsigned with artifactDigest := none, sbomDigest := none, artifactUri := none } :=
    popField_payload rfl (by simp [CapabilityPackManifest.base])
      (by simp [CapabilityPackManifest.extra, optionalPayload_cons])
  have ref : popField "sbom_ref" (manifestPayload
        { m.unsigned with artifactDigest := none, sbomDigest := none, artifactUri := none }) =
      manifestPayload m.bare :=
    popField_payload rfl (by simp [CapabilityPackManifest.base])
      (by simp [CapabilityPackManifest.extra, CapabilityPackManifest.bare,
        CapabilityPackManifest.unsigned, optionalPayload_cons])
  simp only [manifestContentDigest, canonicalUnsignedPayload_eq, List.foldl_cons, List.foldl_nil,
    digest, sbomDigest, uri, ref]

/-! ## What a payload determines -/

theorem loaded_budget (n : PyInt) : n.json.loaded = n.json := by
  cases n <;> simp [PyInt.json, Json.loaded]

/-- A function of the values of another gives equal lists on equal lists. -/
theorem map_eq_of_map_eq {α β γ : Type} {f : α → β} {g : α → γ}
    (determines : ∀ a b, f a = f b → g a = g b) :
    ∀ {l l' : List α}, l.map f = l'.map f → l.map g = l'.map g
  | [], [], _ => rfl
  | [], _ :: _, same => nomatch same
  | _ :: _, [], same => nomatch same
  | a :: l, b :: l', same => by
    obtain ⟨first, rest⟩ := List.cons.inj same
    rw [List.map_cons, List.map_cons, determines a b first, map_eq_of_map_eq determines rest]

theorem GoalTypeManifest.reread_eq_iff (g g' : GoalTypeManifest) :
    g.reread = g'.reread ↔ g.payload.loaded = g'.payload.loaded := by
  obtain ⟨goalType, schema, agent, suite, policy, budget⟩ := g
  obtain ⟨goalType', schema', agent', suite', policy', budget'⟩ := g'
  constructor
  · intro same
    simp only [reread, GoalTypeManifest.mk.injEq] at same
    obtain ⟨rfl, schemas, rfl, rfl, rfl, rfl⟩ := same
    simp [payload, Json.loaded, Json.loadedFields, schemas]
  · intro same
    have fields := Json.field?_of_loaded same (by simp) (by simp)
    have names := fields "goal_type"
    have schemas := fields "input_schema"
    have agents := fields "agent"
    have suites := fields "evaluation_suite"
    have policies := fields "default_policy"
    have budgets := fields "default_budget"
    simp only [Json.field?_cons, String.reduceEq, if_true, if_false, Option.map_some,
      Json.loaded_str, Option.some.injEq, Json.str.injEq, loaded_budget]
      at names schemas agents suites policies budgets
    have budget : budget = budget' := by
      cases budget <;> cases budget' <;> simp_all [PyInt.json]
    simp only [reread, names, schemas, agents, suites, policies, budget]

theorem PackDependency.payload_injective (d d' : PackDependency)
    (same : d.payload.loaded = d'.payload.loaded) : d = d' := by
  obtain ⟨packId, versionSpec⟩ := d
  obtain ⟨packId', versionSpec'⟩ := d'
  have fields := Json.field?_of_loaded same (by simp) (by simp)
  have packs := fields "pack_id"
  have specs := fields "version_spec"
  simp only [Json.field?_cons, String.reduceEq, if_true, if_false, Option.map_some,
    Json.loaded_str, Option.some.injEq, Json.str.injEq] at packs specs
  rw [packs, specs]

namespace CapabilityPackManifest

theorem nodup_keys (m : CapabilityPackManifest) :
    ((m.base ++ optionalPayload m.extra).map Prod.fst).Nodup := by
  have all : (m.base.map (·.1) ++ m.extra.map (·.1)).Nodup := by simp [base, extra]
  exact all.sublist m.keys_payload

section
variable {m m' : CapabilityPackManifest}
  (same : (manifestPayload m).loaded = (manifestPayload m').loaded)
include same

theorem fields_agree (key : String) : ((manifestPayload m).field? key).map Json.loaded =
    ((manifestPayload m').field? key).map Json.loaded :=
  Json.field?_of_loaded same (nodup_keys m) (nodup_keys m') key

variable {key : String}

theorem text_agree {a a' : String} (there : (manifestPayload m).field? key = some (.str a))
    (there' : (manifestPayload m').field? key = some (.str a')) : a = a' := by
  have value := fields_agree same key
  rw [there, there'] at value
  simpa using value

theorem optional_agree {a a' : Option String}
    (there : (manifestPayload m).field? key = a.map .str)
    (there' : (manifestPayload m').field? key = a'.map .str) : a = a' := by
  have value := fields_agree same key
  rw [there, there'] at value
  cases a <;> cases a' <;> simp_all

theorem items_agree {α : Type} {payload : α → Json} {items items' : List α}
    (there : (manifestPayload m).field? key = some (.arr (items.map payload)))
    (there' : (manifestPayload m').field? key = some (.arr (items'.map payload))) :
    items.map (fun item => (payload item).loaded) =
      items'.map fun item => (payload item).loaded := by
  have value := fields_agree same key
  rw [there, there'] at value
  simpa [Function.comp_def] using value

theorem names_agree {a a' : List String}
    (there : (manifestPayload m).field? key = some (.arr (a.map .str)))
    (there' : (manifestPayload m').field? key = some (.arr (a'.map .str))) : a = a' := by
  have strings : Function.Injective fun s => (Json.str s).loaded :=
    fun _ _ same => by simpa using same
  exact List.map_injective_iff.mpr strings (items_agree same there there')

theorem reread_of_loaded : m.reread = m'.reread := by
  have texts := m.text_fields
  have texts' := m'.text_fields
  have lists := m.list_fields
  have lists' := m'.list_fields
  have optionals := m.optional_fields
  have optionals' := m'.optional_fields
  simp only [extra, List.forall_mem_cons] at texts texts' lists lists' optionals optionals'
  have goals := map_eq_of_map_eq (fun g g' => (GoalTypeManifest.reread_eq_iff g g').mpr)
    (items_agree same m.goalTypes_field m'.goalTypes_field)
  have dependencies := List.map_injective_iff.mpr PackDependency.payload_injective
    (items_agree same m.dependencies_field m'.dependencies_field)
  obtain ⟨⟩ := m
  obtain ⟨⟩ := m'
  simp only [reread, mk.injEq]
  exact ⟨text_agree same texts.1 texts'.1, text_agree same texts.2.1 texts'.2.1,
    text_agree same texts.2.2.1 texts'.2.2.1, text_agree same texts.2.2.2.1 texts'.2.2.2.1, goals,
    names_agree same lists.1 lists'.1, names_agree same lists.2.1 lists'.2.1,
    names_agree same lists.2.2.1 lists'.2.2.1, names_agree same lists.2.2.2.1 lists'.2.2.2.1,
    optional_agree same optionals.1 optionals'.1, optional_agree same optionals.2.1 optionals'.2.1,
    optional_agree same optionals.2.2.1 optionals'.2.2.1,
    optional_agree same optionals.2.2.2.1 optionals'.2.2.2.1,
    optional_agree same optionals.2.2.2.2.1 optionals'.2.2.2.2.1,
    optional_agree same optionals.2.2.2.2.2.1 optionals'.2.2.2.2.2.1, dependencies⟩

end

theorem loaded_of_reread {m m' : CapabilityPackManifest} (same : m.reread = m'.reread) :
    (manifestPayload m).loaded = (manifestPayload m').loaded := by
  have goals : m.goalTypes.map (·.reread) = m'.goalTypes.map (·.reread) :=
    congrArg (·.goalTypes) same
  have payloads : m.goalTypes.map (·.payload.loaded) = m'.goalTypes.map (·.payload.loaded) :=
    map_eq_of_map_eq (fun g g' => (g.reread_eq_iff g').mp) goals
  obtain ⟨⟩ := m
  obtain ⟨⟩ := m'
  simp only [reread, mk.injEq] at same
  obtain ⟨rfl, rfl, rfl, rfl, -, rfl, rfl, rfl, rfl, rfl, rfl, rfl, rfl, rfl, rfl, rfl⟩ := same
  simp only [payload_eq, base, extra, Json.loaded, Json.loadedFields_eq, Json.loadedItems_eq,
    List.map_append, List.map_cons, List.map_map, Function.comp_def, payloads]

/-- Two payloads are dumped the same exactly when the manifests are equal as dictionaries
compare. -/
theorem dumps_payload_eq_iff (m m' : CapabilityPackManifest) :
    (manifestPayload m).dumps false = (manifestPayload m').dumps false ↔
      m.reread = m'.reread := by
  rw [Json.dumps_eq_iff]
  exact ⟨reread_of_loaded, loaded_of_reread⟩

end CapabilityPackManifest

theorem canonicalSignatureBytes_eq_iff (m m' : CapabilityPackManifest) :
    canonicalSignatureBytes m = canonicalSignatureBytes m' ↔
      m.unsigned.reread = m'.unsigned.reread := by
  simp only [canonicalSignatureBytes, canonicalUnsignedPayload_eq]
  rw [String.toUTF8_eq_toByteArray, String.toUTF8_eq_toByteArray, String.toByteArray_inj]
  exact CapabilityPackManifest.dumps_payload_eq_iff _ _

/-- Signing does not change what is signed. -/
theorem canonicalSignatureBytes_signed (m : CapabilityPackManifest) (signature : Option String) :
    canonicalSignatureBytes { m with signature } = canonicalSignatureBytes m :=
  (canonicalSignatureBytes_eq_iff _ _).mpr rfl

theorem manifestContentDigest_eq_iff [Sha256]
    (collisionFree : Function.Injective (Sha256.hexdigest : String → String))
    (m m' : CapabilityPackManifest) :
    manifestContentDigest m = manifestContentDigest m' ↔ m.bare.reread = m'.bare.reread := by
  rw [manifestContentDigest_eq, manifestContentDigest_eq, collisionFree.eq_iff]
  exact CapabilityPackManifest.dumps_payload_eq_iff _ _

/-- A parsed manifest is read back from its payload, its signature covers every field but itself,
and its content digest every field but those of the supply chain. -/
theorem manifest_lossless [Sha256]
    (collisionFree : Function.Injective (Sha256.hexdigest : String → String))
    (checkSchema : Json → Except Exc Unit) :
    (∀ fields m, parseManifest checkSchema fields = .ok m →
      ∃ payload, manifestPayload m = .obj payload ∧ parseManifest checkSchema payload = .ok m) ∧
    (∀ m m', canonicalSignatureBytes m = canonicalSignatureBytes m' ↔
      m.unsigned.reread = m'.unsigned.reread) ∧
    ∀ m m', manifestContentDigest m = manifestContentDigest m' ↔
      m.bare.reread = m'.bare.reread := by
  refine ⟨?_, canonicalSignatureBytes_eq_iff, manifestContentDigest_eq_iff collisionFree⟩
  intro fields m parsed
  obtain ⟨accepted, objects⟩ := parseManifest_ok parsed
  exact ⟨_, m.payload_eq, parseManifest_payload accepted objects⟩

namespace CapabilityPackManifest.Sample

def forecast : GoalTypeManifest where
  goalType := "forecast"
  inputSchema := .obj [("type", .str "object")]
  agent := "weather"
  evaluationSuite := "weather"
  defaultPolicy := "weather"
  defaultBudget := 10

def weather : CapabilityPackManifest where
  apiVersion := "autonoesis/v1alpha1"
  packId := "weather"
  version := "1.0.0"
  pythonEntryPoint := "weather:run"
  goalTypes := [forecast]
  skills := []
  tools := []
  policies := []
  evaluationSuites := []

/-- SHA-256 on the payload of the manifest, and a text of its own for every other. -/
def hexdigest (text : String) : String :=
  if text = (manifestPayload weather).dumps false
  then "40ed9b256a1ca92eade0651ca266bc5d0a0d842b438f2a16544e50bb02ce7bc4"
  else "~" ++ text

@[reducible] def sha256 : Sha256 := ⟨hexdigest⟩

attribute [local instance] sha256

theorem hexdigest_injective : Function.Injective hexdigest := by
  have other (text : String) :
      "~" ++ text ≠ "40ed9b256a1ca92eade0651ca266bc5d0a0d842b438f2a16544e50bb02ce7bc4" := by
    intro same
    have first := congrArg (·.toList.head?) same
    simp at first
  intro x y same
  unfold hexdigest at same
  split_ifs at same with left right right
  · rw [left, right]
  · exact absurd same.symm (other y)
  · exact absurd same (other x)
  · simpa using same

/-- The manifest with a signature. -/
def signed : CapabilityPackManifest :=
  { weather with signature := some (String.ofList (List.replicate 128 '0')) }

theorem signed_lossless :
    (∃ payload, manifestPayload signed = .obj payload ∧
      parseManifest (fun _ => .ok ()) payload = .ok signed) ∧
    canonicalSignatureBytes weather = canonicalSignatureBytes signed ∧
    manifestContentDigest weather = manifestContentDigest signed := by
  obtain ⟨reads, covers, digests⟩ := manifest_lossless hexdigest_injective fun _ => .ok ()
  have parsed : parseManifest (fun _ => .ok ()) (signed.base ++ optionalPayload signed.extra) =
      .ok signed :=
    parseManifest_payload (by decide +kernel)
      (List.forall_mem_singleton.mpr ⟨[("type", .str "object")], rfl⟩)
  exact ⟨reads _ _ parsed, (covers weather signed).mpr rfl, (digests weather signed).mpr rfl⟩

end CapabilityPackManifest.Sample

end Autonoesis
