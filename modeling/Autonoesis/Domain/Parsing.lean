import Autonoesis.Domain.Columns
import Autonoesis.Domain.Versions

/-!
# Parsing manifests

`parse_manifest` reads a dictionary with known keys, field by field. What it returns has passed the
checks of a manifest, and is what it returns again for the payload of that manifest.
-/

namespace Autonoesis
open Base

/-! ## Readers -/

/-- A text that a pattern accepts. -/
def matching (accepts : String → Bool) (e : Exc) : Json → Except Exc String
  | .str s => if accepts s then .ok s else .error e
  | _ => .error e

/-- `_require_identifier`. -/
def requireIdentifier (field : String) : Json → Except Exc String :=
  matching isIdentifier (manifestError (field ++ " must be a normalized identifier"))

/-- The items of a list, each of them read. -/
def listOf {α : Type} (e : Exc) (read : Json → Except Exc α) : Json → Except Exc (List α)
  | .arr items => items.mapM read
  | _ => .error e

/-- `_require_string_list`. -/
def parseStringList (field : String) (value : Json) : Except Exc (List String) := do
  let result ← listOf (manifestError (field ++ " must be a list")) (requireIdentifier field) value
  raiseIf (!decide result.Nodup) (manifestError (field ++ " must not contain duplicates"))
  return result

def dictionary (e : Exc) : Json → Except Exc Json
  | .obj fields => .ok (.obj fields)
  | _ => .error e

/-- The value if `isinstance(value, int)`. -/
def PyInt.ofJson : Json → Option PyInt
  | .int n => some (int n)
  | .bool b => some (bool b)
  | _ => none

def positive (e : Exc) (value : Json) : Except Exc PyInt :=
  match PyInt.ofJson value with
  | some n => if n.value ≤ 0 then .error e else .ok n
  | none => .error e

/-- The dictionary has all the required keys, and none that is not allowed. -/
def hasKeys (required allowed : List String) (fields : List (String × Json)) : Bool :=
  let keys := fields.map (·.1)
  keys.all (· ∈ allowed) && required.all (· ∈ keys)

/-! ## The parser -/

def goalTypeFields : List String :=
  ["goal_type", "input_schema", "agent", "evaluation_suite", "default_policy", "default_budget"]

def requiredFields : List String :=
  ["api_version", "pack_id", "version", "python_entry_point", "goal_types", "skills", "tools",
    "policies", "evaluation_suites"]

def optionalFields : List String :=
  ["evaluation_subject", "artifact_uri", "artifact_digest", "signature", "sbom_ref", "sbom_digest",
    "dependencies"]

def parseDependency : Json → Except Exc PackDependency
  | .obj fields =>
    match Json.field? "version_spec" (.obj fields) with
    | some (.str versionSpec) => do
      let packId ← requireIdentifier "dependencies.pack_id"
        ((Json.field? "pack_id" (.obj fields)).getD .null)
      let dependency : PackDependency := ⟨packId, versionSpec⟩
      dependency.check
      return dependency
    | _ => .error (manifestError "dependency entries must be objects")
  | _ => .error (manifestError "dependency entries must be objects")

section
variable (checkSchema : Json → Except Exc Unit)

def parseGoalType : Json → Except Exc GoalTypeManifest
  | .obj fields => do
    let item := Json.obj fields
    raiseIf (!hasKeys goalTypeFields goalTypeFields fields)
      (manifestError "goal type fields are incomplete or unknown")
    let inputSchema ← item.at_ "input_schema"
      (dictionary (manifestError "input_schema must be an object"))
    checkSchema inputSchema
    let defaultBudget ← item.at_ "default_budget"
      (positive (manifestError "default_budget must be a positive integer"))
    let goalType ← item.at_ "goal_type" (requireIdentifier "goal_type")
    let agent ← item.at_ "agent" (requireIdentifier "agent")
    let evaluationSuite ← item.at_ "evaluation_suite" (requireIdentifier "evaluation_suite")
    let defaultPolicy ← item.at_ "default_policy" (requireIdentifier "default_policy")
    return { goalType, inputSchema, agent, evaluationSuite, defaultPolicy, defaultBudget }
  | _ => .error (manifestError "goal type entry must be an object")

/-- `parse_manifest`; `checkSchema` is `Draft202012Validator.check_schema`. -/
def parseManifest (fields : List (String × Json)) : Except Exc CapabilityPackManifest := do
  let raw := Json.obj fields
  raiseIf (!hasKeys requiredFields (requiredFields ++ optionalFields) fields)
    (manifestError ("manifest fields must be a subset of: ['api_version', 'artifact_digest', " ++
      "'artifact_uri', 'dependencies', 'evaluation_subject', 'evaluation_suites', 'goal_types', " ++
      "'pack_id', 'policies', 'python_entry_point', 'sbom_digest', 'sbom_ref', 'signature', " ++
      "'skills', 'tools', 'version']"))
  let apiVersion ← raw.at_ "api_version" (matching (· = "autonoesis/v1alpha1")
    (manifestError "unsupported capability manifest api_version"))
  let version ← raw.at_ "version" (matching isSemver
    (manifestError "version must use semantic versioning"))
  let pythonEntryPoint ← raw.at_ "python_entry_point" (matching isEntryPoint
    (manifestError "python_entry_point must be module:function"))
  let packId ← raw.at_ "pack_id" (requireIdentifier "pack_id")
  let root := String.ofList (packId.toList.map fun c => if c = '-' then '_' else c)
  raiseIf (moduleRoot pythonEntryPoint ≠ root)
    (manifestError "python_entry_point must be owned by the capability pack module")
  let evaluationSubject ← raw.get? "evaluation_subject" (matching isEntryPoint
    (manifestError "evaluation_subject must be module:function"))
  raiseIf (evaluationSubject.any (moduleRoot · ≠ root))
    (manifestError "evaluation_subject must be owned by the capability pack module")
  let artifactUri ← raw.get? "artifact_uri" (matching isArtifactUri
    (manifestError "artifact_uri must be a bounded URI with an explicit scheme"))
  let artifactDigest ← raw.get? "artifact_digest" (matching isSha256Hex
    (manifestError "artifact_digest must be a lowercase sha256 hex digest"))
  let signature ← raw.get? "signature" (matching isSignatureHex
    (manifestError "signature must be a lowercase hex ed25519 signature"))
  let sbomRef ← raw.get? "sbom_ref" (matching isArtifactUri
    (manifestError "sbom_ref must be a bounded URI with an explicit scheme"))
  let sbomDigest ← raw.get? "sbom_digest" (matching isSha256Hex
    (manifestError "sbom_digest must be a lowercase sha256 hex digest"))
  let dependencies ← raw.getD "dependencies" []
    (listOf (manifestError "dependencies must be a list") parseDependency)
  raiseIf (!decide (dependencies.map (·.packId)).Nodup)
    (manifestError "dependencies must be unique per pack")
  let goalTypes ← raw.at_ "goal_types"
    (listOf (manifestError "goal_types must be a non-empty list") (parseGoalType checkSchema))
  raiseIf goalTypes.isEmpty (manifestError "goal_types must be a non-empty list")
  raiseIf (!decide (goalTypes.map (·.goalType)).Nodup) (manifestError "goal types must be unique")
  let skills ← raw.at_ "skills" (parseStringList "skills")
  let tools ← raw.at_ "tools" (parseStringList "tools")
  let policies ← raw.at_ "policies" (parseStringList "policies")
  let evaluationSuites ← raw.at_ "evaluation_suites" (parseStringList "evaluation_suites")
  return {
    apiVersion, packId, version, pythonEntryPoint, goalTypes, skills, tools, policies,
    evaluationSuites, evaluationSubject, artifactUri, artifactDigest, signature, sbomRef,
    sbomDigest, dependencies }

end

/-! ## What the readers accept -/

theorem matching_eq_ok {accepts : String → Bool} {e : Exc} {v : Json} {s : String} :
    matching accepts e v = .ok s ↔ v = .str s ∧ accepts s = true := by
  cases v with
  | str text =>
    rw [matching]
    split_ifs with accepted
    · constructor
      · rintro ⟨⟩
        exact ⟨rfl, accepted⟩
      · rintro ⟨⟨⟩, _⟩
        rfl
    · constructor
      · rintro ⟨⟩
      · rintro ⟨⟨⟩, other⟩
        exact absurd other accepted
  | _ => simp [matching]

theorem at_eq_ok {α : Type} {key : String} {read : Json → Except Exc α} {raw : Json} {a : α} :
    raw.at_ key read = .ok a ↔ ∃ v, raw.field? key = some v ∧ read v = .ok a := by
  unfold Json.at_
  cases raw.field? key with
  | none => simp
  | some v => simp

theorem at_matching {key : String} {accepts : String → Bool} {e : Exc} {raw : Json} {s : String}
    (read : raw.at_ key (matching accepts e) = .ok s) : accepts s = true := by
  obtain ⟨_, _, accepted⟩ := at_eq_ok.mp read
  exact (matching_eq_ok.mp accepted).2

theorem asOption_some {α : Type} {read : Json → Except Exc α} {v : Json} {a : α}
    (there : Json.asOption read v = .ok (some a)) : read v = .ok a := by
  unfold Json.asOption at there
  split at there
  · cases there
  · cases result : read v with
    | ok b =>
      rw [result] at there
      cases there
      rfl
    | error e =>
      rw [result] at there
      cases there

theorem get?_matching {key : String} {accepts : String → Bool} {e : Exc} {raw : Json}
    {value : Option String} (read : raw.get? key (matching accepts e) = .ok value) :
    value.any (!accepts ·) = false := by
  cases value with
  | none => rfl
  | some s =>
    unfold Json.get? Json.getD at read
    split at read
    · rw [Option.any_some, (matching_eq_ok.mp (asOption_some read)).2]
      rfl
    · cases read

theorem mem_of_listOf {α : Type} {e : Exc} {read : Json → Except Exc α} {v : Json} {out : List α}
    (listed : listOf e read v = .ok out) : ∀ a ∈ out, ∃ item, read item = .ok a := by
  cases v with
  | arr items =>
    rw [listOf] at listed
    induction items generalizing out with
    | nil =>
      cases listed
      exact fun _ there => absurd there List.not_mem_nil
    | cons item rest ih =>
      rw [List.mapM_cons] at listed
      simp only [bind_eq_ok] at listed
      obtain ⟨a, first, later, others, made⟩ := listed
      cases made
      exact List.forall_mem_cons.mpr ⟨⟨item, first⟩, ih others⟩
  | _ => cases listed

theorem parseStringList_ok {field : String} {v : Json} {result : List String}
    (parsed : parseStringList field v = .ok result) : requireStringList result field = .ok () := by
  simp only [parseStringList, bind_eq_ok, raiseIf_eq_ok] at parsed
  obtain ⟨result', listed, _, distinct, same⟩ := parsed
  cases same
  simp only [requireStringList, checks_cons, checks_nil, and_true]
  refine ⟨?_, distinct⟩
  rw [List.any_eq_false]
  intro s there
  obtain ⟨item, read⟩ := mem_of_listOf listed s there
  simp [(matching_eq_ok.mp read).2]

theorem parseDependency_ok {v : Json} {d : PackDependency} (parsed : parseDependency v = .ok d) :
    d.check = .ok () := by
  cases v with
  | obj fields =>
    simp only [parseDependency] at parsed
    split at parsed
    · simp only [bind_eq_ok] at parsed
      obtain ⟨packId, _, _, checked, same⟩ := parsed
      cases same
      exact checked
    · cases parsed
  | _ => cases parsed

section
variable {checkSchema : Json → Except Exc Unit}

theorem parseGoalType_ok {v : Json} {g : GoalTypeManifest}
    (parsed : parseGoalType checkSchema v = .ok g) :
    g.check checkSchema = .ok () ∧ ∃ schema, g.inputSchema = .obj schema := by
  cases v with
  | obj fields =>
    simp only [parseGoalType, bind_eq_ok] at parsed
    obtain ⟨_, _, schema, read, _, valid, budget, some, goalType, first, agent, second, suite, third,
      policy, fourth, same⟩ := parsed
    cases same
    have object : ∃ fields, schema = .obj fields := by
      obtain ⟨v, _, read⟩ := at_eq_ok.mp read
      cases v with
      | obj fields =>
        cases read
        exact ⟨fields, rfl⟩
      | _ => cases read
    have above : ¬budget.value ≤ 0 := by
      obtain ⟨v, _, read⟩ := at_eq_ok.mp some
      unfold positive at read
      split at read
      · split_ifs at read with low
        cases read
        exact low
      · cases read
    refine ⟨?_, object⟩
    simp only [GoalTypeManifest.check, bind_eq_ok, checks_cons, checks_nil]
    exact ⟨(), valid, by simpa using above, by simp [at_matching first], by simp [at_matching second],
      by simp [at_matching third], by simp [at_matching fourth], trivial⟩
  | _ => cases parsed

/-- What the parser returns, the checks of a manifest accept. -/
theorem parseManifest_ok {fields : List (String × Json)} {m : CapabilityPackManifest}
    (parsed : parseManifest checkSchema fields = .ok m) :
    m.check checkSchema = .ok () ∧
      ∀ g ∈ m.goalTypes, ∃ schema, g.inputSchema = .obj schema := by
  simp only [parseManifest, bind_eq_ok, raiseIf_eq_ok] at parsed
  obtain ⟨_, _, apiVersion, api, version, semver, entry, point, packId, identifier, _, owned, subject,
    subjects, _, ownSubject, uri, uris, digest, digests, signature, signatures, sbom, sboms,
    sbomDigest, sbomDigests, dependencies, depends, _, unique, goalTypes, goals, _, some, _, distinct,
    skills, skilled, tools, tooled, policies, policed, suites, suited, same⟩ := parsed
  cases same
  obtain ⟨_, _, goals⟩ := at_eq_ok.mp goals
  have dependency : ∀ d ∈ dependencies, d.check = .ok () := by
    unfold Json.getD at depends
    split at depends
    · intro d there
      obtain ⟨_, read⟩ := mem_of_listOf depends d there
      exact parseDependency_ok read
    · cases depends
      exact fun _ there => absurd there List.not_mem_nil
  have goal : ∀ g ∈ goalTypes, g.check checkSchema = .ok () ∧
      ∃ schema, g.inputSchema = .obj schema := by
    intro g there
    obtain ⟨_, read⟩ := mem_of_listOf goals g there
    exact parseGoalType_ok read
  have names : ∀ {field : String} {value : List String},
      (Json.obj fields).at_ field (parseStringList field) = .ok value →
      requireStringList value field = .ok () := by
    intro field value read
    obtain ⟨_, _, read⟩ := at_eq_ok.mp read
    exact parseStringList_ok read
  refine ⟨?_, fun g there => (goal g there).2⟩
  simp only [CapabilityPackManifest.check, bind_eq_ok, checks_cons, checks_nil, forM_eq_ok]
  refine ⟨(), ⟨?_, ?_, ?_, ?_, owned, get?_matching subjects, ownSubject, get?_matching uris,
    get?_matching digests, get?_matching signatures, get?_matching sboms, get?_matching sbomDigests,
    trivial⟩, (), dependency, (), ⟨unique, some, trivial⟩, (), fun g there => (goal g there).1, (),
    ⟨distinct, trivial⟩, (), names skilled, (), names tooled, (), names policed, names suited⟩
  · simpa using at_matching api
  · simp [at_matching semver]
  · simp [at_matching point]
  · simp [at_matching identifier]

end

/-! ## Reading a payload -/

theorem at_text {key : String} {accepts : String → Bool} {e : Exc} {raw : Json} {s : String}
    (there : raw.field? key = some (.str s)) (accepted : accepts s = true) :
    raw.at_ key (matching accepts e) = .ok s :=
  at_eq_ok.mpr ⟨_, there, matching_eq_ok.mpr ⟨rfl, accepted⟩⟩

theorem get?_text {key : String} {accepts : String → Bool} {e : Exc} {raw : Json}
    {value : Option String} (there : raw.field? key = value.map .str)
    (accepted : value.any (!accepts ·) = false) :
    raw.get? key (matching accepts e) = .ok value := by
  unfold Json.get? Json.getD
  rw [there]
  cases value with
  | none => rfl
  | some s =>
    have pattern : accepts s = true := by simpa using accepted
    simp [Json.asOption, matching, pattern, Functor.map, Except.map]

theorem listOf_map {α : Type} {e : Exc} {read : Json → Except Exc α} {write : α → Json}
    {items : List α} (back : ∀ a ∈ items, read (write a) = .ok a) :
    listOf e read (.arr (items.map write)) = .ok items := by
  have all := Json.mapM_map (f := id) back
  rwa [List.map_id] at all

theorem parseStringList_map {field : String} {names : List String}
    (accepted : requireStringList names field = .ok ()) :
    parseStringList field (.arr (names.map .str)) = .ok names := by
  simp only [requireStringList, checks_cons, checks_nil, and_true, List.any_eq_false,
    Bool.not_eq_true, Bool.not_eq_false'] at accepted
  simp only [parseStringList, bind_eq_ok, raiseIf_eq_ok]
  refine ⟨names, listOf_map fun s there => ?_, (), by simpa using accepted.2, rfl⟩
  exact matching_eq_ok.mpr ⟨rfl, accepted.1 s there⟩

def PackDependency.payload (d : PackDependency) : Json :=
  .obj [("pack_id", .str d.packId), ("version_spec", .str d.versionSpec)]

theorem parseDependency_payload {d : PackDependency} (accepted : d.check = .ok ()) :
    parseDependency d.payload = .ok d := by
  have identifier : isIdentifier d.packId = true := by
    simp only [PackDependency.check, checks_cons] at accepted
    simpa using accepted.1
  simp [PackDependency.payload, parseDependency, requireIdentifier, matching, identifier, accepted]

section
variable {checkSchema : Json → Except Exc Unit}

theorem parseGoalType_payload {g : GoalTypeManifest} (accepted : g.check checkSchema = .ok ())
    (object : ∃ schema, g.inputSchema = .obj schema) :
    parseGoalType checkSchema g.payload = .ok g := by
  obtain ⟨goalType, inputSchema, agent, suite, policy, budget⟩ := g
  obtain ⟨schema, rfl⟩ := object
  simp only [GoalTypeManifest.check, bind_eq_ok, checks_cons, checks_nil, and_true,
    Bool.not_eq_false', decide_eq_false_iff_not] at accepted
  obtain ⟨_, valid, some, first, second, third, fourth⟩ := accepted
  simp only [GoalTypeManifest.payload, parseGoalType, bind_eq_ok, raiseIf_eq_ok]
  refine ⟨(), ?_, .obj schema, ?_, (), valid, budget, ?_, goalType, at_text ?_ first,
    agent, at_text ?_ second, suite, at_text ?_ third, policy, at_text ?_ fourth, rfl⟩
  · simp [hasKeys, goalTypeFields]
  · exact at_eq_ok.mpr ⟨.obj schema, by simp, rfl⟩
  · refine at_eq_ok.mpr ⟨budget.json, by simp, ?_⟩
    have back : PyInt.ofJson budget.json = .some budget := by cases budget <;> rfl
    simp [positive, back, some]
  · simp
  · simp
  · simp
  · simp

end

/-- The optional fields of a payload. -/
def optionalPayload (entries : List (String × Option String)) : List (String × Json) :=
  entries.filterMap fun (name, value) => value.map fun v => (name, .str v)

theorem field?_optionalPayload (key name : String) (value : Option String)
    (rest : List (String × Option String)) :
    Json.field? key (.obj (optionalPayload ((name, value) :: rest))) =
      if key = name then (value.map .str).or (Json.field? key (.obj (optionalPayload rest)))
      else Json.field? key (.obj (optionalPayload rest)) := by
  cases value with
  | none => simp [optionalPayload]
  | some s =>
    have first : optionalPayload ((name, some s) :: rest) =
        (name, .str s) :: optionalPayload rest := rfl
    rw [first, Json.field?_cons, Option.map_some, Option.some_or]

@[simp] theorem optionalPayload_nil : optionalPayload [] = [] := rfl

theorem keys_optionalPayload (entries : List (String × Option String)) :
    ((optionalPayload entries).map (·.1)).Sublist (entries.map (·.1)) := by
  induction entries with
  | nil => exact List.Sublist.slnil
  | cons entry rest ih =>
    obtain ⟨name, value⟩ := entry
    cases value with
    | none => exact ih.cons _
    | some s => exact ih.cons_cons _

theorem field?_append (key : String) (fields fields' : List (String × Json)) :
    Json.field? key (.obj (fields ++ fields')) =
      (Json.field? key (.obj fields)).or (Json.field? key (.obj fields')) := by
  induction fields with
  | nil => rfl
  | cons f rest ih =>
    rw [List.cons_append, Json.field?_cons, Json.field?_cons, ih]
    split_ifs <;> rfl

namespace CapabilityPackManifest
variable (m : CapabilityPackManifest)

/-- The fields every payload has. -/
def base : List (String × Json) := [
  ("api_version", .str m.apiVersion), ("pack_id", .str m.packId), ("version", .str m.version),
  ("python_entry_point", .str m.pythonEntryPoint),
  ("goal_types", .arr (m.goalTypes.map (·.payload))),
  ("skills", .arr (m.skills.map .str)), ("tools", .arr (m.tools.map .str)),
  ("policies", .arr (m.policies.map .str)),
  ("evaluation_suites", .arr (m.evaluationSuites.map .str)),
  ("dependencies", .arr (m.dependencies.map (·.payload)))]

def extra : List (String × Option String) := [
  ("evaluation_subject", m.evaluationSubject), ("artifact_uri", m.artifactUri),
  ("artifact_digest", m.artifactDigest), ("signature", m.signature),
  ("sbom_ref", m.sbomRef), ("sbom_digest", m.sbomDigest)]

theorem payload_eq : manifestPayload m = .obj (m.base ++ optionalPayload m.extra) := rfl

theorem keys_payload :
    ((m.base ++ optionalPayload m.extra).map (·.1)).Sublist
      (m.base.map (·.1) ++ m.extra.map (·.1)) := by
  rw [List.map_append]
  exact (keys_optionalPayload m.extra).append_left _

/-- A field of the payload. -/
theorem field?_payload (key : String) : (manifestPayload m).field? key =
    (Json.field? key (.obj m.base)).or (Json.field? key (.obj (optionalPayload m.extra))) := by
  rw [payload_eq, field?_append]

/-- The four texts, the four lists of names, and what may be absent. -/
theorem text_fields : ∀ entry ∈ [("api_version", m.apiVersion), ("pack_id", m.packId),
    ("version", m.version), ("python_entry_point", m.pythonEntryPoint)],
    (manifestPayload m).field? entry.1 = some (.str entry.2) := by
  simp [field?_payload, base]

theorem list_fields : ∀ entry ∈ [("skills", m.skills), ("tools", m.tools),
    ("policies", m.policies), ("evaluation_suites", m.evaluationSuites)],
    (manifestPayload m).field? entry.1 = some (.arr (entry.2.map .str)) := by
  simp [field?_payload, base]

theorem optional_fields : ∀ entry ∈ m.extra,
    (manifestPayload m).field? entry.1 = entry.2.map .str := by
  simp [field?_payload, base, extra, field?_optionalPayload]

theorem goalTypes_field : (manifestPayload m).field? "goal_types" =
    some (.arr (m.goalTypes.map (·.payload))) := by
  simp [field?_payload, base]

theorem dependencies_field : (manifestPayload m).field? "dependencies" =
    some (.arr (m.dependencies.map (·.payload))) := by
  simp [field?_payload, base]

theorem hasKeys_payload : hasKeys requiredFields (requiredFields ++ optionalFields)
    (m.base ++ optionalPayload m.extra) = true := by
  rw [hasKeys, Bool.and_eq_true, List.all_eq_true, List.all_eq_true]
  constructor
  · intro key there
    have listed := (keys_payload m).subset there
    have known : ∀ key ∈ m.base.map (·.1) ++ m.extra.map (·.1),
        key ∈ requiredFields ++ optionalFields := by
      simp [base, extra, requiredFields, optionalFields]
    exact decide_eq_true (known key listed)
  · intro key there
    have based : ∀ key ∈ requiredFields, key ∈ m.base.map (·.1) := by
      simp [base, requiredFields]
    apply decide_eq_true
    rw [List.map_append]
    exact List.mem_append_left _ (based key there)

end CapabilityPackManifest

section
variable {checkSchema : Json → Except Exc Unit}

/-- The parser reads a manifest back from its payload. -/
theorem parseManifest_payload {m : CapabilityPackManifest} (accepted : m.check checkSchema = .ok ())
    (objects : ∀ g ∈ m.goalTypes, ∃ schema, g.inputSchema = .obj schema) :
    parseManifest checkSchema (m.base ++ optionalPayload m.extra) = .ok m := by
  simp only [CapabilityPackManifest.check, bind_eq_ok, checks_cons, checks_nil, and_true,
    forM_eq_ok, Bool.not_eq_false', decide_eq_false_iff_not, not_not] at accepted
  obtain ⟨_, ⟨api, semver, point, identifier, owned, subject, ownSubject, uri, digest, signature,
    sbom, sbomDigest⟩, _, dependencies, _, ⟨unique, nonempty⟩, _, goals, _, distinct, _, skills, _, tools,
    _, policies, suites⟩ := accepted
  have depends {e : Exc} : (manifestPayload m).getD "dependencies" [] (listOf e parseDependency) =
      .ok m.dependencies := by
    rw [Json.getD, m.dependencies_field]
    exact listOf_map fun d there => parseDependency_payload (dependencies d there)
  have goalTypes {e : Exc} : (manifestPayload m).at_ "goal_types"
      (listOf e (parseGoalType checkSchema)) = .ok m.goalTypes := by
    apply at_eq_ok.mpr ⟨_, m.goalTypes_field, _⟩
    exact listOf_map fun g there => parseGoalType_payload (goals g there) (objects g there)
  have names {field : String} {value : List String}
      (there : (manifestPayload m).field? field = some (.arr (value.map .str)))
      (accepted : requireStringList value field = .ok ()) :
      (manifestPayload m).at_ field (parseStringList field) = .ok value :=
    at_eq_ok.mpr ⟨_, there, parseStringList_map accepted⟩
  simp only [parseManifest, bind_eq_ok, raiseIf_eq_ok, ← CapabilityPackManifest.payload_eq]
  have texts := m.text_fields
  have optionals := m.optional_fields
  have lists := m.list_fields
  simp only [CapabilityPackManifest.extra, List.forall_mem_cons] at texts optionals lists
  refine ⟨(), by simp [m.hasKeys_payload], m.apiVersion, at_text texts.1 (by simpa using api),
    m.version, at_text texts.2.2.1 semver, m.pythonEntryPoint, at_text texts.2.2.2.1 point,
    m.packId, at_text texts.2.1 identifier, (), by simpa using owned,
    m.evaluationSubject, get?_text optionals.1 subject, (), ownSubject,
    m.artifactUri, get?_text optionals.2.1 uri, m.artifactDigest, get?_text optionals.2.2.1 digest,
    m.signature, get?_text optionals.2.2.2.1 signature,
    m.sbomRef, get?_text optionals.2.2.2.2.1 sbom,
    m.sbomDigest, get?_text optionals.2.2.2.2.2.1 sbomDigest,
    m.dependencies, depends, (), by simpa using unique,
    m.goalTypes, goalTypes, (), nonempty, (), by simpa using distinct,
    m.skills, names lists.1 skills, m.tools, names lists.2.1 tools,
    m.policies, names lists.2.2.1 policies, m.evaluationSuites, names lists.2.2.2.1 suites, rfl⟩

end

end Autonoesis
