import Autonoesis.Domain.Values

/-! Capability pack manifests, and the payload that tells two of them apart. -/

namespace Autonoesis
open Base

/-- What `isinstance(value, int)` accepts: a truth value counts as zero or one. -/
inductive PyInt where
  | int (n : Int)
  | bool (b : Bool)
  deriving DecidableEq

namespace PyInt

def value : PyInt → Int
  | int n => n
  | bool b => if b then 1 else 0

def json : PyInt → Json
  | int n => .int n
  | bool b => .bool b

instance (n : Nat) : OfNat PyInt n := ⟨int n⟩

end PyInt

structure GoalTypeManifest where
  goalType : String
  inputSchema : Json
  agent : String
  evaluationSuite : String
  defaultPolicy : String
  defaultBudget : PyInt

structure PackDependency where
  packId : String
  versionSpec : String

structure CapabilityPackManifest where
  apiVersion : String
  packId : String
  version : String
  pythonEntryPoint : String
  goalTypes : List GoalTypeManifest
  skills : List String
  tools : List String
  policies : List String
  evaluationSuites : List String
  evaluationSubject : Option String := none
  artifactUri : Option String := none
  artifactDigest : Option String := none
  signature : Option String := none
  sbomRef : Option String := none
  sbomDigest : Option String := none
  dependencies : List PackDependency := []

def GoalTypeManifest.payload (g : GoalTypeManifest) : Json :=
  .obj [("goal_type", .str g.goalType), ("input_schema", g.inputSchema), ("agent", .str g.agent),
    ("evaluation_suite", .str g.evaluationSuite), ("default_policy", .str g.defaultPolicy),
    ("default_budget", g.defaultBudget.json)]

/-- `manifest_payload`; an optional field that is absent is left out. -/
def manifestPayload (m : CapabilityPackManifest) : Json :=
  .obj ([
    ("api_version", .str m.apiVersion), ("pack_id", .str m.packId), ("version", .str m.version),
    ("python_entry_point", .str m.pythonEntryPoint),
    ("goal_types", .arr (m.goalTypes.map (·.payload))),
    ("skills", .arr (m.skills.map .str)), ("tools", .arr (m.tools.map .str)),
    ("policies", .arr (m.policies.map .str)),
    ("evaluation_suites", .arr (m.evaluationSuites.map .str)),
    ("dependencies", .arr (m.dependencies.map fun d =>
      .obj [("pack_id", .str d.packId), ("version_spec", .str d.versionSpec)]))] ++
    [("evaluation_subject", m.evaluationSubject), ("artifact_uri", m.artifactUri),
      ("artifact_digest", m.artifactDigest), ("signature", m.signature),
      ("sbom_ref", m.sbomRef), ("sbom_digest", m.sbomDigest)].filterMap
        fun (name, value) => value.map fun v => (name, .str v))

end Autonoesis
