import Mathlib.Data.List.Infix
import Autonoesis.Base.Dict
import Autonoesis.Domain.Context

/-!
# What a run may see

Freshness, access and trust of environment facts, knowledge references and memory records. One
check of access serves the three: what a record does not have it reads as unrestricted. Trust and
conflicts are found in what `json.dumps` writes of a fact, which it may refuse.
-/

namespace Autonoesis.Context
open Base

def seconds (n : Int) : Int := n * 1000000

/-- The ages are in microseconds, as instants are. -/
structure FreshnessCheck where
  passed : Bool
  age : Int
  maxAge : Int
  policy : FreshnessPolicy := .strict
  warning : Bool := false

namespace FreshnessGuard

def checkFact (now : Instant) (fact : EnvironmentFact) (maxAge : Int := seconds 300)
    (policy : Option FreshnessPolicy := none) : FreshnessCheck :=
  let effective := policy.getD fact.freshnessPolicy
  let age := now - fact.observedAt
  let stale : Bool := fact.validUntil < now || maxAge < age
  { passed := !stale || effective ≠ .strict
    age
    maxAge
    policy := effective
    warning := stale && effective = .warn }

def checkMemory (now : Instant) (record : MemoryRecord) (maxAge : Int := seconds 3600) :
    FreshnessCheck :=
  let age := now - record.createdAt
  { passed := record.status = .stable && now < record.expiresAt && age ≤ maxAge
    age
    maxAge }

/-- Only a strict policy keeps a stale fact out. -/
theorem checkFact_passed (now : Instant) (fact : EnvironmentFact) :
    (checkFact now fact).passed = true ↔ (fact.freshnessPolicy = .strict →
      now ≤ fact.validUntil ∧ now - fact.observedAt ≤ seconds 300) := by
  by_cases strict : fact.freshnessPolicy = .strict
  · simp [checkFact, strict]
  · simp [checkFact, strict]

end FreshnessGuard

inductive AccessLevel where
  | read | use | none

structure ACLCheck where
  allowed : Bool
  level : AccessLevel := .none
  reason : String := ""

def classificationRank : DataClassification → Nat
  | .pub => 0
  | .internal => 1
  | .confidential => 2
  | .restricted => 3

/-- What `check_access` is given. -/
inductive ContextItem where
  | fact (f : EnvironmentFact)
  | ref (r : KnowledgeRef)
  | memory (m : MemoryRecord)

namespace ContextItem

def tenantId : ContextItem → Uuid
  | fact f => f.tenantId
  | ref r => r.tenantId
  | memory m => m.tenantId

def classification : ContextItem → DataClassification
  | fact f => f.classification
  | ref r => r.classification
  | memory m => m.classification

/-- `getattr(item, "allowed_roles", frozenset())`. -/
def allowedRoles : ContextItem → Finset String
  | fact f => f.allowedRoles
  | ref r => r.allowedRoles
  | memory _ => ∅

/-- `getattr(item, "allowed_purposes", frozenset())`; a memory record has a `purpose` instead. -/
def allowedPurposes : ContextItem → Finset String
  | fact f => f.allowedPurposes
  | ref r => r.allowedPurposes
  | memory _ => ∅

/-- `trust`, or the `source_trust` of a record that has none. -/
def trust : ContextItem → TrustLevel
  | fact f => f.trust
  | ref r => r.trust
  | memory m => m.sourceTrust

def subjectDenied (allowedSubjects : Finset String) : ContextItem → Bool
  | fact f => allowedSubjects ≠ ∅ && f.subject ∉ allowedSubjects
  | _ => false

def lowConfidence : ContextItem → Bool
  | memory m => m.confidence < 1 / 2
  | _ => false

end ContextItem

/-- `ContextACL.check_access`. -/
def checkAccess (item : ContextItem) (tenantId : Uuid) (roles : Finset String)
    (purpose : String := "run_context") (maximumClassification : DataClassification := .internal)
    (allowedSubjects : Finset String := ∅) : ACLCheck :=
  if item.tenantId ≠ tenantId then { allowed := false, reason := "tenant boundary denied" }
  else if classificationRank maximumClassification < classificationRank item.classification then
    { allowed := false, reason := "classification clearance denied" }
  else if item.allowedRoles ≠ ∅ ∧ roles ∩ item.allowedRoles = ∅ then
    { allowed := false, reason := "role ACL denied" }
  else if item.allowedPurposes ≠ ∅ ∧ purpose ∉ item.allowedPurposes then
    { allowed := false, reason := "purpose ACL denied" }
  else if item.subjectDenied allowedSubjects then
    { allowed := false, reason := "row subject ACL denied" }
  else if item.trust = .untrusted then
    { allowed := true, level := .read, reason := "untrusted content is data only" }
  else if item.lowConfidence then
    { allowed := true, level := .read, reason := "low-confidence memory is data only" }
  else { allowed := true, level := .use, reason := "full access" }

/-- Trust and confidence set the level of an access, never whether there is one. -/
theorem checkAccess_allowed (item : ContextItem) (tenantId : Uuid) (roles : Finset String)
    (purpose : String) (maximumClassification : DataClassification)
    (allowedSubjects : Finset String) :
    (checkAccess item tenantId roles purpose maximumClassification allowedSubjects).allowed = true ↔
      item.tenantId = tenantId ∧
      classificationRank item.classification ≤ classificationRank maximumClassification ∧
      (item.allowedRoles = ∅ ∨ (roles ∩ item.allowedRoles).Nonempty) ∧
      (item.allowedPurposes = ∅ ∨ purpose ∈ item.allowedPurposes) ∧
      item.subjectDenied allowedSubjects = false := by
  unfold checkAccess
  split_ifs with tenant rank role aim subject
  · simp [tenant]
  · simp only [false_iff, not_and]
    intro _ within
    omega
  · simp [role]
  · simp [aim]
  · simp [subject]
  all_goals
    simp only [true_iff]
    refine ⟨not_not.mp tenant, not_lt.mp rank, ?_, ?_, by simpa using subject⟩
    · rw [Finset.nonempty_iff_ne_empty]
      tauto
    · tauto

/-- The loop of `ConflictDetector.detect`: the last value of each key, and the conflicts. -/
def compareFact (found : Dict (String × String) String × Finset String) (fact : EnvironmentFact) :
    Except Exc (Dict (String × String) String × Finset String) := do
  let key := (fact.subject, fact.factId)
  let value ← jsonDumps "," ":" (.record fact.value)
  let clash : Bool := (found.1.get? key).any (· ≠ value)
  return (found.1.set key value,
    if clash then insert ("environment:" ++ fact.subject ++ ":" ++ fact.factId) found.2
    else found.2)

/-! The order `sorted` puts texts in. -/

theorem texts_trans : IsTrans String fun a b => a ≤ b := inferInstance
theorem texts_antisymm : Std.Antisymm fun a b : String => a ≤ b := inferInstance
theorem texts_total : Std.Total fun a b : String => a ≤ b := inferInstance

attribute [local instance] texts_trans texts_antisymm texts_total in
/-- `ConflictDetector.detect`. -/
def detect (facts : List EnvironmentFact) : Except Exc (List String) := do
  let (_, conflicts) ← facts.foldlM compareFact (.empty, ∅)
  return conflicts.sort (· ≤ ·)

def injectionMarkers : List String :=
  ["ignore previous", "ignore all previous", "system prompt", "developer message", "execute tool"]

/-- A marker stands in the dumped value, in whatever case. -/
def hasInjectionMarker (fact : EnvironmentFact) : Except Exc Bool := do
  let value := (← jsonDumps ", " ": " (.record fact.value)).toList.map Char.toLower
  return injectionMarkers.any fun marker => decide (marker.toList <:+: value)

/-- `replace` runs the constructor again, which does not read the trust. -/
def markPromptInjection (fact : EnvironmentFact) : Except Exc EnvironmentFact := do
  if ← hasInjectionMarker fact then return { fact with trust := .untrusted }
  return fact

/-- The fact with the trust that its value leaves it. -/
def marked (fact : EnvironmentFact) : EnvironmentFact :=
  if hasInjectionMarker fact = .ok true then { fact with trust := .untrusted } else fact

theorem markPromptInjection_marked {fact : EnvironmentFact} (written : fact.Serializable) :
    markPromptInjection fact = .ok (marked fact) := by
  obtain ⟨text, dumped⟩ := jsonDumps_returns.mpr written
  have found : ∃ b, hasInjectionMarker fact = .ok b :=
    ⟨_, bind_eq_ok.mpr ⟨text, dumped, rfl⟩⟩
  obtain ⟨b, found⟩ := found
  rw [markPromptInjection, marked, found]
  cases b <;> rfl

/-- A fact whose value is refused is not marked. -/
theorem markPromptInjection_refused {fact : EnvironmentFact} (refused : ¬fact.Serializable) :
    ∃ message, markPromptInjection fact = .error (.typeError message) := by
  cases dumped : jsonDumps ", " ": " (.record fact.value) with
  | ok text => exact absurd (jsonDumps_returns.mp ⟨text, dumped⟩) refused
  | error e =>
    obtain ⟨message, rfl⟩ := jsonDumps_error dumped
    refine ⟨message, ?_⟩
    rw [markPromptInjection, hasInjectionMarker, dumped]
    rfl

/-- Nothing but the trust changes. -/
theorem marked_eq (fact : EnvironmentFact) : ∃ trust, marked fact = { fact with trust } := by
  unfold marked
  split
  · exact ⟨_, rfl⟩
  · exact ⟨fact.trust, rfl⟩

end Autonoesis.Context
