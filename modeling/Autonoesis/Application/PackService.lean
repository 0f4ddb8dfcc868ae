import Autonoesis.Application.PackIndex

/-!
# The lifecycle of capability packs

`CapabilityPackService` over the in-memory store: each method makes its checks and then one
operation of the store. No pack is registered for all tenants.
-/

namespace Autonoesis
open Base

structure PackLifecycleCommand where
  packId : String
  version : String
  reason : String := ""

namespace Store

/-- How the keys of packs are sorted. -/
def sortKey (key : PackKey) : ℕ ×ₗ String ×ₗ String :=
  toLex (key.1.toNat, toLex (key.2.1, key.2.2))

/-- The packs of a tenant by their keys. -/
def listedEntries (s : Store) (tenantId : Uuid) (includeDisabled : Bool) :
    List (PackKey × CapabilityPackManifest) :=
  (s.tenantPacks.entries.insertionSort fun a b => sortKey a.1 ≤ sortKey b.1).filter fun e =>
    e.1.1 = tenantId && (includeDisabled || s.packIsListable e.1)

/-- `list_capability_packs`. -/
def listCapabilityPacks (s : Store) (tenantId : Uuid) (includeDisabled : Bool) :
    List CapabilityPackManifest :=
  (s.listedEntries tenantId includeDisabled).map (·.2)

/-- The last listed version of each pack, by which dependencies are checked. -/
def installedPacks (s : Store) (tenantId : Uuid) : Dict String CapabilityPackManifest :=
  (s.listCapabilityPacks tenantId false).foldl (fun d item => d.set item.packId item) .empty

/-- One dependency in `_assert_dependencies_available`. -/
def assertDependency (s : Store) (tenantId : Uuid) (manifest : CapabilityPackManifest)
    (dependency : PackDependency) : Except Exc Unit :=
  let requires (found : String) : Exc :=
    .valueError ("capability pack " ++ manifest.packId ++ "@" ++ manifest.version ++ " requires " ++
      dependency.packId ++ " " ++ dependency.versionSpec ++ ", found " ++ found)
  match (s.installedPacks tenantId).get? dependency.packId with
  | none => .error (requires "nothing")
  | some available => do
    let satisfied ← versionSatisfies dependency.versionSpec available.version
    raiseIf (!satisfied) (requires available.version)

/-- `_assert_dependencies_available`. -/
def assertDependenciesAvailable (s : Store) (tenantId : Uuid) (manifest : CapabilityPackManifest) :
    Except Exc Unit :=
  manifest.dependencies.forM (s.assertDependency tenantId manifest)

/-- `_assert_no_dependent_breaks`. -/
def assertNoDependentBreaks (s : Store) (tenantId : Uuid) (packId version : String) :
    Except Exc Unit :=
  (s.listCapabilityPacks tenantId false).forM fun item =>
    item.dependencies.forM fun dependency =>
      if dependency.packId ≠ packId then .ok ()
      else do
        let satisfied ← versionSatisfies dependency.versionSpec version
        raiseIf (!satisfied) (.valueError
          ("capability pack " ++ item.packId ++ "@" ++ item.version ++ " requires " ++ packId ++
            " " ++ dependency.versionSpec ++ "; channel " ++ version ++ " breaks it"))

end Store

namespace PackService
open Store

/-- `_require_reason`. -/
def requireReason (reason : String) : Except Exc Unit :=
  raiseIf (isBlank reason) (.valueError "pack lifecycle operations require a recorded reason")

/-- A method of the service: its checks, then its operation. -/
def checked (check : Except Exc Unit) (op : PackOp) (s : Store) : Except Exc Unit × Store :=
  match check with
  | .ok () => op.run s
  | .error e => (.error e, s)

/-- `install_pack`; `verifier` is `verify_install` of the supply-chain gate, if there is one. -/
def installPack (verifier : Option (CapabilityPackManifest → Except Exc Unit))
    (identity : IdentityContext) (manifest : CapabilityPackManifest) (s : Store) :
    Except Exc Unit × Store :=
  checked
    (match verifier with
      | none => .error (.permissionError "capability pack verification is not configured")
      | some verify => do
        verify manifest
        s.assertDependenciesAvailable identity.tenantId manifest)
    (.install identity.tenantId manifest) s

def disablePack (identity : IdentityContext) (command : PackLifecycleCommand)
    (correlationId eventId : Uuid) (s : Store) : Except Exc Unit × Store :=
  checked (requireReason command.reason)
    (.setEnabled identity.tenantId command.packId command.version false identity.actorId
      command.reason correlationId eventId) s

def enablePack (identity : IdentityContext) (command : PackLifecycleCommand)
    (correlationId eventId : Uuid) (s : Store) : Except Exc Unit × Store :=
  checked
    (raiseIf (s.isPackRevoked (identity.tenantId, command.packId, command.version))
      (.permissionError "a revoked capability pack cannot be re-enabled"))
    (.setEnabled identity.tenantId command.packId command.version true identity.actorId
      (if command.reason = "" then "pack re-enabled" else command.reason) correlationId eventId) s

def revokePack (identity : IdentityContext) (command : PackLifecycleCommand)
    (correlationId eventId : Uuid) (s : Store) : Except Exc Unit × Store :=
  checked (requireReason command.reason)
    (.revoke identity.tenantId command.packId command.version identity.actorId command.reason
      correlationId eventId) s

/-- `set_stable_channel`. -/
def setStableChannel (identity : IdentityContext) (command : PackLifecycleCommand)
    (correlationId eventId : Uuid) (s : Store) : Except Exc Unit × Store :=
  let key : PackKey := (identity.tenantId, command.packId, command.version)
  checked
    (match s.tenantPacks.get? key with
      | none => .error (.valueError ("capability pack " ++ command.packId ++ "@" ++
          command.version ++ " is not installed"))
      | some target => do
        raiseIf (s.isPackRevoked key)
          (.permissionError "a revoked capability pack cannot become stable")
        s.assertDependenciesAvailable identity.tenantId target
        s.assertNoDependentBreaks identity.tenantId command.packId command.version)
    (.setStable identity.tenantId command.packId command.version identity.actorId correlationId
      eventId) s

/-- A call of the service, or of the store behind its back. -/
inductive Call where
  | store (op : PackOp)
  | install (verifier : Option (CapabilityPackManifest → Except Exc Unit))
      (identity : IdentityContext) (manifest : CapabilityPackManifest)
  | disable (identity : IdentityContext) (command : PackLifecycleCommand)
      (correlationId eventId : Uuid)
  | enable (identity : IdentityContext) (command : PackLifecycleCommand)
      (correlationId eventId : Uuid)
  | revoke (identity : IdentityContext) (command : PackLifecycleCommand)
      (correlationId eventId : Uuid)
  | setStable (identity : IdentityContext) (command : PackLifecycleCommand)
      (correlationId eventId : Uuid)

def Call.run : Call → Store → Except Exc Unit × Store
  | .store op => op.run
  | .install verifier identity manifest => installPack verifier identity manifest
  | .disable identity command correlationId eventId =>
    disablePack identity command correlationId eventId
  | .enable identity command correlationId eventId =>
    enablePack identity command correlationId eventId
  | .revoke identity command correlationId eventId =>
    revokePack identity command correlationId eventId
  | .setStable identity command correlationId eventId =>
    setStableChannel identity command correlationId eventId

/-- The store after a call, raised or not. -/
def step (s : Store) (c : Call) : Store := (c.run s).2

/-- The tenant a call is made for. -/
def Call.owner : Call → Uuid
  | .store op => op.owner
  | .install _ identity _ | .disable identity .. | .enable identity .. | .revoke identity ..
  | .setStable identity .. => identity.tenantId

/-- A manifest that is installed is one that `parse_manifest` has accepted. -/
def Call.Accepted (checkSchema : Json → Except Exc Unit) : Call → Prop
  | .store op => op.Accepted checkSchema
  | .install _ _ manifest => manifest.check checkSchema = .ok ()
  | _ => True

variable {checkSchema : Json → Except Exc Unit} {s : Store}

theorem checked_cases (check : Except Exc Unit) (op : PackOp) (s : Store) :
    (checked check op s).2 = s ∨ (checked check op s).2 = (op.run s).2 := by
  cases check with
  | ok u => exact .inr rfl
  | error e => exact .inl rfl

/-- A call leaves the store as it is, or does one operation for its tenant. -/
theorem step_cases (s : Store) (c : Call) (accepted : c.Accepted checkSchema) :
    step s c = s ∨ ∃ op : PackOp, op.Accepted checkSchema ∧ op.owner = c.owner ∧
      step s c = (op.run s).2 := by
  have through (check : Except Exc Unit) (op : PackOp) (accepted : op.Accepted checkSchema)
      (own : op.owner = c.owner) (ran : step s c = (checked check op s).2) :
      step s c = s ∨ ∃ op : PackOp, op.Accepted checkSchema ∧ op.owner = c.owner ∧
        step s c = (op.run s).2 := by
    rw [ran]
    exact (checked_cases check op s).imp_right fun done => ⟨op, accepted, own, done⟩
  cases c with
  | store op => exact .inr ⟨op, accepted, rfl, rfl⟩
  | install verifier identity manifest =>
    exact through _ (.install identity.tenantId manifest) accepted rfl rfl
  | disable identity command correlationId eventId =>
    exact through _ (.setEnabled identity.tenantId command.packId command.version false
      identity.actorId command.reason correlationId eventId) trivial rfl rfl
  | enable identity command correlationId eventId =>
    exact through _ (.setEnabled identity.tenantId command.packId command.version true
      identity.actorId (if command.reason = "" then "pack re-enabled" else command.reason)
      correlationId eventId) trivial rfl rfl
  | revoke identity command correlationId eventId =>
    exact through _ (.revoke identity.tenantId command.packId command.version identity.actorId
      command.reason correlationId eventId) trivial rfl rfl
  | setStable identity command correlationId eventId =>
    exact through _ (.setStable identity.tenantId command.packId command.version identity.actorId
      correlationId eventId) trivial rfl rfl

theorem step_indexed (indexed : s.Indexed checkSchema) (c : Call)
    (accepted : c.Accepted checkSchema) : (step s c).Indexed checkSchema := by
  obtain same | ⟨op, accepted, _, done⟩ := step_cases s c accepted
  · rw [same]
    exact indexed
  · rw [done]
    exact indexed.run op accepted

theorem step_revoked (indexed : s.Indexed checkSchema) (c : Call)
    (accepted : c.Accepted checkSchema) {key : PackKey} (revoked : s.isPackRevoked key = true) :
    (step s c).isPackRevoked key = true := by
  obtain same | ⟨op, accepted, _, done⟩ := step_cases s c accepted
  · rw [same]
    exact revoked
  · rw [done]
    exact op.run_revoked indexed.kept accepted revoked

theorem step_other (indexed : s.Indexed checkSchema) (c : Call) (accepted : c.Accepted checkSchema)
    {other : Uuid} (apart : other ≠ c.owner) (name : String) :
    (step s c).tenantGoalTypes.get? (other, name) = s.tenantGoalTypes.get? (other, name) := by
  obtain same | ⟨op, accepted, own, done⟩ := step_cases s c accepted
  · rw [same]
  · rw [done]
    exact op.run_other indexed.kept accepted (own ▸ apart) name

theorem after_indexed (indexed : s.Indexed checkSchema) {calls : List Call}
    (accepted : ∀ c ∈ calls, c.Accepted checkSchema) :
    (after step s calls).Indexed checkSchema := by
  induction calls generalizing s with
  | nil => exact indexed
  | cons c rest ih =>
    obtain ⟨first, others⟩ := List.forall_mem_cons.mp accepted
    exact ih (step_indexed indexed c first) others

theorem after_revoked (indexed : s.Indexed checkSchema) {calls : List Call}
    (accepted : ∀ c ∈ calls, c.Accepted checkSchema) {key : PackKey}
    (revoked : s.isPackRevoked key = true) : (after step s calls).isPackRevoked key = true := by
  induction calls generalizing s with
  | nil => exact revoked
  | cons c rest ih =>
    obtain ⟨first, others⟩ := List.forall_mem_cons.mp accepted
    exact ih (step_indexed indexed c first) others (step_revoked indexed c first revoked)

/-! ## The index at all times -/

/-- What the index of the tenants owes to their packs. -/
structure Coherent (s : Store) : Prop where
  /-- Every entry is a goal type of the version its pack resolves to. -/
  origin : ∀ tenantId name g, s.tenantGoalTypes.get? (tenantId, name) = some g →
    ∃ packId m, s.resolvedVersion tenantId packId = some m ∧ g ∈ m.goalTypes ∧ g.goalType = name
  /-- That version is installed for the tenant, enabled, not revoked, the pinned one if the pack
  is pinned, and its newest such version. -/
  version : ∀ tenantId packId m, s.resolvedVersion tenantId packId = some m →
    s.tenantPacks.get? (tenantId, packId, m.version) = some m ∧
      s.packIsListable (tenantId, packId, m.version) = true ∧
      (∀ pin, s.packChannels.get? (tenantId, packId) = some pin → m.version = pin) ∧
      ∀ version m', s.tenantPacks.get? (tenantId, packId, version) = some m' →
        s.lets tenantId (tenantId, packId, version) = true → m'.rank ≤ m.rank
  /-- A pack with such a version resolves. -/
  resolves : ∀ tenantId packId version m, s.tenantPacks.get? (tenantId, packId, version) = some m →
    s.lets tenantId (tenantId, packId, version) = true →
      ∃ m', s.resolvedVersion tenantId packId = some m'
  /-- Its goal types are in the index, or those of another resolved pack that has the name too. -/
  indexed : ∀ tenantId packId m, s.resolvedVersion tenantId packId = some m →
    ∀ g ∈ m.goalTypes, ∃ g', s.tenantGoalTypes.get? (tenantId, g.goalType) = some g' ∧
      (g' = g ∨ ∃ packId' m', packId' ≠ packId ∧ s.resolvedVersion tenantId packId' = some m' ∧
        g' ∈ m'.goalTypes ∧ g'.goalType = g.goalType)

theorem coherent_of_indexed (indexed : s.Indexed checkSchema) : Coherent s where
  origin tenantId name g found := by
    obtain ⟨packId, m, resolves, there, named, _⟩ := (indexed.shows tenantId name g).mp found
    exact ⟨packId, m, resolves, there, named⟩
  version _ _ _ found := resolvedVersion_spec indexed.kept found
  resolves tenantId packId version m stored counts := by
    cases found : s.resolvedVersion tenantId packId with
    | some m' => exact ⟨m', rfl⟩
    | none =>
      have own := indexed.kept.keys _ _ stored
      simp only [Prod.mk.injEq] at own
      have empty := List.argmax_eq_none.mp found
      have listed : m ∈ (s.candidates tenantId).filter (·.packId = packId) :=
        List.mem_filter.mpr ⟨mem_candidates.mpr ⟨_, stored, counts⟩, by simp [own.1]⟩
      rw [empty] at listed
      cases listed
  indexed tenantId packId m found g there := by
    obtain ⟨g', shown⟩ := shows_of_declared indexed.kept found ⟨g, there, rfl⟩
    refine ⟨g', (indexed.shows _ _ _).mpr shown, ?_⟩
    obtain ⟨packId', m', found', there', named, _⟩ := shown
    by_cases same : packId' = packId
    · rw [same, found] at found'
      cases found'
      exact .inl (goalType_unique indexed.kept found there' there named)
    · exact .inr ⟨packId', m', same, found', there', named⟩

/-- After any calls the index is coherent; a revoked version never counts again; and a call for
one tenant leaves the index of every other as it is. -/
theorem lifecycle (calls : List Call) (accepted : ∀ c ∈ calls, c.Accepted checkSchema) :
    Coherent (after step {} calls) ∧
    (∀ tenantId packId version, (after step {} calls).isPackRevoked (tenantId, packId, version) →
      ∀ later : List Call, (∀ c ∈ later, c.Accepted checkSchema) →
        ∀ m, (after step (after step {} calls) later).resolvedVersion tenantId packId = some m →
          m.version ≠ version) ∧
    ∀ c : Call, c.Accepted checkSchema → ∀ other ≠ c.owner, ∀ name,
      (step (after step {} calls) c).tenantGoalTypes.get? (other, name) =
        (after step {} calls).tenantGoalTypes.get? (other, name) := by
  have indexed := after_indexed indexed_empty accepted
  refine ⟨coherent_of_indexed indexed, ?_, ?_⟩
  · intro tenantId packId version revoked later accepted' m found same
    have still := after_revoked indexed accepted' revoked
    obtain ⟨_, listable, _⟩ := resolvedVersion_spec (after_indexed indexed accepted').kept found
    rw [same] at listable
    simp only [packIsListable, Bool.and_eq_true, Bool.not_eq_true'] at listable
    unfold isPackRevoked at still
    cases flags : (after step (after step {} calls) later).packStates.get?
        (tenantId, packId, version) with
    | none => simp [flags] at still
    | some f =>
      rw [flags] at still listable
      simp only [Option.bind_some, Option.getD_some] at still listable
      rw [still] at listable
      cases listable.2
  · exact fun c acc other apart name => step_other indexed c acc apart name

/-! A tenant whose newest version of a pack is revoked. -/

namespace Sample

def forecast : GoalTypeManifest where
  goalType := "forecast"
  inputSchema := .obj []
  agent := "weather"
  evaluationSuite := "weather"
  defaultPolicy := "weather"
  defaultBudget := 10

def weather (version : String) : CapabilityPackManifest where
  apiVersion := "autonoesis/v1alpha1"
  packId := "weather"
  version := version
  pythonEntryPoint := "weather:run"
  goalTypes := [forecast]
  skills := []
  tools := []
  policies := []
  evaluationSuites := []

def operator : IdentityContext where
  tenantId := 1
  actorId := 2
  principalId := 3
  roles := []

def command (version : String) : PackLifecycleCommand where
  packId := "weather"
  version := version
  reason := "wrong forecasts"

def installed (versions : List String) : List Call :=
  versions.map fun version => .install (some fun _ => .ok ()) operator (weather version)

theorem installed_accepted {versions : List String}
    (parsed : ∀ v ∈ versions, (weather v).check (fun _ => .ok ()) = .ok ()) :
    ∀ c ∈ installed versions, c.Accepted fun _ => .ok () := by
  intro c listed
  obtain ⟨version, there, rfl⟩ := List.mem_map.mp listed
  exact parsed version there

def withdrawn : List Call :=
  installed ["1.9.0", "1.10.0"] ++ [.revoke operator (command "1.10.0") 4 5]

theorem withdrawn_accepted : ∀ c ∈ withdrawn, c.Accepted fun _ => .ok () := by
  intro c listed
  obtain listed | listed := List.mem_append.mp listed
  · exact installed_accepted (by decide +kernel) c listed
  · rw [List.mem_singleton.mp listed]
    trivial

/-- The revoked version does not come back when it is made stable. -/
theorem lifecycle_withdrawn :
    Coherent (after step {} withdrawn) ∧
    (after step {} withdrawn).isPackRevoked (1, "weather", "1.10.0") ∧
    ∀ m, (after step (after step {} withdrawn)
        [.store (.setStable 1 "weather" "1.10.0" 2 6 7)]).resolvedVersion 1 "weather" = some m →
      m.version ≠ "1.10.0" := by
  have revoked : (after step {} withdrawn).isPackRevoked (1, "weather", "1.10.0") = true := by
    decide +kernel
  obtain ⟨coherent, never, _⟩ := lifecycle withdrawn withdrawn_accepted
  refine ⟨coherent, revoked, never 1 "weather" "1.10.0" revoked _ fun c listed => ?_⟩
  rw [List.mem_singleton.mp listed]
  trivial

end Sample

end PackService

end Autonoesis
