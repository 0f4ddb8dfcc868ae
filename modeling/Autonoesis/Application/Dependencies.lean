import Autonoesis.Application.PackService

/-!
# The dependency check and the versions a tenant uses

`_assert_dependencies_available` looks at one version of each pack: the last in the order of
`list_capability_packs`, which sorts versions as texts and knows nothing of pins. The version a
tenant uses is the pinned one, or the newest by `compare_versions`.
-/

namespace Autonoesis
open Base

namespace Store

/-- The versions of a pack that are listed for a tenant. -/
def listed (s : Store) (tenantId : Uuid) (packId : String) : List CapabilityPackManifest :=
  (s.listCapabilityPacks tenantId false).filter (·.packId = packId)

/-- The version of a pack that a tenant uses: the pinned one if it is listed, otherwise the newest
that is. -/
def usedVersion (s : Store) (tenantId : Uuid) (packId : String) : Option CapabilityPackManifest :=
  ((s.packChannels.get? (tenantId, packId)).bind fun pin =>
    (s.listed tenantId packId).find? (·.version = pin)).or
      ((s.listed tenantId packId).argmax CapabilityPackManifest.rank)

/-- The check accepts a manifest exactly when the versions in use meet its dependencies. -/
def CheckFits (checkSchema : Json → Except Exc Unit) (s : Store) (tenantId : Uuid) : Prop :=
  ∀ manifest : CapabilityPackManifest, manifest.check checkSchema = .ok () →
    (s.assertDependenciesAvailable tenantId manifest = .ok () ↔
      ∀ d ∈ manifest.dependencies, ∃ used, s.usedVersion tenantId d.packId = some used ∧
        versionSatisfies d.versionSpec used.version = .ok true)

/-- No listed version of the pack is greater as a text. -/
def GreatestText (s : Store) (tenantId : Uuid) (packId : String) (m : CapabilityPackManifest) :
    Prop :=
  m ∈ s.listed tenantId packId ∧ ∀ m' ∈ s.listed tenantId packId, m'.version ≤ m.version

/-- The greatest text among the listed versions of a pack is as new as the version in use. -/
def TextIsUsed (s : Store) (tenantId : Uuid) : Prop :=
  ∀ packId m used, s.GreatestText tenantId packId m → s.usedVersion tenantId packId = some used →
    compareVersions m.version used.version = .ok 0

variable {checkSchema : Json → Except Exc Unit} {s : Store} {tenantId : Uuid} {packId : String}

theorem mem_listedEntries (kept : s.PacksKept checkSchema)
    {e : PackKey × CapabilityPackManifest} (there : e ∈ s.listedEntries tenantId false) :
    e.1 = (tenantId, e.2.packId, e.2.version) ∧ s.tenantPacks.get? e.1 = some e.2 := by
  simp only [listedEntries, List.mem_filter, List.mem_insertionSort, Bool.and_eq_true,
    decide_eq_true_eq] at there
  obtain ⟨inside, own, _⟩ := there
  have stored := (Dict.get?_eq_some _ _ _).mpr inside
  exact ⟨Prod.ext own (kept.keys _ _ stored), stored⟩

theorem parsed_of_listed (kept : s.PacksKept checkSchema) {m : CapabilityPackManifest}
    (there : m ∈ s.listed tenantId packId) : m.check checkSchema = .ok () := by
  obtain ⟨e, inside, rfl⟩ := List.mem_map.mp (List.mem_filter.mp there).1
  exact kept.parsed e.1 e.2 (mem_listedEntries kept inside).2

theorem semver_of_listed (kept : s.PacksKept checkSchema) {m : CapabilityPackManifest}
    (there : m ∈ s.listed tenantId packId) : isSemver m.version = true :=
  (CapabilityPackManifest.accepted checkSchema (parsed_of_listed kept there)).1

theorem mem_listed_of_used {used : CapabilityPackManifest}
    (found : s.usedVersion tenantId packId = some used) : used ∈ s.listed tenantId packId := by
  obtain pinned | ⟨_, newest⟩ := Option.or_eq_some_iff.mp found
  · obtain ⟨pin, _, inside⟩ := Option.bind_eq_some_iff.mp pinned
    exact List.mem_of_find?_eq_some inside
  · exact List.argmax_mem (Option.mem_def.mpr newest)

theorem used_of_mem {m : CapabilityPackManifest} (there : m ∈ s.listed tenantId packId) :
    ∃ used, s.usedVersion tenantId packId = some used := by
  apply Option.ne_none_iff_exists'.mp
  intro none
  have empty := List.argmax_eq_none.mp (Option.or_eq_none_iff.mp none).2
  rw [empty] at there
  cases there

/-! ## What the check looks at -/

theorem listedEntries_sorted (s : Store) (tenantId : Uuid) :
    (s.listedEntries tenantId false).Pairwise fun a b => sortKey a.1 ≤ sortKey b.1 := by
  have total : Std.Total fun a b : PackKey × CapabilityPackManifest => sortKey a.1 ≤ sortKey b.1 :=
    ⟨fun a b => le_total (sortKey a.1) (sortKey b.1)⟩
  have trans : IsTrans (PackKey × CapabilityPackManifest)
      fun a b => sortKey a.1 ≤ sortKey b.1 := ⟨fun _ _ _ below below' => le_trans below below'⟩
  exact (List.pairwise_insertionSort _ _).filter _

theorem sortKey_version {version version' : String}
    (below : sortKey (tenantId, packId, version) ≤ sortKey (tenantId, packId, version')) :
    version ≤ version' := by
  simpa [sortKey, Prod.Lex.le_iff] using below

theorem get?_installedPacks (s : Store) (tenantId : Uuid) (packId : String) :
    (s.installedPacks tenantId).get? packId =
      (s.listCapabilityPacks tenantId false).reverse.find? (·.packId = packId) := by
  rw [installedPacks, Dict.get?_foldl_set, Dict.get?_empty, Option.or_none]

/-- What the check finds of a pack is its listed version with the greatest text. -/
theorem greatest_of_installed (kept : s.PacksKept checkSchema) {m : CapabilityPackManifest}
    (found : (s.installedPacks tenantId).get? packId = some m) :
    s.GreatestText tenantId packId m := by
  rw [get?_installedPacks] at found
  have named : m.packId = packId := by simpa using List.find?_some found
  refine ⟨?_, fun m' there => ?_⟩
  · refine List.mem_filter.mpr ⟨?_, by simpa using named⟩
    exact List.mem_reverse.mp (List.mem_of_find?_eq_some found)
  · obtain ⟨inside, named'⟩ := List.mem_filter.mp there
    rw [listCapabilityPacks, ← List.map_reverse, List.find?_map, Option.map_eq_some_iff] at found
    obtain ⟨⟨key, m⟩, last, rfl⟩ := found
    obtain ⟨⟨key', m'⟩, entry, rfl⟩ := List.mem_map.mp inside
    have below := le_of_find?_reverse (listedEntries_sorted s tenantId) last entry named'
    have first := (mem_listedEntries kept
      (List.mem_reverse.mp (List.mem_of_find?_eq_some last))).1
    have second := (mem_listedEntries kept entry).1
    simp only [decide_eq_true_eq] at first second named'
    rw [first, second, named, named'] at below
    exact sortKey_version below

theorem installed_of_mem {m : CapabilityPackManifest} (there : m ∈ s.listed tenantId packId) :
    ∃ found, (s.installedPacks tenantId).get? packId = some found := by
  rw [get?_installedPacks]
  obtain ⟨inside, named⟩ := List.mem_filter.mp there
  apply Option.isSome_iff_exists.mp
  exact List.find?_isSome.mpr ⟨m, List.mem_reverse.mpr inside, named⟩

/-- Two listed versions of a pack with the same text are the same manifest. -/
theorem listed_unique (kept : s.PacksKept checkSchema) {m m' : CapabilityPackManifest}
    (there : m ∈ s.listed tenantId packId) (there' : m' ∈ s.listed tenantId packId)
    (same : m.version = m'.version) : m = m' := by
  obtain ⟨inside, named⟩ := List.mem_filter.mp there
  obtain ⟨inside', named'⟩ := List.mem_filter.mp there'
  obtain ⟨e, entry, rfl⟩ := List.mem_map.mp inside
  obtain ⟨e', entry', rfl⟩ := List.mem_map.mp inside'
  obtain ⟨key, stored⟩ := mem_listedEntries kept entry
  obtain ⟨key', stored'⟩ := mem_listedEntries kept entry'
  simp only [decide_eq_true_eq] at named named'
  rw [key, named, same, ← named', ← key', stored'] at stored
  exact (Option.some.inj stored).symm

theorem installed_of_greatest (kept : s.PacksKept checkSchema) {m : CapabilityPackManifest}
    (greatest : s.GreatestText tenantId packId m) :
    (s.installedPacks tenantId).get? packId = some m := by
  obtain ⟨found, here⟩ := installed_of_mem greatest.1
  obtain ⟨there, above⟩ := greatest_of_installed kept here
  have same := le_antisymm (above m greatest.1) (greatest.2 found there)
  rw [here, listed_unique kept greatest.1 there same]

/-! ## When the check fits -/

/-- A dependency passes when the greatest text of its pack meets the spec. -/
theorem assertDependency_eq_ok (kept : s.PacksKept checkSchema)
    {manifest : CapabilityPackManifest} {d : PackDependency}
    (valid : isVersionSpec d.versionSpec = true) :
    s.assertDependency tenantId manifest d = .ok () ↔
      ∃ m, s.GreatestText tenantId d.packId m ∧ satisfies d.versionSpec m.rank = true := by
  unfold assertDependency
  cases found : (s.installedPacks tenantId).get? d.packId with
  | none =>
    refine iff_of_false nofun ?_
    rintro ⟨m, greatest, _⟩
    rw [installed_of_greatest kept greatest] at found
    cases found
  | some available =>
    have greatest := greatest_of_installed kept found
    have checked := versionSatisfies_ok valid (semver_of_listed kept greatest.1)
    simp only [checked]
    change raiseIf (!satisfies d.versionSpec available.rank) _ = .ok () ↔ _
    rw [raiseIf_eq_ok, Bool.not_eq_false']
    constructor
    · exact fun meets => ⟨available, greatest, meets⟩
    · rintro ⟨m, greatest', meets⟩
      have same := installed_of_greatest kept greatest'
      rw [found] at same
      cases same
      exact meets

theorem semver_spec {version : String} (semver : isSemver version = true) :
    isVersionSpec ("=" ++ version) = true ∧
      ∀ key, satisfies ("=" ++ version) key = true ↔ key = versionKey version := by
  have one : words ("=" ++ version) = ["=" ++ version] := by
    apply words_plain
    · simpa using ⟨by decide, semver_plain semver⟩
    · simp
  have item : specItem ("=" ++ version) = some (.eq, version) := by
    simp [specItem, splitOperator, semver]
  have target : version ≠ "*" := by
    rintro rfl
    exact absurd semver (by decide +kernel)
  refine ⟨by simp [isVersionSpec, one, item], fun key => ?_⟩
  simp [satisfies, one, item, target, Comparator.holds]

/-- The manifest, asking for exactly one version of one pack. -/
def asking (m : CapabilityPackManifest) (packId version : String) : CapabilityPackManifest :=
  { m with dependencies := [⟨packId, "=" ++ version⟩] }

theorem mem_asking {m : CapabilityPackManifest} {version : String} {d : PackDependency} :
    d ∈ (asking m packId version).dependencies ↔ d = ⟨packId, "=" ++ version⟩ :=
  List.mem_singleton

theorem asking_parsed {m : CapabilityPackManifest} (parsed : m.check checkSchema = .ok ())
    {version : String} (named : isIdentifier packId = true) (semver : isSemver version = true) :
    (asking m packId version).check checkSchema = .ok () := by
  have dependency : PackDependency.check ⟨packId, "=" ++ version⟩ = .ok () := by
    simp [PackDependency.check, named, (semver_spec semver).1]
  simp only [CapabilityPackManifest.check, bind_eq_ok] at parsed ⊢
  obtain ⟨_, fields, _, _, _, shape, others⟩ := parsed
  refine ⟨(), fields, (), ?_, (), ?_, others⟩
  · simp [asking, dependency]
  · simp only [checks_cons, Bool.not_eq_false'] at shape
    simp [asking, shape.2.1]

theorem compareVersions_eq_zero {left right : String} (semver : isSemver left = true)
    (semver' : isSemver right = true) :
    compareVersions left right = .ok 0 ↔ versionKey left = versionKey right := by
  rw [compareVersions_ok semver semver', Except.ok.injEq]
  constructor
  · intro zero
    by_contra apart
    obtain less | greater := lt_or_gt_of_ne apart
    · simp [less] at zero
    · simp [greater, greater.asymm] at zero
  · intro same
    simp [same]

theorem satisfied_iff (kept : s.PacksKept checkSchema) {spec : String}
    (valid : isVersionSpec spec = true) {used : CapabilityPackManifest}
    (found : s.usedVersion tenantId packId = some used) :
    versionSatisfies spec used.version = .ok true ↔ satisfies spec used.rank = true := by
  rw [versionSatisfies_ok valid (semver_of_listed kept (mem_listed_of_used found)),
    Except.ok.injEq]
  rfl

theorem fits_of_textIsUsed (kept : s.PacksKept checkSchema) (same : s.TextIsUsed tenantId) :
    s.CheckFits checkSchema tenantId := by
  intro manifest parsed
  have dependencies := (CapabilityPackManifest.accepted checkSchema parsed).2.1
  refine forM_eq_ok.trans (forall₂_congr fun d listed => ?_)
  have valid := (dependencies d listed).2
  rw [assertDependency_eq_ok kept valid]
  constructor
  · rintro ⟨m, greatest, meets⟩
    obtain ⟨used, found⟩ := used_of_mem greatest.1
    refine ⟨used, found, (satisfied_iff kept valid found).mpr ?_⟩
    have equal := (compareVersions_eq_zero (semver_of_listed kept greatest.1)
      (semver_of_listed kept (mem_listed_of_used found))).mp (same _ m used greatest found)
    rw [CapabilityPackManifest.rank, ← equal]
    exact meets
  · rintro ⟨used, found, meets⟩
    obtain ⟨m, here⟩ := installed_of_mem (mem_listed_of_used found)
    have greatest := greatest_of_installed kept here
    refine ⟨m, greatest, ?_⟩
    have equal := (compareVersions_eq_zero (semver_of_listed kept greatest.1)
      (semver_of_listed kept (mem_listed_of_used found))).mp (same _ m used greatest found)
    rw [CapabilityPackManifest.rank, equal]
    exact (satisfied_iff kept valid found).mp meets

theorem textIsUsed_of_fits (kept : s.PacksKept checkSchema)
    (fits : s.CheckFits checkSchema tenantId) : s.TextIsUsed tenantId := by
  intro packId m used greatest found
  have parsed := parsed_of_listed kept greatest.1
  have semver := semver_of_listed kept greatest.1
  have own : m.packId = packId := by simpa using (List.mem_filter.mp greatest.1).2
  have named : isIdentifier packId = true := own ▸ CapabilityPackManifest.identifier _ parsed
  obtain ⟨valid, exactly⟩ := semver_spec semver
  -- The check lets a manifest through that asks for what it finds.
  have accepts : s.assertDependenciesAvailable tenantId (asking m packId m.version) = .ok () := by
    refine forM_eq_ok.mpr fun d listed => ?_
    obtain rfl := mem_asking.mp listed
    exact (assertDependency_eq_ok (d := ⟨packId, "=" ++ m.version⟩) kept valid).mpr
      ⟨m, greatest, (exactly m.rank).mpr rfl⟩
  obtain ⟨used', found', meets⟩ := (fits _ (asking_parsed parsed named semver)).mp accepts
    ⟨packId, "=" ++ m.version⟩ (mem_asking.mpr rfl)
  rw [found] at found'
  cases found'
  have equal := (exactly _).mp ((satisfied_iff kept valid found).mp meets)
  exact (compareVersions_eq_zero semver
    (semver_of_listed kept (mem_listed_of_used found))).mpr equal.symm

end Store

namespace PackService
open Store

/-- After any calls, the check of a tenant fits all manifests exactly if it looks at versions that
are as new as those in use. -/
theorem checkFits_iff {checkSchema : Json → Except Exc Unit} (calls : List Call)
    (accepted : ∀ c ∈ calls, c.Accepted checkSchema) (tenantId : Uuid) :
    (after step {} calls).CheckFits checkSchema tenantId ↔
      (after step {} calls).TextIsUsed tenantId := by
  have kept := (after_indexed indexed_empty accepted).kept
  exact ⟨textIsUsed_of_fits kept, fits_of_textIsUsed kept⟩

namespace Sample

/-- A pack that asks for the newest forecasts. -/
def alerts : CapabilityPackManifest where
  apiVersion := "autonoesis/v1alpha1"
  packId := "alerts"
  version := "1.0.0"
  pythonEntryPoint := "alerts:run"
  goalTypes := [{ forecast with goalType := "alert" }]
  skills := []
  tools := []
  policies := []
  evaluationSuites := []
  dependencies := [⟨"weather", ">=1.10.0"⟩]

def upgraded : List Call := installed ["1.9.0", "1.10.0"]

theorem upgraded_accepted : ∀ c ∈ upgraded, c.Accepted fun _ => .ok () :=
  installed_accepted (by decide +kernel)

/-- The tenant uses 1.10.0, and the check finds 1.9.0. -/
theorem newest_not_found :
    (∀ c ∈ upgraded, c.Accepted fun _ => .ok ()) ∧
      ((after step {} upgraded).usedVersion 1 "weather").map (·.version) = some "1.10.0" ∧
      (after step {} upgraded).assertDependenciesAvailable 1 alerts = .error (.valueError
        "capability pack alerts@1.0.0 requires weather >=1.10.0, found 1.9.0") ∧
      ¬(after step {} upgraded).CheckFits (fun _ => .ok ()) 1 := by
  have used : ((after step {} upgraded).usedVersion 1 "weather").map (·.version) =
      some "1.10.0" := by
    decide +kernel
  have refused : (after step {} upgraded).assertDependenciesAvailable 1 alerts =
      .error (.valueError
        "capability pack alerts@1.0.0 requires weather >=1.10.0, found 1.9.0") := by
    decide +kernel
  refine ⟨upgraded_accepted, used, refused, fun fits => ?_⟩
  have accepts := (fits alerts (by decide +kernel)).mpr fun d listed => ?_
  · rw [refused] at accepts
    cases accepts
  · rw [List.mem_singleton.mp listed]
    obtain ⟨m, found, version⟩ := Option.map_eq_some_iff.mp used
    exact ⟨m, found, version ▸ by decide +kernel⟩

/-- Three versions of which the newest is the greatest as a text. -/
def major : List Call := installed ["1.9.0", "1.10.0", "2.0.0"]

theorem checkFits_major : (after step {} major).CheckFits (fun _ => .ok ()) 1 := by
  apply (checkFits_iff major (installed_accepted (by decide +kernel)) 1).mpr
  intro packId m used greatest found
  have only : ∀ m ∈ (after step {} major).listCapabilityPacks 1 false, m.packId = "weather" := by
    decide +kernel
  have one : ∀ v ∈ ((after step {} major).listed 1 "weather").map (·.version),
      (∀ v' ∈ ((after step {} major).listed 1 "weather").map (·.version), v' ≤ v) →
        v = "2.0.0" := by
    decide +kernel
  have newest : ((after step {} major).usedVersion 1 "weather").map (·.version) =
      some "2.0.0" := by
    decide +kernel
  obtain ⟨there, own⟩ := List.mem_filter.mp greatest.1
  obtain rfl : packId = "weather" := (of_decide_eq_true own).symm.trans (only m there)
  have last : m.version = "2.0.0" := by
    refine one _ (List.mem_map_of_mem greatest.1) fun v' listed => ?_
    obtain ⟨m', there', rfl⟩ := List.mem_map.mp listed
    exact greatest.2 m' there'
  rw [found, Option.map_some, Option.some.injEq] at newest
  rw [last, newest]
  decide +kernel

end Sample

end PackService
end Autonoesis
