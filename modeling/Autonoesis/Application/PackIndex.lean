import Autonoesis.Application.Packs
import Autonoesis.Base.Newest
import Autonoesis.Domain.Versions

/-!
# The goal types of a tenant

Every change to the packs of a tenant rebuilds its index of goal types: from the pinned version
of a pack, or its newest, of those that are enabled and not revoked. The index is at all times
what the tables of packs, flags and channels determine.
-/

namespace Autonoesis
open Base

namespace Store

/-- A pack version that counts for its tenant: enabled, not revoked, and the pinned one if the
pack is pinned. -/
def lets (s : Store) (tenantId : Uuid) (key : PackKey) : Bool :=
  key.1 = tenantId && s.packIsListable key &&
    (s.packChannels.get? (tenantId, key.2.1)).all (key.2.2 = ·)

def candidatesIn (s : Store) (tenantId : Uuid) (entries : List (PackKey × CapabilityPackManifest)) :
    List CapabilityPackManifest :=
  (entries.filter fun e => s.lets tenantId e.1).map (·.2)

/-- The pack versions that count for a tenant, in the order they were installed. -/
def candidates (s : Store) (tenantId : Uuid) : List CapabilityPackManifest :=
  s.candidatesIn tenantId s.tenantPacks.entries

/-- The version a pack resolves to for a tenant. -/
def resolvedVersion (s : Store) (tenantId : Uuid) (packId : String) :
    Option CapabilityPackManifest :=
  ((s.candidates tenantId).filter (·.packId = packId)).argmax CapabilityPackManifest.rank

/-- Each pack of a list in its newest version. -/
def newest (items : List CapabilityPackManifest) : Dict String CapabilityPackManifest :=
  items.foldl (Dict.keepNewest CapabilityPackManifest.packId CapabilityPackManifest.rank) .empty

/-- The packs of a tenant, each in the version it resolves to. -/
def resolved (s : Store) (tenantId : Uuid) : Dict String CapabilityPackManifest :=
  newest (s.candidates tenantId)

/-- Packs are stored under their own key, as `parse_manifest` has accepted them. -/
structure PacksKept (checkSchema : Json → Except Exc Unit) (s : Store) : Prop where
  keys : ∀ key m, s.tenantPacks.get? key = some m → key.2 = (m.packId, m.version)
  parsed : ∀ key m, s.tenantPacks.get? key = some m → m.check checkSchema = .ok ()

variable {checkSchema : Json → Except Exc Unit} {s : Store} {tenantId : Uuid}

theorem get?_resolved (s : Store) (tenantId : Uuid) (packId : String) :
    (s.resolved tenantId).get? packId = s.resolvedVersion tenantId packId :=
  Dict.get?_foldl_keepNewest CapabilityPackManifest.packId CapabilityPackManifest.rank _ packId

theorem mem_candidates {m : CapabilityPackManifest} :
    m ∈ s.candidates tenantId ↔
      ∃ key, s.tenantPacks.get? key = some m ∧ s.lets tenantId key = true := by
  simp only [candidates, candidatesIn, List.mem_map, List.mem_filter, Prod.exists,
    exists_eq_right, Dict.get?_eq_some]

/-- The resolving loop keeps the newest version of each pack: where a pack is pinned, only one
version comes into question. -/
theorem foldlM_resolvePack (kept : s.PacksKept checkSchema)
    {entries : List (PackKey × CapabilityPackManifest)}
    (there : ∀ e ∈ entries, s.tenantPacks.get? e.1 = some e.2) :
    entries.foldlM (s.resolvePack compareVersions tenantId) .empty =
      .ok (newest (s.candidatesIn tenantId entries)) := by
  induction entries using List.reverseRecOn with
  | nil => rfl
  | append_singleton before e ih =>
    have earlier (e' : PackKey × CapabilityPackManifest) (listed : e' ∈ before) :=
      there e' (List.mem_append_left _ listed)
    have stored := there e (by simp)
    obtain ⟨⟨itemTenant, packId, version⟩, item⟩ := e
    have own : (packId, version) = (item.packId, item.version) := kept.keys _ _ stored
    simp only [Prod.mk.injEq] at own
    obtain ⟨rfl, rfl⟩ := own
    have semver := (CapabilityPackManifest.accepted checkSchema (kept.parsed _ _ stored)).1
    rw [List.foldlM_append, ih earlier]
    change s.resolvePack compareVersions tenantId (newest (s.candidatesIn tenantId before))
      ((itemTenant, item.packId, item.version), item) >>= pure = _
    rw [bind_pure]
    -- What the loop has kept of the pack is a candidate in front of the item.
    have current (m : CapabilityPackManifest)
        (found : (newest (s.candidatesIn tenantId before)).get? item.packId = some m) :
        isSemver m.version = true ∧ (s.packChannels.get? (tenantId, item.packId)).all
          (m.version = ·) = true := by
      rw [newest, Dict.get?_foldl_keepNewest] at found
      have listed := List.argmax_mem (Option.mem_def.mpr found)
      simp only [candidatesIn, List.mem_filter, List.mem_map, decide_eq_true_eq] at listed
      obtain ⟨⟨⟨⟨owner, packId, version⟩, _⟩, ⟨listed, counts⟩, rfl⟩, same⟩ := listed
      have stored := earlier _ listed
      have own := kept.keys _ _ stored
      simp only [Prod.mk.injEq] at own
      obtain ⟨rfl, rfl⟩ := own
      simp only [lets, Bool.and_eq_true] at counts
      rw [← same]
      exact ⟨(CapabilityPackManifest.accepted checkSchema (kept.parsed _ _ stored)).1, counts.2⟩
    by_cases counts : s.lets tenantId (itemTenant, item.packId, item.version) = true
    · have more : s.candidatesIn tenantId (before ++ [((itemTenant, item.packId, item.version),
          item)]) = s.candidatesIn tenantId before ++ [item] := by
        simp [candidatesIn, counts]
      have loop : newest (s.candidatesIn tenantId before ++ [item]) =
          Dict.keepNewest CapabilityPackManifest.packId CapabilityPackManifest.rank
            (newest (s.candidatesIn tenantId before)) item := by
        simp only [newest, List.foldl_append, List.foldl_cons, List.foldl_nil]
      rw [more, loop]
      simp only [lets, Bool.and_eq_true, decide_eq_true_eq] at counts
      obtain ⟨⟨rfl, listable⟩, pinned⟩ := counts
      have through : ¬(s.packChannels.get? (itemTenant, item.packId)).any (item.version ≠ ·) := by
        cases pin : s.packChannels.get? (itemTenant, item.packId) with
        | none => simp
        | some version => simpa [pin] using pinned
      simp only [resolvePack, listable, ne_eq, not_true_eq_false, Bool.true_eq_false, or_self,
        if_false, through, Dict.keepNewest]
      cases found : (newest (s.candidatesIn itemTenant before)).get? item.packId with
      | none => rfl
      | some m =>
        obtain ⟨semver', pinned'⟩ := current m found
        cases pin : s.packChannels.get? (itemTenant, item.packId) with
        | none =>
          simp only [compareVersions_ok semver semver', CapabilityPackManifest.rank]
          by_cases newer : versionKey m.version < versionKey item.version
          · have not_older : ¬versionKey item.version < versionKey m.version := newer.asymm
            simp [newer, not_older, bind, Except.bind, pure, Except.pure]
          · by_cases older : versionKey item.version < versionKey m.version
            · simp [newer, older, bind, Except.bind, pure, Except.pure]
            · simp [newer, older, bind, Except.bind, pure, Except.pure]
        | some version =>
          rw [pin] at pinned pinned'
          simp only [Option.all_some, decide_eq_true_eq] at pinned pinned'
          have equal : ¬m.rank < item.rank := by
            rw [CapabilityPackManifest.rank, CapabilityPackManifest.rank, pinned, pinned']
            exact lt_irrefl _
          simp only [if_neg equal]
          exact if_neg (by decide)
    · have same : s.candidatesIn tenantId (before ++ [((itemTenant, item.packId, item.version),
          item)]) = s.candidatesIn tenantId before := by
        simp [candidatesIn, counts]
      rw [same]
      simp only [resolvePack]
      by_cases listed : itemTenant ≠ tenantId ∨
          s.packIsListable (tenantId, item.packId, item.version) = false
      · rw [if_pos listed]
      · simp only [not_or, not_not, Bool.not_eq_false] at listed
        obtain ⟨rfl, listable⟩ := listed
        have other : (s.packChannels.get? (itemTenant, item.packId)).any (item.version ≠ ·) := by
          cases pin : s.packChannels.get? (itemTenant, item.packId) with
          | none => simp [lets, listable, pin] at counts
          | some version => simpa [lets, listable, pin] using counts
        rw [if_neg (by simp [listable]), if_pos other]

/-- Where a goal type comes from: the last pack whose resolved version declares its name. -/
def Shows (s : Store) (tenantId : Uuid) (name : String) (g : GoalTypeManifest) : Prop :=
  ∃ packId m, s.resolvedVersion tenantId packId = some m ∧ g ∈ m.goalTypes ∧ g.goalType = name ∧
    ∀ packId' m', s.resolvedVersion tenantId packId' = some m' →
      (∃ g' ∈ m'.goalTypes, g'.goalType = name) → packId' ≤ packId

/-- The packs of a tenant by their identifiers, as the index is filled from them. -/
def ordered (s : Store) (tenantId : Uuid) : List (String × CapabilityPackManifest) :=
  (s.resolved tenantId).entries.insertionSort fun a b => a.1 ≤ b.1

theorem ordered_sorted (s : Store) (tenantId : Uuid) :
    (s.ordered tenantId).Pairwise (·.1 < ·.1) := by
  have total : Std.Total fun a b : String × CapabilityPackManifest => a.1 ≤ b.1 :=
    ⟨fun a b => le_total a.1 b.1⟩
  have trans : IsTrans (String × CapabilityPackManifest) fun a b => a.1 ≤ b.1 :=
    ⟨fun _ _ _ below below' => le_trans below below'⟩
  have sorted := List.pairwise_insertionSort
    (fun a b : String × CapabilityPackManifest => a.1 ≤ b.1) (s.resolved tenantId).entries
  have same : ((s.ordered tenantId).map (·.1)).Nodup :=
    ((List.perm_insertionSort _ (s.resolved tenantId).entries).map _).nodup_iff.mpr
      (s.resolved tenantId).nodup
  rw [List.Nodup, List.pairwise_map] at same
  exact (sorted.and same).imp fun ⟨below, different⟩ => lt_of_le_of_ne below different

theorem mem_ordered {e : String × CapabilityPackManifest} :
    e ∈ s.ordered tenantId ↔ s.resolvedVersion tenantId e.1 = some e.2 := by
  rw [ordered, List.mem_insertionSort, ← Dict.get?_eq_some, get?_resolved]

/-- The index as `_refresh_tenant_goal_types` leaves it. -/
def rebuilt (s : Store) (tenantId : Uuid) : Dict (Uuid × String) GoalTypeManifest :=
  ((s.ordered tenantId).flatMap fun p => p.2.goalTypes).foldl
    (fun d g => d.set (tenantId, g.goalType) g) (s.tenantGoalTypes.filterKeys (·.1 ≠ tenantId))

def refreshed (s : Store) (tenantId : Uuid) : Store :=
  { s with tenantGoalTypes := s.rebuilt tenantId }

theorem refresh_commit (kept : s.PacksKept checkSchema) (tenantId : Uuid) :
    (refreshTenantGoalTypes compareVersions tenantId).commit s = (.ok (), s.refreshed tenantId) := by
  have loop : s.tenantPacks.entries.foldlM (s.resolvePack compareVersions tenantId) .empty =
      .ok (s.resolved tenantId) :=
    foldlM_resolvePack kept fun e there => (s.tenantPacks.get?_eq_some e.1 e.2).mpr there
  have ran : refreshTenantGoalTypes compareVersions tenantId s = .ok ((), s.refreshed tenantId) := by
    simp only [refreshTenantGoalTypes, Tx.bind_ok, Tx.read_ok, Tx.ofExcept_ok, Tx.write_ok]
    exact ⟨s, s, rfl, _, s, ⟨loop, rfl⟩, rfl⟩
  simp only [Tx.commit, ran]

/-- Another tenant's part of the index is left alone. -/
theorem rebuilt_other {owner : Uuid} (other : owner ≠ tenantId) (name : String) :
    (s.rebuilt tenantId).get? (owner, name) = s.tenantGoalTypes.get? (owner, name) := by
  have none (items : List GoalTypeManifest) :
      items.reverse.find? (fun g => (tenantId, g.goalType) = (owner, name)) = none :=
    List.find?_eq_none.mpr fun g _ => by simp [other.symm]
  rw [rebuilt, Dict.get?_foldl_set, none, Option.none_or, Dict.get?_filterKeys]
  simp [other]

/-- The goal types of a manifest have names of their own. -/
theorem goalType_unique (kept : s.PacksKept checkSchema) {packId : String}
    {m : CapabilityPackManifest} (found : s.resolvedVersion tenantId packId = some m)
    {g g' : GoalTypeManifest} (there : g ∈ m.goalTypes) (there' : g' ∈ m.goalTypes)
    (same : g.goalType = g'.goalType) : g = g' := by
  have listed := List.argmax_mem (Option.mem_def.mpr found)
  obtain ⟨key, stored, _⟩ := mem_candidates.mp (List.mem_filter.mp listed).1
  have unique := (CapabilityPackManifest.accepted checkSchema (kept.parsed key m stored)).2.2
  exact List.inj_on_of_nodup_map unique there there' same

/-- The index of a tenant shows a goal type exactly when it comes from the last pack whose
resolved version declares its name. -/
theorem rebuilt_iff (kept : s.PacksKept checkSchema) {name : String} {g : GoalTypeManifest} :
    (s.rebuilt tenantId).get? (tenantId, name) = some g ↔ s.Shows tenantId name g := by
  have own : (fun g : GoalTypeManifest => decide ((tenantId, g.goalType) = (tenantId, name))) =
      fun g => decide (g.goalType = name) := by
    simp
  have none : (s.tenantGoalTypes.filterKeys (·.1 ≠ tenantId)).get? (tenantId, name) = none := by
    simp [Dict.get?_filterKeys]
  rw [rebuilt, Dict.get?_foldl_set, none, Option.or_none, own,
    find?_reverse_flatMap (ordered_sorted s tenantId)]
  constructor
  · rintro ⟨⟨packId, m⟩, listed, found, last⟩
    have declared := List.mem_reverse.mp (List.mem_of_find?_eq_some found)
    have named : g.goalType = name := by simpa using List.find?_some found
    refine ⟨packId, m, mem_ordered.mp listed, declared, named, fun packId' m' found' declares => ?_⟩
    exact last (packId', m') (mem_ordered.mpr found') (by simpa using declares)
  · rintro ⟨packId, m, resolves, declared, named, last⟩
    refine ⟨(packId, m), mem_ordered.mpr resolves, ?_, fun e listed declares => ?_⟩
    · cases found : m.goalTypes.reverse.find? fun g => decide (g.goalType = name) with
      | none =>
        have missing := List.find?_eq_none.mp found g (List.mem_reverse.mpr declared)
        simp [named] at missing
      | some g' =>
        have declared' := List.mem_reverse.mp (List.mem_of_find?_eq_some found)
        have named' : g'.goalType = name := by simpa using List.find?_some found
        rw [goalType_unique kept resolves declared declared' (named.trans named'.symm)]
    · exact last e.1 e.2 (mem_ordered.mp listed) (by simpa using declares)

/-! ## What an operation changes -/

/-- `is_pack_revoked`. -/
def isPackRevoked (s : Store) (key : PackKey) : Bool :=
  ((s.packStates.get? key).bind (·.revoked)).getD false

/-- The index is what the packs, flags and channels determine. -/
structure Indexed (checkSchema : Json → Except Exc Unit) (s : Store) : Prop where
  kept : s.PacksKept checkSchema
  shows : ∀ tenantId name g,
    s.tenantGoalTypes.get? (tenantId, name) = some g ↔ s.Shows tenantId name g

/-- What an operation of one tenant may do before the index is rebuilt. -/
structure OnlyTenant (tenantId : Uuid) (s s' : Store) : Prop where
  packs : ∃ more, s'.tenantPacks.entries = s.tenantPacks.entries ++ more ∧
    ∀ e ∈ more, e.1.1 = tenantId
  flags : ∀ key, key.1 ≠ tenantId → s'.packStates.get? key = s.packStates.get? key
  channels : ∀ owner packId, owner ≠ tenantId →
    s'.packChannels.get? (owner, packId) = s.packChannels.get? (owner, packId)
  index : s'.tenantGoalTypes = s.tenantGoalTypes
  revoked : ∀ key, s.isPackRevoked key = true → s'.isPackRevoked key = true

theorem OnlyTenant.candidates {s' : Store} (only : OnlyTenant tenantId s s') {owner : Uuid}
    (other : owner ≠ tenantId) : s'.candidates owner = s.candidates owner := by
  obtain ⟨more, entries, mine⟩ := only.packs
  have alike (key : PackKey) : s'.lets owner key = s.lets owner key := by
    by_cases own : key.1 = owner
    · have apart : key.1 ≠ tenantId := own ▸ other
      simp only [lets, packIsListable, only.flags key apart, only.channels owner _ other]
    · simp [lets, own]
  have none : more.filter (fun e => s.lets owner e.1) = [] := by
    refine List.filter_eq_nil_iff.mpr fun e listed => ?_
    simp [lets, mine e listed, other.symm]
  simp only [Store.candidates, candidatesIn, entries, alike, List.filter_append, none,
    List.append_nil]

theorem Indexed.refreshed {s' : Store} (indexed : s.Indexed checkSchema)
    (kept : s'.PacksKept checkSchema) (only : OnlyTenant tenantId s s') :
    (s'.refreshed tenantId).Indexed checkSchema := by
  refine ⟨⟨kept.keys, kept.parsed⟩, fun owner name g => ?_⟩
  by_cases own : owner = tenantId
  · subst own
    exact rebuilt_iff kept
  · have before := indexed.shows owner name g
    rw [← only.index, ← rebuilt_other own name] at before
    refine before.trans ?_
    have same (packId : String) :
        (s'.refreshed tenantId).resolvedVersion owner packId = s.resolvedVersion owner packId := by
      have candidates : (s'.refreshed tenantId).candidates owner = s.candidates owner :=
        only.candidates own
      rw [resolvedVersion, resolvedVersion, candidates]
    simp only [Shows, same]

/-! ## The operations -/

/-- An operation of the store, with the identifiers it draws. -/
inductive PackOp where
  | install (tenantId : Uuid) (manifest : CapabilityPackManifest)
  | setEnabled (tenantId : Uuid) (packId version : String) (enabled : Bool) (actorId : Uuid)
      (reason : String) (correlationId eventId : Uuid)
  | revoke (tenantId : Uuid) (packId version : String) (actorId : Uuid) (reason : String)
      (correlationId eventId : Uuid)
  | setStable (tenantId : Uuid) (packId version : String) (actorId : Uuid)
      (correlationId eventId : Uuid)

def PackOp.run : PackOp → Store → Except Exc Unit × Store
  | .install tenantId manifest => installPack compareVersions tenantId manifest
  | .setEnabled tenantId packId version enabled actorId reason correlationId eventId =>
    setPackEnabled compareVersions tenantId packId version enabled actorId reason correlationId
      eventId
  | .revoke tenantId packId version actorId reason correlationId eventId =>
    revokePack compareVersions tenantId packId version actorId reason correlationId eventId
  | .setStable tenantId packId version actorId correlationId eventId =>
    setStableChannel compareVersions tenantId packId version actorId correlationId eventId

def PackOp.owner : PackOp → Uuid
  | .install tenantId _ | .setEnabled tenantId .. | .revoke tenantId ..
  | .setStable tenantId .. => tenantId

/-- A manifest that is installed is one that `parse_manifest` has accepted. -/
def PackOp.Accepted (checkSchema : Json → Except Exc Unit) : PackOp → Prop
  | .install _ manifest => manifest.check checkSchema = .ok ()
  | _ => True

/-- A change to a pack whose flags and channels are those of its tenant. -/
theorem changePack_cases (kept : s.PacksKept checkSchema) {packId version : String}
    {change : Store → Store} {eventType : String} {actorId : Uuid} {reason : Option String}
    {correlationId eventId : Uuid} (packs : (change s).tenantPacks = s.tenantPacks)
    (only : OnlyTenant tenantId s (change s)) :
    (changePack compareVersions tenantId packId version change eventType actorId reason
        correlationId eventId s).2 = s ∨
      ∃ s', s'.PacksKept checkSchema ∧ OnlyTenant tenantId s s' ∧
        (changePack compareVersions tenantId packId version change eventType actorId reason
          correlationId eventId s).2 = s'.refreshed tenantId := by
  unfold changePack
  cases s.tenantPacks.get? (tenantId, packId, version) with
  | none => exact .inl rfl
  | some _ =>
    have kept' : (recordPackFact (packFact tenantId eventType packId version actorId reason
        correlationId eventId) (change s)).PacksKept checkSchema := by
      refine ⟨fun key m found => kept.keys key m ?_, fun key m found => kept.parsed key m ?_⟩
      · exact packs ▸ found
      · exact packs ▸ found
    refine .inr ⟨_, kept', ?_, by rw [refresh_commit kept']⟩
    exact ⟨only.packs, only.flags, only.channels, only.index, only.revoked⟩

theorem setFlags_only (packId version : String) {change : PackState → PackState}
    (keeps : ∀ f, f.revoked.getD false = true → (change f).revoked.getD false = true) :
    OnlyTenant tenantId s (setFlags (tenantId, packId, version) change s) where
  packs := ⟨[], (List.append_nil _).symm, fun _ there => absurd there List.not_mem_nil⟩
  flags key other := by
    have apart : key ≠ (tenantId, packId, version) := by
      rintro rfl
      exact other rfl
    exact Dict.get?_set_ne _ _ apart
  channels _ _ _ := rfl
  index := rfl
  revoked key before := by
    simp only [isPackRevoked, setFlags, Dict.get?_set] at before ⊢
    split
    · rename_i same
      rw [← same]
      cases found : s.packStates.get? key with
      | none => simp [found] at before
      | some f =>
        rw [found] at before
        exact keeps f before
    · exact before

theorem setChannel_only (packId version : String) : OnlyTenant tenantId s
    { s with packChannels := s.packChannels.set (tenantId, packId) version } where
  packs := ⟨[], (List.append_nil _).symm, fun _ there => absurd there List.not_mem_nil⟩
  flags _ _ := rfl
  channels owner packId' other := by
    have apart : (owner, packId') ≠ (tenantId, packId) := by simp [other]
    exact Dict.get?_set_ne _ _ apart
  index := rfl
  revoked _ := id

/-- An operation leaves the store as it is, or changes what its tenant has and rebuilds the
index. -/
theorem PackOp.run_cases (kept : s.PacksKept checkSchema) (op : PackOp)
    (accepted : op.Accepted checkSchema) :
    (op.run s).2 = s ∨ ∃ s', s'.PacksKept checkSchema ∧ OnlyTenant op.owner s s' ∧
      (op.run s).2 = s'.refreshed op.owner := by
  cases op with
  | install tenantId manifest =>
    simp only [run, installPack, owner]
    cases installed : s.tenantPacks.get? (tenantId, manifest.packId, manifest.version) with
    | some existing =>
      refine .inl ?_
      dsimp only
      split <;> rfl
    | none =>
      set key : PackKey := (tenantId, manifest.packId, manifest.version) with names
      let s' : Store := { s with
        tenantPacks := s.tenantPacks.set key manifest
        packStates := s.packStates.set key
          ((s.packStates.get? key).getD ⟨some true, some false⟩) }
      have kept' : s'.PacksKept checkSchema := by
        refine ⟨fun key' m found => ?_, fun key' m found => ?_⟩
        · simp only [s', Dict.get?_set] at found
          split at found
          · rename_i same
            cases found
            rw [same, names]
          · exact kept.keys key' m found
        · simp only [s', Dict.get?_set] at found
          split at found
          · cases found
            exact accepted
          · exact kept.parsed key' m found
      refine .inr ⟨s', kept', ⟨?_, ?_, fun _ _ _ => rfl, rfl, ?_⟩, by rw [refresh_commit kept']⟩
      · refine ⟨[(key, manifest)], Dict.entries_set installed manifest, fun e listed => ?_⟩
        rw [List.mem_singleton.mp listed]
      · intro key' other
        refine Dict.get?_set_ne _ _ ?_
        rintro rfl
        exact other rfl
      · intro key' before
        simp only [isPackRevoked, s', Dict.get?_set] at before ⊢
        split
        · rename_i same
          rw [same] at before
          cases found : s.packStates.get? key with
          | none => simp [found] at before
          | some f => simpa [found] using before
        · exact before
  | setEnabled tenantId packId version enabled =>
    exact changePack_cases kept rfl (setFlags_only packId version fun _ revoked => revoked)
  | revoke tenantId packId version =>
    exact changePack_cases kept rfl (setFlags_only packId version fun _ _ => rfl)
  | setStable tenantId packId version =>
    simp only [run, setStableChannel]
    apply changePack_cases kept
    · rfl
    · exact setChannel_only packId version

theorem Indexed.run (indexed : s.Indexed checkSchema) (op : PackOp)
    (accepted : op.Accepted checkSchema) : (op.run s).2.Indexed checkSchema := by
  obtain same | ⟨s', kept, only, done⟩ := op.run_cases indexed.kept accepted
  · rw [same]
    exact indexed
  · rw [done]
    exact indexed.refreshed kept only

/-- An operation never changes the index of another tenant. -/
theorem PackOp.run_other (kept : s.PacksKept checkSchema) (op : PackOp)
    (accepted : op.Accepted checkSchema) {other : Uuid} (apart : other ≠ op.owner)
    (name : String) :
    (op.run s).2.tenantGoalTypes.get? (other, name) = s.tenantGoalTypes.get? (other, name) := by
  obtain same | ⟨s', _, only, done⟩ := op.run_cases kept accepted
  · rw [same]
  · rw [done, ← only.index]
    exact rebuilt_other apart name

/-- A version that is revoked stays revoked. -/
theorem PackOp.run_revoked (kept : s.PacksKept checkSchema) (op : PackOp)
    (accepted : op.Accepted checkSchema) {key : PackKey} (revoked : s.isPackRevoked key = true) :
    (op.run s).2.isPackRevoked key = true := by
  obtain same | ⟨s', _, only, done⟩ := op.run_cases kept accepted
  · rw [same]
    exact revoked
  · rw [done]
    exact only.revoked key revoked

theorem indexed_empty : ({} : Store).Indexed checkSchema where
  kept := ⟨nofun, nofun⟩
  shows tenantId name g := by
    refine iff_of_false (fun found => ?_) ?_
    · cases found
    · rintro ⟨packId, m, found, _⟩
      have none : ({} : Store).resolvedVersion tenantId packId = none := rfl
      rw [none] at found
      cases found

/-! ## What the index shows -/

/-- The version a pack resolves to is installed for the tenant, counts for it, and is its newest
that does. -/
theorem resolvedVersion_spec (kept : s.PacksKept checkSchema) {packId : String}
    {m : CapabilityPackManifest} (found : s.resolvedVersion tenantId packId = some m) :
    s.tenantPacks.get? (tenantId, packId, m.version) = some m ∧
      s.packIsListable (tenantId, packId, m.version) = true ∧
      (∀ pin, s.packChannels.get? (tenantId, packId) = some pin → m.version = pin) ∧
      ∀ version m', s.tenantPacks.get? (tenantId, packId, version) = some m' →
        s.lets tenantId (tenantId, packId, version) = true → m'.rank ≤ m.rank := by
  have listed := List.argmax_mem (Option.mem_def.mpr found)
  simp only [List.mem_filter, decide_eq_true_eq] at listed
  obtain ⟨listed, same⟩ := listed
  obtain ⟨⟨owner, packId', version⟩, stored, counts⟩ := mem_candidates.mp listed
  have own := kept.keys _ _ stored
  simp only [Prod.mk.injEq] at own
  obtain ⟨rfl, rfl⟩ := own
  simp only [lets, Bool.and_eq_true, decide_eq_true_eq] at counts
  obtain ⟨⟨rfl, listable⟩, pinned⟩ := counts
  subst same
  refine ⟨stored, listable, fun pin here => ?_, fun version m' stored' counts' => ?_⟩
  · simpa [here] using pinned
  · have own' := kept.keys _ _ stored'
    simp only [Prod.mk.injEq] at own'
    refine List.le_of_mem_argmax ?_ (Option.mem_def.mpr found)
    exact List.mem_filter.mpr ⟨mem_candidates.mpr ⟨_, stored', counts'⟩, by simp [own'.1]⟩

/-- Some goal type of a name that a resolved version declares is shown. -/
theorem shows_of_declared (kept : s.PacksKept checkSchema) {name : String} {packId : String}
    {m : CapabilityPackManifest} (found : s.resolvedVersion tenantId packId = some m)
    (declares : ∃ g ∈ m.goalTypes, g.goalType = name) : ∃ g, s.Shows tenantId name g := by
  have first : (s.rebuilt tenantId).get? (tenantId, name) ≠ none := by
    have own : (fun g : GoalTypeManifest => decide ((tenantId, g.goalType) = (tenantId, name))) =
        fun g => decide (g.goalType = name) := by
      simp
    obtain ⟨g, there, named⟩ := declares
    rw [rebuilt, Dict.get?_foldl_set, own]
    intro none
    have missing := List.find?_eq_none.mp (Option.or_eq_none_iff.mp none).1 g
    refine missing ?_ (by simp [named])
    exact List.mem_reverse.mpr (List.mem_flatMap.mpr ⟨(packId, m), mem_ordered.mpr found, there⟩)
  obtain ⟨g, shown⟩ := Option.ne_none_iff_exists'.mp first
  exact ⟨g, (rebuilt_iff kept).mp shown⟩

end Store

end Autonoesis
