import Autonoesis.Application.PackService

/-!
# Histories of the packs of a tenant

The tables of packs, flags and channels determine what a tenant's index shows, but for the order
in which versions that compare equal were installed. They can be built in any order of the packs.
-/

namespace Autonoesis
open Base

/-! ## The tables alone -/

/-- What an operation on packs changes, without the index and the audit trail. -/
structure PackTables where
  packs : Dict PackKey CapabilityPackManifest := .empty
  states : Dict PackKey PackState := .empty
  channels : Dict (Uuid × String) String := .empty

def Store.tables (s : Store) : PackTables where
  packs := s.tenantPacks
  states := s.packStates
  channels := s.packChannels

namespace PackTables

/-- The flags of an installed pack, changed. -/
def flag (t : PackTables) (key : PackKey) (change : PackState → PackState) : PackTables :=
  match t.packs.get? key with
  | none => t
  | some _ => { t with states := t.states.set key (change ((t.states.get? key).getD {})) }

/-- The effect of an operation on the tables. -/
def apply (t : PackTables) : Store.PackOp → PackTables
  | .install tenantId m =>
    let key := (tenantId, m.packId, m.version)
    match t.packs.get? key with
    | some _ => t
    | none =>
      { t with
        packs := t.packs.set key m
        states := t.states.set key ((t.states.get? key).getD ⟨some true, some false⟩) }
  | .setEnabled tenantId packId version enabled .. =>
    t.flag (tenantId, packId, version) fun f => { f with enabled := some enabled }
  | .revoke tenantId packId version .. =>
    t.flag (tenantId, packId, version) fun _ => ⟨some false, some true⟩
  | .setStable tenantId packId version .. =>
    match t.packs.get? (tenantId, packId, version) with
    | none => t
    | some _ => { t with channels := t.channels.set (tenantId, packId) version }

end PackTables

namespace Store

theorem refresh_tables (tenantId : Uuid) (s : Store) :
    ((refreshTenantGoalTypes compareVersions tenantId).commit s).2.tables = s.tables := by
  have keeps : Tx.Keeps Store.tables (refreshTenantGoalTypes compareVersions tenantId) :=
    Tx.keeps_bind (Tx.keeps_read _) fun _ => Tx.keeps_bind (Tx.keeps_ofExcept _) fun _ =>
      Tx.keeps_write fun _ => rfl
  exact keeps.commit s

/-- The operations of the store are those of the tables. -/
theorem PackOp.run_tables (op : PackOp) (s : Store) : (op.run s).2.tables = s.tables.apply op := by
  cases op with
  | install tenantId m =>
    simp only [run, installPack, PackTables.apply, tables]
    cases s.tenantPacks.get? (tenantId, m.packId, m.version) with
    | some existing =>
      dsimp only
      split <;> rfl
    | none => exact refresh_tables tenantId _
  | setEnabled tenantId packId version enabled =>
    simp only [run, setPackEnabled, changePack, PackTables.apply, PackTables.flag, tables]
    cases s.tenantPacks.get? (tenantId, packId, version) with
    | none => rfl
    | some _ => exact refresh_tables tenantId _
  | revoke tenantId packId version =>
    simp only [run, revokePack, changePack, PackTables.apply, PackTables.flag, tables]
    cases s.tenantPacks.get? (tenantId, packId, version) with
    | none => rfl
    | some _ => exact refresh_tables tenantId _
  | setStable tenantId packId version =>
    simp only [run, setStableChannel, changePack, PackTables.apply, tables]
    cases s.tenantPacks.get? (tenantId, packId, version) with
    | none => rfl
    | some _ => exact refresh_tables tenantId _

end Store

namespace PackTables
open Store

/-- Exactly the installed packs have flags, and both of them; only installed versions are pinned. -/
structure Sound (t : PackTables) : Prop where
  flagged : ∀ key, t.states.get? key = none ↔ t.packs.get? key = none
  flags : ∀ key f, t.states.get? key = some f → ∃ enabled revoked, f = ⟨some enabled, some revoked⟩
  pinned : ∀ owner packId version, t.channels.get? (owner, packId) = some version →
    (t.packs.get? (owner, packId, version)).isSome = true

theorem Sound.flag {t : PackTables} (sound : t.Sound) (key : PackKey)
    (change : PackState → PackState)
    (both : ∀ enabled revoked, ∃ enabled' revoked',
      change ⟨some enabled, some revoked⟩ = ⟨some enabled', some revoked'⟩) :
    (t.flag key change).Sound := by
  unfold PackTables.flag
  cases installed : t.packs.get? key with
  | none => exact sound
  | some m =>
    have some : t.states.get? key ≠ none := by
      intro none
      rw [(sound.flagged key).mp none] at installed
      cases installed
    obtain ⟨f, found⟩ := Option.ne_none_iff_exists'.mp some
    refine ⟨fun key' => ?_, fun key' f' there => ?_, sound.pinned⟩
    · by_cases same : key' = key
      · subst same
        simp [installed]
      · simpa only [Dict.get?_set_ne _ _ same] using sound.flagged key'
    · by_cases same : key' = key
      · subst same
        simp only [Dict.get?_set_self, Option.some.injEq, found, Option.getD_some] at there
        obtain ⟨enabled, revoked, rfl⟩ := sound.flags key' f found
        rw [← there]
        exact both enabled revoked
      · rw [Dict.get?_set_ne _ _ same] at there
        exact sound.flags key' f' there

theorem Sound.apply {t : PackTables} (sound : t.Sound) (op : PackOp) : (t.apply op).Sound := by
  cases op with
  | install tenantId m =>
    simp only [PackTables.apply]
    cases installed : t.packs.get? (tenantId, m.packId, m.version) with
    | some _ => exact sound
    | none =>
      have bare := (sound.flagged _).mpr installed
      dsimp only
      rw [bare]
      refine ⟨fun key => ?_, fun key f there => ?_, fun owner packId version there => ?_⟩
      · simp only [Dict.get?_set]
        split
        · simp
        · exact sound.flagged key
      · simp only [Dict.get?_set, Option.getD_none] at there
        split at there
        · cases there
          exact ⟨true, false, rfl⟩
        · exact sound.flags key f there
      · simp only [Dict.get?_set]
        split
        · rfl
        · exact sound.pinned owner packId version there
  | setEnabled tenantId packId version enabled =>
    exact sound.flag (tenantId, packId, version) (fun f => { f with enabled := some enabled })
      fun _ revoked => ⟨enabled, revoked, rfl⟩
  | revoke tenantId packId version =>
    exact sound.flag (tenantId, packId, version) (fun _ => ⟨some false, some true⟩)
      fun _ _ => ⟨false, true, rfl⟩
  | setStable tenantId packId version =>
    simp only [PackTables.apply]
    cases installed : t.packs.get? (tenantId, packId, version) with
    | none => exact sound
    | some m =>
      refine ⟨sound.flagged, sound.flags, fun owner packId' version' there => ?_⟩
      simp only [Dict.get?_set] at there
      split at there
      · rename_i same
        cases there
        cases same
        exact Option.isSome_iff_exists.mpr ⟨m, installed⟩
      · exact sound.pinned owner packId' version' there

/-- The same packs of a tenant, with the same flags and channels. -/
structure Agree (tenantId : Uuid) (t t' : PackTables) : Prop where
  packs : ∀ key, key.1 = tenantId → t'.packs.get? key = t.packs.get? key
  states : ∀ key, key.1 = tenantId → t'.states.get? key = t.states.get? key
  channels : ∀ packId, t'.channels.get? (tenantId, packId) = t.channels.get? (tenantId, packId)

/-! ## Building the tables again -/

section
variable (t : PackTables) (tenantId : Uuid)

/-- Installs a pack of the tenant and gives it the flags it has in the tables. -/
def packOps (m : CapabilityPackManifest) : List PackOp :=
  match t.states.get? (tenantId, m.packId, m.version) with
  | none => [.install tenantId m]
  | some f =>
    .install tenantId m ::
      (if f.revoked = some true then [.revoke tenantId m.packId m.version 0 "" 0 0] else []) ++
      [.setEnabled tenantId m.packId m.version (f.enabled.getD true) 0 "" 0 0]

/-- Pins a pack of the tenant where the tables do. -/
def channelOps (packId : String) : List PackOp :=
  match t.channels.get? (tenantId, packId) with
  | none => []
  | some version => [.setStable tenantId packId version 0 0 0]

/-- The tables of the tenant, built again with its packs in this order. -/
def rebuild (items : List CapabilityPackManifest) : List PackOp :=
  items.flatMap (t.packOps tenantId) ++
    (items.map (·.packId)).flatMap (t.channelOps tenantId)

variable {t : PackTables} {tenantId : Uuid}

/-- A pack that is not there yet is installed with the flags it has in the tables. -/
theorem foldl_packOps (sound : t.Sound) {m : CapabilityPackManifest}
    (there : t.packs.get? (tenantId, m.packId, m.version) = some m) {t' : PackTables}
    (fresh : t'.packs.get? (tenantId, m.packId, m.version) = none)
    (bare : t'.states.get? (tenantId, m.packId, m.version) = none) :
    ((t.packOps tenantId m).foldl apply t').packs =
        t'.packs.set (tenantId, m.packId, m.version) m ∧
      (∀ key, ((t.packOps tenantId m).foldl apply t').states.get? key =
        if key = (tenantId, m.packId, m.version) then t.states.get? key
        else t'.states.get? key) ∧
      ((t.packOps tenantId m).foldl apply t').channels = t'.channels := by
  have marked : t.states.get? (tenantId, m.packId, m.version) ≠ none := by
    intro none
    rw [(sound.flagged _).mp none] at there
    cases there
  obtain ⟨f, found⟩ := Option.ne_none_iff_exists'.mp marked
  obtain ⟨enabled, revoked, rfl⟩ := sound.flags _ f found
  refine ⟨?_, fun key => ?_, ?_⟩
  · cases revoked <;> simp [packOps, found, apply, flag, fresh]
  · by_cases own : key = (tenantId, m.packId, m.version)
    · subst own
      cases revoked <;> simp [packOps, found, apply, flag, fresh, bare]
    · cases revoked <;> simp [packOps, found, apply, flag, fresh, Dict.get?_set, own]
  · cases revoked <;> simp [packOps, found, apply, flag, fresh]

/-- The tenant's packs of a list are installed in its order, with the flags they have in the
tables. -/
theorem foldl_packs (t' : PackTables) (sound : t.Sound) {items : List CapabilityPackManifest}
    (there : ∀ m ∈ items, t.packs.get? (tenantId, m.packId, m.version) = some m)
    (nodup : (items.map fun m => (m.packId, m.version)).Nodup)
    (fresh : ∀ m ∈ items, t'.packs.get? (tenantId, m.packId, m.version) = none ∧
      t'.states.get? (tenantId, m.packId, m.version) = none) :
    ((items.flatMap (t.packOps tenantId)).foldl apply t').packs.entries =
        t'.packs.entries ++ items.map (fun m => ((tenantId, m.packId, m.version), m)) ∧
      (∀ key, ((items.flatMap (t.packOps tenantId)).foldl apply t').states.get? key =
        if ∃ m ∈ items, key = (tenantId, m.packId, m.version) then t.states.get? key
        else t'.states.get? key) ∧
      ((items.flatMap (t.packOps tenantId)).foldl apply t').channels = t'.channels := by
  induction items generalizing t' with
  | nil => simp
  | cons m rest ih =>
    obtain ⟨first, others⟩ := List.forall_mem_cons.mp there
    obtain ⟨⟨absent, bare⟩, fresh⟩ := List.forall_mem_cons.mp fresh
    obtain ⟨different, nodup⟩ := List.nodup_cons.mp nodup
    obtain ⟨packs, states, channels⟩ := foldl_packOps sound first absent bare
    rw [List.flatMap_cons, List.foldl_append]
    have apart (m' : CapabilityPackManifest) (listed : m' ∈ rest) :
        (tenantId, m'.packId, m'.version) ≠ (tenantId, m.packId, m.version) := by
      intro same
      exact different (List.mem_map.mpr ⟨m', listed, congrArg Prod.snd same⟩)
    have still : ∀ m' ∈ rest,
        ((t.packOps tenantId m).foldl apply t').packs.get? (tenantId, m'.packId, m'.version) =
          none ∧
        ((t.packOps tenantId m).foldl apply t').states.get? (tenantId, m'.packId, m'.version) =
          none := by
      intro m' listed
      rw [packs, states, Dict.get?_set_ne _ _ (apart m' listed), if_neg (apart m' listed)]
      exact fresh m' listed
    obtain ⟨packs', states', channels'⟩ := ih _ others nodup still
    refine ⟨?_, fun key => ?_, channels'.trans channels⟩
    · rw [packs', packs, Dict.entries_set absent]
      simp
    · rw [states', states]
      by_cases listed : ∃ m' ∈ rest, key = (tenantId, m'.packId, m'.version)
      · rw [if_pos listed, if_pos]
        obtain ⟨m', there, here⟩ := listed
        exact ⟨m', List.mem_cons_of_mem _ there, here⟩
      · rw [if_neg listed]
        simp only [List.exists_mem_cons_iff, listed, or_false]

theorem foldl_channels (packIds : List String) (t' : PackTables)
    (installed : ∀ packId ∈ packIds, ∀ version, t.channels.get? (tenantId, packId) = some version →
      (t'.packs.get? (tenantId, packId, version)).isSome = true) :
    ((packIds.flatMap (t.channelOps tenantId)).foldl apply t').packs = t'.packs ∧
      ((packIds.flatMap (t.channelOps tenantId)).foldl apply t').states = t'.states ∧
      ∀ packId, ((packIds.flatMap (t.channelOps tenantId)).foldl apply t').channels.get?
          (tenantId, packId) =
        (if packId ∈ packIds then t.channels.get? (tenantId, packId) else none).or
          (t'.channels.get? (tenantId, packId)) := by
  induction packIds generalizing t' with
  | nil => simp
  | cons first rest ih =>
    obtain ⟨here, others⟩ := List.forall_mem_cons.mp installed
    rw [List.flatMap_cons, List.foldl_append]
    cases pin : t.channels.get? (tenantId, first) with
    | none =>
      simp only [channelOps, pin, List.foldl_nil]
      obtain ⟨packs, states, channels⟩ := ih t' others
      refine ⟨packs, states, fun packId => ?_⟩
      rw [channels]
      by_cases same : packId = first
      · subst same
        simp [pin]
      · simp [same]
    | some version =>
      obtain ⟨m, found⟩ := Option.isSome_iff_exists.mp (here version pin)
      simp only [channelOps, pin, List.foldl_cons, List.foldl_nil, apply, found]
      obtain ⟨packs, states, channels⟩ :=
        ih { t' with channels := t'.channels.set (tenantId, first) version } others
      refine ⟨packs, states, fun packId => ?_⟩
      rw [channels]
      by_cases same : packId = first
      · subst same
        by_cases again : packId ∈ rest <;> simp [pin, again]
      · simp [same, Dict.get?_set]

/-- The tables of a tenant can be built again with its packs in any order. -/
theorem foldl_rebuild (sound : t.Sound)
    (keys : ∀ key m, t.packs.get? key = some m → key.2 = (m.packId, m.version))
    {items : List CapabilityPackManifest}
    (all : ∀ m, m ∈ items ↔ t.packs.get? (tenantId, m.packId, m.version) = some m)
    (nodup : (items.map fun m => (m.packId, m.version)).Nodup) :
    ((t.rebuild tenantId items).foldl apply {}).packs.entries =
        items.map (fun m => ((tenantId, m.packId, m.version), m)) ∧
      Agree tenantId t ((t.rebuild tenantId items).foldl apply {}) := by
  obtain ⟨packs, states, channels⟩ := foldl_packs {} sound (fun m => (all m).mp) nodup
    fun _ _ => ⟨rfl, rfl⟩
  have empty : ({} : PackTables).packs.entries = [] := rfl
  rw [empty, List.nil_append] at packs
  set front := (items.flatMap (t.packOps tenantId)).foldl apply {}
  have found (key : PackKey) (own : key.1 = tenantId) :
      front.packs.get? key = t.packs.get? key := by
    refine Option.ext fun m => ?_
    rw [Dict.get?_eq_some, packs, List.mem_map]
    constructor
    · rintro ⟨m', listed, same⟩
      cases same
      exact (all m).mp listed
    · intro there
      have named := keys key m there
      obtain ⟨owner, packId, version⟩ := key
      cases named
      cases own
      exact ⟨m, (all m).mpr there, rfl⟩
  have installed (packId version : String)
      (pin : t.channels.get? (tenantId, packId) = some version) :
      (front.packs.get? (tenantId, packId, version)).isSome = true := by
    rw [found _ rfl]
    exact sound.pinned tenantId packId version pin
  obtain ⟨packs', states', channels'⟩ := foldl_channels (items.map (·.packId)) front
    fun packId _ => installed packId
  rw [rebuild, List.foldl_append, packs']
  refine ⟨packs, ⟨fun key own => ?_, fun key own => ?_, fun packId => ?_⟩⟩
  · rw [packs', found key own]
  · rw [states', states]
    split
    · rfl
    · rename_i missing
      refine ((sound.flagged key).mpr ?_).symm
      rw [Option.eq_none_iff_forall_ne_some]
      intro m there
      have named := keys key m there
      obtain ⟨owner, packId, version⟩ := key
      cases named
      cases own
      exact missing ⟨m, (all m).mpr there, rfl⟩
  · rw [channels', channels]
    have none : ({} : PackTables).channels.get? (tenantId, packId) = none := rfl
    rw [none, Option.or_none]
    split
    · rfl
    · rename_i missing
      symm
      rw [Option.eq_none_iff_forall_ne_some]
      intro version pin
      obtain ⟨m, there⟩ := Option.isSome_iff_exists.mp (sound.pinned tenantId packId version pin)
      have named := keys _ m there
      cases named
      exact missing (List.mem_map.mpr ⟨m, (all m).mpr there, rfl⟩)

end

end PackTables

namespace Store
open PackTables

variable {checkSchema : Json → Except Exc Unit} {s s' : Store} {tenantId : Uuid}

/-- `get_goal_type`; `registered` are the goal types of the packs that are registered for all
tenants. -/
def getGoalType (registered : Dict String GoalTypeManifest) (tenantId : Uuid) (goalType : String)
    (s : Store) : Except Exc GoalTypeManifest :=
  match s.tenantGoalTypes.get? (tenantId, goalType) with
  | some item => .ok item
  | none =>
    match registered.get? goalType with
    | some item => .ok item
    | none => .error (.recordNotFound ("goal type " ++ goalType ++ " was not found"))

/-- The goal type that is found, if one is. -/
def foundType (registered : Dict String GoalTypeManifest) (tenantId : Uuid) (goalType : String)
    (s : Store) : Option GoalTypeManifest :=
  (s.tenantGoalTypes.get? (tenantId, goalType)).or (registered.get? goalType)

theorem getGoalType_eq_iff {registered : Dict String GoalTypeManifest} {name : String} :
    s'.getGoalType registered tenantId name = s.getGoalType registered tenantId name ↔
      s'.foundType registered tenantId name = s.foundType registered tenantId name := by
  have read (s : Store) : s.getGoalType registered tenantId name =
      match s.foundType registered tenantId name with
      | some item => .ok item
      | none => .error (.recordNotFound ("goal type " ++ name ++ " was not found")) := by
    unfold getGoalType foundType
    cases s.tenantGoalTypes.get? (tenantId, name) with
    | some item => rfl
    | none => cases registered.get? name <;> rfl
  rw [read s, read s']
  cases s.foundType registered tenantId name with
  | none => cases s'.foundType registered tenantId name <;> simp
  | some item => cases s'.foundType registered tenantId name <;> simp

/-! ## The newest versions of a pack -/

/-- A version that counts for the tenant, such that no other of its pack is newer. -/
def IsNewest (s : Store) (tenantId : Uuid) (m : CapabilityPackManifest) : Prop :=
  m ∈ s.candidates tenantId ∧
    ∀ m' ∈ s.candidates tenantId, m'.packId = m.packId → m'.rank ≤ m.rank

theorem isNewest_of_resolved {packId : String} {m : CapabilityPackManifest}
    (found : s.resolvedVersion tenantId packId = some m) :
    s.IsNewest tenantId m ∧ m.packId = packId := by
  have listed := List.argmax_mem (Option.mem_def.mpr found)
  simp only [List.mem_filter, decide_eq_true_eq] at listed
  obtain ⟨listed, rfl⟩ := listed
  refine ⟨⟨listed, fun m' there same => ?_⟩, rfl⟩
  refine List.le_of_mem_argmax ?_ (Option.mem_def.mpr found)
  exact List.mem_filter.mpr ⟨there, decide_eq_true same⟩

theorem resolved_of_isNewest {m : CapabilityPackManifest} (newest : s.IsNewest tenantId m) :
    ∃ m', s.resolvedVersion tenantId m.packId = some m' := by
  apply Option.ne_none_iff_exists'.mp
  intro none
  have listed : m ∈ (s.candidates tenantId).filter (·.packId = m.packId) :=
    List.mem_filter.mpr ⟨newest.1, decide_eq_true rfl⟩
  rw [List.argmax_eq_none.mp none] at listed
  cases listed

theorem lets_of_agree (agree : Agree tenantId s.tables s'.tables)
    (key : PackKey) : s'.lets tenantId key = s.lets tenantId key := by
  by_cases own : key.1 = tenantId
  · have flags : s'.packStates.get? key = s.packStates.get? key := agree.states key own
    have pin : s'.packChannels.get? (tenantId, key.2.1) = s.packChannels.get? (tenantId, key.2.1) :=
      agree.channels key.2.1
    simp only [Store.lets, packIsListable, flags, pin]
  · simp [Store.lets, own]

theorem mem_candidates_of_agree (agree : Agree tenantId s.tables s'.tables)
    {m : CapabilityPackManifest} : m ∈ s'.candidates tenantId ↔ m ∈ s.candidates tenantId := by
  rw [mem_candidates, mem_candidates]
  refine exists_congr fun key => ?_
  rw [lets_of_agree agree]
  refine and_congr_left fun counts => ?_
  simp only [lets, Bool.and_eq_true, decide_eq_true_eq] at counts
  have packs : s'.tenantPacks.get? key = s.tenantPacks.get? key := agree.packs key counts.1.1
  rw [packs]

theorem isNewest_of_agree (agree : Agree tenantId s.tables s'.tables) {m : CapabilityPackManifest} :
    s'.IsNewest tenantId m ↔ s.IsNewest tenantId m := by
  simp only [IsNewest, mem_candidates_of_agree agree]

/-- What a name resolves to does not depend on which newest version each pack resolves to: no newest
version has a goal type of the name, other than the one registered for all tenants; or all newest
versions of some pack have the same one, and no newest version of the packs behind it another. -/
def Settled (registered : Dict String GoalTypeManifest) (tenantId : Uuid) (name : String)
    (s : Store) : Prop :=
  (∀ m, s.IsNewest tenantId m → ∀ g ∈ m.goalTypes, g.goalType = name →
    registered.get? name = some g) ∨
  ∃ m₀ g, s.IsNewest tenantId m₀ ∧ g.goalType = name ∧
    (∀ m, s.IsNewest tenantId m → m.packId = m₀.packId → g ∈ m.goalTypes) ∧
    ∀ m, s.IsNewest tenantId m → m₀.packId ≤ m.packId →
      ∀ g' ∈ m.goalTypes, g'.goalType = name → g' = g

theorem foundType_of_unnamed (indexed : s.Indexed checkSchema)
    {registered : Dict String GoalTypeManifest} {name : String}
    (unnamed : ∀ m, s.IsNewest tenantId m → ∀ g ∈ m.goalTypes, g.goalType = name →
      registered.get? name = some g) :
    s.foundType registered tenantId name = registered.get? name := by
  unfold foundType
  cases shown : s.tenantGoalTypes.get? (tenantId, name) with
  | none => exact Option.none_or
  | some g =>
    obtain ⟨packId, m, found, there, named, _⟩ := (indexed.shows tenantId name g).mp shown
    rw [unnamed m (isNewest_of_resolved found).1 g there named]
    rfl

theorem foundType_of_named (indexed : s.Indexed checkSchema)
    {registered : Dict String GoalTypeManifest} {name : String} {m₀ : CapabilityPackManifest}
    {g : GoalTypeManifest} (newest : s.IsNewest tenantId m₀) (named : g.goalType = name)
    (every : ∀ m, s.IsNewest tenantId m → m.packId = m₀.packId → g ∈ m.goalTypes)
    (behind : ∀ m, s.IsNewest tenantId m → m₀.packId ≤ m.packId →
      ∀ g' ∈ m.goalTypes, g'.goalType = name → g' = g) :
    s.foundType registered tenantId name = some g := by
  obtain ⟨m, found⟩ := resolved_of_isNewest newest
  obtain ⟨newest', same⟩ := isNewest_of_resolved found
  have declares : ∃ g ∈ m.goalTypes, g.goalType = name := ⟨g, every m newest' same, named⟩
  obtain ⟨g', shows⟩ := shows_of_declared indexed.kept found declares
  have shown := (indexed.shows tenantId name g').mpr shows
  obtain ⟨packId, m', found', there, named', last⟩ := shows
  obtain ⟨newest'', rfl⟩ := isNewest_of_resolved found'
  have same := behind m' newest'' (last m₀.packId m found declares) g' there named'
  rw [foundType, shown, same]
  rfl

/-- Where it is settled, two stores with the same tables of the tenant find the same. -/
theorem Settled.foundType_eq {registered : Dict String GoalTypeManifest} {name : String}
    (settled : s.Settled registered tenantId name) (indexed : s.Indexed checkSchema)
    (indexed' : s'.Indexed checkSchema) (agree : Agree tenantId s.tables s'.tables) :
    s'.foundType registered tenantId name = s.foundType registered tenantId name := by
  obtain unnamed | ⟨m₀, g, newest, named, every, behind⟩ := settled
  · rw [foundType_of_unnamed indexed unnamed]
    exact foundType_of_unnamed indexed' fun m newest =>
      unnamed m ((isNewest_of_agree agree).mp newest)
  · rw [foundType_of_named indexed newest named every behind]
    exact foundType_of_named indexed' ((isNewest_of_agree agree).mpr newest) named
      (fun m newest => every m ((isNewest_of_agree agree).mp newest))
      fun m newest => behind m ((isNewest_of_agree agree).mp newest)

/-- A name is settled where no two newest versions of a pack compare equal. -/
theorem settled_of_distinct (indexed : s.Indexed checkSchema)
    (distinct : ∀ m m', s.IsNewest tenantId m → s.IsNewest tenantId m' → m.packId = m'.packId →
      m.version = m'.version) (registered : Dict String GoalTypeManifest) (name : String) :
    s.Settled registered tenantId name := by
  classical
  have one (m m' : CapabilityPackManifest) (newest : s.IsNewest tenantId m)
      (newest' : s.IsNewest tenantId m') (same : m.packId = m'.packId) : m = m' := by
    obtain ⟨key, stored, counts⟩ := mem_candidates.mp newest.1
    obtain ⟨key', stored', counts'⟩ := mem_candidates.mp newest'.1
    simp only [lets, Bool.and_eq_true, decide_eq_true_eq] at counts counts'
    have keys : key = key' := by
      refine Prod.ext (counts.1.1.trans counts'.1.1.symm) ?_
      rw [indexed.kept.keys key m stored, indexed.kept.keys key' m' stored', same,
        distinct m m' newest newest' same]
    rw [keys, stored'] at stored
    exact (Option.some.inj stored).symm
  -- The last pack whose newest version declares the name.
  cases last : ((s.candidates tenantId).filter fun m => s.IsNewest tenantId m ∧
      ∃ g ∈ m.goalTypes, g.goalType = name).argmax (·.packId) with
  | none =>
    refine .inl fun m newest g there named => ?_
    have listed : m ∈ (s.candidates tenantId).filter fun m => s.IsNewest tenantId m ∧
        ∃ g ∈ m.goalTypes, g.goalType = name :=
      List.mem_filter.mpr ⟨newest.1, decide_eq_true ⟨newest, g, there, named⟩⟩
    rw [List.argmax_eq_none.mp last] at listed
    cases listed
  | some m₀ =>
    obtain ⟨_, holds⟩ := List.mem_filter.mp (List.argmax_mem (Option.mem_def.mpr last))
    obtain ⟨newest, g, there, named⟩ := of_decide_eq_true holds
    refine .inr ⟨m₀, g, newest, named, fun m newest' same => ?_,
      fun m newest' behind g' there' named' => ?_⟩
    · rw [one m m₀ newest' newest same]
      exact there
    · have before : m.packId ≤ m₀.packId := by
        refine List.le_of_mem_argmax (List.mem_filter.mpr ⟨newest'.1, ?_⟩) (Option.mem_def.mpr last)
        exact decide_eq_true ⟨newest', g', there', named'⟩
      obtain rfl := one m m₀ newest' newest (le_antisymm before behind)
      obtain ⟨key, stored, _⟩ := mem_candidates.mp newest.1
      have unique :=
        (CapabilityPackManifest.accepted checkSchema (indexed.kept.parsed key m stored)).2.2
      exact List.inj_on_of_nodup_map unique there' there (named'.trans named.symm)

/-- A version of a pack that speaks against a result: one that declares the name with something
else, or no newest version does; and then one that does not declare it, or all of them do. -/
def Against (s : Store) (tenantId : Uuid) (name : String) (result : Option GoalTypeManifest)
    (packId : String) (m : CapabilityPackManifest) : Prop :=
  (∃ g ∈ m.goalTypes, g.goalType = name ∧ some g ≠ result) ∨
  (∀ m', s.IsNewest tenantId m' → m'.packId = packId →
    ∀ g ∈ m'.goalTypes, g.goalType = name → some g = result) ∧
  ((∀ g ∈ m.goalTypes, g.goalType ≠ name) ∨
    ∀ m', s.IsNewest tenantId m' → m'.packId = packId → ∃ g ∈ m'.goalTypes, g.goalType = name)

theorem exists_against (name : String) (result : Option GoalTypeManifest)
    {m : CapabilityPackManifest} (newest : s.IsNewest tenantId m) :
    ∃ m', s.IsNewest tenantId m' ∧ m'.packId = m.packId ∧
      s.Against tenantId name result m.packId m' := by
  by_cases other : ∃ m', s.IsNewest tenantId m' ∧ m'.packId = m.packId ∧
      ∃ g ∈ m'.goalTypes, g.goalType = name ∧ some g ≠ result
  · obtain ⟨m', newest', own, differs⟩ := other
    exact ⟨m', newest', own, .inl differs⟩
  · have alike : ∀ m', s.IsNewest tenantId m' → m'.packId = m.packId →
        ∀ g ∈ m'.goalTypes, g.goalType = name → some g = result := by
      intro m' newest' own g there named
      by_contra differs
      exact other ⟨m', newest', own, g, there, named, differs⟩
    by_cases silent : ∃ m', s.IsNewest tenantId m' ∧ m'.packId = m.packId ∧
        ∀ g ∈ m'.goalTypes, g.goalType ≠ name
    · obtain ⟨m', newest', own, nothing⟩ := silent
      exact ⟨m', newest', own, .inr ⟨alike, .inl nothing⟩⟩
    · refine ⟨m, newest, rfl, .inr ⟨alike, .inr fun m' newest' own => ?_⟩⟩
      by_contra nothing
      refine silent ⟨m', newest', own, fun g there named => ?_⟩
      exact nothing ⟨g, there, named⟩

/-- A choice of newest versions against a result. -/
theorem exists_pick (s : Store) (tenantId : Uuid) (name : String)
    (result : Option GoalTypeManifest) :
    ∃ pick : String → Option CapabilityPackManifest,
      (∀ packId m, pick packId = some m → s.IsNewest tenantId m ∧ m.packId = packId ∧
        s.Against tenantId name result packId m) ∧
      ∀ m, s.IsNewest tenantId m → (pick m.packId).isSome = true := by
  have each (packId : String) : ∃ picked : Option CapabilityPackManifest,
      (∀ m, picked = some m → s.IsNewest tenantId m ∧ m.packId = packId ∧
        s.Against tenantId name result packId m) ∧
      ∀ m, s.IsNewest tenantId m → m.packId = packId → picked.isSome = true := by
    by_cases there : ∃ m, s.IsNewest tenantId m ∧ m.packId = packId
    · obtain ⟨m, newest, rfl⟩ := there
      obtain ⟨m', against⟩ := exists_against name result newest
      refine ⟨some m', ?_, fun _ _ _ => rfl⟩
      rintro _ ⟨⟩
      exact against
    · refine ⟨none, fun m picked => ?_, fun m newest own => absurd ⟨m, newest, own⟩ there⟩
      cases picked
  choose pick fits all using each
  exact ⟨pick, fits, fun m newest => all m.packId m newest rfl⟩

/-- A newest version that stands in front of the others of its pack is the one it resolves to. -/
theorem resolvedVersion_of_front {front rest : List CapabilityPackManifest}
    (entries : s.tenantPacks.entries =
      (front ++ rest).map fun m => ((tenantId, m.packId, m.version), m))
    {m : CapabilityPackManifest} (newest : s.IsNewest tenantId m) (there : m ∈ front)
    (only : ∀ m' ∈ front, m'.packId = m.packId → m' = m) :
    s.resolvedVersion tenantId m.packId = some m := by
  let counts (m' : CapabilityPackManifest) : Bool :=
    s.lets tenantId (tenantId, m'.packId, m'.version)
  have candidates : s.candidates tenantId = front.filter counts ++ rest.filter counts := by
    rw [candidates, candidatesIn, entries, List.filter_map, List.map_map, ← List.filter_append]
    exact List.map_id _
  have listed : m ∈ (front.filter counts).filter (·.packId = m.packId) := by
    obtain ⟨key, stored, lets⟩ := mem_candidates.mp newest.1
    rw [Dict.get?_eq_some, entries, List.mem_map] at stored
    obtain ⟨m', _, same⟩ := stored
    cases same
    exact List.mem_filter.mpr ⟨List.mem_filter.mpr ⟨there, lets⟩, decide_eq_true rfl⟩
  rw [resolvedVersion, candidates, List.filter_append]
  cases first : (front.filter counts).filter (·.packId = m.packId) with
  | nil =>
    rw [first] at listed
    cases listed
  | cons m' more =>
    have inside : m' ∈ (front.filter counts).filter (·.packId = m.packId) :=
      first ▸ List.mem_cons_self
    obtain ⟨inside, same⟩ := List.mem_filter.mp inside
    obtain rfl := only m' (List.mem_filter.mp inside).1 (of_decide_eq_true same)
    refine argmax_cons_of_le fun m'' behind => ?_
    have among : m'' ∈ (s.candidates tenantId).filter (·.packId = m'.packId) := by
      rw [candidates, List.filter_append, first]
      exact List.mem_cons_of_mem _ behind
    obtain ⟨candidate, named⟩ := List.mem_filter.mp among
    exact newest.2 m'' candidate (of_decide_eq_true named)

end Store

namespace PackService
open Store PackTables

variable {checkSchema : Json → Except Exc Unit} {s : Store} {tenantId : Uuid}

theorem step_sound (sound : s.tables.Sound) (c : Call) (accepted : c.Accepted checkSchema) :
    (step s c).tables.Sound := by
  obtain same | ⟨op, _, _, done⟩ := step_cases s c accepted
  · rw [same]
    exact sound
  · rw [done, op.run_tables]
    exact sound.apply op

theorem after_sound (sound : s.tables.Sound) {calls : List Call}
    (accepted : ∀ c ∈ calls, c.Accepted checkSchema) : (after step s calls).tables.Sound := by
  induction calls generalizing s with
  | nil => exact sound
  | cons c rest ih =>
    obtain ⟨first, others⟩ := List.forall_mem_cons.mp accepted
    exact ih (step_sound sound c first) others

theorem sound_empty : ({} : Store).tables.Sound where
  flagged _ := iff_of_true rfl rfl
  flags _ _ found := nomatch found
  pinned _ _ _ found := nomatch found

theorem after_tables (ops : List PackOp) (s : Store) :
    (after step s (ops.map .store)).tables = ops.foldl apply s.tables := by
  induction ops generalizing s with
  | nil => rfl
  | cons op rest ih =>
    have first : (step s (.store op)).tables = s.tables.apply op := op.run_tables s
    rw [List.foldl_cons, ← first]
    exact ih _

theorem rebuild_accepted {t : PackTables} {items : List CapabilityPackManifest}
    (parsed : ∀ m ∈ items, m.check checkSchema = .ok ()) :
    ∀ op ∈ t.rebuild tenantId items, op.Accepted checkSchema := by
  intro op listed
  obtain listed | listed := List.mem_append.mp listed
  · obtain ⟨m, there, listed⟩ := List.mem_flatMap.mp listed
    unfold packOps at listed
    split at listed
    · rw [List.mem_singleton.mp listed]
      exact parsed m there
    · obtain listed | listed := List.mem_append.mp listed
      · obtain rfl | listed := List.mem_cons.mp listed
        · exact parsed m there
        · split at listed
          · rw [List.mem_singleton.mp listed]
            trivial
          · cases listed
      · rw [List.mem_singleton.mp listed]
        trivial
  · obtain ⟨packId, _, listed⟩ := List.mem_flatMap.mp listed
    unfold channelOps at listed
    split at listed
    · cases listed
    · rw [List.mem_singleton.mp listed]
      trivial

/-- The packs of a tenant as a list, each once. -/
theorem exists_installed (kept : s.PacksKept checkSchema) (tenantId : Uuid) :
    ∃ items : List CapabilityPackManifest,
      (∀ m, m ∈ items ↔ s.tenantPacks.get? (tenantId, m.packId, m.version) = some m) ∧
      (items.map fun m => (m.packId, m.version)).Nodup := by
  have stored (e : PackKey × CapabilityPackManifest)
      (listed : e ∈ s.tenantPacks.entries.filter (·.1.1 = tenantId)) :
      e.1 = (tenantId, e.2.packId, e.2.version) ∧ s.tenantPacks.get? e.1 = some e.2 := by
    obtain ⟨there, own⟩ := List.mem_filter.mp listed
    have found := (s.tenantPacks.get?_eq_some e.1 e.2).mpr there
    exact ⟨Prod.ext (of_decide_eq_true own) (kept.keys _ _ found), found⟩
  refine ⟨(s.tenantPacks.entries.filter (·.1.1 = tenantId)).map (·.2), fun m => ?_, ?_⟩
  · rw [List.mem_map]
    constructor
    · rintro ⟨e, listed, rfl⟩
      obtain ⟨own, found⟩ := stored e listed
      exact own ▸ found
    · intro found
      refine ⟨((tenantId, m.packId, m.version), m), List.mem_filter.mpr ⟨?_, by simp⟩, rfl⟩
      exact (s.tenantPacks.get?_eq_some _ m).mp found
  · rw [List.map_map]
    refine List.Nodup.map_on (fun e listed e' listed' same => ?_)
      ((List.Nodup.of_map _ s.tenantPacks.nodup).filter _)
    obtain ⟨own, found⟩ := stored e listed
    obtain ⟨own', found'⟩ := stored e' listed'
    have keys : e.1 = e'.1 := by
      rw [own, own']
      exact congrArg (Prod.mk tenantId) same
    rw [keys, found'] at found
    exact Prod.ext keys (Option.some.inj found).symm

/-- Whichever of its newest versions each pack is to resolve to, some history with the same tables
of the tenant resolves to it. -/
theorem exists_history (sound : s.tables.Sound) (kept : s.PacksKept checkSchema)
    {pick : String → Option CapabilityPackManifest}
    (fits : ∀ packId m, pick packId = some m → s.IsNewest tenantId m ∧ m.packId = packId)
    (all : ∀ m, s.IsNewest tenantId m → (pick m.packId).isSome = true) :
    ∃ calls : List Call, (∀ c ∈ calls, c.Accepted checkSchema) ∧
      Agree tenantId s.tables (after step {} calls).tables ∧
      ∀ packId, (after step {} calls).resolvedVersion tenantId packId = pick packId := by
  classical
  obtain ⟨items, listed, nodup⟩ := exists_installed kept tenantId
  -- The picked versions are installed before the others.
  let chosen (m : CapabilityPackManifest) : Bool := pick m.packId = some m
  set front := items.filter chosen
  set rest := items.filter fun m => !chosen m
  have order : (front ++ rest).Perm items := List.filter_append_perm chosen items
  obtain ⟨entries, agree⟩ := foldl_rebuild sound kept.keys
    (fun m => order.mem_iff.trans (listed m)) ((order.map _).nodup_iff.mpr nodup)
  set ops := s.tables.rebuild tenantId (front ++ rest) with names
  have tables : (after step {} (ops.map .store)).tables = ops.foldl apply {} := after_tables ops {}
  rw [← tables] at entries agree
  refine ⟨ops.map .store, ?_, agree, fun packId => ?_⟩
  · intro c listed'
    obtain ⟨op, there, rfl⟩ := List.mem_map.mp listed'
    refine rebuild_accepted (fun m inside => ?_) op (names ▸ there)
    exact kept.parsed _ m ((listed m).mp (order.mem_iff.mp inside))
  · cases picked : pick packId with
    | none =>
      rw [Option.eq_none_iff_forall_ne_some]
      intro m found
      obtain ⟨newest, rfl⟩ := isNewest_of_resolved found
      have some := all m ((isNewest_of_agree agree).mp newest)
      rw [picked] at some
      cases some
    | some m =>
      obtain ⟨newest, rfl⟩ := fits packId m picked
      refine resolvedVersion_of_front entries ((isNewest_of_agree agree).mpr newest) ?_ ?_
      · obtain ⟨key, stored, lets⟩ := mem_candidates.mp newest.1
        have own := kept.keys key m stored
        simp only [Store.lets, Bool.and_eq_true, decide_eq_true_eq] at lets
        obtain ⟨owner, packId, version⟩ := key
        obtain ⟨⟨rfl, _⟩, _⟩ := lets
        cases own
        exact List.mem_filter.mpr ⟨(listed m).mpr stored, decide_eq_true picked⟩
      · intro m' inside same
        have picked' : pick m'.packId = some m' := of_decide_eq_true (List.mem_filter.mp inside).2
        rw [same, picked] at picked'
        exact (Option.some.inj picked').symm

/-- After any calls every history with the same tables of a tenant finds the same goal type for a
name exactly when the name is settled. -/
theorem resolution_iff (registered : Dict String GoalTypeManifest) (calls : List Call)
    (accepted : ∀ c ∈ calls, c.Accepted checkSchema) (tenantId : Uuid) (name : String) :
    (∀ calls' : List Call, (∀ c ∈ calls', c.Accepted checkSchema) →
      Agree tenantId (after step {} calls).tables (after step {} calls').tables →
        (after step {} calls').getGoalType registered tenantId name =
          (after step {} calls).getGoalType registered tenantId name) ↔
      (after step {} calls).Settled registered tenantId name := by
  have indexed := after_indexed indexed_empty accepted
  have sound := after_sound sound_empty accepted
  set s := after step {} calls
  constructor
  · intro determined
    obtain ⟨pick, fits, all⟩ :=
      s.exists_pick tenantId name (s.foundType registered tenantId name)
    obtain ⟨calls', accepted', agree, resolves⟩ := exists_history sound indexed.kept
      (fun packId m picked => ⟨(fits packId m picked).1, (fits packId m picked).2.1⟩) all
    have against (packId : String) (m : CapabilityPackManifest) (picked : pick packId = some m) :=
      (fits packId m picked).2.2
    have indexed' := after_indexed indexed_empty accepted'
    have same := getGoalType_eq_iff.mp (determined calls' accepted' agree)
    set s' := after step {} calls'
    set o := s.foundType registered tenantId name
    have picked (m : CapabilityPackManifest) (newest : s.IsNewest tenantId m) :
        ∃ m', pick m.packId = some m' := Option.isSome_iff_exists.mp (all m newest)
    unfold foundType at same
    cases shown : s'.tenantGoalTypes.get? (tenantId, name) with
    | none =>
      rw [shown, Option.none_or] at same
      refine .inl fun m newest g there named => ?_
      obtain ⟨m', pick_eq⟩ := picked m newest
      obtain ⟨g', there', named', _⟩ | ⟨alike, _⟩ := against _ m' pick_eq
      · obtain ⟨g'', shows⟩ := shows_of_declared indexed'.kept ((resolves _).trans pick_eq)
          ⟨g', there', named'⟩
        rw [(indexed'.shows tenantId name g'').mpr shows] at shown
        cases shown
      · rw [same, alike m newest rfl g there named]
    | some g =>
      rw [shown, Option.some_or] at same
      obtain ⟨packId, m, found, there, named, last⟩ := (indexed'.shows tenantId name g).mp shown
      have pick_eq := (resolves packId).symm.trans found
      obtain ⟨newest, rfl, _⟩ := fits packId m pick_eq
      obtain ⟨g', there', named', differs⟩ | ⟨alike, declared⟩ := against _ m pick_eq
      · have one := goalType_unique indexed'.kept found there' there (named'.trans named.symm)
        exact absurd same (one ▸ differs)
      have every := declared.resolve_left fun nothing => nothing g there named
      refine .inr ⟨m, g, newest, named, fun m' newest' own => ?_,
        fun m' newest' behind g' there' named' => ?_⟩
      · obtain ⟨g', there', named'⟩ := every m' newest' own
        have one := Option.some.inj (same.trans (alike m' newest' own g' there' named').symm)
        exact one ▸ there'
      · obtain ⟨m'', pick_eq'⟩ := picked m' newest'
        obtain ⟨g'', there'', named'', differs⟩ | ⟨alike', _⟩ := against _ m'' pick_eq'
        · -- The pack would be shown in place of the one that is.
          have before := last m'.packId m'' ((resolves _).trans pick_eq') ⟨g'', there'', named''⟩
          obtain ⟨newest'', own, _⟩ := fits _ m'' pick_eq'
          have own : m''.packId = m.packId := own.trans (le_antisymm before behind)
          exact absurd (alike m'' newest'' own g'' there'' named'') differs
        · exact Option.some.inj ((alike' m' newest' rfl g' there' named').trans same.symm)
  · intro settled calls' accepted' agree
    have indexed' := after_indexed indexed_empty accepted'
    exact getGoalType_eq_iff.mpr (settled.foundType_eq indexed indexed' agree)

namespace Sample

/-- The same versions, of which the second declares another budget. -/
def respelled : CapabilityPackManifest :=
  { weather "01.0.0" with goalTypes := [{ forecast with defaultBudget := 20 }] }

def inOrder (manifests : List CapabilityPackManifest) : List Call :=
  manifests.map (.install (some fun _ => .ok ()) operator)

theorem inOrder_accepted {manifests : List CapabilityPackManifest}
    (parsed : ∀ m ∈ manifests, m.check (fun _ => .ok ()) = .ok ()) :
    ∀ c ∈ inOrder manifests, c.Accepted fun _ => .ok () := by
  intro c listed
  obtain ⟨m, there, rfl⟩ := List.mem_map.mp listed
  exact parsed m there

theorem inOrder_tables {manifests : List CapabilityPackManifest}
    (free : ∀ m ∈ manifests, m.dependencies.isEmpty = true) :
    (after step {} (inOrder manifests)).tables = (manifests.map (.install 1)).foldl apply {} := by
  suffices run : ∀ s : Store, (after step s (inOrder manifests)).tables =
      (manifests.map (.install 1)).foldl apply s.tables from run {}
  induction manifests with
  | nil => exact fun _ => rfl
  | cons m rest ih =>
    obtain ⟨first, others⟩ := List.forall_mem_cons.mp free
    intro s
    have here : (step s (.install (some fun _ => .ok ()) operator m)).tables =
        s.tables.apply (.install 1 m) := by
      rw [← PackOp.run_tables, step, Call.run, installPack, assertDependenciesAvailable,
        List.isEmpty_iff.mp first]
      rfl
    rw [List.map_cons, List.foldl_cons, ← here]
    exact ih others _

theorem inOrder_settled :
    (after step {} (inOrder [weather "1.9.0", weather "1.10.0"])).Settled .empty 1 "forecast" := by
  have accepted : ∀ c ∈ inOrder [weather "1.9.0", weather "1.10.0"], c.Accepted fun _ => .ok () :=
    inOrder_accepted (by decide +kernel)
  apply settled_of_distinct (after_indexed indexed_empty accepted)
  intro m m' newest newest' same
  have versions : ((after step {} (inOrder [weather "1.9.0", weather "1.10.0"])).candidates 1).map
      (·.version) = ["1.9.0", "1.10.0"] := by
    decide +kernel
  have apart : ∀ v ∈ ["1.9.0", "1.10.0"], ∀ v' ∈ ["1.9.0", "1.10.0"],
      versionKey v = versionKey v' → v = v' := by
    decide +kernel
  rw [← versions] at apart
  refine apart _ (List.mem_map_of_mem newest.1) _ (List.mem_map_of_mem newest'.1) ?_
  exact le_antisymm (newest'.2 m newest.1 same) (newest.2 m' newest'.1 same.symm)

theorem agree_installs {tenantId : Uuid} {m m' : CapabilityPackManifest}
    (apart : (m.packId, m.version) ≠ (m'.packId, m'.version)) :
    Agree tenantId ([m, m'].map (.install tenantId) |>.foldl apply {})
      ([m', m].map (.install tenantId) |>.foldl apply {}) := by
  have there : (tenantId, m'.packId, m'.version) ≠ (tenantId, m.packId, m.version) :=
    fun same => apart (congrArg Prod.snd same).symm
  refine ⟨fun key _ => ?_, fun key _ => ?_, fun _ => ?_⟩
  · simp only [List.map_cons, List.map_nil, List.foldl_cons, List.foldl_nil, apply, Dict.get?_empty,
      Dict.get?_set, if_neg there, if_neg there.symm]
    by_cases first : key = (tenantId, m.packId, m.version)
    · rw [if_pos first, if_pos first, if_neg (first ▸ there.symm)]
    · rw [if_neg first, if_neg first]
  · simp only [List.map_cons, List.map_nil, List.foldl_cons, List.foldl_nil, apply, Dict.get?_empty,
      Dict.get?_set, if_neg there, if_neg there.symm, Option.getD_none]
    by_cases first : key = (tenantId, m.packId, m.version)
    · rw [if_pos first, if_pos first, if_neg (first ▸ there.symm)]
    · rw [if_neg first, if_neg first]
  · simp only [List.map_cons, List.map_nil, List.foldl_cons, List.foldl_nil, apply, Dict.get?_empty,
      Dict.get?_set, if_neg there, if_neg there.symm]

/-- Two versions of which one is newer, installed in either order. -/
theorem resolution_settled :
    (after step {} (inOrder [weather "1.10.0", weather "1.9.0"])).getGoalType .empty 1 "forecast" =
      (after step {} (inOrder [weather "1.9.0", weather "1.10.0"])).getGoalType .empty 1
        "forecast" := by
  apply (resolution_iff .empty _ (inOrder_accepted (by decide +kernel)) 1 "forecast").mpr
    inOrder_settled
  · exact inOrder_accepted (by decide +kernel)
  · rw [inOrder_tables (by decide +kernel), inOrder_tables (by decide +kernel)]
    exact agree_installs (by decide +kernel)

/-- A version and its other spelling, installed in either order: the tables are the same, but the
goal type is that of the version that came first. -/
theorem resolution_unsettled :
    (∀ c ∈ inOrder [weather "1.0.0", respelled], c.Accepted fun _ => .ok ()) ∧
    (∀ c ∈ inOrder [respelled, weather "1.0.0"], c.Accepted fun _ => .ok ()) ∧
    Agree 1 (after step {} (inOrder [weather "1.0.0", respelled])).tables
      (after step {} (inOrder [respelled, weather "1.0.0"])).tables ∧
    (after step {} (inOrder [respelled, weather "1.0.0"])).getGoalType .empty 1 "forecast" ≠
      (after step {} (inOrder [weather "1.0.0", respelled])).getGoalType .empty 1 "forecast" := by
  refine ⟨inOrder_accepted (by decide +kernel), inOrder_accepted (by decide +kernel), ?_, ?_⟩
  · rw [inOrder_tables (by decide +kernel), inOrder_tables (by decide +kernel)]
    exact agree_installs (by decide +kernel)
  · intro same
    have budget := congrArg (fun r => r.toOption.map GoalTypeManifest.defaultBudget) same
    exact absurd budget (by decide +kernel)

end Sample

end PackService

end Autonoesis
