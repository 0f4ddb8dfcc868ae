import Autonoesis.Application.PackHistories
import Autonoesis.Base.Sorted

/-!
# Goal types from the rows of the packs

`SqlAlchemyPlatformRepository.get_goal_type` searches the packs of a tenant each time, in the order
of their identifiers, and the versions of a pack in the order in which they compare with 0.0.0. The
in-memory store keeps an index, in which the newest version of the last pack stands.
-/

namespace Autonoesis
open Base

/-- A row of `capability_packs`; `parse_manifest` reads the manifest whose payload it holds. -/
structure CapabilityPackRow where
  tenantId : Uuid
  packId : String
  version : String
  manifest : CapabilityPackManifest
  enabled : Bool := true
  revoked : Bool := false

/-- A row of `capability_pack_channels`. -/
structure PackChannelRow where
  tenantId : Uuid
  packId : String
  stableVersion : String

structure PackRows where
  capabilityPacks : List CapabilityPackRow := []
  capabilityPackChannels : List PackChannelRow := []

namespace PackRows

/-- The rows that `list_capability_packs` asks for. -/
def listed (db : PackRows) (tenantId : Uuid) : List CapabilityPackRow :=
  db.capabilityPacks.filter fun row => row.tenantId = tenantId && !row.revoked && row.enabled

/-- An answer of the database: sorted as it collates the identifiers of packs, and otherwise in any
order. -/
def Answers {κ : Type} [LinearOrder κ] (collate : String → κ) (db : PackRows) (tenantId : Uuid)
    (rows : List CapabilityPackRow) : Prop :=
  rows.Perm (db.listed tenantId) ∧ rows.Pairwise (collate ·.packId ≤ collate ·.packId)

def getStableChannel (db : PackRows) (tenantId : Uuid) (packId : String) : Option String :=
  (db.capabilityPackChannels.find? fun row => row.tenantId = tenantId && row.packId = packId).map
    (·.stableVersion)

/-- The manifests of a pack in the order in which they are searched; none if another version is
pinned. -/
def candidates (pinned : Option String) (items : List CapabilityPackManifest) :
    Except Exc (List CapabilityPackManifest) :=
  match pinned with
  | some version => .ok (items.filter (·.version = version))
  | none => do
    let keyed ← items.mapM fun item => do return (← compareVersions item.version "0.0.0", item)
    return (keyed.insertionSort (·.1 ≤ ·.1)).map (·.2)

/-- The first goal type of the name, and the manifest it is in. -/
def firstGoal (goalType : String) (items : List CapabilityPackManifest) :
    Option (CapabilityPackManifest × GoalTypeManifest) :=
  items.findSome? fun item => (item.goalTypes.find? (·.goalType = goalType)).map (item, ·)

def searchPacks (pins : String → Option String) (goalType : String) :
    List (String × List CapabilityPackManifest) →
      Except Exc (CapabilityPackManifest × GoalTypeManifest)
  | [] => .error (.recordNotFound ("goal type " ++ goalType ++ " was not found"))
  | (packId, items) :: rest => do
    match firstGoal goalType (← candidates (pins packId) items) with
    | some found => return found
    | none => searchPacks pins goalType rest

/-- Where `get_goal_type` finds a goal type, given the answer of the database. -/
def locate (db : PackRows) (tenantId : Uuid) (goalType : String) (rows : List CapabilityPackRow) :
    Except Exc (CapabilityPackManifest × GoalTypeManifest) :=
  let byPack := (rows.map (·.manifest)).foldl (Dict.gather (·.packId)) .empty
  searchPacks (db.getStableChannel tenantId) goalType
    (byPack.entries.insertionSort fun a b => a.1 ≤ b.1)

/-- `get_goal_type`. -/
def getGoalType (db : PackRows) (tenantId : Uuid) (goalType : String)
    (rows : List CapabilityPackRow) : Except Exc GoalTypeManifest := do
  return (← db.locate tenantId goalType rows).2

/-! ## What the search finds -/

/-- How a version compares with 0.0.0. -/
def sign (m : CapabilityPackManifest) : Int :=
  if m.rank < versionKey "0.0.0" then -1 else if versionKey "0.0.0" < m.rank then 1 else 0

/-- The manifests of a pack in the order in which they are searched. -/
def ranked (pinned : Option String) (items : List CapabilityPackManifest) :
    List CapabilityPackManifest :=
  match pinned with
  | some version => items.filter (·.version = version)
  | none => items.insertionSort (sign · ≤ sign ·)

theorem candidates_ok {pinned : Option String} {items : List CapabilityPackManifest}
    (semver : ∀ m ∈ items, isSemver m.version = true) :
    candidates pinned items = .ok (ranked pinned items) := by
  cases pinned with
  | some version => rfl
  | none =>
    have keyed : (items.mapM fun item => do
        return (← compareVersions item.version "0.0.0", item) :
          Except Exc (List (Int × CapabilityPackManifest))) =
        .ok (items.map fun m => (sign m, m)) := by
      induction items with
      | nil => rfl
      | cons m rest ih =>
        obtain ⟨first, others⟩ := List.forall_mem_cons.mp semver
        rw [List.mapM_cons, ih others, compareVersions_ok first (by decide +kernel)]
        rfl
    have order := List.map_insertionSort (sign · ≤ sign ·)
      (fun a b : Int × CapabilityPackManifest => a.1 ≤ b.1) (fun m => (sign m, m)) items
      fun _ _ _ _ => Iff.rfl
    simp only [candidates, keyed]
    change Except.ok _ = _
    rw [← order, List.map_map]
    exact congrArg Except.ok (List.map_id _)

theorem mem_ranked {pinned : Option String} {items : List CapabilityPackManifest}
    {m : CapabilityPackManifest} :
    m ∈ ranked pinned items ↔ m ∈ items ∧ pinned.all (m.version = ·) = true := by
  cases pinned with
  | some version => simp [ranked]
  | none => simp [ranked]

theorem sorted_ranked (pinned : Option String) (items : List CapabilityPackManifest) :
    (ranked pinned items).Pairwise (sign · ≤ sign ·) := by
  cases pinned with
  | some version =>
    apply List.pairwise_of_forall_mem_list
    intro m there m' there'
    have same : m.version = m'.version := by
      rw [of_decide_eq_true (List.mem_filter.mp there).2,
        of_decide_eq_true (List.mem_filter.mp there').2]
    rw [sign, sign, CapabilityPackManifest.rank, CapabilityPackManifest.rank, same]
  | none => exact sorted_insertionSort sign items

theorem searchPacks_eq (pins : String → Option String) (goalType : String)
    {packs : List (String × List CapabilityPackManifest)}
    (semver : ∀ e ∈ packs, ∀ m ∈ e.2, isSemver m.version = true) :
    searchPacks pins goalType packs =
      match packs.findSome? fun e => firstGoal goalType (ranked (pins e.1) e.2) with
      | some found => .ok found
      | none => .error (.recordNotFound ("goal type " ++ goalType ++ " was not found")) := by
  induction packs with
  | nil => rfl
  | cons e rest ih =>
    obtain ⟨first, others⟩ := List.forall_mem_cons.mp semver
    obtain ⟨packId, items⟩ := e
    simp only [searchPacks, candidates_ok first, List.findSome?_cons]
    change (match firstGoal goalType (ranked (pins packId) items) with
      | some found => pure found
      | none => searchPacks pins goalType rest) = _
    cases firstGoal goalType (ranked (pins packId) items) with
    | some found => rfl
    | none => exact ih others

/-- What is found in a pack. -/
def foundIn (db : PackRows) (tenantId : Uuid) (goalType : String) (rows : List CapabilityPackRow)
    (packId : String) : Option (CapabilityPackManifest × GoalTypeManifest) :=
  firstGoal goalType (ranked (db.getStableChannel tenantId packId)
    ((rows.map (·.manifest)).filter (·.packId = packId)))

/-- The search finds something in the first pack in which there is something to be found. -/
theorem locate_cases (db : PackRows) (tenantId : Uuid) (goalType : String)
    {rows : List CapabilityPackRow} (semver : ∀ row ∈ rows, isSemver row.manifest.version = true) :
    (∃ packId found, db.locate tenantId goalType rows = .ok found ∧
      db.foundIn tenantId goalType rows packId = some found ∧
      ∀ packId', db.foundIn tenantId goalType rows packId' ≠ none → packId ≤ packId') ∨
    db.locate tenantId goalType rows =
        .error (.recordNotFound ("goal type " ++ goalType ++ " was not found")) ∧
      ∀ packId, db.foundIn tenantId goalType rows packId = none := by
  set byPack := (rows.map (·.manifest)).foldl (Dict.gather CapabilityPackManifest.packId) .empty
    with gathered
  set packs := byPack.entries.insertionSort fun a b => a.1 ≤ b.1 with sorted
  have entry (e : String × List CapabilityPackManifest) :
      e ∈ packs ↔ (rows.map (·.manifest)).filter (·.packId = e.1) = e.2 ∧ e.2 ≠ [] := by
    rw [sorted, List.mem_insertionSort, ← Dict.get?_eq_some, gathered, Dict.get?_foldl_gather]
    split
    · rename_i empty
      simp only [empty, reduceCtorEq, false_iff, not_and, not_not]
      exact Eq.symm
    · rename_i nonempty
      simp only [Option.some.injEq]
      constructor
      · intro same
        exact ⟨same, same ▸ nonempty⟩
      · exact And.left
  have found (e : String × List CapabilityPackManifest) (there : e ∈ packs) :
      firstGoal goalType (ranked (db.getStableChannel tenantId e.1) e.2) =
        db.foundIn tenantId goalType rows e.1 := by
    rw [foundIn, ((entry e).mp there).1]
  have present (packId : String) (ends : db.foundIn tenantId goalType rows packId ≠ none) :
      (packId, (rows.map (·.manifest)).filter (·.packId = packId)) ∈ packs := by
    refine (entry _).mpr ⟨rfl, fun empty => ends ?_⟩
    dsimp only at empty
    rw [foundIn, empty]
    cases db.getStableChannel tenantId packId <;> rfl
  have each : ∀ e ∈ packs, ∀ m ∈ e.2, isSemver m.version = true := by
    intro e there m listed
    rw [← ((entry e).mp there).1] at listed
    obtain ⟨row, inside, rfl⟩ := List.mem_map.mp (List.mem_filter.mp listed).1
    exact semver row inside
  have search := searchPacks_eq (db.getStableChannel tenantId) goalType each
  have same : db.locate tenantId goalType rows =
    searchPacks (db.getStableChannel tenantId) goalType packs := rfl
  rw [same, search]
  cases first : packs.findSome? fun e =>
      firstGoal goalType (ranked (db.getStableChannel tenantId e.1) e.2) with
  | none =>
    refine .inr ⟨rfl, fun packId => ?_⟩
    by_contra ends
    have there := present packId ends
    exact ends ((found _ there).symm.trans (List.findSome?_eq_none_iff.mp first _ there))
  | some x =>
    obtain ⟨e, there, value, least⟩ := le_of_findSome? (sorted_insertionSort Prod.fst _) first
    refine .inl ⟨e.1, x, rfl, (found e there).symm.trans value, fun packId' ends => ?_⟩
    have there' := present packId' ends
    exact least _ there' (by rw [found _ there']; exact ends)

end PackRows

/-! ## Both stores -/

/-- The same packs, flags and channels in rows. -/
def PackTables.rows (t : PackTables) : PackRows where
  capabilityPacks := t.packs.entries.map fun e =>
    let flags := (t.states.get? e.1).getD ⟨some true, some false⟩
    { tenantId := e.1.1
      packId := e.1.2.1
      version := e.1.2.2
      manifest := e.2
      enabled := flags.enabled.getD false
      revoked := flags.revoked.getD false }
  capabilityPackChannels := t.channels.entries.map fun e => ⟨e.1.1, e.1.2, e.2⟩

def CapabilityPackManifest.Declares (m : CapabilityPackManifest) (name : String) : Prop :=
  ∃ g ∈ m.goalTypes, g.goalType = name

namespace Store
open PackRows

variable {checkSchema : Json → Except Exc Unit} {s : Store} {tenantId : Uuid} {name : String}
  {rows : List CapabilityPackRow} {κ : Type} [LinearOrder κ] {collate : String → κ}

/-- A version in which the search may end: of the versions that count and declare the name, one of
the first pack that compares with 0.0.0 as the least of them. -/
structure First (s : Store) (tenantId : Uuid) (name : String) (m : CapabilityPackManifest) :
    Prop where
  counts : m ∈ s.candidates tenantId
  declares : m.Declares name
  pack : ∀ m' ∈ s.candidates tenantId, m'.Declares name → m.packId ≤ m'.packId
  least : ∀ m' ∈ s.candidates tenantId, m'.Declares name → m'.packId = m.packId →
    sign m ≤ sign m'

theorem getStableChannel_rows (s : Store) (tenantId : Uuid) (packId : String) :
    s.tables.rows.getStableChannel tenantId packId = s.packChannels.get? (tenantId, packId) := by
  simp only [getStableChannel, PackTables.rows, tables, Dict.get?]
  induction s.packChannels.entries with
  | nil => rfl
  | cons e rest ih =>
    obtain ⟨⟨owner, packId'⟩, version⟩ := e
    rw [List.map_cons, List.find?_cons, Dict.lookupIn]
    by_cases same : (owner, packId') = (tenantId, packId)
    · cases same
      simp
    · rw [if_neg same, ← ih]
      have other : (owner = tenantId && packId' = packId) = false := by
        simpa [Prod.ext_iff] using same
      simp only [other]

theorem mem_listed {row : CapabilityPackRow} :
    row ∈ s.tables.rows.listed tenantId ↔ row.tenantId = tenantId ∧
      s.tenantPacks.get? (tenantId, row.packId, row.version) = some row.manifest ∧
      s.packIsListable (tenantId, row.packId, row.version) = true ∧
      row.enabled = true ∧ row.revoked = false := by
  rw [PackRows.listed, List.mem_filter]
  simp only [PackTables.rows, tables, List.mem_map, Bool.and_eq_true, Bool.not_eq_true',
    decide_eq_true_eq]
  constructor
  · rintro ⟨⟨⟨⟨owner, packId, version⟩, m⟩, there, rfl⟩, ⟨rfl, kept⟩, enabled⟩
    have found := (s.tenantPacks.get?_eq_some (owner, packId, version) m).mpr there
    refine ⟨rfl, found, ?_, enabled, kept⟩
    simp only [packIsListable]
    dsimp only at kept enabled
    rw [kept, enabled]
    rfl
  · rintro ⟨rfl, found, listable, enabled, kept⟩
    refine ⟨⟨((row.tenantId, row.packId, row.version), row.manifest), ?_, ?_⟩, ⟨rfl, kept⟩, enabled⟩
    · exact (s.tenantPacks.get?_eq_some _ _).mp found
    · simp only [packIsListable, Bool.and_eq_true, Bool.not_eq_true'] at listable
      obtain ⟨tenantId, packId, version, manifest, _, _⟩ := row
      dsimp only at enabled kept listable ⊢
      rw [listable.1, listable.2, enabled, kept]

/-- The version in a row is the one its manifest has. -/
theorem packId_of_listed (kept : s.PacksKept checkSchema)
    {row : CapabilityPackRow} (there : row ∈ s.tables.rows.listed tenantId) :
    row.packId = row.manifest.packId ∧ isSemver row.manifest.version = true := by
  obtain ⟨_, found, _⟩ := mem_listed.mp there
  have own := kept.keys _ _ found
  simp only [Prod.mk.injEq] at own
  exact ⟨own.1, (CapabilityPackManifest.accepted checkSchema (kept.parsed _ _ found)).1⟩

/-- A version that counts is in a row of the tenant, and of a pinned pack it is the pinned one. -/
theorem row_of_candidate (kept : s.PacksKept checkSchema) {m : CapabilityPackManifest}
    (counts : m ∈ s.candidates tenantId) :
    (∃ row ∈ s.tables.rows.listed tenantId, row.manifest = m) ∧
      (s.packChannels.get? (tenantId, m.packId)).all (m.version = ·) = true := by
  obtain ⟨⟨owner, packId, version⟩, found, counts⟩ := mem_candidates.mp counts
  have own := kept.keys _ _ found
  simp only [Prod.mk.injEq] at own
  obtain ⟨rfl, rfl⟩ := own
  simp only [lets, Bool.and_eq_true, decide_eq_true_eq] at counts
  obtain ⟨⟨rfl, listable⟩, pinned⟩ := counts
  refine ⟨⟨⟨owner, m.packId, m.version, m, true, false⟩, ?_, rfl⟩, pinned⟩
  exact mem_listed.mpr ⟨rfl, found, listable, rfl, rfl⟩

/-- The versions that count are those the database answers with, of a pinned pack the pinned one. -/
theorem mem_candidates_iff (kept : s.PacksKept checkSchema)
    (answers : Answers collate s.tables.rows tenantId rows) {m : CapabilityPackManifest} :
    m ∈ s.candidates tenantId ↔ m ∈ rows.map (·.manifest) ∧
      (s.packChannels.get? (tenantId, m.packId)).all (m.version = ·) = true := by
  rw [List.mem_map]
  constructor
  · intro counts
    obtain ⟨⟨row, there, same⟩, pinned⟩ := row_of_candidate kept counts
    exact ⟨⟨row, answers.1.mem_iff.mpr there, same⟩, pinned⟩
  · rintro ⟨⟨row, there, rfl⟩, pinned⟩
    obtain ⟨rfl, found, listable, _⟩ := mem_listed.mp (answers.1.mem_iff.mp there)
    have own := kept.keys _ _ found
    simp only [Prod.mk.injEq] at own
    refine mem_candidates.mpr ⟨_, found, ?_⟩
    simp only [lets, Bool.and_eq_true, decide_eq_true_eq]
    refine ⟨⟨trivial, listable⟩, ?_⟩
    rw [own.1, own.2]
    exact pinned

/-- What is found in a pack is in a version that counts, and least of those that declare the
name. -/
theorem foundIn_some (kept : s.PacksKept checkSchema)
    (answers : Answers collate s.tables.rows tenantId rows) {packId : String}
    {m : CapabilityPackManifest} {g : GoalTypeManifest}
    (found : s.tables.rows.foundIn tenantId name rows packId = some (m, g)) :
    m ∈ s.candidates tenantId ∧ m.packId = packId ∧ g ∈ m.goalTypes ∧ g.goalType = name ∧
      ∀ m' ∈ s.candidates tenantId, m'.Declares name → m'.packId = packId → sign m ≤ sign m' := by
  rw [foundIn, getStableChannel_rows] at found
  obtain ⟨m', there, value, least⟩ := le_of_findSome? (sorted_ranked _ _) found
  obtain ⟨g', first, same⟩ := Option.map_eq_some_iff.mp value
  cases same
  obtain ⟨there, pinned⟩ := mem_ranked.mp there
  obtain ⟨inside, own⟩ := List.mem_filter.mp there
  obtain rfl := of_decide_eq_true own
  have named : g.goalType = name := by simpa using List.find?_some first
  refine ⟨(mem_candidates_iff kept answers).mpr ⟨inside, pinned⟩, rfl,
    List.mem_of_find?_eq_some first, named, fun m' counts ⟨g', there', named'⟩ same => ?_⟩
  obtain ⟨listed, pinned'⟩ := (mem_candidates_iff kept answers).mp counts
  refine least m' (mem_ranked.mpr ⟨List.mem_filter.mpr ⟨listed, decide_eq_true same⟩, ?_⟩) ?_
  · rw [← same]
    exact pinned'
  · intro none
    have missing := List.find?_eq_none.mp (Option.map_eq_none_iff.mp none) g' there'
    simp [named'] at missing

theorem foundIn_ne_none (kept : s.PacksKept checkSchema)
    (answers : Answers collate s.tables.rows tenantId rows) {m : CapabilityPackManifest}
    (counts : m ∈ s.candidates tenantId) (declares : m.Declares name) :
    s.tables.rows.foundIn tenantId name rows m.packId ≠ none := by
  intro none
  rw [foundIn, getStableChannel_rows] at none
  obtain ⟨listed, pinned⟩ := (mem_candidates_iff kept answers).mp counts
  obtain ⟨g, there, named⟩ := declares
  have missing := List.findSome?_eq_none_iff.mp none m
    (mem_ranked.mpr ⟨List.mem_filter.mpr ⟨listed, decide_eq_true rfl⟩, pinned⟩)
  have missing := List.find?_eq_none.mp (Option.map_eq_none_iff.mp missing) g there
  simp [named] at missing

/-- The search ends in such a version, or there is none. -/
theorem locate_spec (kept : s.PacksKept checkSchema)
    (answers : Answers collate s.tables.rows tenantId rows) :
    (∃ m g, s.tables.rows.locate tenantId name rows = .ok (m, g) ∧ s.First tenantId name m ∧
      g ∈ m.goalTypes ∧ g.goalType = name) ∨
    s.tables.rows.locate tenantId name rows =
        .error (.recordNotFound ("goal type " ++ name ++ " was not found")) ∧
      ∀ m ∈ s.candidates tenantId, ¬m.Declares name := by
  have semver : ∀ row ∈ rows, isSemver row.manifest.version = true :=
    fun row there => (packId_of_listed kept (answers.1.mem_iff.mp there)).2
  obtain ⟨packId, ⟨m, g⟩, located, found, first⟩ | ⟨located, none⟩ :=
    locate_cases s.tables.rows tenantId name semver
  · obtain ⟨counts, rfl, there, named, least⟩ := foundIn_some kept answers found
    refine .inl ⟨m, g, located, ⟨counts, ⟨g, there, named⟩, fun m' counts' declares => ?_, least⟩,
      there, named⟩
    exact first _ (foundIn_ne_none kept answers counts' declares)
  · refine .inr ⟨located, fun m counts declares => ?_⟩
    exact foundIn_ne_none kept answers counts declares (none m.packId)

/-- The database may answer with the row of a version that counts in front of those of its pack. -/
theorem exists_front (kept : s.PacksKept checkSchema) (collate : String → κ)
    {m : CapabilityPackManifest} (counts : m ∈ s.candidates tenantId) :
    ∃ rows more, Answers collate s.tables.rows tenantId rows ∧
      (rows.map (·.manifest)).filter (·.packId = m.packId) = m :: more := by
  obtain ⟨⟨row, there, rfl⟩, _⟩ := row_of_candidate kept counts
  obtain ⟨before, behind, split⟩ := List.append_of_mem there
  let rank (row : CapabilityPackRow) : κ := collate row.packId
  set rows := (row :: (before ++ behind)).insertionSort (rank · ≤ rank ·)
  have answers : Answers collate s.tables.rows tenantId rows := by
    refine ⟨?_, sorted_insertionSort rank _⟩
    rw [split]
    exact (List.perm_insertionSort _ _).trans List.perm_middle.symm
  have own := (packId_of_listed kept there).1
  have same : ∀ r ∈ rows,
      decide (r.manifest.packId = row.manifest.packId) = decide (r.packId = row.packId) := by
    intro r inside
    rw [own, (packId_of_listed kept (answers.1.mem_iff.mp inside)).1]
  refine ⟨rows, ((before ++ behind).filter (·.packId = row.packId)).map (·.manifest), answers, ?_⟩
  rw [List.filter_map, Function.comp_def, List.filter_congr same,
    filter_insertionSort rank _ fun r named => congrArg collate (of_decide_eq_true named),
    List.filter_cons, if_pos (decide_eq_true rfl), List.map_cons]

/-- In front of its pack, a version in which the search may end is the one found there. -/
theorem foundIn_of_front (kept : s.PacksKept checkSchema)
    (answers : Answers collate s.tables.rows tenantId rows) {m : CapabilityPackManifest}
    (first : s.First tenantId name m) {more : List CapabilityPackManifest}
    (front : (rows.map (·.manifest)).filter (·.packId = m.packId) = m :: more)
    {g : GoalTypeManifest} (value : m.goalTypes.find? (·.goalType = name) = some g) :
    s.tables.rows.foundIn tenantId name rows m.packId = some (m, g) := by
  have here : (m.goalTypes.find? (·.goalType = name)).map (m, ·) = some (m, g) := by
    rw [value, Option.map_some]
  have pinned := ((mem_candidates_iff kept answers).mp first.counts).2
  rw [foundIn, getStableChannel_rows, front, firstGoal]
  cases pin : s.packChannels.get? (tenantId, m.packId) with
  | some version =>
    rw [pin, Option.all_some] at pinned
    rw [ranked, List.filter_cons, if_pos pinned, List.findSome?_cons, here]
  | none =>
    refine findSome?_insertionSort (List.filter_cons_of_pos (decide_eq_true rfl)) here ?_
    intro m' listed found
    rw [← front] at listed
    obtain ⟨listed, own⟩ := List.mem_filter.mp listed
    have own := of_decide_eq_true own
    refine first.least m' ((mem_candidates_iff kept answers).mpr ⟨listed, ?_⟩) ?_ own
    · rw [own, pin]
      rfl
    · rw [ne_eq, Option.map_eq_none_iff, List.find?_eq_none] at found
      simp only [decide_eq_true_eq, not_forall, not_not] at found
      obtain ⟨g', inside, named⟩ := found
      exact ⟨g', inside, named⟩

/-- For each such version some answer of the database ends the search in it. -/
theorem exists_answer (kept : s.PacksKept checkSchema) (collate : String → κ)
    {m : CapabilityPackManifest} (first : s.First tenantId name m) :
    ∃ rows g, Answers collate s.tables.rows tenantId rows ∧ g ∈ m.goalTypes ∧ g.goalType = name ∧
      s.tables.rows.locate tenantId name rows = .ok (m, g) := by
  obtain ⟨rows, more, answers, front⟩ := exists_front kept collate first.counts
  obtain ⟨g, there, named⟩ := first.declares
  have value : (m.goalTypes.find? (·.goalType = name)).isSome = true :=
    List.find?_isSome.mpr ⟨g, there, decide_eq_true named⟩
  obtain ⟨g', value⟩ := Option.isSome_iff_exists.mp value
  have ends := foundIn_of_front kept answers first front value
  refine ⟨rows, g', answers, List.mem_of_find?_eq_some value,
    by simpa using List.find?_some value, ?_⟩
  have semver : ∀ row ∈ rows, isSemver row.manifest.version = true :=
    fun row there => (packId_of_listed kept (answers.1.mem_iff.mp there)).2
  obtain ⟨packId, ⟨m', g''⟩, located, found, least⟩ | ⟨_, none⟩ :=
    locate_cases s.tables.rows tenantId name semver
  · obtain ⟨counts, rfl, inside, named', _⟩ := foundIn_some kept answers found
    have before : m'.packId ≤ m.packId := least m.packId (by rw [ends]; exact Option.some_ne_none _)
    have same := le_antisymm before (first.pack m' counts ⟨g'', inside, named'⟩)
    rw [same, ends] at found
    cases found
    exact located
  · rw [none m.packId] at ends
    cases ends

/-- What the index shows comes from a newest version. -/
theorem shows_newest {g : GoalTypeManifest} (shows : s.Shows tenantId name g) :
    ∃ m, s.IsNewest tenantId m ∧ m.Declares name := by
  obtain ⟨packId, m, found, there, named, _⟩ := shows
  exact ⟨m, (isNewest_of_resolved found).1, g, there, named⟩

/-- Whatever the database answers, both stores give the same goal type or raise the same error, and
it comes from a newest version, exactly when each version in which the search may end is a newest
one, with the goal type that the index has from the last pack. -/
theorem getGoalType_agrees_iff (indexed : s.Indexed checkSchema) (collate : String → κ)
    (tenantId : Uuid) (name : String) :
    (∀ rows, Answers collate s.tables.rows tenantId rows →
      s.tables.rows.getGoalType tenantId name rows = s.getGoalType .empty tenantId name ∧
      ∀ m g, s.tables.rows.locate tenantId name rows = .ok (m, g) → s.IsNewest tenantId m) ↔
    ∀ m, s.First tenantId name m → s.IsNewest tenantId m ∧
      ∃ g ∈ m.goalTypes, s.Shows tenantId name g := by
  have kept := indexed.kept
  constructor
  · intro agrees m first
    obtain ⟨rows, g, answers, there, named, located⟩ := exists_answer kept collate first
    obtain ⟨same, newest⟩ := agrees rows answers
    refine ⟨newest m g located, g, there, (indexed.shows tenantId name g).mp ?_⟩
    rw [PackRows.getGoalType, located, Store.getGoalType] at same
    cases shown : s.tenantGoalTypes.get? (tenantId, name) with
    | none =>
      rw [shown] at same
      cases same
    | some g' =>
      rw [shown] at same
      cases same
      rfl
  · intro ends rows answers
    obtain ⟨m, g, located, first, there, named⟩ | ⟨located, none⟩ := locate_spec kept answers
    · obtain ⟨newest, g', there', shows⟩ := ends m first
      have shown := (indexed.shows tenantId name g').mpr shows
      obtain ⟨_, _, _, _, named', _⟩ := shows
      obtain ⟨key, stored, _⟩ := mem_candidates.mp first.counts
      have unique :=
        (CapabilityPackManifest.accepted checkSchema (kept.parsed key m stored)).2.2
      obtain rfl := List.inj_on_of_nodup_map unique there' there (named'.trans named.symm)
      refine ⟨?_, fun m' g'' located' => ?_⟩
      · rw [PackRows.getGoalType, located, Store.getGoalType, shown]
        rfl
      · rw [located] at located'
        cases located'
        exact newest
    · refine ⟨?_, fun m g located' => ?_⟩
      · rw [PackRows.getGoalType, located, Store.getGoalType]
        cases shown : s.tenantGoalTypes.get? (tenantId, name) with
        | none => rfl
        | some g =>
          obtain ⟨m, newest, declares⟩ := shows_newest ((indexed.shows tenantId name g).mp shown)
          exact absurd declares (none m newest.1)
      · rw [located] at located'
        cases located'

end Store

namespace PackService.Sample
open Store PackRows

/-- A newer version with another budget, and the older one in front of it in the answer. -/
def dearer : CapabilityPackManifest :=
  { weather "1.10.0" with goalTypes := [{ forecast with defaultBudget := 20 }] }

def olderFirst : List CapabilityPackRow :=
  [{ tenantId := 1, packId := "weather", version := "1.9.0", manifest := weather "1.9.0" },
    { tenantId := 1, packId := "weather", version := "1.10.0", manifest := dearer }]

/-- The database's answer is that of the older version, and the index has the newer one. -/
theorem getGoalType_older :
    (after step {} (inOrder [weather "1.9.0", dearer])).Indexed (fun _ => .ok ()) ∧
    Answers id (after step {} (inOrder [weather "1.9.0", dearer])).tables.rows 1 olderFirst ∧
    ((after step {} (inOrder [weather "1.9.0", dearer])).tables.rows.getGoalType 1 "forecast"
      olderFirst).toOption.map (·.defaultBudget) = some 10 ∧
    ((after step {} (inOrder [weather "1.9.0", dearer])).getGoalType .empty 1
      "forecast").toOption.map (·.defaultBudget) = some 20 := by
  refine ⟨after_indexed indexed_empty (inOrder_accepted (by decide +kernel)), ⟨?_, ?_⟩,
    by decide +kernel, by decide +kernel⟩
  · rw [inOrder_tables (by decide +kernel)]
    exact List.Perm.refl _
  · exact List.pairwise_pair.mpr (le_refl "weather")

/-- A tenant has made the newer version stable. -/
def pinned : List Call :=
  inOrder [weather "1.9.0", dearer] ++ [.store (.setStable 1 "weather" "1.10.0" 2 6 7)]

theorem pinned_accepted : ∀ c ∈ pinned, c.Accepted fun _ => .ok () := by
  intro c listed
  obtain listed | listed := List.mem_append.mp listed
  · exact inOrder_accepted (by decide +kernel) c listed
  · rw [List.mem_singleton.mp listed]
    trivial

theorem pinned_answers : Answers id (after step {} pinned).tables.rows 1 olderFirst := by
  have last : (after step {} pinned).tables =
      (after step {} (inOrder [weather "1.9.0", dearer])).tables.apply
        (.setStable 1 "weather" "1.10.0" 2 6 7) :=
    PackOp.run_tables _ _
  rw [last, inOrder_tables (by decide +kernel)]
  exact ⟨List.Perm.refl _, List.pairwise_pair.mpr (le_refl "weather")⟩

/-- With the newer version pinned both stores give its goal type, though the row of the older one
comes first. -/
theorem getGoalType_agrees_pinned :
    (after step {} pinned).tables.rows.getGoalType 1 "forecast" olderFirst =
      (after step {} pinned).getGoalType .empty 1 "forecast" ∧
    ∀ m g, (after step {} pinned).tables.rows.locate 1 "forecast" olderFirst = .ok (m, g) →
      (after step {} pinned).IsNewest 1 m := by
  have indexed := after_indexed indexed_empty pinned_accepted
  have single : ((after step {} pinned).candidates 1).length = 1 := by decide +kernel
  obtain ⟨only, single⟩ := List.length_eq_one_iff.mp single
  refine (getGoalType_agrees_iff indexed id 1 "forecast").mpr ?_ _ pinned_answers
  intro m first
  have same (m' : CapabilityPackManifest) (counts : m' ∈ (after step {} pinned).candidates 1) :
      m' = m := by
    have one := first.counts
    rw [single, List.mem_singleton] at counts one
    rw [counts, one]
  have newest : (after step {} pinned).IsNewest 1 m := by
    refine ⟨first.counts, fun m' counts _ => ?_⟩
    rw [same m' counts]
  obtain ⟨m', found⟩ := resolved_of_isNewest newest
  have own := same m' (isNewest_of_resolved found).1.1
  obtain ⟨g, shows⟩ := shows_of_declared indexed.kept found (own ▸ first.declares)
  refine ⟨newest, g, ?_, shows⟩
  obtain ⟨packId, m'', found', there, _⟩ := shows
  exact same m'' (isNewest_of_resolved found').1.1 ▸ there

end PackService.Sample

end Autonoesis
