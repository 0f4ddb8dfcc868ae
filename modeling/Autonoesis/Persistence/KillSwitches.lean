import Autonoesis.Base.History
import Autonoesis.Base.Tx
import Autonoesis.Persistence.Reservations
import Autonoesis.Runtime.Tools

/-!
# Kill switches, in memory and in PostgreSQL

The in-memory store holds one record for each pair of a dimension and a target that is switched
off. The tenant's `SqlKillSwitchStore` adds a row for each activation and closes one row for
each deactivation, so the two agree until a pair with several open rows is deactivated.
-/

namespace Autonoesis
open Base

inductive KillSwitchDimension where
  | platform | tenant | agent | tool | operation | provider | capabilityPack
  deriving DecidableEq

/-- What a switch is for: a dimension and a target in it. -/
abbrev SwitchKey := KillSwitchDimension × String

def KillSwitchQuery.dimensions (q : KillSwitchQuery) : List SwitchKey :=
  [(.platform, some "platform"), (.tenant, q.tenantId), (.agent, q.agentId), (.tool, q.toolName),
    (.operation, q.operation), (.provider, q.provider),
    (.capabilityPack, q.capabilityPackId)].filterMap
      fun (dimension, value) => value.map (dimension, ·)

structure KillSwitchRecord where
  killSwitchId : Uuid
  dimension : KillSwitchDimension := .tenant
  target : String := ""
  reason : String := ""
  activatedBy : String := ""
  activatedAt : Instant
  deactivatedAt : Option Instant := none

def KillSwitchRecord.key (r : KillSwitchRecord) : SwitchKey := (r.dimension, r.target)

/-! ## In memory -/

structure InMemoryKillSwitchStore where
  active : Dict SwitchKey KillSwitchRecord := .empty

namespace InMemoryKillSwitchStore

def isBlocked (query : KillSwitchQuery) (s : InMemoryKillSwitchStore) : Bool :=
  query.dimensions.any fun key => (s.active.get? key).isSome

def activate (dimension : KillSwitchDimension) (target reason activatedBy : String)
    (killSwitchId : Uuid) (now : Instant) (s : InMemoryKillSwitchStore) :
    KillSwitchRecord × InMemoryKillSwitchStore :=
  let record : KillSwitchRecord :=
    ⟨killSwitchId, dimension, target, reason, activatedBy, now, none⟩
  (record, ⟨s.active.set (dimension, target) record⟩)

def deactivate (dimension : KillSwitchDimension) (target : String) (now : Instant)
    (s : InMemoryKillSwitchStore) : Option KillSwitchRecord × InMemoryKillSwitchStore :=
  ((s.active.get? (dimension, target)).map ({ · with deactivatedAt := some now }),
    ⟨s.active.filterKeys (· ≠ (dimension, target))⟩)

def listActive (s : InMemoryKillSwitchStore) : List KillSwitchRecord := s.active.values

end InMemoryKillSwitchStore

/-! ## In PostgreSQL -/

/-- A row of `kill_switches`. -/
structure KillSwitchRow where
  id : Uuid
  tenantId : Uuid
  dimension : KillSwitchDimension
  target : String
  reason : String
  activatedBy : String
  deactivatedAt : Option Instant := none
  createdAt : Instant

def KillSwitchRow.key (row : KillSwitchRow) : SwitchKey := (row.dimension, row.target)

/-- The row is the tenant's and still open. -/
def KillSwitchRow.isOpen (tenantId : Uuid) (row : KillSwitchRow) : Bool :=
  row.tenantId = tenantId && row.deactivatedAt.isNone

/-- A row of `platform_kill_switches`. -/
structure PlatformKillSwitchRow where
  id : Uuid
  deactivatedAt : Option Instant := none

structure KillSwitchTables where
  killSwitches : List KillSwitchRow := []
  platformKillSwitches : List PlatformKillSwitchRow := []

/-- The widths of the text columns an activation writes. -/
def switchFits (target reason activatedBy : String) : Bool :=
  target.length ≤ 300 && reason.length ≤ 1000 && activatedBy.length ≤ 300

namespace SqlKillSwitchStore

abbrev Method (α : Type) := Tx KillSwitchTables Exc α

def openRows (tenantId : Uuid) (key : SwitchKey) (t : KillSwitchTables) : List KillSwitchRow :=
  t.killSwitches.filter fun row => row.isOpen tenantId && row.key = key

def isBlocked (tenantId : Uuid) (query : KillSwitchQuery) (t : KillSwitchTables) : Bool :=
  !query.dimensions.isEmpty && (t.platformKillSwitches.any (·.deactivatedAt.isNone) ||
    t.killSwitches.any fun row => row.isOpen tenantId && query.dimensions.contains row.key)

def activate (tenantId : Uuid) (dimension : KillSwitchDimension)
    (target reason activatedBy : String) (killSwitchId : Uuid) (now : Instant) :
    Method KillSwitchRecord := do
  Tx.check (dimension = .platform)
    (.permissionError "platform switch requires the Break-glass store")
  Tx.check (!switchFits target reason activatedBy) (.dataError "kill_switches")
  Tx.check ((← Tx.read (·.killSwitches)).any (·.id = killSwitchId)) (.integrityError "id")
  Tx.write fun t => { t with killSwitches := t.killSwitches ++
    [⟨killSwitchId, tenantId, dimension, target, reason, activatedBy, none, now⟩] }
  return ⟨killSwitchId, dimension, target, reason, activatedBy, now, none⟩

/-- Close one row. The query has no order, so the database picks among the open ones. -/
def deactivate (tenantId : Uuid) (dimension : KillSwitchDimension) (target : String)
    (pick : Nat) (now : Instant) : Method (Option KillSwitchRecord) := do
  Tx.check (dimension = .platform)
    (.permissionError "platform switch requires the Break-glass store")
  let rows ← Tx.read (openRows tenantId (dimension, target))
  match rows[pick % rows.length]? with
  | none => return none
  | some row =>
    Tx.write fun t => { t with killSwitches := t.killSwitches.map fun r =>
      if r.id = row.id ∧ r.tenantId = tenantId then { r with deactivatedAt := some now } else r }
    return some ⟨row.id, row.dimension, row.target, row.reason, row.activatedBy, row.createdAt,
      some now⟩

def listActive (tenantId : Uuid) (t : KillSwitchTables) : List KillSwitchRecord :=
  (t.killSwitches.filter (·.isOpen tenantId)).map fun row =>
    ⟨row.id, row.dimension, row.target, row.reason, row.activatedBy, row.createdAt, none⟩

end SqlKillSwitchStore

/-! ## The two beside each other -/

namespace KillSwitches

/-- A call to both stores, with the id, the clock reading and the row it draws. -/
inductive Call where
  | activate (dimension : KillSwitchDimension) (target reason activatedBy : String)
      (killSwitchId : Uuid) (now : Instant)
  | deactivate (dimension : KillSwitchDimension) (target : String) (pick : Nat) (now : Instant)

structure Twin where
  tables : KillSwitchTables
  memory : InMemoryKillSwitchStore := {}

def step (tenantId : Uuid) (s : Twin) : Call → Twin
  | .activate dimension target reason activatedBy id now =>
    ⟨((SqlKillSwitchStore.activate tenantId dimension target reason activatedBy id now).commit
      s.tables).2, (s.memory.activate dimension target reason activatedBy id now).2⟩
  | .deactivate dimension target pick now =>
    ⟨((SqlKillSwitchStore.deactivate tenantId dimension target pick now).commit s.tables).2,
      (s.memory.deactivate dimension target now).2⟩

/-- The pairs `list_active` names. -/
def listed (records : List KillSwitchRecord) : List SwitchKey := records.map (·.key)

/-- Both stores give the same answers. -/
structure Agree (tenantId : Uuid) (s : Twin) : Prop where
  blocked : ∀ query,
    SqlKillSwitchStore.isBlocked tenantId query s.tables = s.memory.isBlocked query
  active : ∀ key, key ∈ listed (SqlKillSwitchStore.listActive tenantId s.tables) ↔
    key ∈ listed s.memory.listActive

/-- What is deactivated is no longer listed and no longer blocks. -/
def Released (tenantId : Uuid) (s : Twin) : Call → Prop
  | .activate .. => True
  | .deactivate dimension target .. =>
    (dimension, target) ∉ listed (SqlKillSwitchStore.listActive tenantId s.tables)

/-- The calls a tenant makes: on its own dimensions, each row under a new id. -/
def Legal (s : Twin) : Call → Prop
  | .activate dimension _ _ _ id _ =>
    dimension ≠ .platform ∧ ∀ row ∈ s.tables.killSwitches, row.id ≠ id
  | .deactivate dimension .. => dimension ≠ .platform

instance (s : Twin) : DecidablePred (Legal s)
  | .activate dimension _ _ _ id _ =>
    inferInstanceAs (Decidable
      (dimension ≠ .platform ∧ ∀ row ∈ s.tables.killSwitches, row.id ≠ id))
  | .deactivate dimension .. => inferInstanceAs (Decidable (dimension ≠ .platform))

/-- A pair has at most one open row when it is deactivated, and one that is not active yet is
activated with texts that fit their columns. -/
def Apt (tenantId : Uuid) (s : Twin) : Call → Prop
  | .activate dimension target reason activatedBy _ _ =>
    switchFits target reason activatedBy = true ∨
      (SqlKillSwitchStore.openRows tenantId (dimension, target) s.tables) ≠ []
  | .deactivate dimension target _ _ =>
    (SqlKillSwitchStore.openRows tenantId (dimension, target) s.tables).length ≤ 1

instance (tenantId : Uuid) (s : Twin) : DecidablePred (Apt tenantId s)
  | .activate dimension target reason activatedBy _ _ =>
    inferInstanceAs (Decidable (switchFits target reason activatedBy = true ∨
      SqlKillSwitchStore.openRows tenantId (dimension, target) s.tables ≠ []))
  | .deactivate dimension target _ _ =>
    inferInstanceAs (Decidable
      ((SqlKillSwitchStore.openRows tenantId (dimension, target) s.tables).length ≤ 1))

/-! ## The open rows of a pair -/

open SqlKillSwitchStore (openRows)

variable {tenantId : Uuid}

theorem mem_listed_open {t : KillSwitchTables} {key : SwitchKey} :
    key ∈ listed (SqlKillSwitchStore.listActive tenantId t) ↔ openRows tenantId key t ≠ [] := by
  simp only [listed, SqlKillSwitchStore.listActive, List.map_map, List.mem_map, List.mem_filter,
    openRows, ne_eq, List.filter_eq_nil_iff, Bool.and_eq_true, decide_eq_true_eq, not_forall,
    not_not, exists_prop]
  constructor
  · rintro ⟨row, ⟨there, still⟩, rfl⟩
    exact ⟨row, there, still, rfl⟩
  · rintro ⟨row, there, still, rfl⟩
    exact ⟨row, ⟨there, still⟩, rfl⟩

theorem dimensions_ne_nil (query : KillSwitchQuery) : query.dimensions ≠ [] := nofun

/-- With the platform switch off, a query is blocked by the open rows of its pairs. -/
theorem blocked_iff_open {t : KillSwitchTables}
    (off : ∀ row ∈ t.platformKillSwitches, row.deactivatedAt ≠ none) (query : KillSwitchQuery) :
    SqlKillSwitchStore.isBlocked tenantId query t = true ↔
      ∃ key ∈ query.dimensions, openRows tenantId key t ≠ [] := by
  have quiet : t.platformKillSwitches.any (·.deactivatedAt.isNone) = false := by
    simpa [List.any_eq_false] using off
  simp only [SqlKillSwitchStore.isBlocked, quiet, Bool.false_or, Bool.and_eq_true,
    List.any_eq_true, ← mem_listed_open, listed, SqlKillSwitchStore.listActive]
  simp only [List.map_map, List.mem_map, List.mem_filter, Bool.not_eq_true',
    List.isEmpty_eq_false_iff, List.contains_iff_mem]
  constructor
  · rintro ⟨_, row, there, still, asked⟩
    exact ⟨row.key, asked, row, ⟨there, still⟩, rfl⟩
  · rintro ⟨_, asked, row, ⟨there, still⟩, rfl⟩
    exact ⟨dimensions_ne_nil query, row, there, still, asked⟩

/-- The rows a new one is added to. -/
theorem openRows_append {t : KillSwitchTables} {row : KillSwitchRow} (own : row.tenantId = tenantId)
    (still : row.deactivatedAt = none) (key : SwitchKey) :
    openRows tenantId key { t with killSwitches := t.killSwitches ++ [row] } =
      openRows tenantId key t ++ if row.key = key then [row] else [] := by
  simp only [openRows, List.filter_append]
  congr 1
  by_cases same : row.key = key
  · simp [KillSwitchRow.isOpen, own, still, same]
  · simp [same]

/-- The table with the row of an id closed. -/
def closed (t : KillSwitchTables) (tenantId id : Uuid) (now : Instant) : KillSwitchTables :=
  { t with killSwitches := t.killSwitches.map fun r =>
    if r.id = id ∧ r.tenantId = tenantId then { r with deactivatedAt := some now } else r }

theorem openRows_closed (t : KillSwitchTables) (id : Uuid) (now : Instant) (key : SwitchKey) :
    openRows tenantId key (closed t tenantId id now) =
      (openRows tenantId key t).filter (·.id ≠ id) := by
  simp only [openRows, closed, List.filter_filter]
  induction t.killSwitches with
  | nil => rfl
  | cons row rest ih =>
    rw [List.map_cons, List.filter_cons, List.filter_cons, ih]
    by_cases here : row.id = id ∧ row.tenantId = tenantId
    · simp [here, KillSwitchRow.isOpen]
    · rw [if_neg here]
      by_cases same : row.id = id
      · have other : row.tenantId ≠ tenantId := fun own => here ⟨same, own⟩
        simp [same, other, KillSwitchRow.isOpen]
      · simp [same]

/-! ## What the two stores share -/

/-- The pairs of the memory are those with open rows, and the tables are as their
constraints keep them. -/
structure Sound (tenantId : Uuid) (s : Twin) : Prop where
  same : ∀ key, openRows tenantId key s.tables ≠ [] ↔ (s.memory.active.get? key).isSome = true
  ids : (s.tables.killSwitches.map (·.id)).Nodup
  keys : ∀ key r, s.memory.active.get? key = some r → r.key = key
  off : ∀ row ∈ s.tables.platformKillSwitches, row.deactivatedAt ≠ none

theorem mem_listed_memory {m : InMemoryKillSwitchStore}
    (keys : ∀ key r, m.active.get? key = some r → r.key = key) {key : SwitchKey} :
    key ∈ listed m.listActive ↔ (m.active.get? key).isSome = true := by
  simp only [listed, InMemoryKillSwitchStore.listActive, List.mem_map, Dict.mem_values,
    Option.isSome_iff_exists]
  constructor
  · rintro ⟨r, ⟨k, found⟩, rfl⟩
    exact ⟨r, (keys k r found).symm ▸ found⟩
  · rintro ⟨r, found⟩
    exact ⟨r, ⟨key, found⟩, keys key r found⟩

/-- The stores agree when the pairs of the memory are those with open rows. -/
theorem agree_iff {s : Twin} (keys : ∀ key r, s.memory.active.get? key = some r → r.key = key)
    (off : ∀ row ∈ s.tables.platformKillSwitches, row.deactivatedAt ≠ none) :
    Agree tenantId s ↔
      ∀ key, openRows tenantId key s.tables ≠ [] ↔ (s.memory.active.get? key).isSome = true := by
  constructor
  · intro agree key
    rw [← mem_listed_open, ← mem_listed_memory keys]
    exact agree.active key
  · intro same
    refine ⟨fun query => Bool.eq_iff_iff.mpr ?_, fun key => ?_⟩
    · rw [blocked_iff_open off, InMemoryKillSwitchStore.isBlocked, List.any_eq_true]
      simp only [same]
    · rw [mem_listed_open, mem_listed_memory keys]
      exact same key

theorem step_keys {s : Twin} (keys : ∀ key r, s.memory.active.get? key = some r → r.key = key)
    (c : Call) :
    ∀ key r, (step tenantId s c).memory.active.get? key = some r → r.key = key := by
  intro key r found
  cases c with
  | activate dimension target reason activatedBy id now =>
    simp only [step, InMemoryKillSwitchStore.activate, Dict.get?_set] at found
    split at found
    · rename_i here
      rw [← Option.some.inj found, here]
      rfl
    · exact keys key r found
  | deactivate dimension target pick now =>
    simp only [step, InMemoryKillSwitchStore.deactivate, Dict.get?_filterKeys] at found
    split at found
    · exact keys key r found
    · cases found

/-- An activation adds one row, when its texts fit. -/
theorem activate_commit {t : KillSwitchTables} {dimension : KillSwitchDimension}
    {target reason activatedBy : String} {id : Uuid} {now : Instant}
    (own : dimension ≠ .platform) (unused : ∀ row ∈ t.killSwitches, row.id ≠ id) :
    ((SqlKillSwitchStore.activate tenantId dimension target reason activatedBy id now).commit
        t).2 =
      if switchFits target reason activatedBy then { t with killSwitches := t.killSwitches ++
        [⟨id, tenantId, dimension, target, reason, activatedBy, none, now⟩] }
      else t := by
  have free : t.killSwitches.any (·.id = id) = false := by
    simpa [List.any_eq_false] using unused
  by_cases fits : switchFits target reason activatedBy = true
  · simp only [Tx.commit, SqlKillSwitchStore.activate, fits, bind, StateT.bind, Tx.check, own,
      Tx.read, free, Tx.write, Except.bind, Tx.pure_run, decide_false,
      Bool.not_true, Bool.false_eq_true, if_false, if_true]
  · simp only [Tx.commit, SqlKillSwitchStore.activate, fits, bind, StateT.bind, Tx.check, own,
      Except.bind, decide_false, Bool.not_false, Bool.false_eq_true, if_false, if_true]

/-- A deactivation closes one of the open rows of its pair, if there is one. -/
theorem deactivate_commit (tenantId : Uuid) (t : KillSwitchTables)
    {dimension : KillSwitchDimension} (target : String) (pick : Nat) (now : Instant)
    (own : dimension ≠ .platform) :
    let left := ((SqlKillSwitchStore.deactivate tenantId dimension target pick now).commit t).2
    (openRows tenantId (dimension, target) t = [] ∧ left = t) ∨
      ∃ row ∈ openRows tenantId (dimension, target) t, left = closed t tenantId row.id now := by
  simp only [Tx.commit, SqlKillSwitchStore.deactivate, bind, StateT.bind, Tx.check, own,
    Tx.read, Except.bind, decide_false, Bool.false_eq_true, if_false]
  cases open_ : openRows tenantId (dimension, target) t with
  | nil => exact .inl ⟨rfl, rfl⟩
  | cons first rest =>
    right
    have within : pick % (first :: rest).length < (first :: rest).length :=
      Nat.mod_lt _ (by simp)
    rw [List.getElem?_eq_getElem within]
    exact ⟨_, List.getElem_mem within, rfl⟩

/-! ## One call -/

/-- Which pairs are open after an activation. -/
theorem open_activated {s : Twin} {dimension : KillSwitchDimension}
    {target reason activatedBy : String} {id : Uuid} {now : Instant}
    (own : dimension ≠ .platform) (unused : ∀ row ∈ s.tables.killSwitches, row.id ≠ id)
    (key : SwitchKey) :
    openRows tenantId key
        (step tenantId s (.activate dimension target reason activatedBy id now)).tables ≠ [] ↔
      openRows tenantId key s.tables ≠ [] ∨
        (switchFits target reason activatedBy = true ∧ (dimension, target) = key) := by
  simp only [step, activate_commit own unused]
  by_cases fits : switchFits target reason activatedBy = true
  · rw [if_pos fits, openRows_append (by rfl) (by rfl)]
    by_cases same : (dimension, target) = key
    · simp [KillSwitchRow.key, fits, same]
    · simp [KillSwitchRow.key, same]
  · simp [fits]

/-- Another pair's rows have another id, so closing a row leaves them open. -/
theorem openRows_closed_other {s : Twin} (ids : (s.tables.killSwitches.map (·.id)).Nodup)
    {pair key : SwitchKey} {row : KillSwitchRow} (there : row ∈ openRows tenantId pair s.tables)
    (other : key ≠ pair) (now : Instant) :
    openRows tenantId key (closed s.tables tenantId row.id now) =
      openRows tenantId key s.tables := by
  rw [openRows_closed, List.filter_eq_self]
  intro r member
  simp only [openRows, List.mem_filter, Bool.and_eq_true, decide_eq_true_eq] at there member
  simp only [ne_eq, decide_not, Bool.not_eq_true', decide_eq_false_iff_not]
  intro same
  have one := List.inj_on_of_nodup_map ids member.1 there.1 same
  exact other (member.2.2.symm.trans (one ▸ there.2.2))

/-- Which pairs are open after a deactivation: not its own, if it had one open row at most. -/
theorem open_deactivated {s : Twin} (sound : Sound tenantId s) {dimension : KillSwitchDimension}
    {target : String} {pick : Nat} {now : Instant} (own : dimension ≠ .platform)
    (few : (openRows tenantId (dimension, target) s.tables).length ≤ 1) (key : SwitchKey) :
    openRows tenantId key (step tenantId s (.deactivate dimension target pick now)).tables ≠ [] ↔
      openRows tenantId key s.tables ≠ [] ∧ key ≠ (dimension, target) := by
  simp only [step]
  obtain ⟨none, left⟩ | ⟨row, there, left⟩ :=
    deactivate_commit tenantId s.tables target pick now own
  · rw [left]
    constructor
    · intro still
      exact ⟨still, fun same => still (same ▸ none)⟩
    · exact And.left
  · rw [left]
    by_cases same : key = (dimension, target)
    · have only : openRows tenantId (dimension, target) s.tables = [row] := by
        obtain ⟨only, one⟩ := List.length_eq_one_iff.mp
          (Nat.le_antisymm few (List.length_pos_of_mem there))
        rw [one] at there ⊢
        rw [List.mem_singleton.mp there]
      simp [same, openRows_closed, only]
    · rw [openRows_closed_other sound.ids there same]
      simp [same]

/-- A pair with two open rows is still open after its deactivation. -/
theorem still_open {s : Twin} (sound : Sound tenantId s) {dimension : KillSwitchDimension}
    {target : String} {pick : Nat} {now : Instant} (own : dimension ≠ .platform)
    (many : 1 < (openRows tenantId (dimension, target) s.tables).length) :
    openRows tenantId (dimension, target)
      (step tenantId s (.deactivate dimension target pick now)).tables ≠ [] := by
  simp only [step]
  obtain ⟨none, -⟩ | ⟨row, there, left⟩ :=
    deactivate_commit tenantId s.tables target pick now own
  · simp [none] at many
  · rw [left, openRows_closed]
    intro gone
    rw [List.filter_eq_nil_iff] at gone
    have nodup : (openRows tenantId (dimension, target) s.tables).Nodup :=
      (List.Nodup.of_map _ sound.ids).filter _
    have one : ∀ r ∈ openRows tenantId (dimension, target) s.tables, r = row := by
      intro r member
      have same : r.id = row.id := by simpa using gone r member
      exact List.inj_on_of_nodup_map sound.ids (List.mem_filter.mp member).1
        (List.mem_filter.mp there).1 same
    have few := (List.nodup_replicate (n := _) (a := row)).mp
      (List.eq_replicate_of_mem one ▸ nodup)
    omega

/-- Which pairs the memory holds after a call. -/
theorem memory_activated (s : Twin) (dimension : KillSwitchDimension)
    (target reason activatedBy : String) (id : Uuid) (now : Instant) (key : SwitchKey) :
    ((step tenantId s (.activate dimension target reason activatedBy id now)).memory.active.get?
        key).isSome = true ↔
      (s.memory.active.get? key).isSome = true ∨ (dimension, target) = key := by
  simp only [step, InMemoryKillSwitchStore.activate, Dict.get?_set]
  by_cases same : (dimension, target) = key
  · simp [same]
  · simp [same, Ne.symm same]

theorem memory_deactivated (s : Twin) (dimension : KillSwitchDimension) (target : String)
    (pick : Nat) (now : Instant) (key : SwitchKey) :
    ((step tenantId s (.deactivate dimension target pick now)).memory.active.get? key).isSome =
        true ↔
      (s.memory.active.get? key).isSome = true ∧ key ≠ (dimension, target) := by
  simp only [step, InMemoryKillSwitchStore.deactivate, Dict.get?_filterKeys]
  by_cases same : key = (dimension, target)
  · simp [same]
  · simp [same]

/-- A call leaves the platform switches as they are and the ids of the rows distinct. -/
theorem step_tables {s : Twin} (sound : Sound tenantId s) {c : Call} (legal : Legal s c) :
    (step tenantId s c).tables.platformKillSwitches = s.tables.platformKillSwitches ∧
      ((step tenantId s c).tables.killSwitches.map (·.id)).Nodup := by
  cases c with
  | activate dimension target reason activatedBy id now =>
    simp only [step, activate_commit legal.1 legal.2]
    split
    · refine ⟨rfl, ?_⟩
      rw [List.map_append, List.map_singleton, List.nodup_append]
      refine ⟨sound.ids, List.nodup_singleton _, ?_⟩
      intro a old b new
      obtain ⟨row, there, rfl⟩ := List.mem_map.mp old
      rw [List.mem_singleton.mp new]
      exact legal.2 row there
    · exact ⟨rfl, sound.ids⟩
  | deactivate dimension target pick now =>
    simp only [step]
    obtain ⟨-, left⟩ | ⟨row, -, left⟩ :=
      deactivate_commit tenantId s.tables target pick now legal
    · rw [left]
      exact ⟨rfl, sound.ids⟩
    · rw [left]
      refine ⟨rfl, ?_⟩
      have same : (closed s.tables tenantId row.id now).killSwitches.map (·.id) =
          s.tables.killSwitches.map (·.id) := by
        simp only [closed, List.map_map, List.map_inj_left, Function.comp_apply]
        intro r _
        split <;> rfl
      rw [same]
      exact sound.ids

/-- An apt call keeps the memory's pairs those with open rows. -/
theorem sound_step {s : Twin} (sound : Sound tenantId s) {c : Call} (legal : Legal s c)
    (apt : Apt tenantId s c) : Sound tenantId (step tenantId s c) := by
  obtain ⟨platform, ids⟩ := step_tables sound legal
  refine ⟨fun key => ?_, ids, step_keys sound.keys c, platform ▸ sound.off⟩
  cases c with
  | activate dimension target reason activatedBy id now =>
    rw [open_activated legal.1 legal.2, memory_activated, ← sound.same]
    obtain fits | already := apt
    · simp [fits]
    · by_cases same : (dimension, target) = key
      · simp [← same, already]
      · simp [same]
  | deactivate dimension target pick now =>
    rw [open_deactivated sound legal apt, memory_deactivated, sound.same]

/-- The stores agree after a call, and what was deactivated is released, exactly when the call
is apt. -/
theorem agree_step {s : Twin} (sound : Sound tenantId s) {c : Call} (legal : Legal s c) :
    (Agree tenantId (step tenantId s c) ∧ Released tenantId (step tenantId s c) c) ↔
      Apt tenantId s c := by
  obtain ⟨platform, -⟩ := step_tables sound legal
  have off : ∀ row ∈ (step tenantId s c).tables.platformKillSwitches,
      row.deactivatedAt ≠ none := platform ▸ sound.off
  rw [agree_iff (step_keys sound.keys c) off]
  constructor
  · rintro ⟨same, released⟩
    cases c with
    | activate dimension target reason activatedBy id now =>
      have here := (same (dimension, target)).mpr
        ((memory_activated s dimension target reason activatedBy id now _).mpr (.inr rfl))
      rw [open_activated legal.1 legal.2] at here
      obtain already | ⟨fits, -⟩ := here
      · exact .inr already
      · exact .inl fits
    | deactivate dimension target pick now =>
      by_contra many
      exact released (mem_listed_open.mpr (still_open sound legal (Nat.lt_of_not_le many)))
  · intro apt
    refine ⟨(sound_step sound legal apt).same, ?_⟩
    cases c with
    | activate => trivial
    | deactivate dimension target pick now =>
      intro still
      rw [mem_listed_open, open_deactivated sound legal apt] at still
      exact still.2 rfl

/-! ## Every sequence of calls -/

/-- The two stores give the same answers after every call, and what is deactivated no longer
blocks, exactly when no pair is deactivated with several open rows and no pair is
activated with texts too long for their columns. -/
theorem agree_along_iff {tables : KillSwitchTables}
    (off : ∀ row ∈ tables.platformKillSwitches, row.deactivatedAt ≠ none)
    (ids : (tables.killSwitches.map (·.id)).Nodup)
    (fresh : ∀ row ∈ tables.killSwitches, row.isOpen tenantId = false) {calls : List Call}
    (legal : Along (step tenantId) Legal ⟨tables, {}⟩ calls) :
    Along (step tenantId)
        (fun s c => Agree tenantId (step tenantId s c) ∧ Released tenantId (step tenantId s c) c)
        ⟨tables, {}⟩ calls ↔
      Along (step tenantId) (Apt tenantId) ⟨tables, {}⟩ calls := by
  apply along_congr (fun s c (sound : Sound tenantId s) legal => agree_step sound legal)
    (fun _ _ sound legal apt => sound_step sound legal apt) _ legal
  refine ⟨fun key => ?_, ids, nofun, off⟩
  have none : openRows tenantId key tables = [] := by
    rw [openRows, List.filter_eq_nil_iff]
    intro row there
    simp [fresh row there]
  simp [none]

namespace Sample

def tenant : Uuid := 1#128

def tables : KillSwitchTables := { platformKillSwitches := [⟨9#128, some 0⟩] }

/-- Switched off for a reason and again for another, then on. -/
def twice : List Call :=
  [.activate .tool "shell" "incident" "ops" 2#128 5,
    .activate .tool "shell" "still ongoing" "ops" 3#128 6,
    .deactivate .tool "shell" 0 7]

/-- After both activations and the deactivation the pair still blocks in the database. -/
theorem deactivated_still_blocks :
    ¬ ∀ (tenantId : Uuid) (tables : KillSwitchTables),
      (∀ row ∈ tables.platformKillSwitches, row.deactivatedAt ≠ none) →
      (tables.killSwitches.map (·.id)).Nodup →
      (∀ row ∈ tables.killSwitches, row.isOpen tenantId = false) →
      ∀ calls, Along (step tenantId) Legal ⟨tables, {}⟩ calls →
        Along (step tenantId)
          (fun s c => Agree tenantId (step tenantId s c) ∧ Released tenantId (step tenantId s c) c)
          ⟨tables, {}⟩ calls := by
  intro all
  obtain ⟨-, -, ⟨agree, -⟩, -⟩ :=
    all tenant tables (by decide) (by decide) (by decide) twice (by decide)
  have asked := agree.blocked { toolName := some "shell" }
  exact absurd asked (by decide)

/-- Between the two activations the pair is deactivated. -/
def between : List Call :=
  [.activate .tool "shell" "incident" "ops" 2#128 5,
    .deactivate .tool "shell" 0 6,
    .activate .tool "shell" "again" "ops" 3#128 7]

theorem between_agree :
    Along (step tenant)
      (fun s c => Agree tenant (step tenant s c) ∧ Released tenant (step tenant s c) c)
      ⟨tables, {}⟩ between :=
  (agree_along_iff (by decide) (by decide) (by decide) (by decide)).mpr (by decide)

end Sample

end KillSwitches

end Autonoesis
