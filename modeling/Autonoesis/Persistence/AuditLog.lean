import Mathlib.Data.List.Sort
import Mathlib.Logic.Function.Basic
import Mathlib.Logic.Relation
import Autonoesis.Application.AuditChain

/-!
# The audit log under concurrent transactions

Sessions of the SQL repository append audit events and their outbox rows side by side.
A session takes the advisory lock of the tenant, reads the head of the tenant's chain
among the committed rows and its own, inserts the event behind it and then the outbox row;
its rows become visible to the others when it commits, and with that its locks are free.
-/

namespace Autonoesis
open Base

structure OutboxPayload where
  eventType : String
  objectType : String
  objectId : String
  correlationId : Uuid
  auditRef : Option String
  auditSequence : Option Int
  auditDigest : Option String
  details : List (String × Json)

structure OutboxRow where
  id : Uuid
  tenantId : Uuid
  schema : String
  payload : OutboxPayload
  createdAt : Instant
  publishedAt : Option Instant := none

def AuditEvent.auditRef (e : AuditEvent) : Option String :=
  e.eventDigest.map fun digest => "audit://events/" ++ e.eventId.str ++ "?digest=" ++ digest

/-- `_add_outbox`, with the identifier `uuid4` draws for the row. -/
def AuditEvent.outboxRow (audit : AuditEvent) (id : Uuid) (createdAt : Instant) : OutboxRow where
  id := id
  tenantId := audit.tenantId
  schema := "autonoesis." ++ audit.eventType ++ ".v1"
  payload := {
    eventType := audit.eventType
    objectType := audit.objectType
    objectId := audit.objectId
    correlationId := audit.correlationId
    auditRef := audit.auditRef
    auditSequence := audit.sequence
    auditDigest := audit.eventDigest
    details := audit.details }
  createdAt := createdAt

namespace AuditLog

/-- The rows of one tenant, in the order they were inserted. -/
def ofTenant (tenantId : Uuid) (rows : List AuditEvent) : List AuditEvent :=
  rows.filter (·.tenantId = tenantId)

/-- The select of `_add_audit`: the greatest sequence of the tenant, with its digest. -/
def previous (tenantId : Uuid) (rows : List AuditEvent) : Option (Int × String) :=
  (((ofTenant tenantId rows).filterMap fun row =>
    row.sequence.bind fun sequence => row.eventDigest.map (sequence, ·)).insertionSort
      fun row row' => row'.1 ≤ row.1).head?

/-- `ORDER BY sequence ASC NULLS FIRST`. -/
def nullsFirst (row row' : AuditEvent) : Prop :=
  match row.sequence, row'.sequence with
  | none, _ => True
  | some _, none => False
  | some sequence, some sequence' => sequence ≤ sequence'

instance : DecidableRel nullsFirst := fun row row' => by
  unfold nullsFirst
  split <;> infer_instance

/-- `list_audit_events`. -/
def listAuditEvents (rows : List AuditEvent) (tenantId : Uuid) : List AuditEvent :=
  (ofTenant tenantId rows).insertionSort nullsFirst

section
variable [Sha256]

/-- The event as `_add_audit` inserts it, behind the row its select returned. -/
def extend (previous : Option (Int × String)) (audit : AuditEvent) (createdAt : Instant) :
    Except Exc AuditEvent :=
  match previous with
  | some (sequence, digest) => audit.chained (sequence + 1) digest createdAt
  | none => audit.chained 1 genesisDigest createdAt

/-- Where a session stands in `_add_audit_and_outbox`. A session that failed can only be
rolled back. -/
inductive Phase where
  | idle
  | locked (audit : AuditEvent) (createdAt : Instant)
  | selected (audit : AuditEvent) (createdAt : Instant) (previous : Option (Int × String))
  | inserted (chained : AuditEvent) (createdAt : Instant)
  | failed

/-- A session with the rows it has not committed and the advisory locks it holds. -/
structure Session (κ : Type) where
  audits : List AuditEvent := []
  outbox : List OutboxRow := []
  locks : List κ := []
  phase : Phase := .idle

/-- The committed rows and the sessions. -/
structure Database (κ : Type) where
  audits : List AuditEvent := []
  outbox : List OutboxRow := []
  sessions : Nat → Session κ := fun _ => {}

variable {κ : Type}

/-- What a statement of the session sees: the committed rows and its own. -/
def Database.visible (db : Database κ) (i : Nat) : List AuditEvent :=
  db.audits ++ (db.sessions i).audits

def Database.put (db : Database κ) (i : Nat) (session : Session κ) : Database κ :=
  { db with sessions := Function.update db.sessions i session }

/-- The statements of one session, between any of which other sessions may run theirs.
`lockKey` is `hashtextextended`. -/
inductive Step (lockKey : Uuid → κ) (db : Database κ) : Database κ → Prop
  | lock (i : Nat) (audit : AuditEvent) (createdAt : Instant)
      (here : (db.sessions i).phase = .idle)
      (free : ∀ j, j ≠ i → lockKey audit.tenantId ∉ (db.sessions j).locks) :
      Step lockKey db (db.put i { db.sessions i with
        locks := lockKey audit.tenantId :: (db.sessions i).locks
        phase := .locked audit createdAt })
  | select (i : Nat) (audit : AuditEvent) (createdAt : Instant)
      (here : (db.sessions i).phase = .locked audit createdAt) :
      Step lockKey db (db.put i { db.sessions i with
        phase := .selected audit createdAt (previous audit.tenantId (db.visible i)) })
  | insertAudit (i : Nat) (audit : AuditEvent) (createdAt : Instant)
      (head : Option (Int × String)) (chained : AuditEvent)
      (here : (db.sessions i).phase = .selected audit createdAt head)
      (made : extend head audit createdAt = .ok chained) :
      Step lockKey db (db.put i { db.sessions i with
        audits := (db.sessions i).audits ++ [chained]
        phase := .inserted chained createdAt })
  | refuse (i : Nat) (audit : AuditEvent) (createdAt : Instant)
      (head : Option (Int × String)) (e : Exc)
      (here : (db.sessions i).phase = .selected audit createdAt head)
      (raised : extend head audit createdAt = .error e) :
      Step lockKey db (db.put i { db.sessions i with phase := .idle })
  | insertOutbox (i : Nat) (chained : AuditEvent) (createdAt : Instant) (id : Uuid)
      (here : (db.sessions i).phase = .inserted chained createdAt) :
      Step lockKey db (db.put i { db.sessions i with
        outbox := (db.sessions i).outbox ++ [chained.outboxRow id createdAt]
        phase := .idle })
  | fail (i : Nat) : Step lockKey db (db.put i { db.sessions i with phase := .failed })
  | commit (i : Nat) (here : (db.sessions i).phase = .idle) :
      Step lockKey db { db.put i {} with
        audits := db.audits ++ (db.sessions i).audits
        outbox := db.outbox ++ (db.sessions i).outbox }
  | rollback (i : Nat) : Step lockKey db (db.put i {})

/-! ## The head of a chain -/

omit [Sha256] in
theorem ofTenant_append (t : Uuid) (rows more : List AuditEvent) :
    ofTenant t (rows ++ more) = ofTenant t rows ++ ofTenant t more :=
  List.filter_append ..

omit [Sha256] in
/-- The row with the greatest sequence comes first, wherever it was inserted last. -/
theorem head_sorted {pairs : List (Int × String)} {n : Int} {d : String}
    (smaller : ∀ pair ∈ pairs, pair.1 < n) :
    ((pairs ++ [(n, d)]).insertionSort fun row row' => row'.1 ≤ row.1).head? = some (n, d) := by
  have total : Std.Total fun row row' : Int × String => row'.1 ≤ row.1 :=
    ⟨fun row row' => le_total row'.1 row.1⟩
  have trans : IsTrans (Int × String) fun row row' => row'.1 ≤ row.1 :=
    ⟨fun _ _ _ below below' => le_trans below' below⟩
  have sorted := List.pairwise_insertionSort
    (fun row row' : Int × String => row'.1 ≤ row.1) (pairs ++ [(n, d)])
  have same := List.perm_insertionSort
    (fun row row' : Int × String => row'.1 ≤ row.1) (pairs ++ [(n, d)])
  generalize (pairs ++ [(n, d)]).insertionSort (fun row row' => row'.1 ≤ row.1) = ordered
    at sorted same
  cases ordered with
  | nil => simpa using same.length_eq
  | cons front rest =>
    rw [List.head?_cons, Option.some.injEq]
    have there : front ∈ pairs ++ [(n, d)] := same.mem_iff.mp List.mem_cons_self
    rcases List.mem_append.mp there with there | there
    · have greatest : (n, d) ∈ front :: rest := same.mem_iff.mpr (by simp)
      rcases List.mem_cons.mp greatest with rfl | greatest
      · rfl
      · have below := smaller front there
        have above := (List.pairwise_cons.mp sorted).1 _ greatest
        dsimp only at above
        omega
    · exact List.mem_singleton.mp there

theorem sequences_eq {p d : String} {n : Nat} {rows : List AuditEvent}
    (linked : Linked AuditEvent.Links p n rows d) :
    rows.map (·.sequence) = (List.range' n rows.length).map fun k : Nat => some (k : Int) := by
  refine linked.map_eq fun link => ?_
  obtain ⟨_, _, sequence, _⟩ := link
  exact sequence

theorem sequence_lt {p d : String} {n : Nat} {rows : List AuditEvent}
    (linked : Linked AuditEvent.Links p n rows d) {row : AuditEvent} (there : row ∈ rows) :
    ∃ k : Nat, n ≤ k ∧ k < n + rows.length ∧ row.sequence = some (k : Int) := by
  have listed := List.mem_map_of_mem (f := (·.sequence)) there
  rw [sequences_eq linked, List.mem_map] at listed
  obtain ⟨k, within, sequence⟩ := listed
  rw [List.mem_range'_1] at within
  exact ⟨k, within.1, within.2, sequence.symm⟩

/-- The select finds the end of the tenant's chain. -/
theorem previous_eq {t : Uuid} {rows : List AuditEvent} {d : String}
    (linked : Linked AuditEvent.Links genesisDigest 1 (ofTenant t rows) d) :
    (ofTenant t rows = [] ∧ previous t rows = none ∧ d = genesisDigest) ∨
      previous t rows = some (((ofTenant t rows).length : Int), d) := by
  unfold previous
  rcases List.eq_nil_or_concat (ofTenant t rows) with none | ⟨init, e, last⟩
  · rw [none] at linked ⊢
    exact .inl ⟨rfl, rfl, linked⟩
  · rw [List.concat_eq_append] at last
    rw [last] at linked ⊢
    refine .inr ?_
    obtain ⟨q, before, link⟩ := linked_concat.mp linked
    obtain ⟨_, _, sequence, _, digest, _⟩ := link
    rw [List.filterMap_append]
    simp only [List.filterMap_cons, sequence, digest, Option.bind_some, Option.map_some,
      List.filterMap_nil, List.length_append, List.length_cons, List.length_nil]
    rw [Nat.zero_add, Nat.add_comm init.length 1]
    refine head_sorted fun pair there => ?_
    obtain ⟨row, within, read⟩ := List.mem_filterMap.mp there
    obtain ⟨k, _, bound, placed⟩ := sequence_lt before within
    simp only [placed, Option.bind_some, Option.map_eq_some_iff] at read
    obtain ⟨_, _, rfl⟩ := read
    dsimp only
    omega

/-- What `_add_audit` inserts behind the head it read continues the chain. -/
theorem extend_linked {audit chained : AuditEvent} {createdAt : Instant} {rows : List AuditEvent}
    {d : String}
    (linked : Linked AuditEvent.Links genesisDigest 1 (ofTenant audit.tenantId rows) d)
    (made : extend (previous audit.tenantId rows) audit createdAt = .ok chained) :
    chained.tenantId = audit.tenantId ∧
      ∃ d', Linked AuditEvent.Links genesisDigest 1
        (ofTenant audit.tenantId rows ++ [chained]) d' := by
  have follow : audit.chained ((1 + (ofTenant audit.tenantId rows).length : Nat) : Int) d createdAt
      = .ok chained := by
    rcases previous_eq linked with ⟨none, head, rfl⟩ | head
    · rw [head] at made
      rw [none]
      exact made
    · rw [head] at made
      rw [Nat.add_comm]
      exact made
  obtain ⟨d', link⟩ := AuditEvent.links_of_chained follow
  obtain ⟨_, rfl⟩ := AuditEvent.chained_ok.mp follow
  exact ⟨rfl, d', linked_concat.mpr ⟨d, linked, link⟩⟩

/-! ## What holds in every database reached -/

/-- What an outbox row and an audit event have in common: tenant, sequence and digest. -/
abbrev Key := Uuid × Option Int × Option String

def eventKey (e : AuditEvent) : Key := (e.tenantId, e.sequence, e.eventDigest)

def rowKey (row : OutboxRow) : Key :=
  (row.tenantId, row.payload.auditSequence, row.payload.auditDigest)

/-- The outbox rows of a session answer to its events, but for the one just inserted. -/
def Session.Paired (s : Session κ) : Prop :=
  match s.phase with
  | .inserted chained _ => s.audits.map eventKey = s.outbox.map rowKey ++ [eventKey chained]
  | .failed => True
  | _ => s.audits.map eventKey = s.outbox.map rowKey

/-- Where a session stands between its lock and its insert: it holds the lock, and the head
it read is still the head. -/
def Session.Current (lockKey : Uuid → κ) (audits : List AuditEvent) (s : Session κ) : Prop :=
  match s.phase with
  | .locked audit _ => lockKey audit.tenantId ∈ s.locks
  | .selected audit _ head =>
    lockKey audit.tenantId ∈ s.locks ∧ head = previous audit.tenantId (audits ++ s.audits)
  | _ => True

/-- Every tenant's events are a chain from the genesis digest. -/
def Chained (rows : List AuditEvent) : Prop :=
  ∀ t, ∃ d, Linked AuditEvent.Links genesisDigest 1 (ofTenant t rows) d

/-- What holds of a session beside the committed events. -/
structure Session.Sound (lockKey : Uuid → κ) (audits : List AuditEvent) (s : Session κ) :
    Prop where
  held : ∀ e ∈ s.audits, lockKey e.tenantId ∈ s.locks
  current : s.Current lockKey audits
  paired : s.Paired
  chained : Chained (audits ++ s.audits)

structure Database.Sound (lockKey : Uuid → κ) (db : Database κ) : Prop where
  exclusive : ∀ i j k, k ∈ (db.sessions i).locks → k ∈ (db.sessions j).locks → i = j
  sessions : ∀ i, (db.sessions i).Sound lockKey db.audits
  paired : db.audits.map eventKey = db.outbox.map rowKey

variable {lockKey : Uuid → κ} {db db' : Database κ}

theorem Chained.of_append {rows more : List AuditEvent} (chained : Chained (rows ++ more)) :
    Chained rows := by
  intro t
  obtain ⟨d, linked⟩ := chained t
  rw [ofTenant_append] at linked
  obtain ⟨q, before, _⟩ := linked_append.mp linked
  exact ⟨q, before⟩

/-- A session that holds nothing is sound beside any chains. -/
theorem Session.Sound.fresh {audits : List AuditEvent} (chained : Chained audits) :
    ({} : Session κ).Sound lockKey audits where
  held := by simp
  current := trivial
  paired := rfl
  chained := by simpa using chained

/-- A statement that commits nothing: only the session that ran it is looked at. -/
theorem Database.Sound.put (sound : db.Sound lockKey) (i : Nat) {s : Session κ}
    (locks : ∀ k ∈ s.locks, k ∈ (db.sessions i).locks ∨ ∀ j, j ≠ i → k ∉ (db.sessions j).locks)
    (mine : s.Sound lockKey db.audits) : (db.put i s).Sound lockKey := by
  have alone (k : κ) (mine : k ∈ s.locks) (j : Nat) (other : j ≠ i) :
      k ∉ (db.sessions j).locks := by
    intro theirs
    rcases locks k mine with before | free
    · exact other (sound.exclusive j i k theirs before)
    · exact free j other theirs
  refine ⟨fun j l k => ?_, fun j => ?_, sound.paired⟩
  · simp only [Database.put, Function.update_apply]
    split_ifs with first second second
    · intros
      rw [first, second]
    · exact fun mine theirs => absurd theirs (alone k mine l second)
    · exact fun theirs mine => absurd theirs (alone k mine j first)
    · exact sound.exclusive j l k
  · simp only [Database.put, Function.update_apply]
    split_ifs
    · exact mine
    · exact sound.sessions j

/-- A tenant whose rows one session is writing has no uncommitted rows in another. -/
theorem Database.Sound.apart (sound : db.Sound lockKey) {i j : Nat} (other : j ≠ i) {t : Uuid}
    (theirs : lockKey t ∈ (db.sessions j).locks) : ofTenant t (db.sessions i).audits = [] := by
  refine List.filter_eq_nil_iff.mpr fun e there same => ?_
  have mine := (sound.sessions i).held e there
  rw [of_decide_eq_true same] at mine
  exact other (sound.exclusive j i _ theirs mine)

/-- What one session commits leaves every other session sound: it wrote for no tenant the
other holds the lock of. -/
theorem Database.Sound.beside_commit (sound : db.Sound lockKey) {i j : Nat} (other : j ≠ i) :
    (db.sessions j).Sound lockKey (db.audits ++ (db.sessions i).audits) where
  held := (sound.sessions j).held
  current := by
    have current := (sound.sessions j).current
    unfold Session.Current at current ⊢
    split at current
    · exact current
    · refine ⟨current.1, current.2.trans ?_⟩
      unfold previous
      rw [ofTenant_append, ofTenant_append, ofTenant_append, sound.apart other current.1,
        List.append_nil]
    · trivial
  paired := (sound.sessions j).paired
  chained := by
    intro t
    rw [ofTenant_append, ofTenant_append]
    by_cases theirs : ofTenant t (db.sessions j).audits = []
    · rw [theirs, List.append_nil, ← ofTenant_append]
      exact (sound.sessions i).chained t
    · obtain ⟨e, there⟩ := List.exists_mem_of_ne_nil _ theirs
      obtain ⟨there, tenant⟩ := List.mem_filter.mp there
      have locked := (sound.sessions j).held e there
      rw [of_decide_eq_true tenant] at locked
      rw [sound.apart other locked, List.append_nil, ← ofTenant_append]
      exact (sound.sessions j).chained t

/-- The event a session inserts behind the head it read keeps its chains. -/
theorem Session.Sound.insert {audits : List AuditEvent} {s : Session κ}
    (sound : s.Sound lockKey audits) {audit chained : AuditEvent} {createdAt : Instant}
    {head : Option (Int × String)} (here : s.phase = .selected audit createdAt head)
    (made : extend head audit createdAt = .ok chained) :
    Session.Sound lockKey audits { s with
      audits := s.audits ++ [chained]
      phase := .inserted chained createdAt } := by
  have current := sound.current
  rw [Session.Current, here] at current
  obtain ⟨locked, rfl⟩ := current
  obtain ⟨d, linked⟩ := sound.chained audit.tenantId
  obtain ⟨tenant, d', longer⟩ := extend_linked linked made
  refine ⟨fun e there => ?_, trivial, ?_, fun t => ?_⟩
  · rcases List.mem_append.mp there with there | there
    · exact sound.held e there
    · rw [List.mem_singleton.mp there, tenant]
      exact locked
  · have paired := sound.paired
    rw [Session.Paired, here] at paired
    change (s.audits ++ [chained]).map eventKey = s.outbox.map rowKey ++ [eventKey chained]
    rw [List.map_append, paired]
    rfl
  · change ∃ d, Linked AuditEvent.Links genesisDigest 1
      (ofTenant t (audits ++ (s.audits ++ [chained]))) d
    rw [← List.append_assoc, ofTenant_append]
    by_cases same : t = audit.tenantId
    · rw [same]
      exact ⟨d', by simpa [ofTenant, tenant] using longer⟩
    · have skipped : ofTenant t [chained] = [] := by
        simp [ofTenant, tenant, Ne.symm same]
      rw [skipped, List.append_nil]
      exact sound.chained t

/-- A session that only moves to a phase without a promise about the head. -/
theorem Session.Sound.moved {audits : List AuditEvent} {s : Session κ}
    (sound : s.Sound lockKey audits) {outbox : List OutboxRow} {phase : Phase}
    (current : Session.Current lockKey audits { s with outbox := outbox, phase := phase })
    (paired : Session.Paired { s with outbox := outbox, phase := phase }) :
    Session.Sound lockKey audits { s with outbox := outbox, phase := phase } :=
  ⟨sound.held, current, paired, sound.chained⟩

theorem step_sound (step : Step lockKey db db') (sound : db.Sound lockKey) :
    db'.Sound lockKey := by
  have mine (i : Nat) := sound.sessions i
  cases step with
  | lock i audit createdAt here free =>
    refine sound.put i (fun k there => ?_) ⟨fun e there => ?_, ?_, ?_, (mine i).chained⟩
    · rcases List.mem_cons.mp there with rfl | there
      · exact .inr free
      · exact .inl there
    · exact List.mem_cons_of_mem _ ((mine i).held e there)
    · exact List.mem_cons_self
    · have paired := (mine i).paired
      rw [Session.Paired, here] at paired
      exact paired
  | select i audit createdAt here =>
    have current := (mine i).current
    have paired := (mine i).paired
    rw [Session.Current, here] at current
    rw [Session.Paired, here] at paired
    exact sound.put i (fun k there => .inl there) ((mine i).moved ⟨current, rfl⟩ paired)
  | insertAudit i audit createdAt head chained here made =>
    exact sound.put i (fun k there => .inl there) ((mine i).insert here made)
  | refuse i audit createdAt head e here raised =>
    have paired := (mine i).paired
    rw [Session.Paired, here] at paired
    exact sound.put i (fun k there => .inl there) ((mine i).moved trivial paired)
  | insertOutbox i chained createdAt id here =>
    have paired := (mine i).paired
    rw [Session.Paired, here] at paired
    refine sound.put i (fun k there => .inl there) ((mine i).moved trivial ?_)
    change (db.sessions i).audits.map eventKey = _
    rw [paired, List.map_append]
    rfl
  | fail i => exact sound.put i (fun k there => .inl there) ((mine i).moved trivial trivial)
  | commit i here =>
    have paired := (mine i).paired
    rw [Session.Paired, here] at paired
    have released := sound.put i (by simp) (.fresh (mine i).chained.of_append)
    refine ⟨released.exclusive, fun j => ?_, ?_⟩
    · by_cases other : j = i
      · subst other
        simp only [Database.put, Function.update_self]
        exact .fresh (mine j).chained
      · simp only [Database.put, Function.update_of_ne other]
        exact sound.beside_commit other
    · change (db.audits ++ (db.sessions i).audits).map eventKey =
        (db.outbox ++ (db.sessions i).outbox).map rowKey
      rw [List.map_append, List.map_append, sound.paired, paired]
  | rollback i =>
    exact sound.put i (by simp) (.fresh (mine i).chained.of_append)

/-- Every database reached from an empty one is sound. -/
theorem reachable_sound (reached : Relation.ReflTransGen (Step lockKey) {} db) :
    db.Sound lockKey := by
  induction reached with
  | refl => exact ⟨by simp, fun _ => .fresh fun _ => ⟨_, linked_nil.mpr rfl⟩, rfl⟩
  | tail _ step sound => exact step_sound step sound

/-! ## The committed log -/

/-- The events of a chain were inserted in the order of their sequences. -/
theorem increasing {d : String} {rows : List AuditEvent}
    (linked : Linked AuditEvent.Links genesisDigest 1 rows d) :
    rows.Pairwise fun row row' => ∃ k k' : Nat, k < k' ∧ row.sequence = some (k : Int) ∧
      row'.sequence = some (k' : Int) := by
  have ordered : (rows.map (·.sequence)).Pairwise fun s s' =>
      ∃ k k' : Nat, k < k' ∧ s = some (k : Int) ∧ s' = some (k' : Int) := by
    rw [sequences_eq linked, List.pairwise_map]
    exact (List.pairwise_lt_range' ..).imp fun below => ⟨_, _, below, rfl, rfl⟩
  exact List.pairwise_map.mp ordered

/-- Ordering a chain by sequence leaves it as it was inserted. -/
theorem listAuditEvents_eq {t : Uuid} {rows : List AuditEvent} (chained : Chained rows) :
    listAuditEvents rows t = ofTenant t rows := by
  obtain ⟨d, linked⟩ := chained t
  refine List.Pairwise.insertionSort_eq ((increasing linked).imp ?_)
  rintro row row' ⟨k, k', below, sequence, sequence'⟩
  simp only [nullsFirst, sequence, sequence']
  omega

omit [Sha256] in
theorem pairwise_ofTenant {R : AuditEvent → AuditEvent → Prop} {rows : List AuditEvent}
    (each : ∀ t, (ofTenant t rows).Pairwise R) :
    rows.Pairwise fun row row' => row.tenantId = row'.tenantId → R row row' := by
  induction rows with
  | nil => exact .nil
  | cons row rest ih =>
    refine .cons (fun row' there same => ?_) (ih fun t => ?_)
    · have own := each row.tenantId
      rw [ofTenant, List.filter_cons_of_pos (by simp)] at own
      exact (List.pairwise_cons.mp own).1 row' (List.mem_filter.mpr ⟨there, by simp [same]⟩)
    · exact (each t).sublist ((List.sublist_cons_self row rest).filter _)

theorem keys_nodup {rows : List AuditEvent} (chained : Chained rows) :
    (rows.map eventKey).Nodup := by
  have apart (t : Uuid) :
      (ofTenant t rows).Pairwise fun row row' => row.sequence ≠ row'.sequence := by
    obtain ⟨d, linked⟩ := chained t
    refine (increasing linked).imp ?_
    rintro row row' ⟨k, k', below, sequence, sequence'⟩ same
    rw [sequence, sequence', Option.some.injEq] at same
    omega
  refine List.pairwise_map.mpr ((pairwise_ofTenant apart).imp fun apart same => ?_)
  simp only [eventKey, Prod.mk.injEq] at same
  exact apart same.1 same.2.1

/-- The outbox rows that carry the event's tenant, sequence and digest. -/
def rowsOf (outbox : List OutboxRow) (e : AuditEvent) : List OutboxRow :=
  outbox.filter fun row => rowKey row == eventKey e

theorem Database.Sound.one_row (sound : db.Sound lockKey) {e : AuditEvent} (there : e ∈ db.audits) :
    (rowsOf db.outbox e).length = 1 := by
  have once := List.count_eq_one_of_mem
    (keys_nodup (sound.sessions 0).chained.of_append) (List.mem_map_of_mem there)
  rw [sound.paired, List.count, List.countP_map, List.countP_eq_length_filter] at once
  exact once

/-- Whatever the sessions have done, the committed events of each tenant are numbered from
one and, once there are any, accepted by `verify_audit_chain`; each has one outbox row. -/
theorem audit_log_chained (lockKey : Uuid → κ) (db : Database κ)
    (reached : Relation.ReflTransGen (Step lockKey) {} db) :
    (∀ t, (listAuditEvents db.audits t).map (·.sequence) =
        (List.range' 1 (listAuditEvents db.audits t).length).map (fun n : Nat => some (n : Int)) ∧
      (listAuditEvents db.audits t ≠ [] →
        verifyAuditChain (listAuditEvents db.audits t) = .ok true)) ∧
    ∀ e ∈ db.audits, (rowsOf db.outbox e).length = 1 := by
  have sound := reachable_sound reached
  have chained := (sound.sessions 0).chained.of_append
  refine ⟨fun t => ?_, fun e there => sound.one_row there⟩
  rw [listAuditEvents_eq chained]
  obtain ⟨d, linked⟩ := chained t
  exact ⟨sequences_eq linked, fun some => (verify_iff _).mpr ⟨some, d, linked⟩⟩

end

/-! ## A session that logs one event -/

namespace Sample
open AuditSample

attribute [local instance] AuditSample.sha256

/-- The first event of the sample chain, as the session inserts it. -/
def logged : AuditEvent :=
  { event with
    sequence := some 1
    previousDigest := some genesisDigest
    eventDigest := some (hexdigest (genesisDigest ++ "\n" ++ event.canonical 1 now))
    createdAt := some now }

theorem extend_none : extend none event now = .ok logged :=
  AuditEvent.chained_ok.mpr ⟨⟨by decide, by decide +kernel⟩, rfl⟩

/-- The session locks, selects, inserts the event and its row, and commits. -/
theorem reached : ∃ sessions, Relation.ReflTransGen (Step id) ({} : Database Uuid)
    ⟨[logged], [logged.outboxRow 9 now], sessions⟩ :=
  ⟨_, (((((Relation.ReflTransGen.refl.tail (.lock 0 event now rfl (by simp))).tail
    (.select 0 event now rfl)).tail (.insertAudit 0 event now none logged rfl extend_none)).tail
    (.insertOutbox 0 logged now 9 rfl)).tail (.commit 0 rfl))⟩

/-- A tenant without events has no chain to verify. -/
theorem empty_log_refused : ¬ ∀ db : Database Uuid,
    Relation.ReflTransGen (Step id) {} db →
      ∀ t, verifyAuditChain (listAuditEvents db.audits t) = .ok true := by
  intro accepted
  have refused := accepted {} .refl 1
  simp [listAuditEvents, ofTenant, verifyAuditChain, verifyFrom] at refused

theorem audit_log_chained_one :
    listAuditEvents [logged] 1 ≠ [] ∧ verifyAuditChain (listAuditEvents [logged] 1) = .ok true ∧
      (rowsOf [logged.outboxRow 9 now] logged).length = 1 := by
  have some : listAuditEvents [logged] 1 ≠ [] := by
    simp [listAuditEvents, ofTenant, logged, event]
  obtain ⟨_, reached⟩ := reached
  obtain ⟨numbered, published⟩ := audit_log_chained id _ reached
  exact ⟨some, (numbered 1).2 some, published logged List.mem_cons_self⟩

end Sample

end AuditLog

end Autonoesis
