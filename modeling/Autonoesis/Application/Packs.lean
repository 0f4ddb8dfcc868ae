import Autonoesis.Base.History
import Autonoesis.Application.AuditChain
import Autonoesis.Application.Store

/-!
# The pack registry of the in-memory store and its audit trail

The methods here are called outside `transaction()`: one that raises keeps what it wrote
before. How two versions compare is a parameter, and no result depends on it.
-/

namespace Autonoesis
open Base

namespace Store

/-- `_pack_is_listable`. -/
def packIsListable (s : Store) (key : PackKey) : Bool :=
  let state := (s.packStates.get? key).getD ⟨some true, some false⟩
  state.enabled.getD false && !state.revoked.getD false

section
variable (compareVersions : String → String → Except Exc Int)

/-- One round of the resolving loop: a pinned pack resolves to its pinned version, any
other to its greatest. -/
def resolvePack (s : Store) (tenantId : Uuid) (resolved : Dict String CapabilityPackManifest) :
    PackKey × CapabilityPackManifest → Except Exc (Dict String CapabilityPackManifest)
  | ((itemTenant, packId, version), item) =>
    let pinned := s.packChannels.get? (tenantId, packId)
    if itemTenant ≠ tenantId ∨ s.packIsListable (tenantId, packId, version) = false then
      .ok resolved
    else if pinned.any (version ≠ ·) then .ok resolved
    else match resolved.get? packId, pinned with
      | none, _ => .ok (resolved.set packId item)
      | some _, some _ => .ok resolved
      | some current, none => do
        let order ← compareVersions version current.version
        return if 0 < order then resolved.set packId item else resolved

/-- `_refresh_tenant_goal_types`. -/
def refreshTenantGoalTypes (tenantId : Uuid) : StoreTx Unit := do
  let s ← Tx.read id
  let resolved ← Tx.ofExcept
    (s.tenantPacks.entries.foldlM (s.resolvePack compareVersions tenantId) .empty)
  let packs := resolved.entries.insertionSort fun a b => a.1 ≤ b.1
  let goalTypes := packs.flatMap fun p => p.2.goalTypes
  Tx.write fun s => { s with
    tenantGoalTypes := goalTypes.foldl (fun d g => d.set (tenantId, g.goalType) g)
      (s.tenantGoalTypes.filterKeys (·.1 ≠ tenantId)) }

def installPack (tenantId : Uuid) (manifest : CapabilityPackManifest) (s : Store) :
    Except Exc Unit × Store :=
  let key := (tenantId, manifest.packId, manifest.version)
  match s.tenantPacks.get? key with
  | some existing =>
    if Json.dumps true (manifestPayload existing) ≠ Json.dumps true (manifestPayload manifest) then
      (.error (.valueError ("capability pack content conflict: " ++ manifest.packId ++ "@" ++
        manifest.version ++ " is already installed with different signed content")), s)
    else (.ok (), s)
  | none =>
    (refreshTenantGoalTypes compareVersions tenantId).commit { s with
      tenantPacks := s.tenantPacks.set key manifest
      packStates := s.packStates.set key
        ((s.packStates.get? key).getD ⟨some true, some false⟩) }

/-- The event of `_record_pack_fact`, with the identifiers it draws. -/
def packFact (tenantId : Uuid) (eventType packId version : String) (actorId : Uuid)
    (reason : Option String) (correlationId eventId : Uuid) : AuditEvent where
  tenantId := tenantId
  actorId := actorId
  principalId := actorId
  eventType := eventType
  objectType := "capability_pack"
  objectId := packId ++ "@" ++ version
  correlationId := correlationId
  details := [("pack_id", .str packId), ("version", .str version)] ++
    (match reason with
    | some text => if text = "" then [] else [("reason", .str text)]
    | none => [])
  eventId := eventId

/-- `_record_pack_fact`: the event goes into the list as it is, without a place in the
chain. -/
def recordPackFact (fact : AuditEvent) (s : Store) : Store :=
  { s with audits := s.audits ++ [fact] }

/-- A change to an installed pack: `_require_pack`, the change, its fact, the refresh. -/
def changePack (tenantId : Uuid) (packId version : String) (change : Store → Store)
    (eventType : String) (actorId : Uuid) (reason : Option String) (correlationId eventId : Uuid)
    (s : Store) : Except Exc Unit × Store :=
  match s.tenantPacks.get? (tenantId, packId, version) with
  | none =>
    (.error (.recordNotFound
      ("capability pack " ++ packId ++ "@" ++ version ++ " was not found")), s)
  | some _ =>
    (refreshTenantGoalTypes compareVersions tenantId).commit
      (recordPackFact (packFact tenantId eventType packId version actorId reason correlationId
        eventId) (change s))

/-- The flags of a pack, made empty when it has none, changed. -/
def setFlags (key : PackKey) (change : PackState → PackState) (s : Store) : Store :=
  { s with packStates := s.packStates.set key (change ((s.packStates.get? key).getD {})) }

def setPackEnabled (tenantId : Uuid) (packId version : String) (enabled : Bool) (actorId : Uuid)
    (reason : String) (correlationId eventId : Uuid) : Store → Except Exc Unit × Store :=
  changePack compareVersions tenantId packId version
    (setFlags (tenantId, packId, version) fun f => { f with enabled := some enabled })
    (if enabled then "capability_pack.enabled" else "capability_pack.disabled") actorId
    (some reason) correlationId eventId

def revokePack (tenantId : Uuid) (packId version : String) (actorId : Uuid) (reason : String)
    (correlationId eventId : Uuid) : Store → Except Exc Unit × Store :=
  changePack compareVersions tenantId packId version
    (setFlags (tenantId, packId, version) fun _ => ⟨some false, some true⟩)
    "capability_pack.revoked" actorId (some reason) correlationId eventId

def setStableChannel (tenantId : Uuid) (packId version : String) (actorId : Uuid)
    (correlationId eventId : Uuid) : Store → Except Exc Unit × Store :=
  changePack compareVersions tenantId packId version
    (fun s => { s with packChannels := s.packChannels.set (tenantId, packId) version })
    "capability_pack.channel_updated" actorId none correlationId eventId

end

def listAuditEvents (tenantId : Uuid) (s : Store) : List AuditEvent :=
  s.audits.filter fun e => e.tenantId = tenantId

theorem getLast_listAuditEvents (s : Store) (tenantId : Uuid) :
    s.audits.reverse.find? (·.tenantId = tenantId) = (s.listAuditEvents tenantId).getLast? := by
  rw [← List.head?_filter, List.filter_reverse, List.head?_reverse]
  rfl

end Store

/-! ## Calls that record audit facts -/

/-- A call of a method that can add to the audit list, with the clock readings and
identifiers it draws. -/
inductive AuditCall where
  | recordAudit (audit : AuditEvent) (now : Instant)
  | addGoal (goal : GoalContract) (audit : AuditEvent) (now : Instant)
  | saveGoal (goal : GoalContract) (expectedVersion : Int) (audit : AuditEvent) (now : Instant)
  | addRun (run : Run) (audit : AuditEvent) (now : Instant)
  | saveRun (run : Run) (expectedVersion : Int) (audit : Option AuditEvent) (now : Instant)
  | installPack (tenantId : Uuid) (manifest : CapabilityPackManifest)
  | setPackEnabled (tenantId : Uuid) (packId version : String) (enabled : Bool) (actorId : Uuid)
      (reason : String) (correlationId eventId : Uuid)
  | revokePack (tenantId : Uuid) (packId version : String) (actorId : Uuid) (reason : String)
      (correlationId eventId : Uuid)
  | setStableChannel (tenantId : Uuid) (packId version : String) (actorId : Uuid)
      (correlationId eventId : Uuid)

section
variable [Sha256] (compareVersions : String → String → Except Exc Int)

/-- The store after a call, raised or not. -/
def Store.call (s : Store) : AuditCall → Store
  | .recordAudit audit now => ((recordAudit audit now).commit s).2
  | .addGoal goal audit now =>
    ((recordAudit audit now).commit { s with goals := s.goals.set goal.goalId goal }).2
  | .saveGoal goal expectedVersion audit now =>
    (Tx.andThen (do
      let current ← getGoal goal.tenantId goal.goalId
      Tx.check (current.version ≠ expectedVersion)
        (.concurrencyConflict "goal optimistic version changed")
      Tx.write fun s => { s with goals := s.goals.set goal.goalId goal })
      (fun _ => (recordAudit audit now).commit) s).2
  | .addRun run audit now =>
    ((recordAudit audit now).commit { s with runs := s.runs.set run.runId run }).2
  | .saveRun run expectedVersion audit now =>
    (Tx.andThen (do
      let current ← getRun run.tenantId run.runId
      Tx.check (current.optimisticVersion ≠ expectedVersion)
        (.concurrencyConflict "run optimistic version changed")
      Tx.write fun s => { s with runs := s.runs.set run.runId run })
      (fun _ s => match audit with
        | some audit => (recordAudit audit now).commit s
        | none => (.ok (), s)) s).2
  | .installPack tenantId manifest => (installPack compareVersions tenantId manifest s).2
  | .setPackEnabled tenantId packId version enabled actorId reason correlationId eventId =>
    (setPackEnabled compareVersions tenantId packId version enabled actorId reason
      correlationId eventId s).2
  | .revokePack tenantId packId version actorId reason correlationId eventId =>
    (revokePack compareVersions tenantId packId version actorId reason correlationId eventId s).2
  | .setStableChannel tenantId packId version actorId correlationId eventId =>
    (setStableChannel compareVersions tenantId packId version actorId correlationId eventId s).2

/-- The call changes a pack that is installed for the tenant. -/
def AuditCall.ChangesPack (tenantId : Uuid) (s : Store) : AuditCall → Prop
  | .setPackEnabled owner packId version _ _ _ _ _
  | .revokePack owner packId version _ _ _ _
  | .setStableChannel owner packId version _ _ _ =>
    owner = tenantId ∧ (s.tenantPacks.get? (owner, packId, version)).isSome = true
  | _ => False

/-- What a call adds to the audit list: nothing, an event chained behind the last of its
tenant, or the bare fact of a change to a pack. -/
inductive Recorded (s : Store) (call : AuditCall) (s' : Store) : Prop
  | nothing (same : s'.audits = s.audits) (idle : ∀ t, ¬call.ChangesPack t s)
  | event {audit e : AuditEvent} {sequence : Int} {previousDigest : String} {now : Instant}
      (last : match (s.listAuditEvents audit.tenantId).getLast? with
        | some p => sequence = p.sequence.getD 0 + 1 ∧ previousDigest =
            (match p.eventDigest with
            | some digest => if digest = "" then genesisDigest else digest
            | none => genesisDigest)
        | none => sequence = 1 ∧ previousDigest = genesisDigest)
      (made : audit.chained sequence previousDigest now = .ok e)
      (grown : s'.audits = s.audits ++ [e]) (idle : ∀ t, ¬call.ChangesPack t s)
  | fact {e : AuditEvent} (bare : e.eventDigest = none)
      (change : ∀ t, call.ChangesPack t s ↔ e.tenantId = t)
      (grown : s'.audits = s.audits ++ [e])

/-- `record_audit` on its own: it raises, or appends the chained event. -/
theorem Store.recordAudit_commit (s s₀ : Store) (same : s₀.audits = s.audits)
    (audit : AuditEvent) (now : Instant) (call : AuditCall)
    (idle : ∀ t, ¬call.ChangesPack t s) :
    Recorded s call ((recordAudit audit now).commit s₀).2 := by
  obtain ⟨e, failed⟩ | ⟨_, s', ran, done⟩ := Tx.commit_cases (recordAudit audit now) s₀
  · rw [failed]
    exact .nothing same idle
  · rw [done]
    simp only [recordAudit, Tx.bind_ok, Tx.read_ok, Tx.ofExcept_ok, Tx.write_ok] at ran
    obtain ⟨previous, _, ⟨rfl, rfl⟩, chained, _, ⟨made, rfl⟩, rfl⟩ := ran
    rw [same, getLast_listAuditEvents] at made
    refine .event ?_ made (congrArg (· ++ [chained]) same) idle
    cases (s.listAuditEvents audit.tenantId).getLast? with
    | none => exact ⟨rfl, rfl⟩
    | some p => exact ⟨rfl, rfl⟩

omit [Sha256] in
theorem Store.refresh_audits (tenantId : Uuid) (s : Store) :
    ((refreshTenantGoalTypes compareVersions tenantId).commit s).2.audits = s.audits := by
  have keeps : Tx.Keeps Store.audits (refreshTenantGoalTypes compareVersions tenantId) :=
    Tx.keeps_bind (Tx.keeps_read _) fun _ => Tx.keeps_bind (Tx.keeps_ofExcept _) fun _ =>
      Tx.keeps_write fun _ => rfl
  exact keeps.commit s

/-- A change to a pack records its fact exactly when the pack is installed. -/
theorem Store.changePack_recorded {tenantId : Uuid} {packId version : String}
    {change : Store → Store} {eventType : String} {actorId : Uuid} {reason : Option String}
    {correlationId eventId : Uuid} {s : Store} {call : AuditCall}
    (keeps : (change s).audits = s.audits)
    (changes : ∀ t, call.ChangesPack t s ↔
      tenantId = t ∧ (s.tenantPacks.get? (tenantId, packId, version)).isSome = true) :
    Recorded s call (changePack compareVersions tenantId packId version change eventType actorId
      reason correlationId eventId s).2 := by
  unfold changePack
  cases installed : s.tenantPacks.get? (tenantId, packId, version) with
  | none => exact .nothing rfl fun t => by simp [changes, installed]
  | some _ =>
    have fact : (packFact tenantId eventType packId version actorId reason correlationId
        eventId).eventDigest = none := rfl
    refine .fact fact (fun t => ?_) ?_
    · simp [changes, installed, packFact]
    · rw [refresh_audits, recordPackFact, keeps]

/-- A save and then its audit: the save touches no audit. -/
theorem Store.save_recorded {save : StoreTx Unit} (keeps : Tx.Keeps Store.audits save)
    {record : Store → Except Exc Unit × Store} {s : Store} {call : AuditCall}
    (idle : ∀ t, ¬call.ChangesPack t s)
    (recorded : ∀ s₀ : Store, s₀.audits = s.audits → Recorded s call (record s₀).2) :
    Recorded s call (Tx.andThen save (fun _ => record) s).2 := by
  unfold Tx.andThen
  obtain ⟨e, failed⟩ | ⟨_, s₀, ran, done⟩ := Tx.commit_cases save s
  · rw [failed]
    exact .nothing rfl idle
  · rw [done]
    exact recorded s₀ (keeps.eq ran)

/-- What any call adds to the audit list. -/
theorem Store.call_recorded (s : Store) (call : AuditCall) :
    Recorded s call (s.call compareVersions call) := by
  cases call with
  | recordAudit audit now => exact recordAudit_commit s s rfl audit now (.recordAudit ..) fun _ => id
  | addGoal goal audit now =>
    refine recordAudit_commit s _ ?_ audit now (.addGoal ..) fun _ => id
    rfl
  | addRun run audit now =>
    refine recordAudit_commit s _ ?_ audit now (.addRun ..) fun _ => id
    rfl
  | saveGoal goal expectedVersion audit now =>
    refine save_recorded ?_ (fun _ => ?_) fun s₀ same => ?_
    · exact Tx.keeps_bind (find_keeps _ _ _ _ _ _) fun _ =>
        Tx.keeps_bind (Tx.keeps_check _ _) fun _ => Tx.keeps_write fun _ => rfl
    · exact id
    · exact recordAudit_commit s s₀ same audit now (.saveGoal ..) fun _ => id
  | saveRun run expectedVersion audit now =>
    refine save_recorded ?_ (fun _ => ?_) fun s₀ same => ?_
    · exact Tx.keeps_bind (find_keeps _ _ _ _ _ _) fun _ =>
        Tx.keeps_bind (Tx.keeps_check _ _) fun _ => Tx.keeps_write fun _ => rfl
    · exact id
    · cases audit with
      | some audit => exact recordAudit_commit s s₀ same audit now (.saveRun ..) fun _ => id
      | none => exact .nothing same fun _ => id
  | installPack tenantId manifest =>
    refine .nothing ?_ fun _ => id
    unfold Store.call installPack
    dsimp only
    split
    · split <;> rfl
    · exact refresh_audits compareVersions tenantId _
  | setPackEnabled => exact changePack_recorded compareVersions rfl fun t => Iff.rfl
  | revokePack => exact changePack_recorded compareVersions rfl fun t => Iff.rfl
  | setStableChannel => exact changePack_recorded compareVersions rfl fun t => Iff.rfl

/-! ## When a tenant's audit list is a chain -/

/-- The tenant's events, in insertion order, are a chain from the genesis digest. -/
def Store.Chained (tenantId : Uuid) (s : Store) : Prop :=
  ∃ d, Linked AuditEvent.Links genesisDigest 1 (s.listAuditEvents tenantId) d

/-- Some event of the tenant has no digest. -/
def Store.Bare (tenantId : Uuid) (s : Store) : Prop :=
  ∃ e ∈ s.listAuditEvents tenantId, e.eventDigest = none

theorem Store.chained_iff (tenantId : Uuid) (s : Store) :
    s.Chained tenantId ↔
      (s.listAuditEvents tenantId ≠ [] → verifyAuditChain (s.listAuditEvents tenantId) = .ok true) := by
  rw [verify_iff]
  constructor
  · exact fun chained some => ⟨some, chained⟩
  · intro accepted
    by_cases empty : s.listAuditEvents tenantId = []
    · exact ⟨genesisDigest, by rw [empty]; rfl⟩
    · exact (accepted empty).2

omit [Sha256] in
theorem Store.listAuditEvents_append {s s' : Store} {e : AuditEvent}
    (grown : s'.audits = s.audits ++ [e]) (tenantId : Uuid) :
    s'.listAuditEvents tenantId =
      s.listAuditEvents tenantId ++ if e.tenantId = tenantId then [e] else [] := by
  rw [listAuditEvents, grown, List.filter_append, listAuditEvents]
  by_cases own : e.tenantId = tenantId <;> simp [own]

theorem Store.Chained.not_bare {tenantId : Uuid} {s : Store} (chained : s.Chained tenantId) :
    ¬s.Bare tenantId := by
  rintro ⟨e, there, bare⟩
  obtain ⟨d, linked⟩ := chained
  obtain ⟨_, _, _, link⟩ := linked.mem there
  rw [link.digest] at bare
  cases bare

/-- `record_audit` continues the chain it finds. -/
theorem Store.Chained.event (sized : ∀ text, (Sha256.hexdigest text).length = 64) {s : Store}
    {audit e : AuditEvent} {sequence : Int} {previousDigest : String} {now : Instant}
    (chained : s.Chained audit.tenantId)
    (last : match (s.listAuditEvents audit.tenantId).getLast? with
      | some p => sequence = p.sequence.getD 0 + 1 ∧ previousDigest =
          (match p.eventDigest with
          | some digest => if digest = "" then genesisDigest else digest
          | none => genesisDigest)
      | none => sequence = 1 ∧ previousDigest = genesisDigest)
    (made : audit.chained sequence previousDigest now = .ok e) :
    ∃ d, Linked AuditEvent.Links genesisDigest 1 (s.listAuditEvents audit.tenantId ++ [e]) d := by
  obtain ⟨d, linked⟩ := chained
  suffices place : sequence = ((1 + (s.listAuditEvents audit.tenantId).length : Nat) : Int) ∧
      previousDigest = d by
    obtain ⟨rfl, rfl⟩ := place
    obtain ⟨d', link⟩ := AuditEvent.links_of_chained made
    exact ⟨d', linked_concat.mpr ⟨_, linked, link⟩⟩
  rcases List.eq_nil_or_concat (s.listAuditEvents audit.tenantId) with empty | ⟨init, p, list⟩
  · rw [empty] at last linked ⊢
    exact ⟨last.1, last.2.trans (linked_nil.mp linked).symm⟩
  · rw [list, List.concat_eq_append] at last linked ⊢
    obtain ⟨q, _, _, _, number, _, digest, _, _, hashed⟩ := linked_concat.mp linked
    have nonempty : d ≠ "" := by
      rintro rfl
      have := sized (q ++ "\n" ++ p.canonical (1 + init.length : Nat) (by assumption))
      rw [← hashed] at this
      simp at this
    simp only [List.getLast?_concat, number, digest, Option.getD_some, nonempty, if_false] at last
    refine ⟨?_, last.2⟩
    rw [last.1, List.length_append, List.length_singleton]
    omega

theorem Recorded.chained (sized : ∀ text, (Sha256.hexdigest text).length = 64) {s s' : Store}
    {call : AuditCall} {tenantId : Uuid} (recorded : Recorded s call s')
    (quiet : ¬call.ChangesPack tenantId s) (chained : s.Chained tenantId) :
    s'.Chained tenantId := by
  cases recorded with
  | nothing same => simpa only [Store.Chained, Store.listAuditEvents, same] using chained
  | @event audit e _ _ _ last made grown _ =>
    have owner : e.tenantId = audit.tenantId := by
      obtain ⟨_, rfl⟩ := AuditEvent.chained_ok.mp made
      rfl
    rw [Store.Chained, Store.listAuditEvents_append grown, owner]
    by_cases own : audit.tenantId = tenantId
    · subst own
      simpa using chained.event sized last made
    · rw [if_neg own, List.append_nil]
      exact chained
  | fact bare change grown =>
    have other := fun own => quiet ((change tenantId).mpr own)
    rw [Store.Chained, Store.listAuditEvents_append grown, if_neg other, List.append_nil]
    exact chained

theorem Recorded.bare {s s' : Store} {call : AuditCall} {tenantId : Uuid}
    (recorded : Recorded s call s') (bare : call.ChangesPack tenantId s ∨ s.Bare tenantId) :
    s'.Bare tenantId := by
  cases recorded with
  | nothing same idle =>
    have old := bare.resolve_left (idle tenantId)
    simpa only [Store.Bare, Store.listAuditEvents, same] using old
  | event last made grown idle =>
    obtain ⟨e, there, none⟩ := bare.resolve_left (idle tenantId)
    exact ⟨e, by rw [Store.listAuditEvents_append grown]; exact List.mem_append_left _ there, none⟩
  | fact none change grown =>
    rcases bare with changes | ⟨e, there, none⟩
    · exact ⟨_, by rw [Store.listAuditEvents_append grown, if_pos ((change _).mp changes)]; simp,
        none⟩
    · exact ⟨e, by rw [Store.listAuditEvents_append grown]; exact List.mem_append_left _ there,
        none⟩

/-- A tenant's audit list is a chain exactly when no call of the history changed a pack
installed for it: those facts are recorded beside the chain. -/
theorem audit_list_verifies_iff (sized : ∀ text, (Sha256.hexdigest text).length = 64)
    (calls : List AuditCall) (tenantId : Uuid) :
    ((after (Store.call compareVersions) {} calls).listAuditEvents tenantId ≠ [] →
      verifyAuditChain
        ((after (Store.call compareVersions) {} calls).listAuditEvents tenantId) = .ok true) ↔
    Along (Store.call compareVersions) (fun s call => ¬call.ChangesPack tenantId s) {} calls := by
  rw [← Store.chained_iff]
  have start : Store.Chained tenantId {} := ⟨genesisDigest, rfl⟩
  revert start
  generalize ({} : Store) = s
  intro start
  induction calls generalizing s with
  | nil => exact iff_of_true start trivial
  | cons call rest ih =>
    have recorded := s.call_recorded compareVersions call
    by_cases changes : call.ChangesPack tenantId s
    · refine iff_of_false (fun chained => chained.not_bare ?_) (fun along => along.1 changes)
      exact inv_after (Store.Bare tenantId)
        (fun s c bare => (s.call_recorded compareVersions c).bare (.inr bare))
        (recorded.bare (.inl changes)) rest
    · exact (ih _ (recorded.chained sized changes start)).trans
        ⟨fun later => ⟨changes, later⟩, fun along => along.2⟩

end

/-! ## A disabled pack -/

namespace PackSample
open AuditSample (event now digits length_digits firstDigest)

/-- SHA-256 on the one text the sample chain digests, and other digits for every other. -/
def hexdigest (text : String) : String :=
  if text = genesisDigest ++ "\n" ++ event.canonical 1 now
  then firstDigest
  else digits text

@[reducible] def sha256 : Sha256 := ⟨hexdigest⟩

attribute [local instance] sha256

def manifest : CapabilityPackManifest where
  apiVersion := "autonoesis/v1alpha1"
  packId := "mail"
  version := "1.0.0"
  pythonEntryPoint := "mail:pack"
  goalTypes := [⟨"notify", .obj [], "mailer", "suite", "p1", 10⟩]
  skills := []
  tools := []
  policies := []
  evaluationSuites := []

def compareVersions (left right : String) : Except Exc Int := .ok (if left = right then 0 else 1)

def disable : AuditCall := .setPackEnabled 1 "mail" "1.0.0" false 2 "maintenance" 7 8

/-- Disabling an installed pack leaves an event that no chain accepts. -/
theorem pack_fact_breaks_chain :
    let s := after (Store.call compareVersions) {} [.installPack 1 manifest, disable]
    (s.listAuditEvents 1).length = 1 ∧ verifyAuditChain (s.listAuditEvents 1) ≠ .ok true := by
  decide +kernel

theorem audit_list_verifies_iff_missing_pack :
    let s := after (Store.call compareVersions) {} [.recordAudit event now, disable]
    Along (Store.call compareVersions) (fun s call => ¬call.ChangesPack 1 s) {}
      [.recordAudit event now, disable] ∧
    verifyAuditChain (s.listAuditEvents 1) = .ok true := by
  have sized (text : String) : (hexdigest text).length = 64 := by
    unfold hexdigest
    split
    · decide +kernel
    · exact length_digits text
  have along : Along (Store.call compareVersions) (fun s call => ¬call.ChangesPack 1 s) {}
      [.recordAudit event now, disable] := by
    refine ⟨id, ?_, trivial⟩
    rintro ⟨_, installed⟩
    exact absurd installed (by decide +kernel)
  exact ⟨along, (audit_list_verifies_iff compareVersions sized _ 1).mpr along (by decide +kernel)⟩

end PackSample

end Autonoesis
