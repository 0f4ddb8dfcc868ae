import Autonoesis.Application.Platform
import Autonoesis.Base.Rely
import Autonoesis.Base.Words
import Autonoesis.Domain.Identity
import Autonoesis.Persistence.KillSwitches

/-!
# Breaking the glass

A security administrator authorizes another principal for a short time; that principal may then
throw or release the platform's kill switch, and an auditor reviews the authorization. Requests
of any principals run side by side over the stores in PostgreSQL, and each may fail at any call.
The stores do not say who issued an authorization; the model records it.
-/

namespace Autonoesis.BreakGlass
open Base Prog

/-- `require_role`. -/
def requireRole (ctx : IdentityContext) (allowed : List String) : Except Exc Unit :=
  checks [(!ctx.roles.any (· ∈ allowed),
    .permissionError "the current principal does not have the required role")]

/-- A row of `platform_kill_switches`. -/
structure PlatformSwitchRow extends PlatformKillSwitchRow where
  reason : String
  activatedBy : Uuid
  createdAt : Instant

def PlatformSwitchRow.record (row : PlatformSwitchRow) : KillSwitchRecord :=
  ⟨row.id, .platform, "platform", row.reason, row.activatedBy.str, row.createdAt,
    row.deactivatedAt⟩

/-- A row of `platform_audit_events`. -/
structure PlatformAuditEvent where
  actorId : Uuid
  principalId : Uuid
  eventType : String
  objectId : Uuid
  correlationId : Uuid
  reason : String
  createdAt : Instant

/-- A row of `breakglass_alerts` as it is inserted. -/
structure BreakglassAlert where
  authorizationId : Uuid
  principalId : Uuid
  ticket : String
  eventType : String
  createdAt : Instant

structure World where
  authorizations : Dict Uuid TemporaryAuthorization := .empty
  issued : List (TemporaryAuthorization × IdentityContext) := []
  switches : List PlatformSwitchRow := []
  platformAudit : List PlatformAuditEvent := []
  alerts : List BreakglassAlert := []
  clock : Instant

abbrev Method := Tx World Exc

/-! ## The stores -/

/-- `PostgreSQLTemporaryAuthorizationStore.issue`. -/
def issueRow (authorization : TemporaryAuthorization) (issuer : IdentityContext) :
    Method Unit := do
  Tx.check (500 < authorization.scope.length || 1000 < authorization.reason.length)
    (.dataError "temporary_authorizations")
  Tx.check (← Tx.read fun s => (s.authorizations.get? authorization.authorizationId).isSome)
    (.integrityError "id")
  Tx.write fun s => { s with
    authorizations := s.authorizations.set authorization.authorizationId authorization
    issued := s.issued ++ [(authorization, issuer)] }

/-- `PostgreSQLTemporaryAuthorizationStore.require_active`. -/
def requireActiveRow (tenantId authorizationId principalId : Uuid) (scope : String) :
    Method TemporaryAuthorization := do
  match ← Tx.read fun s => (s.authorizations.get? authorizationId).filter fun row =>
      row.tenantId = tenantId && row.principalId = principalId && row.scope = scope &&
        decide (s.clock < row.expiresAt) with
  | some row => return row
  | none => Tx.raise (.permissionError "active scoped Break-glass authorization is required")

/-- `PostgreSQLTemporaryAuthorizationStore.review`. -/
def reviewRow (tenantId authorizationId reviewer : Uuid) : Method TemporaryAuthorization := do
  match ← Tx.read fun s => (s.authorizations.get? authorizationId).filter (·.tenantId = tenantId) with
  | none => Tx.raise (.lookupError "temporary authorization was not found")
  | some row =>
    let reviewed ← Tx.ofExcept (row.review reviewer (← Tx.read (·.clock)))
    Tx.write fun s => { s with authorizations := s.authorizations.set authorizationId reviewed }
    return reviewed

/-- The ticket `_audit` cuts out of a reason. -/
def ticketOf (reason : String) : String :=
  let ticket := strip (String.ofList (partition ';' (behind "ticket=".toList reason.toList)).1)
  if ticket = "" then "unavailable" else ticket

/-- `SqlPlatformKillSwitchStore._audit`. The alert's column for the authorization is given the
object of the event. -/
def audit (event : PlatformAuditEvent) : Method Unit := do
  Tx.check (1000 < event.reason.length) (.dataError "reason")
  Tx.write fun s => { s with platformAudit := s.platformAudit ++ [event] }
  Tx.check (300 < (ticketOf event.reason).length) (.dataError "ticket")
  Tx.write fun s => { s with alerts := s.alerts ++ [{
    authorizationId := event.objectId
    principalId := event.principalId
    ticket := ticketOf event.reason
    eventType := "security.alert." ++ event.eventType
    createdAt := event.createdAt }] }

/-- The open switch that `activate` asks for first. -/
def existingRow : Method (Option Uuid) :=
  Tx.read fun s => (s.switches.find? (·.deactivatedAt.isNone)).map (·.id)

def activated (switchId : Uuid) (reason : String) (actorId principalId correlationId : Uuid)
    (now : Instant) : PlatformAuditEvent :=
  ⟨actorId, principalId, "platform.kill_switch.activated", switchId, correlationId, reason, now⟩

/-- What `activate` inserts: the index allows one open row. -/
def insertRow (switchId : Uuid) (reason : String) (actorId principalId correlationId : Uuid)
    (now : Instant) : Method Unit := do
  Tx.check (1000 < reason.length) (.dataError "reason")
  Tx.check (← Tx.read fun s => s.switches.any (·.deactivatedAt.isNone))
    (.integrityError "uq_active_platform_kill_switch")
  Tx.check (← Tx.read fun s => s.switches.any (·.id = switchId)) (.integrityError "id")
  Tx.write fun s => { s with switches := s.switches ++ [⟨⟨switchId, none⟩, reason, actorId, now⟩] }
  audit (activated switchId reason actorId principalId correlationId now)

def deactivated (switchId : Uuid) (reason : String) (actorId principalId correlationId : Uuid)
    (now : Instant) : PlatformAuditEvent :=
  ⟨actorId, principalId, "platform.kill_switch.deactivated", switchId, correlationId, reason, now⟩

/-- `SqlPlatformKillSwitchStore.deactivate`, whose `SELECT .. FOR UPDATE` holds the row it
closes. -/
def deactivateRow (reason : String) (actorId principalId correlationId : Uuid) (now : Instant) :
    Method (Option KillSwitchRecord) := do
  match ← Tx.read fun s => s.switches.find? (·.deactivatedAt.isNone) with
  | none => return none
  | some row =>
    Tx.write fun s => { s with switches := s.switches.map fun r =>
      if r.id = row.id then { r with deactivatedAt := some now } else r }
    audit (deactivated row.id reason actorId principalId correlationId now)
    return some { row.record with deactivatedAt := some now }

/-! ## The requests -/

inductive Req where
  | now
  | issue (authorization : TemporaryAuthorization) (issuer : IdentityContext)
  | requireActive (tenantId authorizationId principalId : Uuid) (scope : String)
  | review (tenantId authorizationId reviewer : Uuid)
  | existing
  | insert (switchId : Uuid) (reason : String) (actorId principalId correlationId : Uuid)
      (now : Instant)
  | deactivate (reason : String) (actorId principalId correlationId : Uuid) (now : Instant)
  | recordAudit (ctx : IdentityContext) (eventType objectType objectId : String)

abbrev Resp : Req → Type
  | .now => Instant
  | .issue .. => Unit
  | .requireActive .. => TemporaryAuthorization
  | .review .. => TemporaryAuthorization
  | .existing => Option Uuid
  | .insert .. => Unit
  | .deactivate .. => Option KillSwitchRecord
  | .recordAudit .. => Unit

inductive Reply where
  | authorization (a : TemporaryAuthorization)
  | switch (record : KillSwitchRecord)

abbrev Request := Prog Req Resp Exc

def now : Request Instant := request Req.now

def recordAudit (ctx : IdentityContext) (eventType objectType objectId : String) : Request Unit :=
  request (Req.recordAudit ctx eventType objectType objectId)

structure TemporaryAuthorizationRequest where
  principalId : Uuid
  reason : String
  ttlMinutes : Int

def platformScope : String := "platform.kill_switch"

/-- `issue_temporary_authorization`. -/
def issueTemporaryAuthorization (ctx : IdentityContext) (body : TemporaryAuthorizationRequest)
    (authorizationId : Uuid) : Request Reply := do
  ofExcept (requireRole ctx ["security_admin"])
  ofExcept (raiseIf (body.principalId = ctx.principalId)
    (.permissionError "Break-glass authorization must be granted to another principal"))
  let expiresAt := (← now) + body.ttlMinutes * 60000000
  let createdAt ← now
  let authorization ← ofExcept (TemporaryAuthorization.make {
    tenantId := ctx.tenantId
    principalId := body.principalId
    scope := platformScope
    reason := body.reason
    expiresAt
    authorizationId
    createdAt })
  request (Req.issue authorization ctx)
  recordAudit ctx "breakglass.authorization.issued" "temporary_authorization" authorizationId.str
  return .authorization authorization

/-- `review_temporary_authorization`. -/
def reviewTemporaryAuthorization (ctx : IdentityContext) (authorizationId : Uuid) :
    Request Reply := do
  ofExcept (requireRole ctx ["security_auditor"])
  let reviewed ← request (Req.review ctx.tenantId authorizationId ctx.principalId)
  recordAudit ctx "breakglass.authorization.reviewed" "temporary_authorization" authorizationId.str
  return .authorization reviewed

/-- What both requests about the switch ask for first. -/
def admitted (ctx : IdentityContext) (ticket : String) (authorizationId : Uuid) :
    Request TemporaryAuthorization := do
  ofExcept (requireRole ctx ["break_glass"])
  ofExcept (raiseIf ((strip ticket).length < 8)
    (.permissionError "a configured break-glass identity and ticket are required"))
  request (Req.requireActive ctx.tenantId authorizationId ctx.principalId platformScope)

/-- `f"ticket={ticket.strip()}; {body.reason}"`. -/
def ticketed (ticket reason : String) : String := "ticket=" ++ strip ticket ++ "; " ++ reason

/-- `SqlPlatformKillSwitchStore.activate`. -/
def activate (reason : String) (actorId principalId correlationId switchId : Uuid) :
    Request KillSwitchRecord := do
  let at_ ← now
  match ← (request Req.existing : Request (Option Uuid)) with
  | some _ => raise (.valueError "the platform kill switch is already active")
  | none =>
    request (Req.insert switchId reason actorId principalId correlationId at_)
    return ⟨switchId, .platform, "platform", reason, actorId.str, at_, none⟩

/-- `SqlPlatformKillSwitchStore.deactivate`. -/
def deactivate (reason : String) (actorId principalId correlationId : Uuid) :
    Request (Option KillSwitchRecord) := do
  let at_ ← now
  request (Req.deactivate reason actorId principalId correlationId at_)

/-- `activate_platform_kill_switch`. -/
def activatePlatformKillSwitch (ctx : IdentityContext) (ticket reason : String)
    (authorizationId correlationId switchId : Uuid) : Request Reply := do
  let _ ← admitted ctx ticket authorizationId
  let record ← activate (ticketed ticket reason) ctx.actorId ctx.principalId correlationId switchId
  recordAudit ctx "security.alert.breakglass_activated" "platform" record.killSwitchId.str
  return .switch record

/-- `deactivate_platform_kill_switch`. -/
def deactivatePlatformKillSwitch (ctx : IdentityContext) (ticket reason : String)
    (authorizationId correlationId : Uuid) : Request Reply := do
  let _ ← admitted ctx ticket authorizationId
  match ← deactivate (ticketed ticket reason) ctx.actorId ctx.principalId correlationId with
  | some record => return .switch record
  | none => raise ⟨"HTTPException", [.exception], "no active platform kill switch"⟩

/-- The method behind a call. -/
def perform : (r : Req) → Method (Resp r)
  | .now => Tx.read (·.clock)
  | .issue authorization issuer => issueRow authorization issuer
  | .requireActive tenantId authorizationId principalId scope =>
    requireActiveRow tenantId authorizationId principalId scope
  | .review tenantId authorizationId reviewer => reviewRow tenantId authorizationId reviewer
  | .existing => existingRow
  | .insert switchId reason actorId principalId correlationId at_ =>
    insertRow switchId reason actorId principalId correlationId at_
  | .deactivate reason actorId principalId correlationId at_ =>
    deactivateRow reason actorId principalId correlationId at_
  | .recordAudit .. => pure ()

/-- A call does what its method does, or fails before or after its commit. -/
inductive Answers (s : World) : (r : Req) → Except Exc (Resp r) → World → Prop
  | performed (r : Req) : Answers s r ((perform r).commit s).1 ((perform r).commit s).2
  | raised (r : Req) (e : Exc) : Answers s r (.error e) s
  | lost (r : Req) (e : Exc) : Answers s r (.error e) ((perform r).commit s).2

inductive Starts : Request Reply → Prop
  | issue (ctx : IdentityContext) (body : TemporaryAuthorizationRequest) (authorizationId : Uuid) :
      Starts (issueTemporaryAuthorization ctx body authorizationId)
  | review (ctx : IdentityContext) (authorizationId : Uuid) :
      Starts (reviewTemporaryAuthorization ctx authorizationId)
  | activate (ctx : IdentityContext) (ticket reason : String)
      (authorizationId correlationId switchId : Uuid) :
      Starts (activatePlatformKillSwitch ctx ticket reason authorizationId correlationId switchId)
  | deactivate (ctx : IdentityContext) (ticket reason : String)
      (authorizationId correlationId : Uuid) :
      Starts (deactivatePlatformKillSwitch ctx ticket reason authorizationId correlationId)

/-- Requests run beside a clock that goes forward. -/
def system : Base.System World Instant Req Resp Exc Reply where
  starts := Starts
  answers := Answers
  outside s now s' := s.clock ≤ now ∧ s' = { s with clock := now }

/-! ## The ledger of the switch -/

/-- What the audit says of a switch. -/
def PlatformSwitchRow.history (row : PlatformSwitchRow) : List (String × Uuid) :=
  ("platform.kill_switch.activated", row.id) ::
    (row.deactivatedAt.map fun _ => ("platform.kill_switch.deactivated", row.id)).toList

def PlatformAuditEvent.what (e : PlatformAuditEvent) : String × Uuid := (e.eventType, e.objectId)

/-- One switch after the other: each is closed before the next one is opened, and the audit tells
just that. -/
structure Ledger (switches : List PlatformSwitchRow) (events : List PlatformAuditEvent) : Prop where
  told : events.map (·.what) = switches.flatMap (·.history)
  ended : switches.Pairwise fun row _ => row.deactivatedAt.isSome = true
  ids : (switches.map (·.id)).Nodup

variable {switches : List PlatformSwitchRow} {events : List PlatformAuditEvent}

theorem Ledger.insert (ledger : Ledger switches events) {row : PlatformSwitchRow}
    (opened : row.deactivatedAt = none)
    (none_open : switches.any (·.deactivatedAt.isNone) = false)
    (fresh : switches.any (·.id = row.id) = false) {e : PlatformAuditEvent}
    (what : e.what = ("platform.kill_switch.activated", row.id)) :
    Ledger (switches ++ [row]) (events ++ [e]) := by
  simp only [List.any_eq_false, Option.isNone_iff_eq_none, decide_eq_true_eq] at none_open fresh
  constructor
  · simp [ledger.told, what, PlatformSwitchRow.history, opened]
  · refine List.pairwise_append.mpr ⟨ledger.ended, List.pairwise_singleton _ _, ?_⟩
    exact fun old there _ _ => Option.isSome_iff_ne_none.mpr (none_open old there)
  · rw [List.map_append, List.nodup_append]
    refine ⟨ledger.ids, List.nodup_singleton _, fun id old other new => ?_⟩
    obtain ⟨r, there, rfl⟩ := List.mem_map.mp old
    rw [List.mem_singleton.mp new]
    exact fresh r there

/-- The open switch is the last one. -/
theorem Ledger.open_last (ledger : Ledger switches events) {row : PlatformSwitchRow}
    (found : switches.find? (·.deactivatedAt.isNone) = some row) :
    row.deactivatedAt = none ∧ ∃ before, switches = before ++ [row] := by
  obtain ⟨opened, before, after, rfl, _⟩ := List.find?_eq_some_iff_append.mp found
  rw [Option.isNone_iff_eq_none] at opened
  refine ⟨opened, before, ?_⟩
  cases after with
  | nil => rfl
  | cons next rest =>
    have behind := (List.pairwise_append.mp ledger.ended).2.1
    have ended := List.rel_of_pairwise_cons behind (List.mem_cons_self (a := next) (l := rest))
    rw [opened] at ended
    cases ended

theorem Ledger.close (ledger : Ledger switches events) {row : PlatformSwitchRow}
    (found : switches.find? (·.deactivatedAt.isNone) = some row) (now : Instant)
    {e : PlatformAuditEvent} (what : e.what = ("platform.kill_switch.deactivated", row.id)) :
    Ledger (switches.map fun r => if r.id = row.id then { r with deactivatedAt := some now } else r)
      (events ++ [e]) := by
  obtain ⟨opened, before, rfl⟩ := ledger.open_last found
  have apart : ∀ r ∈ before, r.id ≠ row.id := by
    have ids := ledger.ids
    rw [List.map_append, List.nodup_append] at ids
    exact fun r there => ids.2.2 _ (List.mem_map_of_mem there) _ (by simp)
  have kept : before.map (fun r => if r.id = row.id then { r with deactivatedAt := some now }
      else r) = before :=
    (List.map_congr_left fun r there => if_neg (apart r there)).trans (List.map_id' _)
  have told := ledger.told
  simp only [List.flatMap_append, List.flatMap_singleton, PlatformSwitchRow.history, opened] at told
  rw [List.map_append, kept]
  constructor
  · simp [told, what, PlatformSwitchRow.history]
  · obtain ⟨early, _, last⟩ := List.pairwise_append.mp ledger.ended
    refine List.pairwise_append.mpr ⟨early, List.pairwise_singleton _ _, ?_⟩
    exact fun r there _ _ => last r there row List.mem_cons_self
  · simpa using ledger.ids

/-! ## What the stores hold -/

/-- Granted by a security administrator of the tenant to another principal. -/
def Independent (entry : TemporaryAuthorization × IdentityContext) : Prop :=
  "security_admin" ∈ entry.2.roles ∧ entry.1.tenantId = entry.2.tenantId ∧
    entry.1.principalId ≠ entry.2.principalId ∧ entry.1.scope = platformScope

/-- An authorization was issued to the principal. -/
def Authorized (s : World) (principalId : Uuid) : Prop :=
  ∃ entry ∈ s.issued, entry.1.principalId = principalId

/-- A reason as the requests write it. -/
def Ticketed (reason : String) : Prop :=
  ∃ ticket body, 8 ≤ (strip ticket).length ∧ reason = ticketed ticket body

/-- The alert of an event. -/
def PlatformAuditEvent.alert (e : PlatformAuditEvent) : BreakglassAlert :=
  ⟨e.objectId, e.principalId, ticketOf e.reason, "security.alert." ++ e.eventType, e.createdAt⟩

structure Sound (s : World) : Prop where
  granted : ∀ id a, s.authorizations.get? id = some a →
    (∃ entry ∈ s.issued, a.granted = entry.1.granted) ∧ a.reviewedBy ≠ some a.principalId
  independent : ∀ entry ∈ s.issued, Independent entry
  events : ∀ e ∈ s.platformAudit, Authorized s e.principalId ∧ Ticketed e.reason
  ledger : Ledger s.switches s.platformAudit
  alerts : s.alerts = s.platformAudit.map (·.alert)

theorem Authorized.mono {s s' : World} (grown : s.issued <+: s'.issued) {principalId : Uuid}
    (authorized : Authorized s principalId) : Authorized s' principalId := by
  obtain ⟨entry, there, mine⟩ := authorized
  exact ⟨entry, grown.subset there, mine⟩

variable {s s' : World}

theorem Sound.issue (sound : Sound s) {a : TemporaryAuthorization} {issuer : IdentityContext}
    (independent : Independent (a, issuer)) (unreviewed : a.reviewedBy = none)
    (done : issueRow a issuer s = .ok ((), s')) : Sound s' ∧ s.issued <+: s'.issued := by
  simp only [issueRow, Tx.bind_ok, Tx.check_ok, Tx.read_ok, Tx.write_ok, Prod.mk.injEq] at done
  obtain ⟨_, s₁, ⟨_, first⟩, _, s₂, ⟨_, second⟩, _, s₃, ⟨_, third⟩, rfl⟩ := done
  subst s₃ s₂ s₁
  have grown : s.issued <+: s.issued ++ [(a, issuer)] := List.prefix_append _ _
  refine ⟨⟨fun id b there => ?_, fun entry there => ?_, fun e there => ?_, sound.ledger,
    sound.alerts⟩, grown⟩
  · simp only [Dict.get?_set] at there
    split at there
    · cases there
      exact ⟨⟨_, List.mem_append_right _ List.mem_cons_self, rfl⟩, by simp [unreviewed]⟩
    · obtain ⟨⟨entry, listed, same⟩, reviewer⟩ := sound.granted id b there
      exact ⟨⟨entry, grown.subset listed, same⟩, reviewer⟩
  · rcases List.mem_append.mp there with old | new
    · exact sound.independent entry old
    · exact List.mem_singleton.mp new ▸ independent
  · exact ⟨(sound.events e there).1.mono grown, (sound.events e there).2⟩

theorem Sound.requireActive (sound : Sound s) {tenantId id principalId : Uuid} {scope : String}
    {a : TemporaryAuthorization}
    (done : requireActiveRow tenantId id principalId scope s = .ok (a, s')) :
    s' = s ∧ Authorized s principalId := by
  obtain ⟨found, t, read, done⟩ := Tx.bind_ok.mp done
  obtain ⟨rfl, same⟩ := Prod.mk.inj (Tx.read_ok.mp read)
  subst t
  cases held : (s.authorizations.get? id).filter _ with
  | none =>
    rw [held] at done
    cases done
  | some row =>
    rw [held] at done
    obtain ⟨rfl, rfl⟩ := Prod.mk.inj (Tx.pure_ok.mp done)
    obtain ⟨there, mine⟩ := Option.filter_eq_some_iff.mp held
    simp only [Bool.and_eq_true, decide_eq_true_eq] at mine
    obtain ⟨⟨entry, listed, same⟩, _⟩ := sound.granted id a there
    have principal : a.principalId = entry.1.principalId := congrArg (·.principalId) same
    exact ⟨rfl, entry, listed, principal.symm.trans mine.1.1.2⟩

theorem Sound.review (sound : Sound s) {tenantId id reviewer : Uuid} {a : TemporaryAuthorization}
    (done : reviewRow tenantId id reviewer s = .ok (a, s')) :
    Sound s' ∧ s.issued <+: s'.issued := by
  obtain ⟨found, t, read, done⟩ := Tx.bind_ok.mp done
  obtain ⟨rfl, same⟩ := Prod.mk.inj (Tx.read_ok.mp read)
  subst t
  cases held : (s.authorizations.get? id).filter _ with
  | none =>
    rw [held] at done
    cases done
  | some row =>
    rw [held] at done
    simp only [Tx.bind_ok, Tx.read_ok, Tx.ofExcept_ok, Tx.write_ok, Tx.pure_ok] at done
    obtain ⟨_, _, ⟨rfl, rfl⟩, reviewed, _, ⟨made, rfl⟩, _, _, rfl, same⟩ := done
    cases same
    obtain ⟨there, _⟩ := Option.filter_eq_some_iff.mp held
    obtain ⟨other, same, by_⟩ := TemporaryAuthorization.review_ok made
    obtain ⟨old, _⟩ := sound.granted id row there
    refine ⟨⟨fun key b found => ?_, sound.independent, sound.events, sound.ledger, sound.alerts⟩,
      List.prefix_rfl⟩
    simp only [Dict.get?_set] at found
    split at found
    · cases found
      have principal : a.principalId = row.principalId := congrArg (·.principalId) same
      rw [same, by_, principal]
      exact ⟨old, fun self => other (Option.some.inj self)⟩
    · exact sound.granted key b found

/-- What an audit of an authorized request leaves, when the ledger takes it. -/
theorem audit_ok {e : PlatformAuditEvent} (done : audit e s = .ok ((), s')) :
    s' = { s with platformAudit := s.platformAudit ++ [e], alerts := s.alerts ++ [e.alert] } := by
  simp only [audit, Tx.bind_ok, Tx.check_ok, Tx.write_ok] at done
  obtain ⟨_, _, ⟨_, rfl⟩, _, _, rfl, _, _, ⟨_, rfl⟩, rfl⟩ := done
  rfl

theorem Sound.audited (sound : Sound s) {e : PlatformAuditEvent}
    (authorized : Authorized s e.principalId) (reason : Ticketed e.reason)
    {switches : List PlatformSwitchRow} (ledger : Ledger switches (s.platformAudit ++ [e])) :
    Sound { s with
      switches
      platformAudit := s.platformAudit ++ [e]
      alerts := s.alerts ++ [e.alert] } := by
  refine ⟨sound.granted, sound.independent, fun old there => ?_, ledger, ?_⟩
  · rcases List.mem_append.mp there with before | new
    · exact sound.events old before
    · rw [List.mem_singleton.mp new]
      exact ⟨authorized, reason⟩
  · simp [sound.alerts]

theorem Sound.insert (sound : Sound s) {switchId actorId principalId correlationId : Uuid}
    {reason : String} {at_ : Instant} (authorized : Authorized s principalId)
    (ticketed : Ticketed reason)
    (done : insertRow switchId reason actorId principalId correlationId at_ s = .ok ((), s')) :
    Sound s' ∧ s.issued <+: s'.issued := by
  simp only [insertRow, Tx.bind_ok, Tx.check_ok, Tx.read_ok, Tx.write_ok] at done
  obtain ⟨_, _, ⟨_, rfl⟩, _, _, ⟨rfl, rfl⟩, _, _, ⟨closed, rfl⟩, _, _, ⟨rfl, rfl⟩, _, _,
    ⟨fresh, rfl⟩, _, _, rfl, done⟩ := done
  rw [audit_ok done]
  let row : PlatformSwitchRow := ⟨⟨switchId, none⟩, reason, actorId, at_⟩
  have opened : row.deactivatedAt = none := rfl
  have ledger := sound.ledger.insert opened closed fresh
    (e := activated switchId reason actorId principalId correlationId at_) rfl
  exact ⟨sound.audited authorized ticketed ledger, List.prefix_rfl⟩

theorem Sound.deactivate (sound : Sound s) {actorId principalId correlationId : Uuid}
    {reason : String} {at_ : Instant} (authorized : Authorized s principalId)
    (ticketed : Ticketed reason) {record : Option KillSwitchRecord}
    (done : deactivateRow reason actorId principalId correlationId at_ s = .ok (record, s')) :
    Sound s' ∧ s.issued <+: s'.issued := by
  obtain ⟨found, t, read, done⟩ := Tx.bind_ok.mp done
  obtain ⟨rfl, same⟩ := Prod.mk.inj (Tx.read_ok.mp read)
  subst t
  cases held : s.switches.find? _ with
  | none =>
    rw [held] at done
    cases Tx.pure_ok.mp done
    exact ⟨sound, List.prefix_rfl⟩
  | some row =>
    rw [held] at done
    simp only [Tx.bind_ok, Tx.write_ok, Tx.pure_ok] at done
    obtain ⟨_, _, rfl, _, _, done, same⟩ := done
    cases same
    rw [audit_ok done]
    have closed := sound.ledger.close held at_
      (e := deactivated row.id reason actorId principalId correlationId at_) rfl
    exact ⟨sound.audited authorized ticketed closed, List.prefix_rfl⟩

/-! ## What the requests call -/

abbrev Call := Event Req Resp Exc

/-- The request was let through for this principal. -/
def Admitted (h : List Call) (principalId : Uuid) : Prop :=
  ∃ tenantId authorizationId a,
    (⟨.requireActive tenantId authorizationId principalId platformScope, .ok a⟩ : Call) ∈ h

def Made (h : List Call) : Req → Prop
  | .issue a issuer => Independent (a, issuer) ∧ a.reviewedBy = none
  | .insert _ reason _ principalId _ _ => Admitted h principalId ∧ Ticketed reason
  | .deactivate reason _ principalId _ _ => Admitted h principalId ∧ Ticketed reason
  | _ => True

theorem Admitted.mono {h h' : List Call} (longer : h <+: h') {principalId : Uuid}
    (admitted : Admitted h principalId) : Admitted h' principalId := by
  obtain ⟨tenantId, authorizationId, a, there⟩ := admitted
  exact ⟨tenantId, authorizationId, a, longer.subset there⟩

theorem requireRole_ok {ctx : IdentityContext} {role : String} {u : Unit}
    (allowed : requireRole ctx [role] = .ok u) : role ∈ ctx.roles := by
  simpa [requireRole, checks_cons, checks_nil] using allowed

theorem issue_ensures (ctx : IdentityContext) (body : TemporaryAuthorizationRequest)
    (authorizationId : Uuid) :
    Ensures Made (fun _ _ => True) [] (issueTemporaryAuthorization ctx body authorizationId) := by
  refine ensures_bind (ensures_ofExcept (R := fun _ _ => "security_admin" ∈ ctx.roles)
    fun _ => requireRole_ok) fun _ _ admin => ?_
  refine ensures_bind (ensures_ofExcept (R := fun _ _ => body.principalId ≠ ctx.principalId)
    fun _ other => by simpa [raiseIf_eq_ok] using other) fun _ _ other => ?_
  refine ensures_request_bind (r := Req.now) trivial fun expiry => ?_
  refine ensures_request_bind (r := Req.now) trivial fun createdAt => ?_
  refine ensures_bind (ensures_ofExcept (R := fun _ a => Independent (a, ctx) ∧
    a.reviewedBy = none) fun a made => ?_) fun _ a granted => ?_
  · obtain ⟨_, rfl⟩ := guarded_eq_ok.mp made
    exact ⟨⟨admin, rfl, other, rfl⟩, rfl⟩
  refine ensures_request_bind (r := Req.issue a ctx) granted fun _ => ?_
  exact ensures_request_bind (r := Req.recordAudit ..) trivial fun _ => ensures_ret trivial

theorem review_ensures (ctx : IdentityContext) (authorizationId : Uuid) :
    Ensures Made (fun _ _ => True) [] (reviewTemporaryAuthorization ctx authorizationId) := by
  refine ensures_bind (ensures_ofExcept (R := fun _ _ => True) fun _ _ => trivial) fun _ _ _ => ?_
  refine ensures_request_bind (r := Req.review ..) trivial fun _ => ?_
  exact ensures_request_bind (r := Req.recordAudit ..) trivial fun _ => ensures_ret trivial

/-- Who is let through holds the role and an active authorization, and gives a ticket. -/
theorem admitted_ensures (ctx : IdentityContext) (ticket : String) (authorizationId : Uuid) :
    Ensures Made (fun h _ => Admitted h ctx.principalId ∧ 8 ≤ (strip ticket).length) []
      (admitted ctx ticket authorizationId) := by
  refine ensures_bind (ensures_ofExcept (R := fun _ _ => True) fun _ _ => trivial) fun h _ _ => ?_
  refine ensures_bind (ensures_ofExcept (R := fun _ _ => 8 ≤ (strip ticket).length)
    fun _ long => by simpa [raiseIf_eq_ok] using long) fun h _ long => ?_
  have free : Made h (.requireActive ctx.tenantId authorizationId ctx.principalId platformScope) :=
    trivial
  refine ⟨conforms_request.mpr ⟨free, fun ans a same => ?_⟩⟩
  subst same
  exact ⟨⟨ctx.tenantId, authorizationId, a, by simp⟩, long⟩

theorem activate_ensures (ctx : IdentityContext) (ticket reason : String)
    (authorizationId correlationId switchId : Uuid) : Ensures Made (fun _ _ => True) []
      (activatePlatformKillSwitch ctx ticket reason authorizationId correlationId switchId) := by
  refine ensures_bind (admitted_ensures ctx ticket authorizationId) ?_
  rintro h _ ⟨admitted, long⟩
  refine ensures_bind (S := fun _ _ => True) ?_ fun _ record _ =>
    ensures_request_bind (r := Req.recordAudit ..) trivial fun _ => ensures_ret trivial
  refine ensures_request_bind (r := Req.now) trivial fun at_ => ?_
  refine ensures_request_bind (r := Req.existing) trivial fun existing => ?_
  cases existing with
  | some _ => exact ensures_raise
  | none =>
    refine ensures_request_bind (r := Req.insert ..) ⟨admitted.mono ?_, ticket, reason, long, rfl⟩
      fun _ => ensures_ret trivial
    exact (List.prefix_append _ _).trans (List.prefix_append _ _)

theorem deactivate_ensures (ctx : IdentityContext) (ticket reason : String)
    (authorizationId correlationId : Uuid) : Ensures Made (fun _ _ => True) []
      (deactivatePlatformKillSwitch ctx ticket reason authorizationId correlationId) := by
  refine ensures_bind (admitted_ensures ctx ticket authorizationId) ?_
  rintro h _ ⟨admitted, long⟩
  refine ensures_bind (S := fun _ _ => True) ?_ fun _ record _ => ?_
  · refine ensures_request_bind (r := Req.now) trivial fun at_ => ?_
    refine ⟨conforms_request.mpr ⟨⟨admitted.mono (List.prefix_append _ _), ticket, reason, long,
      rfl⟩, fun _ _ _ => trivial⟩⟩
  · cases record with
    | some record => exact ensures_ret trivial
    | none => exact ensures_raise

/-! ## Requests beside each other -/

/-- What an answer tells of the stores. -/
def Tells (s : World) : Call → Prop
  | ⟨.requireActive _ _ principalId _, .ok _⟩ => Authorized s principalId
  | _ => True

theorem tells_mono (grown : s.issued <+: s'.issued) {e : Call} (told : Tells s e) : Tells s' e := by
  match e with
  | ⟨.requireActive _ _ principalId _, .ok _⟩ => exact Authorized.mono grown told
  | ⟨.requireActive _ _ _ _, .error _⟩ => trivial
  | ⟨.now, _⟩ | ⟨.issue _ _, _⟩ | ⟨.review _ _ _, _⟩ | ⟨.existing, _⟩ | ⟨.insert _ _ _ _ _ _, _⟩
  | ⟨.deactivate _ _ _ _ _, _⟩ | ⟨.recordAudit _ _ _ _, _⟩ => trivial

theorem Admitted.authorized {h : List Call} {principalId : Uuid}
    (admitted : Admitted h principalId) (told : ∀ e ∈ h, Tells s e) : Authorized s principalId := by
  obtain ⟨tenantId, authorizationId, a, there⟩ := admitted
  exact told _ there

/-- What a call leaves that does what its method does. -/
theorem perform_sound (sound : Sound s) {h : List Call} (told : ∀ e ∈ h, Tells s e) {r : Req}
    (made : Made h r) {v : Resp r} (done : perform r s = .ok (v, s')) :
    Sound s' ∧ s.issued <+: s'.issued ∧ Tells s' ⟨r, .ok v⟩ := by
  cases r with
  | now | existing | recordAudit =>
    cases done
    exact ⟨sound, List.prefix_rfl, trivial⟩
  | issue a issuer =>
    obtain ⟨sound', grown⟩ := sound.issue made.1 made.2 done
    exact ⟨sound', grown, trivial⟩
  | requireActive =>
    obtain ⟨rfl, authorized⟩ := sound.requireActive done
    exact ⟨sound, List.prefix_rfl, authorized⟩
  | review =>
    obtain ⟨sound', grown⟩ := sound.review done
    exact ⟨sound', grown, trivial⟩
  | insert =>
    obtain ⟨sound', grown⟩ := sound.insert (made.1.authorized told) made.2 done
    exact ⟨sound', grown, trivial⟩
  | deactivate =>
    obtain ⟨sound', grown⟩ := sound.deactivate (made.1.authorized told) made.2 done
    exact ⟨sound', grown, trivial⟩

theorem relies : Pool.Rely system Made Sound Tells where
  starts := by
    intro p starts
    have ensured : Ensures Made (fun _ _ => True) [] p := by
      cases starts with
      | issue ctx body authorizationId => exact issue_ensures ctx body authorizationId
      | review ctx authorizationId => exact review_ensures ctx authorizationId
      | activate ctx ticket reason authorizationId correlationId switchId =>
        exact activate_ensures ctx ticket reason authorizationId correlationId switchId
      | deactivate ctx ticket reason authorizationId correlationId =>
        exact deactivate_ensures ctx ticket reason authorizationId correlationId
    exact ensured.conforms.mono (fun _ _ => id) fun _ _ _ => trivial
  answered := by
    intro s s' h r ans sound told made answered
    -- a method that raises leaves the stores as they were
    have left : Sound ((perform r).commit s).2 ∧ s.issued <+: ((perform r).commit s).2.issued ∧
        Tells ((perform r).commit s).2 ⟨r, ((perform r).commit s).1⟩ := by
      obtain ⟨e, fails⟩ | ⟨v, t, ran, done⟩ := Tx.commit_cases (perform r) s
      · rw [fails]
        exact ⟨sound, List.prefix_rfl, by cases r <;> trivial⟩
      · rw [done]
        exact perform_sound sound told made ran
    cases answered with
    | performed => exact ⟨left.1, left.2.2, fun e => tells_mono left.2.1⟩
    | raised e => exact ⟨sound, by cases r <;> trivial, fun _ => id⟩
    | lost e => exact ⟨left.1, by cases r <;> trivial, fun e => tells_mono left.2.1⟩
  outside := by
    rintro s _ now sound ⟨_, rfl⟩
    exact ⟨⟨sound.granted, sound.independent, sound.events, sound.ledger, sound.alerts⟩,
      fun e => tells_mono (List.prefix_rfl)⟩

/-- The pools reached from empty stores, by any steps. -/
abbrev Reached (clock : Instant) (w : Pool World Req Resp Exc Reply) : Prop :=
  Pool.Reach system (fun _ _ _ => True) { clock } w

variable {w : Pool World Req Resp Exc Reply} {clock : Instant}

theorem sound_of_reached (reach : Reached clock w) : Sound w.shared := by
  have start : Ledger [] [] := ⟨rfl, .nil, List.nodup_nil⟩
  refine (relies.reach ⟨?_, ?_, ?_, start, rfl⟩ reach).1
  · intro id a there
    cases there
  · intro entry there
    cases there
  · intro e there
    cases there

/-- Whatever requests run beside each other and wherever they fail, each event of the platform's
audit is by a principal to whom a security administrator of the tenant, another principal, has
issued an authorization for the switch; and no authorization is reviewed by whom it was issued
to. -/
theorem dual_control (reach : Reached clock w) :
    (∀ e ∈ w.shared.platformAudit, ∃ a issuer, (a, issuer) ∈ w.shared.issued ∧
      a.principalId = e.principalId ∧ a.scope = platformScope ∧ a.tenantId = issuer.tenantId ∧
      "security_admin" ∈ issuer.roles ∧ issuer.principalId ≠ e.principalId) ∧
    ∀ id a, w.shared.authorizations.get? id = some a → a.reviewedBy ≠ some a.principalId := by
  have sound := sound_of_reached reach
  refine ⟨fun e there => ?_, fun id a there => (sound.granted id a there).2⟩
  obtain ⟨⟨⟨a, issuer⟩, listed, mine⟩, _⟩ := sound.events e there
  obtain ⟨admin, tenant, other, scope⟩ := sound.independent _ listed
  exact ⟨a, issuer, listed, mine, scope, tenant, admin, fun same => other (mine.trans same.symm)⟩

/-! ## The ticket of an alert -/

/-- An alert names the ticket of its request exactly when that has no semicolon. -/
theorem ticketOf_ticketed {ticket : String} (body : String) (long : 8 ≤ (strip ticket).length) :
    ticketOf (ticketed ticket body) = strip ticket ↔ ';' ∉ (strip ticket).toList := by
  have rest : behind "ticket=".toList (ticketed ticket body).toList =
      (strip ticket).toList ++ ';' :: ' ' :: body.toList := by
    have text : (ticketed ticket body).toList =
        "ticket=".toList ++ ((strip ticket).toList ++ ';' :: ' ' :: body.toList) := by
      simp [ticketed]
    rw [text, behind_append (by decide)]
  unfold ticketOf
  dsimp only
  generalize behind "ticket=".toList (ticketed ticket body).toList = text at rest
  constructor
  · intro same there
    rw [← same] at there
    split at there
    · exact absurd there (by decide)
    · exact not_mem_partition (String.toList_ofList .. ▸ mem_strip there)
  · intro plain
    have cut : (partition ';' text).1 = (strip ticket).toList := by
      rw [rest, partition, List.takeWhile_append_of_pos]
      · simp
      · intro c there
        simp only [ne_eq, decide_not, Bool.not_eq_true', decide_eq_false_iff_not]
        rintro rfl
        exact plain there
    rw [cut, String.ofList_toList, strip_strip, if_neg]
    intro blank
    rw [blank] at long
    exact absurd long (by decide)

/-- The platform's audit, in the order of the commits, tells of one switch after the other, each
deactivated before the next is activated; every event has its alert; and the alert names the ticket
of the request exactly when that has no semicolon. -/
theorem platform_ledger (reach : Reached clock w) :
    w.shared.platformAudit.map (·.what) = w.shared.switches.flatMap (·.history) ∧
    w.shared.switches.Pairwise (fun row _ => row.deactivatedAt.isSome = true) ∧
    w.shared.alerts = w.shared.platformAudit.map (·.alert) ∧
    ∀ e ∈ w.shared.platformAudit, ∃ ticket body, e.reason = ticketed ticket body ∧
      (e.alert.ticket = strip ticket ↔ ';' ∉ (strip ticket).toList) := by
  have sound := sound_of_reached reach
  refine ⟨sound.ledger.told, sound.ledger.ended, sound.alerts, fun e there => ?_⟩
  obtain ⟨_, ticket, body, long, same⟩ := sound.events e there
  refine ⟨ticket, body, same, ?_⟩
  have named : e.alert.ticket = ticketOf (ticketed ticket body) := by
    rw [← same, PlatformAuditEvent.alert]
  rw [named]
  exact ticketOf_ticketed body long

namespace Sample

def handle (s : World) (r : Req) : Except Exc (Resp r) × World := (perform r).commit s

theorem handled (s : World) (r : Req) : Answers s r (handle s r).1 (handle s r).2 := .performed r

def administrator : IdentityContext := ⟨1, 2, 3, ["security_admin"], none, none, "access"⟩
def operator : IdentityContext := ⟨1, 4, 5, ["break_glass"], none, none, "access"⟩

/-- An authorization is issued, and the switch thrown under a ticket with a semicolon. -/
def thrown : Pool World Req Resp Exc Reply :=
  let issued : Pool World Req Resp Exc Reply := Pool.advance handle 0 4 {
    shared := { clock := 0 }
    threads := [⟨issueTemporaryAuthorization administrator ⟨5, "outage of the relay", 15⟩ 9,
      [], true⟩] }
  Pool.advance handle 1 5 { issued with threads := issued.threads ++
    [⟨activatePlatformKillSwitch operator "INC-4711;A" "the relay sends twice" 9 7 8, [], true⟩] }

theorem thrown_reached : Reached 0 thrown := by
  have issuing : Reached 0 { shared := { clock := 0 }, threads := _ } :=
    Pool.Steps.init.next (.start (.issue administrator ⟨5, "outage of the relay", 15⟩ 9)) trivial
  have issued := issuing.advance handled 0 (fun _ _ _ => trivial) 4
  have asking := issued.next (.start (.activate operator "INC-4711;A" "the relay sends twice" 9 7 8))
    trivial
  exact asking.advance handled 1 (fun _ _ _ => trivial) 5

theorem thrown_facts : thrown.shared.platformAudit.map (·.principalId) = [5] ∧
    thrown.shared.alerts.map (·.ticket) = ["INC-4711"] := by
  decide +kernel

theorem dual_control_thrown : ∃ w, Reached 0 w ∧
    w.shared.platformAudit.map (·.principalId) = [5] ∧
    ∀ e ∈ w.shared.platformAudit, ∃ a issuer, (a, issuer) ∈ w.shared.issued ∧
      a.principalId = e.principalId ∧ a.scope = platformScope ∧ a.tenantId = issuer.tenantId ∧
      "security_admin" ∈ issuer.roles ∧ issuer.principalId ≠ e.principalId :=
  ⟨thrown, thrown_reached, thrown_facts.1, (dual_control thrown_reached).1⟩

theorem platform_ledger_thrown : ∃ w, Reached 0 w ∧
    w.shared.alerts.map (·.ticket) = ["INC-4711"] ∧
    w.shared.platformAudit.map (·.what) = w.shared.switches.flatMap (·.history) :=
  ⟨thrown, thrown_reached, thrown_facts.2, (platform_ledger thrown_reached).1⟩

end Sample

end Autonoesis.BreakGlass
