import Autonoesis.Application.Writes
import Autonoesis.Persistence.Keys

/-!
# Outcomes in the two stores

`verify_outcome` runs over a repository. The in-memory store keeps any number of Outcomes of a
Run and a criterion; the table of the SQL repository is unique in tenant, Run and criterion.
Both stores are followed side by side through the calls of `verify_outcome`, and through other
commands, which treat both alike.
-/

namespace Autonoesis.Outcomes
open Base

/-- What `verify_outcome` calls on its repository. -/
structure Repository where
  getOutcome : Uuid → Uuid → StoreTx Outcome
  addOutcome : Outcome → StoreTx Unit
  putIdempotency : Uuid → String → Uuid → String → StoreTx Unit

def inMemory : Repository := ⟨Store.getOutcome, Store.addOutcome, Store.putIdempotency⟩

/-- A call of `verify_outcome`, with the collaborators it sees and what it draws. -/
structure Call where
  ports : Ports
  env : Env
  ctx : CommandContext
  runId : Uuid
  criterionId : String
  evidenceIds : List Uuid

namespace Sql

/-- `get_outcome`: the row with its evidence as it is stored now. -/
def getOutcome (tenantId outcomeId : Uuid) : StoreTx Outcome := do
  let row ← Store.getOutcome tenantId outcomeId
  let items ← (row.evidence.map (·.evidenceId)).mapM (Store.getEvidence tenantId)
  Tx.ofExcept (Outcome.make { row.toOutcomeFields with evidence := items })

/-- Whether another Outcome of the same tenant, Run and criterion is stored. -/
def conflicts (item : Outcome) (old : Outcome) : Bool :=
  old.tenantId = item.tenantId && old.runId = item.runId && old.criterionId = item.criterionId

section
variable [Sha256]

/-- The event of `_record_fact`. -/
def outcomeRecorded (item : Outcome) (correlationId eventId : Uuid) : AuditEvent where
  tenantId := item.tenantId
  actorId := 0
  principalId := 0
  eventType := "outcome.recorded"
  objectType := "outcome"
  objectId := item.outcomeId.str
  correlationId := correlationId
  details := [("version", .int 1)]
  eventId := eventId

/-- `add_outcome`: the select of the evidence ids, the comparison with the stored evidence, the
insert under the constraints of the table, and the fact. -/
def addOutcome (env : Env) (item : Outcome) : StoreTx Unit := do
  let persisted ← Tx.read (·.evidence)
  Tx.check (item.evidence.any fun e => !(persisted.get? e.evidenceId).any fun row =>
      row.tenantId = item.tenantId && row.runId = item.runId)
    (.valueError "outcome evidence must be complete, integrity-verified, and persisted")
  item.evidence.forM fun submitted => do
    let row ← Store.getEvidence item.tenantId submitted.evidenceId
    Tx.check (row ≠ submitted)
      (.valueError "outcome evidence must exactly match the authoritative persisted record")
  Tx.check (200 < item.criterionId.length || 200 < item.verifierVersion.length)
    (.dataError "outcomes")
  let stored ← Tx.read (·.outcomes)
  Tx.check (stored.get? item.outcomeId).isSome (.integrityError "id")
  Tx.check (stored.values.any (conflicts item)) (.integrityError "uq_outcome_criterion")
  Tx.write fun s => { s with outcomes := s.outcomes.set item.outcomeId item }
  Store.recordAudit (outcomeRecorded item (env.uuid 2) (env.uuid 3)) (env.now 2)

/-- `put_idempotency` with the width of the column. -/
def putIdempotency (tenantId : Uuid) (key : String) (value : Uuid) (digest : String) :
    StoreTx Unit := do
  Tx.check (Keys.columnWidth < key.length) (.dataError "idempotency_key")
  Store.putIdempotency tenantId key value digest

def repository (env : Env) : Repository := ⟨getOutcome, addOutcome env, putIdempotency⟩

end

end Sql

section
variable [Sha256]

/-- `verify_outcome`, over its repository. -/
def verifyOutcome (repository : Repository) (call : Call) : StoreTx Outcome := do
  App.requireAny call.ctx App.operators
  Tx.check (!(call.ports.authoritativeReadbackConfigured &&
    call.ports.evidenceArtifactsConfigured))
    (.runtimeError "trusted Outcome verification is not configured")
  let key := call.ctx.key "verify_outcome"
  match ← App.loadIdempotency call.ctx key with
  | some cached => repository.getOutcome call.ctx.tenantId cached
  | none =>
    let run ← Store.getRun call.ctx.tenantId call.runId
    let goal ← Store.getGoal call.ctx.tenantId run.goalId
    match goal.successCriteria.find? (·.criterionId = call.criterionId) with
    | none => Tx.raise (.valueError "Outcome criterion is not part of the Goal contract")
    | some criterion =>
      let items ← call.evidenceIds.mapM (Store.getEvidence call.ctx.tenantId)
      Tx.check (items.any fun e => e.runId ≠ run.runId)
        (.valueError "Outcome Evidence must belong to the verified Run")
      let decision ← Tx.ofExcept (TrustedOutcomeVerifier.verify call.ports.evidence
        call.ctx.tenantId goal.subjectRefs criterion items (call.env.now 0))
      let outcome ← Tx.ofExcept (Outcome.make {
        tenantId := call.ctx.tenantId
        goalId := goal.goalId
        runId := run.runId
        criterionId := call.criterionId
        verifierVersion := decision.verifierVersion
        status := decision.status
        evidence := items
        outcomeId := call.env.uuid 0
        verifiedAt := some decision.verifiedAt })
      repository.addOutcome outcome
      App.audit call.ctx "outcome.verified" outcome.auditItem (call.env.uuid 1) (call.env.now 1)
      repository.putIdempotency call.ctx.tenantId key outcome.outcomeId call.ctx.requestDigest
      return outcome

/-- Over the in-memory store it is the command of the application. -/
theorem verifyOutcome_inMemory (call : Call) : verifyOutcome inMemory call =
    App.verifyOutcome call.ports call.env call.ctx call.runId call.criterionId call.evidenceIds :=
  rfl

end

/-! ## The two stores side by side -/

/-- The two stores hold the same but for their audit events, which both can extend. -/
structure Related (m q : Store) : Prop where
  facts : { m with audits := [] } = { q with audits := [] }
  memory : m.Audited
  sql : q.Audited

/-- The evidence an Outcome rests on is stored as the Outcome has it. -/
def Backs (evidence : Dict Uuid Evidence) (item : Outcome) : Prop :=
  ∀ e ∈ item.evidence, evidence.get? e.evidenceId = some e ∧ e.tenantId = item.tenantId

/-- Every record is stored under its identifier, and every Outcome is backed. -/
structure Sound (s : Store) : Prop where
  keyed : s.Keyed
  backed : ∀ id item, s.outcomes.get? id = some item → Backs s.evidence item

section
variable {m q : Store} {tenantId : Uuid}

theorem Related.same {γ : Type} {f : Store → γ} (related : Related m q)
    (blind : ∀ s events, f { s with audits := events } = f s) : f m = f q := by
  rw [← blind m [], ← blind q [], related.facts]

/-- Adding the same to both keeps them related. -/
theorem Related.change {g : Store → Store} (related : Related m q)
    (blind : ∀ s, { g s with audits := [] } = g { s with audits := [] })
    (quiet : ∀ s, (g s).audits = s.audits) : Related (g m) (g q) where
  facts := by rw [blind, blind, related.facts]
  memory := by
    rw [Store.Audited, quiet]
    exact related.memory
  sql := by
    rw [Store.Audited, quiet]
    exact related.sql

theorem find_alike {α : Type} {table : Store → Dict Uuid α} {tenantOf : α → Uuid}
    {missing : String} {id : Uuid} (related : Related m q) (same : table m = table q) :
    Tx.Alike Related (Store.find table tenantOf missing tenantId id)
      (Store.find table tenantOf missing tenantId id) m q := by
  refine Tx.alike_bind_read (Tx.alike_read related (by rw [same])) (Tx.keeps_read _)
    (Tx.keeps_read _) fun found _ => ?_
  cases found with
  | none => exact Tx.alike_raise _ _
  | some item =>
    exact Tx.alike_bind_read (Tx.alike_check related rfl _ _) (Tx.keeps_check _ _)
      (Tx.keeps_check _ _) fun _ _ => Tx.alike_pure related item

theorem getEvidence_alike (related : Related m q) (id : Uuid) :
    Tx.Alike Related (Store.getEvidence tenantId id) (Store.getEvidence tenantId id) m q :=
  find_alike related (related.same fun _ _ => rfl)

theorem loadIdempotency_alike (related : Related m q) (ctx : CommandContext) (key : String) :
    Tx.Alike Related (App.loadIdempotency ctx key) (App.loadIdempotency ctx key) m q := by
  refine Tx.alike_bind_read (Tx.alike_read related ?_) (Tx.keeps_read _) (Tx.keeps_read _)
    fun accepted _ => ?_
  · exact congrArg (Dict.get? · _) (related.same (f := (·.idempotencyDigests)) fun _ _ => rfl)
  · refine Tx.alike_bind_read (Tx.alike_check related rfl _ _) (Tx.keeps_check _ _)
      (Tx.keeps_check _ _) fun _ _ => Tx.alike_read related ?_
    exact congrArg (Dict.get? · _) (related.same (f := (·.idempotency)) fun _ _ => rfl)

/-- A row whose evidence is stored unchanged is read back as it is. -/
theorem getOutcome_alike (related : Related m q) (sound : Sound m) (id : Uuid) :
    Tx.Alike Related (Store.getOutcome tenantId id) (Sql.getOutcome tenantId id) m q := by
  have outcomes : m.outcomes = q.outcomes := related.same fun _ _ => rfl
  have evidence : m.evidence = q.evidence := related.same fun _ _ => rfl
  have read (row : Outcome) (found : m.outcomes.get? id = some row)
      (own : row.tenantId = tenantId) : Sql.getOutcome tenantId id q = .ok (row, q) := by
    have first : Store.getOutcome tenantId id q = .ok (row, q) :=
      Store.find_ok.mpr ⟨outcomes ▸ found, own, rfl⟩
    have items : (row.evidence.map (·.evidenceId)).mapM (Store.getEvidence tenantId) q =
        .ok (row.evidence, q) := by
      rw [List.mapM_map]
      refine (Tx.mapM_returns (f := fun e => e) fun e there => ?_).trans (by rw [List.map_id'])
      obtain ⟨stored, owner⟩ := sound.backed id row found e there
      exact Store.find_ok.mpr ⟨evidence ▸ stored, owner.trans own, rfl⟩
    refine Tx.bind_ok.mpr ⟨row, q, first, Tx.bind_ok.mpr ⟨row.evidence, q, items, ?_⟩⟩
    exact Tx.ofExcept_ok.mpr ⟨guarded_eq_ok.mpr ⟨row.valid, rfl⟩, rfl⟩
  constructor
  · intro row s' ran
    obtain ⟨found, own, same⟩ := Store.find_ok.mp ran
    cases same
    exact ⟨q, read row found own, related⟩
  · intro row q' ran
    obtain ⟨row', _, first, rest⟩ := Tx.bind_ok.mp ran
    obtain ⟨found, own, same⟩ := Store.find_ok.mp first
    rw [← outcomes] at found
    cases (read row' found own).symm.trans ran
    exact ⟨m, Store.find_ok.mpr ⟨found, own, rfl⟩, related⟩

end

/-- The table has room for the Outcome: it fits the columns and meets no unique constraint. -/
def Room (s : Store) (item : Outcome) : Prop :=
  item.criterionId.length ≤ 200 ∧ item.verifierVersion.length ≤ 200 ∧
    s.outcomes.get? item.outcomeId = none ∧ ∀ old ∈ s.outcomes.values, Sql.conflicts item old = false

/-- The comparison with the stored evidence, which both stores make. -/
theorem backs_compared {s : Store} {item : Outcome} (backs : Backs s.evidence item) (e : Exc) :
    (item.evidence.forM fun submitted => do
      let row ← Store.getEvidence item.tenantId submitted.evidenceId
      Tx.check (row ≠ submitted) e : StoreTx PUnit) s = .ok (⟨⟩, s) := by
  refine Tx.forM_returns fun submitted there => ?_
  obtain ⟨stored, owner⟩ := backs submitted there
  refine Tx.bind_ok.mpr ⟨submitted, s, Store.find_ok.mpr ⟨stored, owner, rfl⟩, ?_⟩
  exact Tx.check_ok.mpr ⟨by simp, rfl⟩

section
variable [Sha256] {m q : Store} (digests : ∀ text, (Sha256.hexdigest text).length = 64)
include digests

theorem recordAudit_audited {s : Store} (audited : s.Audited) (e : AuditEvent) (now : Instant) :
    ∃ events, Store.recordAudit e now s = .ok ((), { s with audits := events }) ∧
      Store.Audited { s with audits := events } := by
  obtain ⟨events, ran⟩ := Store.recordAudit_returns audited e now
  have kept : Store.Kept (fun _ => False) Store.Audited .audits :=
    Store.audited_kept digests .audits
  exact ⟨events, ran, ((Store.recordAudit_holds kept e now).run audited ran).1⟩

/-- Each store can extend its log, with an event of its own. -/
theorem recordAudit_alike (related : Related m q) (a b : AuditEvent) (now then_ : Instant) :
    Tx.Alike Related (Store.recordAudit a now) (Store.recordAudit b then_) m q := by
  obtain ⟨first, ran, still⟩ := recordAudit_audited digests related.memory a now
  obtain ⟨second, ran', still'⟩ := recordAudit_audited digests related.sql b then_
  exact Tx.alike_returns ran ran' ⟨related.facts, still, still'⟩

theorem addOutcome_alike (related : Related m q) {item : Outcome} (backs : Backs m.evidence item)
    (own : ∀ e ∈ item.evidence, e.runId = item.runId) (room : Room m item) (env : Env) :
    Tx.Alike Related (Store.addOutcome item) (Sql.addOutcome env item) m q := by
  have outcomes : m.outcomes = q.outcomes := related.same fun _ _ => rfl
  have evidence : m.evidence = q.evidence := related.same fun _ _ => rfl
  have backs' : Backs q.evidence item := evidence ▸ backs
  obtain ⟨criterion, verifier, unused, apart⟩ := room
  have added := related.change (g := fun s => { s with outcomes := s.outcomes.set item.outcomeId item })
    (fun _ => rfl) fun _ => rfl
  have persisted : (item.evidence.any fun e => !(q.evidence.get? e.evidenceId).any fun row =>
      row.tenantId = item.tenantId && row.runId = item.runId) = false := by
    rw [List.any_eq_false]
    intro e there
    obtain ⟨stored, owner⟩ := backs' e there
    simp [stored, owner, own e there]
  have free : (q.outcomes.values.any (Sql.conflicts item)) = false := by
    rw [List.any_eq_false]
    intro old there
    rw [apart old (outcomes ▸ there)]
    decide
  have memory : Store.addOutcome item m =
      .ok ((), { m with outcomes := m.outcomes.set item.outcomeId item }) :=
    Tx.bind_ok.mpr ⟨⟨⟩, m, backs_compared backs _, rfl⟩
  obtain ⟨events, ran, still⟩ := recordAudit_audited digests added.sql
    (Sql.outcomeRecorded item (env.uuid 2) (env.uuid 3)) (env.now 2)
  have sql : Sql.addOutcome env item q = .ok ((), { q with
      outcomes := q.outcomes.set item.outcomeId item
      audits := events }) := by
    refine Tx.bind_ok.mpr ⟨_, q, rfl, ?_⟩
    refine Tx.bind_ok.mpr ⟨(), q, Tx.check_ok.mpr ⟨persisted, rfl⟩, ?_⟩
    refine Tx.bind_ok.mpr ⟨⟨⟩, q, backs_compared backs' _, ?_⟩
    refine Tx.bind_ok.mpr ⟨(), q, Tx.check_ok.mpr ⟨?_, rfl⟩, ?_⟩
    · simp only [Bool.or_eq_false_iff, decide_eq_false_iff_not]
      omega
    refine Tx.bind_ok.mpr ⟨_, q, rfl, ?_⟩
    refine Tx.bind_ok.mpr ⟨(), q, Tx.check_ok.mpr ⟨?_, rfl⟩, ?_⟩
    · exact congrArg Option.isSome (outcomes ▸ unused : q.outcomes.get? item.outcomeId = none)
    refine Tx.bind_ok.mpr ⟨(), q, Tx.check_ok.mpr ⟨free, rfl⟩, ?_⟩
    exact Tx.bind_ok.mpr ⟨(), _, rfl, ran⟩
  exact Tx.alike_returns memory sql ⟨added.facts, added.memory, still⟩

omit [Sha256] digests in
theorem putIdempotency_alike (related : Related m q) (tenantId : Uuid) {key : String}
    (width : key.length ≤ Keys.columnWidth) (value : Uuid) (digest : String) :
    Tx.Alike Related (Store.putIdempotency tenantId key value digest)
      (Sql.putIdempotency tenantId key value digest) m q := by
  have bound : m.idempotency = q.idempotency := related.same fun _ _ => rfl
  have accepted : m.idempotencyDigests = q.idempotencyDigests := related.same fun _ _ => rfl
  refine Tx.alike_check_right (by simp only [decide_eq_false_iff_not]; omega) ?_
  refine Tx.alike_bind_read (Tx.alike_read related (by rw [bound])) (Tx.keeps_read _)
    (Tx.keeps_read _) fun current _ => ?_
  refine Tx.alike_bind_read (Tx.alike_read related (by rw [accepted])) (Tx.keeps_read _)
    (Tx.keeps_read _) fun old _ => ?_
  refine Tx.alike_bind_read (Tx.alike_check related rfl _ _) (Tx.keeps_check _ _)
    (Tx.keeps_check _ _) fun _ _ => Tx.alike_write ?_
  exact related.change (g := fun s => { s with
    idempotency := s.idempotency.set (tenantId, key) value
    idempotencyDigests := s.idempotencyDigests.set (tenantId, key) digest })
    (fun _ => rfl) fun _ => rfl

/-- The key of the call is recorded, or the call fits the columns and its Run has no Outcome
for the criterion yet. -/
def Clear (s : Store) (call : Call) : Prop :=
  (s.idempotency.get? (call.ctx.tenantId, call.ctx.key "verify_outcome")).isSome ∨
    (call.criterionId.length ≤ 200 ∧ (call.ctx.key "verify_outcome").length ≤ Keys.columnWidth ∧
      ∀ old ∈ s.outcomes.values, ¬ (old.tenantId = call.ctx.tenantId ∧ old.runId = call.runId ∧
        old.criterionId = call.criterionId))

/-- A clear call is answered alike by both stores. -/
theorem verifyOutcome_alike (related : Related m q) (sound : Sound m) {call : Call}
    (fresh : m.outcomes.get? (call.env.uuid 0) = none) (clear : Clear m call) :
    Tx.Alike Related (verifyOutcome inMemory call)
      (verifyOutcome (Sql.repository call.env) call) m q := by
  refine Tx.alike_bind_read (Tx.alike_ofExcept related _) (Tx.keeps_ofExcept _)
    (Tx.keeps_ofExcept _) fun _ _ => ?_
  refine Tx.alike_bind_read (Tx.alike_check related rfl _ _) (Tx.keeps_check _ _)
    (Tx.keeps_check _ _) fun _ _ => ?_
  refine Tx.alike_bind_read (loadIdempotency_alike related _ _) (App.loadIdempotency_reads _)
    (App.loadIdempotency_reads _) fun cached loaded => ?_
  cases cached with
  | some value => exact getOutcome_alike related sound value
  | none =>
    refine Tx.alike_bind_read (find_alike related (related.same fun _ _ => rfl))
      (Store.find_keeps _ _ _ _ _ _) (Store.find_keeps _ _ _ _ _ _) fun run hadRun => ?_
    refine Tx.alike_bind_read (find_alike related (related.same fun _ _ => rfl))
      (Store.find_keeps _ _ _ _ _ _) (Store.find_keeps _ _ _ _ _ _) fun goal _ => ?_
    cases goal.successCriteria.find? (·.criterionId = call.criterionId) with
    | none => exact Tx.alike_raise _ _
    | some criterion =>
      refine Tx.alike_bind_read (Tx.alike_mapM (fun _ => Store.find_keeps _ _ _ _ _ _)
        (getEvidence_alike related) related _) (Tx.keeps_mapM (fun _ => Store.find_keeps _ _ _ _ _ _) _)
        (Tx.keeps_mapM (fun _ => Store.find_keeps _ _ _ _ _ _) _) fun items found => ?_
      refine Tx.alike_bind_read (Tx.alike_check related rfl _ _) (Tx.keeps_check _ _)
        (Tx.keeps_check _ _) fun _ ofRun => ?_
      refine Tx.alike_bind_read (Tx.alike_ofExcept related _) (Tx.keeps_ofExcept _)
        (Tx.keeps_ofExcept _) fun decision decided => ?_
      refine Tx.alike_bind_read (Tx.alike_ofExcept related _) (Tx.keeps_ofExcept _)
        (Tx.keeps_ofExcept _) fun outcome made => ?_
      obtain ⟨valid, rfl⟩ := guarded_eq_ok.mp (Tx.ofExcept_ok.mp made).1
      obtain ⟨status, _, decided⟩ := bind_eq_ok.mp (Tx.ofExcept_ok.mp decided).1
      cases decided
      obtain ⟨known, _⟩ := Store.find_ok.mp hadRun
      have named : run.runId = call.runId := sound.keyed .run call.runId run known
      obtain recorded | ⟨short, width, open_⟩ := clear
      · obtain ⟨unbound, _⟩ := Prod.mk.inj (App.loadIdempotency_returns.mp loaded).2
        rw [← unbound] at recorded
        cases recorded
      have backs : Backs m.evidence ⟨_, valid⟩ := by
        intro e there
        obtain ⟨id, _, read⟩ := Tx.mem_of_mapM (fun _ => Store.find_keeps _ _ _ _ _ _) found there
        obtain ⟨stored, owner, _⟩ := Store.find_ok.mp read
        have own : e.evidenceId = id := sound.keyed .evidence id e stored
        exact ⟨own ▸ stored, owner⟩
      have own : ∀ e ∈ items, e.runId = run.runId := by
        simpa using (Tx.check_ok.mp ofRun).1
      have version : TrustedOutcomeVerifier.version.length ≤ 200 := by decide
      refine Tx.alike_bind (addOutcome_alike digests related backs own
        ⟨short, version, fresh, ?_⟩ call.env) fun _ m₁ q₁ _ _ added => ?_
      · intro old there
        simpa [Sql.conflicts, named] using open_ old there
      refine Tx.alike_bind (recordAudit_alike digests added _ _ _ _) fun _ m₂ q₂ _ _ audited => ?_
      refine Tx.alike_bind (putIdempotency_alike audited _ width _ _) fun _ m₃ q₃ _ _ done => ?_
      exact Tx.alike_pure done _

omit digests in
theorem sql_addOutcome_room {env : Env} {item : Outcome} {r : Unit × Store}
    (ran : Sql.addOutcome env item q = .ok r) : Room q item := by
  simp only [Sql.addOutcome, Tx.bind_ok, Tx.read_ok, Tx.check_ok] at ran
  obtain ⟨_, _, ⟨⟩, _, _, ⟨_, rfl⟩, _, q₁, compared, _, _, ⟨fits, rfl⟩, _, _, ⟨⟩, _, _,
    ⟨unused, rfl⟩, _, _, ⟨apart, rfl⟩, _⟩ := ran
  have same := (Tx.keeps_forM (f := fun s : Store => s) (fun e => Tx.keeps_bind
    (Store.find_keeps _ _ _ _ _ _) fun _ => Tx.keeps_check _ _) _).eq compared
  cases same
  simp only [Bool.or_eq_false_iff, decide_eq_false_iff_not, not_lt] at fits
  rw [List.any_eq_false] at apart
  refine ⟨fits.1, fits.2, by simpa using unused, fun old there => ?_⟩
  simpa using apart old there

omit digests in
/-- A new Outcome is accepted by the table only where the call is clear. -/
theorem sql_clear {call : Call} (keyed : ∀ id run, q.runs.get? id = some run → run.runId = id)
    {r : Outcome × Store} (ran : verifyOutcome (Sql.repository call.env) call q = .ok r) :
    Clear q call := by
  simp only [verifyOutcome, Tx.bind_ok, App.requireAny, Tx.ofExcept_ok, Tx.check_ok] at ran
  obtain ⟨_, _, ⟨_, rfl⟩, _, q, ⟨_, rfl⟩, cached, _, loaded, ran⟩ := ran
  obtain ⟨_, same⟩ := App.loadIdempotency_returns.mp loaded
  cases same
  cases bound : q.idempotency.get? (call.ctx.tenantId, call.ctx.key "verify_outcome") with
  | some value => exact Or.inl (by rw [bound]; rfl)
  | none =>
    right
    simp only [bound, Tx.bind_ok, Store.getRun, Store.getGoal, Store.find_ok] at ran
    obtain ⟨run, _, ⟨known, _, rfl⟩, goal, q, ⟨_, _, rfl⟩, ran⟩ := ran
    have named : run.runId = call.runId := keyed call.runId run known
    cases listed : goal.successCriteria.find? (·.criterionId = call.criterionId) with
    | none =>
      rw [listed] at ran
      cases ran
    | some criterion =>
      simp only [listed, Tx.bind_ok, Tx.check_ok, Tx.ofExcept_ok] at ran
      obtain ⟨items, _, found, _, _, ⟨_, rfl⟩, decision, _, ⟨_, rfl⟩, made, _, ⟨built, rfl⟩, _, _,
        added, _, _, _, _, _, bound, _⟩ := ran
      cases (Tx.keeps_mapM (fun _ => Store.find_keeps _ _ _ _ _ (fun s => s)) _).eq found
      obtain ⟨valid, rfl⟩ := guarded_eq_ok.mp built
      obtain ⟨short, _, _, apart⟩ := sql_addOutcome_room added
      simp only [Sql.repository, Sql.putIdempotency, Tx.bind_ok, Tx.check_ok,
        decide_eq_false_iff_not, not_lt] at bound
      obtain ⟨_, _, ⟨width, _⟩, _⟩ := bound
      refine ⟨short, width, fun old there => ?_⟩
      simpa [Sql.conflicts, named] using apart old there

end

/-! ## Runs of both stores -/

section
variable [Sha256] {m q : Store}

/-- The Outcomes of the store rest on this evidence. -/
def Rests (evidence : Dict Uuid Evidence) (s : Store) : Prop :=
  s.evidence = evidence ∧ ∀ id item, s.outcomes.get? id = some item → Backs evidence item

omit [Sha256] in
theorem addOutcome_rests {evidence : Dict Uuid Evidence} (item : Outcome) :
    Store.Holds (Rests evidence) (Store.addOutcome item) := by
  constructor
  intro s u s' ⟨same, rests⟩ ran
  obtain ⟨_, s₁, compared, wrote⟩ := Tx.bind_ok.mp ran
  obtain ⟨rfl, each⟩ := Tx.of_forM (fun e => Tx.keeps_bind (Store.find_keeps _ _ _ _ _ _)
    fun _ => Tx.keeps_check _ _) compared
  cases Tx.write_ok.mp wrote
  refine ⟨⟨same, fun id stored found => ?_⟩, trivial⟩
  rw [Dict.get?_set] at found
  split at found
  · cases found
    intro e there
    have persisted := each e there
    simp only [Tx.bind_ok, Store.find_ok, Tx.check_ok, decide_eq_false_iff_not, ne_eq,
      not_not] at persisted
    obtain ⟨row, _, ⟨found, owner, rfl⟩, equal, _⟩ := persisted
    subst equal
    exact ⟨same ▸ found, owner⟩
  · exact rests id stored found

theorem verifyOutcome_rests {evidence : Dict Uuid Evidence} (call : Call) :
    Store.Holds (Rests evidence) (verifyOutcome inMemory call) := by
  refine (Tx.keeps_ofExcept _).skip fun _ => (Tx.keeps_check _ _).skip fun _ =>
    (App.loadIdempotency_reads _).skip fun cached => ?_
  cases cached with
  | some value => exact App.reads_holds (Store.find_keeps _ _ _ _ _ _)
  | none =>
    refine (Store.find_keeps _ _ _ _ _ _).skip fun run =>
      (Store.find_keeps _ _ _ _ _ _).skip fun goal => ?_
    cases goal.successCriteria.find? (·.criterionId = call.criterionId) with
    | none => exact Tx.under_raise _
    | some criterion =>
      refine (Tx.keeps_mapM (fun _ => Store.find_keeps _ _ _ _ _ _) _).skip fun items =>
        (Tx.keeps_check _ _).skip fun _ => (Tx.keeps_ofExcept _).skip fun decision =>
        (Tx.keeps_ofExcept _).skip fun outcome => ?_
      have audits : Store.Kept (fun _ => False) (Rests evidence) .audits := by
        constructor
        rintro s s' ⟨⟩ rests
        exact rests
      have keys : Store.Kept (fun _ => False) (Rests evidence) .keys := by
        constructor
        rintro s s' ⟨⟩ rests
        exact rests
      exact Tx.under_bind (addOutcome_rests outcome) fun _ _ => App.audited_holds audits keys

/-- The in-memory store and the SQL repository through the same calls. Both start without an
Outcome; each call of `verify_outcome` meets `ok`; another command of the application leaves the
Outcomes and the stored evidence as they are, and both stores alike. -/
inductive Twin (ok : Store → Call → Prop) : Store → Store → Prop
  | start {s : Store} (later : Store.Later {} s) (none : s.outcomes.entries = []) : Twin ok s s
  | verify {m q : Store} (before : Twin ok m q) {call : Call}
      (fresh : ∀ n, m.Unused (call.env.uuid n)) (meets : ok m call) :
      Twin ok ((verifyOutcome inMemory call).commit m).2
        ((verifyOutcome (Sql.repository call.env) call).commit q).2
  | other {m q m' q' : Store} (before : Twin ok m q) (next : m.Next m')
      (outcomes : m'.outcomes = m.outcomes)
      (evidence : ∀ id e, m.evidence.get? id = some e → m'.evidence.get? id = some e)
      (alike : Related m' q') : Twin ok m' q'

theorem Sound.verify (sound : Sound m) {call : Call} (fresh : ∀ n, m.Unused (call.env.uuid n)) :
    Sound ((verifyOutcome inMemory call).commit m).2 := by
  have next : m.Next ((verifyOutcome inMemory call).commit m).2 :=
    .command call.ports (.verifyOutcome call.ctx call.runId call.criterionId call.evidenceIds) fresh
  obtain ⟨same, rests⟩ := (verifyOutcome_rests call).commit ⟨rfl, sound.backed⟩
  refine ⟨next.holds sound.keyed fun _ p => Store.keyed_kept p, fun id item found => ?_⟩
  rw [same]
  exact rests id item found

theorem Sound.other {m' : Store} (sound : Sound m) (next : m.Next m')
    (outcomes : m'.outcomes = m.outcomes)
    (evidence : ∀ id e, m.evidence.get? id = some e → m'.evidence.get? id = some e) :
    Sound m' := by
  refine ⟨next.holds sound.keyed fun _ p => Store.keyed_kept p, fun id item found e there => ?_⟩
  rw [outcomes] at found
  obtain ⟨stored, own⟩ := sound.backed id item found e there
  exact ⟨evidence _ e stored, own⟩

variable (digests : ∀ text, (Sha256.hexdigest text).length = 64)
include digests

theorem Twin.sound (twin : Twin Clear m q) : Related m q ∧ Sound m := by
  induction twin with
  | @start s later none =>
    have audited : s.Audited := later.audited digests fun e there => by cases there
    have keyed : s.Keyed := later.keyed fun i id row found => by cases i <;> cases found
    refine ⟨⟨rfl, audited, audited⟩, keyed, fun id item found => ?_⟩
    rw [Dict.get?, none] at found
    cases found
  | @verify m q before call fresh clear ih =>
    obtain ⟨related, sound⟩ := ih
    have alike := verifyOutcome_alike digests related sound (fresh 0 .outcome) clear
    exact ⟨(alike.commit related).2, sound.verify fresh⟩
  | other before next outcomes evidence alike ih =>
    exact ⟨alike, ih.2.other next outcomes evidence⟩

/-- In every run whose calls are clear both stores answer each call alike, and hold the same
after it. A call the in-memory store accepts is accepted by the SQL repository exactly when it is
clear. -/
theorem answered_alike (twin : Twin Clear m q) {call : Call}
    (fresh : ∀ n, m.Unused (call.env.uuid n)) :
    (Clear m call →
      ((verifyOutcome inMemory call).commit m).1.toOption =
          ((verifyOutcome (Sql.repository call.env) call).commit q).1.toOption ∧
        Related ((verifyOutcome inMemory call).commit m).2
          ((verifyOutcome (Sql.repository call.env) call).commit q).2) ∧
    ∀ r, verifyOutcome inMemory call m = .ok r →
      ((∃ r', verifyOutcome (Sql.repository call.env) call q = .ok r') ↔ Clear m call) := by
  obtain ⟨related, sound⟩ := twin.sound digests
  refine ⟨fun clear => ?_, fun r accepted => ⟨fun ⟨r', ran⟩ => ?_, fun clear => ?_⟩⟩
  · exact (verifyOutcome_alike digests related sound (fresh 0 .outcome) clear).commit related
  · have runs : m.runs = q.runs := related.same fun _ _ => rfl
    have bound : m.idempotency = q.idempotency := related.same fun _ _ => rfl
    have outcomes : m.outcomes = q.outcomes := related.same fun _ _ => rfl
    have keyed : ∀ id run, q.runs.get? id = some run → run.runId = id := runs ▸ sound.keyed .run
    have clear := sql_clear keyed ran
    rwa [Clear, ← bound, ← outcomes] at clear
  · obtain ⟨q', ran, _⟩ :=
      (verifyOutcome_alike digests related sound (fresh 0 .outcome) clear).forth accepted
    exact ⟨_, ran⟩

end

namespace Sample
open Autonoesis.Sample

attribute [local instance] Autonoesis.Sample.sha256

/-- The Action has succeeded and its evidence is captured. -/
def steps : List (Uuid × Command) :=
  acted ++ [(100, .captureEvidence (context "capture-1" capture_named) capture)]

def captured : Store := Store.after {} (session steps)

/-- A verification before any evidence was named. -/
def early : Call := ⟨legacyPorts, env 112, context "verify-0" (by decide), 32, "delivered", []⟩

/-- A verification of the captured evidence. -/
def verification : Call := ⟨legacyPorts, env 114, context "verify-1" verify_named, 32, "delivered",
  [0x9e52265791f65cd8a839abd8e7e2f77b]⟩

/-- What both stores answer to the verification, from what the early call left. -/
def Refused (m q : Store) : Prop :=
  (m.Unused 114 ∧ m.Unused 115) ∧
    ((verifyOutcome inMemory verification).commit m).1.toOption.map (·.status) = some .verified ∧
    ((verifyOutcome (Sql.repository verification.env) verification).commit q).1 =
      .error (.integrityError "uq_outcome_criterion")

instance (m q : Store) : Decidable (Refused m q) := inferInstanceAs (Decidable (_ ∧ _ ∧ _))

theorem session_facts : drawsUnused steps {} = true ∧ captured.outcomes.entries = [] ∧
    (captured.Unused 112 ∧ captured.Unused 113) ∧ (captured.Unused 114 ∧ captured.Unused 115) ∧
    ((verifyOutcome inMemory verification).commit captured).1.toOption.map (·.status) =
      some .verified ∧
    Refused ((verifyOutcome inMemory early).commit captured).2
      ((verifyOutcome (Sql.repository early.env) early).commit captured).2 := by
  rw [captured, after_session]
  decide +kernel

theorem captured_start (ok : Store → Call → Prop) : Twin ok captured captured := by
  obtain ⟨draws, none, _⟩ := session_facts
  exact .start (later_session draws) none

/-- A first Outcome is verified by both stores. -/
theorem first_alike : ∃ outcome, outcome.status = .verified ∧
    ((verifyOutcome inMemory verification).commit captured).1.toOption = some outcome ∧
    ((verifyOutcome (Sql.repository verification.env) verification).commit captured).1.toOption =
      some outcome := by
  obtain ⟨_, none, _, fresh, verified, _⟩ := session_facts
  have clear : Clear captured verification := by
    refine Or.inr ⟨by decide +kernel, by decide +kernel, fun old there => ?_⟩
    rw [Dict.values, none] at there
    cases there
  have alike := ((answered_alike hexdigest_length (captured_start Clear) (env_unused fresh)).1
    clear).1
  obtain ⟨outcome, recorded, status⟩ := Option.map_eq_some_iff.mp verified
  exact ⟨outcome, status, recorded, alike.symm.trans recorded⟩

/-- An Outcome recorded as unknown keeps the SQL repository from recording that the criterion is
met; the in-memory store records it. -/
theorem verified_refused : ∃ m q, Twin (fun _ _ => True) m q ∧
    (∀ n, m.Unused (verification.env.uuid n)) ∧
    ((verifyOutcome inMemory verification).commit m).1.toOption.map (·.status) = some .verified ∧
    ((verifyOutcome (Sql.repository verification.env) verification).commit q).1 =
      .error (.integrityError "uq_outcome_criterion") := by
  obtain ⟨_, _, fresh, _, _, fresh', answers⟩ := session_facts
  have drawn : ∀ n, captured.Unused (early.env.uuid n) := env_unused fresh
  exact ⟨_, _, .verify (captured_start _) drawn trivial, env_unused fresh', answers⟩

end Sample

end Autonoesis.Outcomes
