import Autonoesis.Domain.Columns
import Autonoesis.Persistence.AuditLog

/-!
# The outbox relay

Two writers put rows into the outbox: `OutboxWriter.publish`, with an envelope, and
`_add_outbox` of the repository, with an audit event. `OutboxRelay` decodes every row as an
envelope, hands it to the publisher and marks it, in one transaction around the whole batch.
-/

namespace Autonoesis
open Base

/-- What stands in the classification of an envelope: a member of the enumeration, or a bare
text, which nothing keeps out. -/
inductive EnvelopeClassification where
  | member (c : DataClassification)
  | text (value : String)

structure MessageEnvelopeFields where
  schema : String
  schemaVersion : Int
  tenantId : Uuid
  actorId : Uuid
  payload : List (String × Json)
  messageId : Uuid
  correlationId : Uuid
  causationId : Option Uuid := none
  traceparent : Option String := none
  classification : EnvelopeClassification := .member .internal
  createdAt : Instant

def MessageEnvelopeFields.check (e : MessageEnvelopeFields) : Except Exc Unit :=
  checks [
    (isBlank e.schema, .valueError "schema must not be empty"),
    (e.schemaVersion < 1, .valueError "schema_version must be positive")]

structure MessageEnvelope extends MessageEnvelopeFields where
  valid : toMessageEnvelopeFields.check = .ok ()

def MessageEnvelope.make (e : MessageEnvelopeFields) : Except Exc MessageEnvelope :=
  guarded e.check fun h => ⟨e, h⟩

/-- `classification.value`, which a bare text does not have. -/
def EnvelopeClassification.value : EnvelopeClassification → Except Exc String
  | .member c => .ok c.value
  | .text _ => .error ⟨"AttributeError", [.exception], "'str' object has no attribute 'value'"⟩

namespace Relay

/-- A row of the outbox, with its payload as the JSON column holds it. -/
structure Row where
  id : Uuid
  tenantId : Uuid
  schema : String
  payload : Json
  createdAt : Instant
  publishedAt : Option Instant := none

/-! ## The writers -/

/-- `_envelope_to_payload`. -/
def envelopeToPayload (envelope : MessageEnvelope) : Except Exc Json := do
  let classification ← envelope.classification.value
  return .obj [
    ("schema", .str envelope.schema),
    ("schema_version", .int envelope.schemaVersion),
    ("tenant_id", envelope.tenantId.json),
    ("actor_id", envelope.actorId.json),
    ("payload", .obj envelope.payload),
    ("message_id", envelope.messageId.json),
    ("correlation_id", envelope.correlationId.json),
    ("causation_id", Json.optional Uuid.json envelope.causationId),
    ("traceparent", Json.optional .str envelope.traceparent),
    ("classification", .str classification),
    ("created_at", Instant.json envelope.createdAt)]

/-- `OutboxWriter.publish`, with the identifier `uuid4` draws for the row. -/
def publish (envelope : MessageEnvelope) (id : Uuid) (now : Instant) : Except Exc Row := do
  let payload ← envelopeToPayload envelope
  return ⟨id, envelope.tenantId, envelope.schema, payload, now, none⟩

/-- The payload of `_add_outbox` in its column. -/
def auditPayload (payload : OutboxPayload) : Json :=
  .obj [
    ("event_type", .str payload.eventType),
    ("object_type", .str payload.objectType),
    ("object_id", .str payload.objectId),
    ("correlation_id", payload.correlationId.json),
    ("audit_ref", Json.optional .str payload.auditRef),
    ("audit_sequence", Json.optional .int payload.auditSequence),
    ("audit_digest", Json.optional .str payload.auditDigest),
    ("details", .obj payload.details)]

/-- `_add_outbox`. -/
def addOutbox (audit : AuditEvent) (id : Uuid) (createdAt : Instant) : Row :=
  let row := audit.outboxRow id createdAt
  ⟨row.id, row.tenantId, row.schema, auditPayload row.payload, row.createdAt, row.publishedAt⟩

/-! ## The relay -/

/-- `_payload_to_envelope`. -/
def payloadToEnvelope (payload : Json) : Except Exc MessageEnvelope := do
  let schema ← payload.at_ "schema" Json.asStr
  let schemaVersion ← payload.at_ "schema_version" Json.asInt
  let tenantId ← payload.at_ "tenant_id" asUuid
  let actorId ← payload.at_ "actor_id" asUuid
  let content ← payload.at_ "payload" Json.asObj
  let messageId ← payload.at_ "message_id" asUuid
  let correlationId ← payload.at_ "correlation_id" asUuid
  let causationId ← payload.ifGiven "causation_id" asUuid
  let traceparent ← payload.get? "traceparent" Json.asStr
  let classification ← payload.getD "classification" "internal" Json.asStr
  let createdAt ← payload.at_ "created_at" asInstant
  MessageEnvelope.make {
    schema := schema
    schemaVersion := schemaVersion
    tenantId := tenantId
    actorId := actorId
    payload := content
    messageId := messageId
    correlationId := correlationId
    causationId := causationId
    traceparent := traceparent
    classification := .text classification
    createdAt := createdAt }

/-- What the publisher does with the envelope of a row in one poll: take it, or raise an
`Exception`. -/
abbrev Publisher := Row → MessageEnvelope → Bool

/-- The loop of `poll_and_publish`: the envelopes the publisher has taken, and the rows to mark
unless decoding one has raised. -/
def relayRows (publisher : Publisher) : List Row → List MessageEnvelope × Except Exc (List Uuid)
  | [] => ([], .ok [])
  | row :: rest =>
    match payloadToEnvelope row.payload with
    | .error e => ([], .error e)
    | .ok envelope =>
      let (taken, marks) := relayRows publisher rest
      if publisher row envelope then (envelope :: taken, (row.id :: ·) <$> marks)
      else (taken, marks)

/-- The rows `poll_and_publish` may select: the oldest that are not published, in the order of
their age. -/
def Selected (batchSize : Nat) (table batch : List Row) : Prop :=
  ∃ ordered : List Row, ordered.Perm (table.filter (·.publishedAt.isNone)) ∧
    ordered.Pairwise (·.createdAt ≤ ·.createdAt) ∧ batch = ordered.take batchSize

/-- What a poll leaves behind. -/
structure Polled where
  table : List Row
  taken : List MessageEnvelope
  result : Except Exc Nat

attribute [local instance] Uuid.lawfulBEq in
def mark (ids : List Uuid) (now : Instant) (row : Row) : Row :=
  if row.id ∈ ids then { row with publishedAt := some now } else row

/-- `poll_and_publish` on a batch; what it has not committed is rolled back when it raises. -/
def poll (publisher : Publisher) (now : Instant) (table batch : List Row) : Polled :=
  match relayRows publisher batch with
  | (taken, .ok ids) => ⟨table.map (mark ids now), taken, .ok ids.length⟩
  | (taken, .error e) => ⟨table, taken, .error e⟩

/-- The statements of the writers and of the pollers: this relay, and the dispatcher of requested
Runs, which marks rows without reading their payload as an envelope. -/
inductive Step (table : List Row) : List Row → Prop
  | publish {envelope : MessageEnvelope} {id : Uuid} {now : Instant} {row : Row}
      (made : publish envelope id now = .ok row) (fresh : ∀ old ∈ table, old.id ≠ id) :
      Step table (table ++ [row])
  | addOutbox (audit : AuditEvent) (id : Uuid) (createdAt : Instant)
      (fresh : ∀ old ∈ table, old.id ≠ id) : Step table (table ++ [addOutbox audit id createdAt])
  | poll (publisher : Publisher) (now : Instant) {batchSize : Nat} {batch : List Row}
      (selected : Selected batchSize table batch) : Step table (poll publisher now table batch).table
  | dispatched (ids : List Uuid) (now : Instant) : Step table (table.map (mark ids now))

inductive Reach : List Row → Prop
  | start : Reach []
  | next {table table' : List Row} (past : Reach table) (step : Step table table') : Reach table'

/-- A row of `_add_outbox`. -/
def AuditFact (row : Row) : Prop := ∃ audit id createdAt, row = addOutbox audit id createdAt

/-- A row as one of the writers puts it into the table. -/
def Written (row : Row) : Prop :=
  (∃ envelope id now, publish envelope id now = .ok row) ∨ AuditFact row

/-- The relay decodes the row to an envelope with its tenant, schema and correlation id. -/
def Decodes (row : Row) : Prop :=
  ∃ envelope, payloadToEnvelope row.payload = .ok envelope ∧ envelope.tenantId = row.tenantId ∧
    envelope.schema = row.schema ∧
    row.payload.field? "correlation_id" = some envelope.correlationId.json

/-- The row is decoded, and the publisher takes its envelope. -/
def relayable (publisher : Publisher) (row : Row) : Bool :=
  match payloadToEnvelope row.payload with
  | .ok envelope => publisher row envelope
  | .error _ => false

/-- Every row of the batch that can be relayed is published and marked, and every other one stays
unpublished. -/
def Contained (publisher : Publisher) (now : Instant) (table batch : List Row) : Prop :=
  ∀ row ∈ batch, ∀ after ∈ (poll publisher now table batch).table, after.id = row.id →
    if relayable publisher row then
      after.publishedAt = some now ∧ ∃ envelope ∈ (poll publisher now table batch).taken,
        payloadToEnvelope row.payload = .ok envelope
    else after.publishedAt = none

/-! ## Decoding -/

/-- An envelope is read back as it was written, with the bare text of its classification. -/
theorem payloadToEnvelope_publish {envelope : MessageEnvelope} {id : Uuid} {now : Instant}
    {row : Row} (made : publish envelope id now = .ok row) :
    ∃ (payload : Json) (c : DataClassification),
      row = ⟨id, envelope.tenantId, envelope.schema, payload, now, none⟩ ∧
      payload.field? "correlation_id" = some envelope.correlationId.json ∧
      payloadToEnvelope payload =
        .ok { envelope with classification := .text c.value, valid := envelope.valid } := by
  obtain ⟨payload, written, row⟩ := bind_eq_ok.mp made
  obtain ⟨text, value, written⟩ := bind_eq_ok.mp written
  cases row
  cases written
  obtain ⟨c, rfl⟩ : ∃ c : DataClassification, text = c.value := by
    cases classified : envelope.classification with
    | member c =>
      rw [classified] at value
      cases value
      exact ⟨c, rfl⟩
    | text bare =>
      rw [classified] at value
      cases value
  refine ⟨_, c, rfl, by simp, ?_⟩
  simp only [payloadToEnvelope, Json.at_, Json.ifGiven, Json.getD, Json.get?]
  simp
  exact guarded_eq_ok.mpr ⟨envelope.valid, rfl⟩

theorem payloadToEnvelope_addOutbox (audit : AuditEvent) (id : Uuid) (createdAt : Instant) :
    payloadToEnvelope (addOutbox audit id createdAt).payload = .error (.keyError "'schema'") := by
  simp only [payloadToEnvelope, addOutbox, auditPayload, Json.at_]
  simp
  rfl

theorem AuditFact.undecodable {row : Row} (fact : AuditFact row) :
    payloadToEnvelope row.payload = .error (.keyError "'schema'") := by
  obtain ⟨audit, id, createdAt, rfl⟩ := fact
  exact payloadToEnvelope_addOutbox audit id createdAt

/-- Of what the writers put into the table, the relay decodes all but the audit facts. -/
theorem Written.decodes_iff {row : Row} (written : Written row) : Decodes row ↔ ¬AuditFact row := by
  constructor
  · rintro ⟨envelope, decoded, _⟩ fact
    rw [fact.undecodable] at decoded
    cases decoded
  · intro other
    obtain ⟨envelope, id, now, made⟩ := written.resolve_right other
    obtain ⟨payload, c, rfl, correlation, decoded⟩ := payloadToEnvelope_publish made
    exact ⟨_, decoded, rfl, rfl, correlation⟩

/-! ## One poll -/

variable {publisher : Publisher} {now : Instant} {table table' batch : List Row} {batchSize : Nat}

/-- When all rows are decoded, those that can be relayed are marked. -/
theorem relayRows_ok (decoded : ∀ row ∈ batch, Decodes row) :
    (relayRows publisher batch).2 = .ok ((batch.filter (relayable publisher)).map (·.id)) := by
  induction batch with
  | nil => rfl
  | cons row rest ih =>
    obtain ⟨⟨envelope, first, _⟩, others⟩ := List.forall_mem_cons.mp decoded
    have read : relayable publisher row = publisher row envelope := by
      simp only [relayable, first]
    simp only [relayRows, first, List.filter_cons, read]
    cases publisher row envelope with
    | true => simp [ih others, Functor.map, Except.map]
    | false => simpa using ih others

/-- An audit fact anywhere in the batch raises. -/
theorem relayRows_error (there : ∃ row ∈ batch, AuditFact row) :
    ∃ e, (relayRows publisher batch).2 = .error e := by
  induction batch with
  | nil => simp at there
  | cons row rest ih =>
    simp only [relayRows]
    cases read : payloadToEnvelope row.payload with
    | error e => exact ⟨e, rfl⟩
    | ok envelope =>
      have later : ∃ row ∈ rest, AuditFact row := by
        obtain ⟨fact, listed, audit⟩ := there
        obtain rfl | listed := List.mem_cons.mp listed
        · rw [audit.undecodable] at read
          cases read
        · exact ⟨fact, listed, audit⟩
      obtain ⟨e, raised⟩ := ih later
      refine ⟨e, ?_⟩
      by_cases taken : publisher row envelope
      · simp [taken, raised, Functor.map, Except.map]
      · simpa [taken] using raised

/-- What can be relayed is handed to the publisher, if nothing before it raises. -/
theorem relayRows_taken (decoded : ∀ row ∈ batch, Decodes row) {row : Row} (there : row ∈ batch)
    (able : relayable publisher row = true) :
    ∃ envelope ∈ (relayRows publisher batch).1, payloadToEnvelope row.payload = .ok envelope := by
  induction batch with
  | nil => cases there
  | cons first rest ih =>
    obtain ⟨⟨envelope, read, _⟩, others⟩ := List.forall_mem_cons.mp decoded
    simp only [relayRows, read]
    obtain rfl | there := List.mem_cons.mp there
    · have taken : publisher row envelope = true := by
        simpa only [relayable, read] using able
      exact ⟨envelope, by simp [taken], read⟩
    · obtain ⟨envelope', listed, read'⟩ := ih others there
      refine ⟨envelope', ?_, read'⟩
      cases publisher first envelope with
      | true => exact List.mem_cons_of_mem _ listed
      | false => exact listed

/-- A batch with an audit fact is rolled back whole. -/
theorem poll_rolledBack (there : ∃ row ∈ batch, AuditFact row) :
    (poll publisher now table batch).table = table := by
  obtain ⟨e, raised⟩ := @relayRows_error publisher batch there
  unfold poll
  split
  · rename_i rows
    rw [rows] at raised
    cases raised
  · rfl

theorem poll_committed (decoded : ∀ row ∈ batch, Decodes row) :
    (poll publisher now table batch).table =
        table.map (mark ((batch.filter (relayable publisher)).map (·.id)) now) ∧
      (poll publisher now table batch).taken = (relayRows publisher batch).1 := by
  have ran := @relayRows_ok publisher batch decoded
  unfold poll
  split
  · rename_i rows
    rw [rows] at ran
    cases ran
    exact ⟨rfl, by rw [rows]⟩
  · rename_i rows
    rw [rows] at ran
    cases ran

/-! ## What the table holds -/

/-- Rows have their own identifiers, and one that is not published is as it was written. -/
structure Kept (table : List Row) : Prop where
  ids : (table.map (·.id)).Nodup
  written : ∀ row ∈ table, row.publishedAt = none → Written row

theorem Kept.add (kept : Kept table) {row : Row} (fresh : ∀ old ∈ table, old.id ≠ row.id)
    (written : Written row) : Kept (table ++ [row]) where
  ids := by
    rw [List.map_append, List.nodup_append]
    refine ⟨kept.ids, List.nodup_singleton _, ?_⟩
    intro id listed id' new
    obtain ⟨old, there, rfl⟩ := List.mem_map.mp listed
    rw [List.map_singleton, List.mem_singleton] at new
    exact new ▸ fresh old there
  written other there unpublished := by
    obtain there | there := List.mem_append.mp there
    · exact kept.written other there unpublished
    · exact List.mem_singleton.mp there ▸ written

theorem mark_id (ids : List Uuid) (now : Instant) (row : Row) : (mark ids now row).id = row.id := by
  unfold mark
  split <;> rfl

/-- A row that is unpublished after marking is the row before. -/
theorem mark_unpublished {ids : List Uuid} {row : Row}
    (unpublished : (mark ids now row).publishedAt = none) : mark ids now row = row := by
  unfold mark at unpublished ⊢
  split
  · rename_i listed
    rw [if_pos listed] at unpublished
    cases unpublished
  · rfl

theorem Kept.mark (kept : Kept table) (ids : List Uuid) (now : Instant) :
    Kept (table.map (mark ids now)) where
  ids := by
    have same : (fun row : Row => (Relay.mark ids now row).id) = (·.id) :=
      funext (mark_id ids now)
    rw [List.map_map, Function.comp_def, same]
    exact kept.ids
  written row there unpublished := by
    obtain ⟨old, listed, rfl⟩ := List.mem_map.mp there
    have same := mark_unpublished unpublished
    rw [same] at unpublished ⊢
    exact kept.written old listed unpublished

theorem Kept.poll (kept : Kept table) : Kept (poll publisher now table batch).table := by
  unfold Relay.poll
  split
  · exact kept.mark _ now
  · exact kept

theorem Step.kept (step : Step table table') (kept : Kept table) : Kept table' := by
  cases step with
  | publish made fresh =>
    obtain ⟨payload, c, rfl, _⟩ := payloadToEnvelope_publish made
    exact kept.add fresh (.inl ⟨_, _, _, made⟩)
  | addOutbox audit id createdAt fresh => exact kept.add fresh (.inr ⟨audit, id, createdAt, rfl⟩)
  | poll => exact kept.poll
  | dispatched ids now => exact kept.mark ids now

theorem Reach.kept (reach : Reach table) : Kept table := by
  induction reach with
  | start => exact ⟨List.nodup_nil, fun _ there => absurd there List.not_mem_nil⟩
  | next _ step ih => exact step.kept ih

/-- A selected row is an unpublished row of the table. -/
theorem Selected.mem (selected : Selected batchSize table batch) {row : Row} (there : row ∈ batch) :
    row ∈ table ∧ row.publishedAt = none := by
  obtain ⟨ordered, same, _, rfl⟩ := selected
  have listed := same.mem_iff.mp (List.mem_of_mem_take there)
  simpa using listed

/-- Two rows of the table with one identifier are one row. -/
theorem Kept.unique (kept : Kept table) {row row' : Row} (there : row ∈ table)
    (there' : row' ∈ table) (same : row.id = row'.id) : row = row' :=
  List.inj_on_of_nodup_map kept.ids there there' same

/-! ## Containment -/

theorem Kept.contained_of_decodes (kept : Kept table) (selected : Selected batchSize table batch)
    (decoded : ∀ row ∈ batch, Decodes row) : Contained publisher now table batch := by
  intro row there after listed same
  obtain ⟨marked, taken⟩ := @poll_committed publisher now table batch decoded
  rw [marked] at listed
  obtain ⟨old, stored, rfl⟩ := List.mem_map.mp listed
  rw [mark_id] at same
  obtain ⟨inside, unpublished⟩ := selected.mem there
  obtain rfl := kept.unique stored inside same
  by_cases able : relayable publisher old
  · have chosen : old.id ∈ (batch.filter (relayable publisher)).map (·.id) :=
      List.mem_map_of_mem (List.mem_filter.mpr ⟨there, able⟩)
    rw [if_pos able, taken, Relay.mark, if_pos chosen]
    exact ⟨rfl, relayRows_taken decoded there able⟩
  · have passed : old.id ∉ (batch.filter (relayable publisher)).map (·.id) := by
      intro chosen
      obtain ⟨other, picked, alike⟩ := List.mem_map.mp chosen
      obtain ⟨there', able'⟩ := List.mem_filter.mp picked
      obtain rfl := kept.unique (selected.mem there').1 inside alike
      exact able able'
    rw [if_neg able, Relay.mark, if_neg passed]
    exact unpublished

/-- A batch is contained exactly when it has no audit fact, or nothing in it can be relayed. -/
theorem Kept.contained_iff (kept : Kept table) (selected : Selected batchSize table batch) :
    Contained publisher now table batch ↔
      (∀ row ∈ batch, ¬AuditFact row) ∨ ∀ row ∈ batch, relayable publisher row = false := by
  have written (row : Row) (there : row ∈ batch) : Written row :=
    kept.written row (selected.mem there).1 (selected.mem there).2
  by_cases facts : ∃ row ∈ batch, AuditFact row
  · have rolledBack := @poll_rolledBack publisher now table batch facts
    constructor
    · intro contained
      refine .inr fun row there => ?_
      obtain ⟨stored, unpublished⟩ := selected.mem there
      have kept' := contained row there row (by rw [rolledBack]; exact stored) rfl
      by_contra able
      rw [if_pos (by simpa using able), unpublished] at kept'
      cases kept'.1
    · rintro (none | unable) row there after listed same
      · obtain ⟨fact, listed, audit⟩ := facts
        exact absurd audit (none fact listed)
      · obtain ⟨stored, unpublished⟩ := selected.mem there
        rw [rolledBack] at listed
        obtain rfl := kept.unique listed stored same
        rw [unable after there]
        exact unpublished
  · have others : ∀ row ∈ batch, ¬AuditFact row := fun row there fact => facts ⟨row, there, fact⟩
    refine iff_of_true (kept.contained_of_decodes selected fun row there => ?_) (.inl others)
    exact (written row there).decodes_iff.mpr (others row there)

/-- The relay decodes what `OutboxWriter.publish` has written and none of the audit facts; and a
poll contains the rows it cannot relay exactly when its batch has no audit fact, or nothing that
can be relayed. -/
theorem relay_iff (publisher : Publisher) (now : Instant) (reach : Reach table)
    (selected : Selected batchSize table batch) :
    (∀ row, Written row → (Decodes row ↔ ¬AuditFact row)) ∧
    (Contained publisher now table batch ↔
      (∀ row ∈ batch, ¬AuditFact row) ∨ ∀ row ∈ batch, relayable publisher row = false) :=
  ⟨fun _ written => written.decodes_iff, reach.kept.contained_iff selected⟩

namespace Sample

def goalCreated : AuditEvent where
  tenantId := 1
  actorId := 2
  principalId := 2
  eventType := "goal.created"
  objectType := "GoalContract"
  objectId := "16"
  correlationId := 7
  details := []
  eventId := 8

def envelope : MessageEnvelope where
  schema := "ai.example.agent.goal.activated.v1"
  schemaVersion := 1
  tenantId := 1
  actorId := 2
  payload := [("status", .str "active")]
  messageId := 3
  correlationId := 4
  createdAt := 5
  valid := by decide

def fact : Row := addOutbox goalCreated 9 10

def event : Row where
  id := 11
  tenantId := 1
  schema := "ai.example.agent.goal.activated.v1"
  payload := .obj [
    ("schema", .str "ai.example.agent.goal.activated.v1"), ("schema_version", .int 1),
    ("tenant_id", Uuid.json 1), ("actor_id", Uuid.json 2),
    ("payload", .obj [("status", .str "active")]), ("message_id", Uuid.json 3),
    ("correlation_id", Uuid.json 4), ("causation_id", .null), ("traceparent", .null),
    ("classification", .str "internal"), ("created_at", Instant.json 5)]
  createdAt := 12

theorem event_published : publish envelope 11 12 = .ok event := rfl

/-- An envelope by itself is taken. -/
theorem event_contained : Contained (fun _ _ => true) 20 [event] [event] := by
  have reach : Reach [event] := Reach.start.next (.publish event_published (by decide))
  have selected : Selected 100 [event] [event] :=
    ⟨[event], .refl _, List.pairwise_singleton _ _, rfl⟩
  have decodes : Decodes event := by
    obtain ⟨payload, c, row, correlation, read⟩ := payloadToEnvelope_publish event_published
    rw [row]
    exact ⟨_, read, rfl, rfl, correlation⟩
  obtain ⟨readable, contained⟩ := relay_iff (fun _ _ => true) 20 reach selected
  apply contained.mpr
  left
  intro alone there
  rw [List.mem_singleton.mp there]
  exact (readable event (.inl ⟨_, _, _, event_published⟩)).mp decodes

/-- The publisher takes everything, and the envelope behind an audit fact stays unpublished. -/
theorem fact_stops_batch :
    Reach [fact, event] ∧ Selected 100 [fact, event] [fact, event] ∧
      (Written fact ∧ ¬Decodes fact) ∧
      ¬Contained (fun _ _ => true) 20 [fact, event] [fact, event] := by
  have audit : AuditFact fact := ⟨goalCreated, 9, 10, rfl⟩
  have reach : Reach [fact, event] :=
    (Reach.start.next (.addOutbox goalCreated 9 10 (by simp))).next
      (.publish event_published (by decide))
  have selected : Selected 100 [fact, event] [fact, event] :=
    ⟨[fact, event], .refl _, by simp [fact, event, addOutbox, AuditEvent.outboxRow], rfl⟩
  refine ⟨reach, selected, ⟨.inr audit, fun decodes => ?_⟩, fun contained => ?_⟩
  · exact (Written.decodes_iff (.inr audit)).mp decodes audit
  · obtain none | unable := (reach.kept.contained_iff selected).mp contained
    · exact none fact (by simp) audit
    · have refused := unable event (by simp)
      obtain ⟨payload, _, row, _, read⟩ := payloadToEnvelope_publish event_published
      have column : event.payload = payload := congrArg Row.payload row
      rw [relayable, column, read] at refused
      cases refused

end Sample

end Relay

end Autonoesis
