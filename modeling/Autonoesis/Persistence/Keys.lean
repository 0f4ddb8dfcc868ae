import Autonoesis.Application.Completion
import Autonoesis.Persistence.Agreement

/-!
# Keys of `idempotency_records`

Commands and reservations share one table, unique in tenant and key. A command is stored under
its operation, a colon and the key of its context, an Action is reserved under the key of the
context that proposed it. Which protocol wrote a row can be told by its `action_id`: only a
reservation has one.
-/

namespace Autonoesis.Keys
open Base

/-- The operations `_key` is called with. -/
def operations : List String := ["create_goal", "activate_goal", "request_run",
  "prepare_run_context", "create_validated_plan", "start_task", "complete_task", "propose_action",
  "request_approval", "decide_approval", "authorize_action", "execute_governed_action",
  "record_action_attempt", "record_evidence", "capture_authoritative_evidence",
  "reconcile_unknown_action", "verify_outcome", "complete_run", "finish_goal", "cancel_run",
  "fail_run", "take_over_run"]

/-- The width of `idempotency_records.idempotency_key`. -/
def columnWidth : Nat := 300

/-- A key that reads as an operation, a colon and the key of a context. -/
def NamesOperation (key : String) : Prop :=
  ∃ operation ∈ operations, ∃ rest, key = operation ++ ":" ++ rest ∧ isBlank rest = false

end Keys

namespace ReservationTables
open Base

/-- `get_idempotency`, up to the conversion of the external id it returns. -/
def getIdempotency (t : ReservationTables) (tenantId : Uuid) (key requestDigest : String) :
    Except Exc (Option (Option String)) :=
  match t.records.find? fun row => row.key = (tenantId.str, key) && row.status = .completed with
  | none => .ok none
  | some row =>
    if row.requestDigest ≠ requestDigest then
      .error (.concurrencyConflict "idempotency key was reused with a different request")
    else .ok (some row.externalId)

/-- The row of a command. -/
def remembered (tenantId : Uuid) (key : String) (externalId : Uuid) (requestDigest id : String)
    (now : Instant) : IdempotencyRow where
  id := id
  tenantId := tenantId.str
  idempotencyKey := key
  requestDigest := requestDigest
  externalId := some externalId.str
  status := .completed
  createdAt := now

/-- `put_idempotency`, with the identifier it draws for the row. -/
def putIdempotency (t : ReservationTables) (tenantId : Uuid) (key : String) (externalId : Uuid)
    (requestDigest id : String) (now : Instant) : Except Exc Unit × ReservationTables :=
  if Keys.columnWidth < key.length then (.error (.dataError "idempotency_key"), t)
  else match t.record? (tenantId.str, key) with
    | some accepted =>
      if accepted.externalId ≠ some externalId.str ∨ accepted.requestDigest ≠ requestDigest then
        (.error (.concurrencyConflict "idempotency key is already bound to a different result"), t)
      else (.ok (), t)
    | none =>
      if t.records.any (·.id = id) then (.error (.integrityError "id"), t)
      else (.ok (), { t with
        records := t.records ++ [remembered tenantId key externalId requestDigest id now] })

end ReservationTables

namespace Keys
open Base

variable {t t' : ReservationTables}

/-- An Action that `propose_action` made for this context, and that may have moved since. -/
def Proposed [Sha256] (proposer : CommandContext) (action : Action) : Prop :=
  ∃ env cmd s s' proposed, App.proposeAction env proposer cmd s = .ok (proposed, s') ∧
    s.idempotency.get? (proposer.tenantId, proposer.key "propose_action") = none ∧
    action.core = proposed.core

/-- The calls of both protocols; the label is the key of the context that proposed the Action
of a reservation. -/
inductive Step [Sha256] (t : ReservationTables) : Option String → ReservationTables → Prop
  | remember (ctx : CommandContext) {operation : String} (listed : operation ∈ operations)
      (value : Uuid) (id : String) (now : Instant) :
      Step t none
        (t.putIdempotency ctx.tenantId (ctx.key operation) value ctx.requestDigest id now).2
  | reserve {proposer : CommandContext} {action : Action} (proposed : Proposed proposer action)
      (costUnits : Int) (draw : ReservationDraw) :
      Step t (some proposer.idempotencyKey)
        (t.reserve (Gateway.reservationRequest action costUnits) draw).2
  | complete (tenantId id : String) (receipt : ToolReceipt) :
      Step t none (t.complete tenantId id receipt).2

/-- The tables reached from those without a record, when each reserved key meets `ok`. -/
inductive Reach [Sha256] (ok : String → Prop) : ReservationTables → Prop
  | start (runs : Dict (String × String) String) (goals : Dict (String × String) BudgetAmount) :
      Reach ok { runs := runs, goals := goals }
  | next {t t' : ReservationTables} {label : Option String} (past : Reach ok t)
      (step : Step t label t') (legal : ∀ key, label = some key → ok key) : Reach ok t'

/-- No reservation is answered from the record of a command, and no command from a
reservation. -/
def Apart [Sha256] (ok : String → Prop) (t : ReservationTables) : Prop :=
  (∀ proposer action, Proposed proposer action → ok proposer.idempotencyKey → ∀ costUnits row,
    t.record? (Gateway.reservationRequest action costUnits).key = some row →
      row.actionId.isSome = true) ∧
  ∀ (ctx : CommandContext), ∀ operation ∈ operations, ∀ row,
    t.record? (ctx.tenantId.str, ctx.key operation) = some row → row.actionId = none

/-! ## What a key can be -/

theorem context_key (ctx : CommandContext) :
    isBlank ctx.idempotencyKey = false ∧ ctx.idempotencyKey.length ≤ columnWidth := by
  have valid := ctx.valid
  simp only [CommandContextFields.check, checks_cons, Bool.or_eq_false_iff,
    decide_eq_false_iff_not, Nat.not_lt] at valid
  exact valid.1

theorem key_namesOperation (ctx : CommandContext) {operation : String}
    (listed : operation ∈ operations) : NamesOperation (ctx.key operation) :=
  ⟨operation, listed, ctx.idempotencyKey, rfl, (context_key ctx).1⟩

/-- A key without a colon names no operation. -/
theorem not_namesOperation {key : String} (plain : ':' ∉ key.toList) : ¬ NamesOperation key := by
  rintro ⟨operation, _, rest, rfl, _⟩
  simp [String.toList_append] at plain

theorem key_length (ctx : CommandContext) (operation : String) :
    (ctx.key operation).length = operation.length + 1 + ctx.idempotencyKey.length := by
  rw [CommandContext.key, String.length_append, String.length_append]
  rfl

/-- A context with the key left after the operation and the colon. -/
theorem exists_context {proposer : CommandContext}
    (named : NamesOperation proposer.idempotencyKey) :
    ∃ ctx : CommandContext, ∃ operation ∈ operations,
      ctx.key operation = proposer.idempotencyKey := by
  obtain ⟨operation, listed, rest, same, named⟩ := named
  have bound : rest.length ≤ columnWidth := by
    have whole := (context_key proposer).2
    rw [same, String.length_append] at whole
    omega
  have valid : { proposer.toCommandContextFields with idempotencyKey := rest }.check = .ok () := by
    have others := proposer.valid
    simp only [CommandContextFields.check, checks_cons, Bool.or_eq_false_iff,
      decide_eq_false_iff_not, Nat.not_lt] at others ⊢
    exact ⟨⟨named, bound⟩, others.2⟩
  exact ⟨⟨_, valid⟩, operation, listed, same.symm⟩

/-- An Action has the key of the context it was proposed with. -/
theorem Proposed.key [Sha256] {proposer : CommandContext} {action : Action}
    (proposed : Proposed proposer action) : action.idempotencyKey = proposer.idempotencyKey := by
  obtain ⟨env, cmd, s, s', returned, made, first, same⟩ := proposed
  suffices fresh : returned.idempotencyKey = proposer.idempotencyKey from
    (congrArg ActionFields.idempotencyKey same).trans fresh
  simp only [App.proposeAction, Tx.bind_ok] at made
  obtain ⟨_, _, role, cached, _, loaded, made⟩ := made
  cases App.requireAny_ok role
  simp only [App.loadIdempotency, Store.getIdempotency, Tx.bind_ok, Tx.read_ok,
    Tx.check_ok] at loaded
  obtain ⟨_, _, ⟨⟩, _, _, ⟨_, rfl⟩, ⟨⟩⟩ := loaded
  rw [first] at made
  simp only [Tx.bind_ok, Tx.ofExcept_ok, Tx.pure_ok] at made
  obtain ⟨_, _, _, _, _, _, _, _, _, _, _, _, _, _, _, _, _, ⟨valid, rfl⟩, _, _, _, _, _, _, _, _,
    _, ⟨⟩⟩ := made
  obtain ⟨_, rfl⟩ := guarded_eq_ok.mp valid
  rfl

/-! ## What the tables hold -/

/-- A row of a command names its operation, a row of a reservation names none. -/
def Sorted (row : IdempotencyRow) : Prop :=
  (row.actionId = none ∧ NamesOperation row.idempotencyKey) ∨
    (row.actionId.isSome = true ∧ ¬ NamesOperation row.idempotencyKey)

theorem sorted_remember (sorted : ∀ row ∈ t.records, Sorted row) (ctx : CommandContext)
    {operation : String} (listed : operation ∈ operations) (value : Uuid) (id : String)
    (now : Instant) :
    ∀ row ∈ (t.putIdempotency ctx.tenantId (ctx.key operation) value ctx.requestDigest id
      now).2.records, Sorted row := by
  unfold ReservationTables.putIdempotency
  split
  · exact sorted
  · split
    · split <;> exact sorted
    · split
      · exact sorted
      · intro row there
        rcases List.mem_append.mp there with before | added
        · exact sorted row before
        · cases List.mem_singleton.mp added
          exact .inl ⟨rfl, key_namesOperation ctx listed⟩

/-- A reserve leaves the records as they are or adds the one of its request. -/
theorem reserve_records (request : ExecutionReservation) (draw : ReservationDraw) :
    (t.reserve request draw).2.records = t.records ∨
      (t.reserve request draw).2.records =
        t.records ++ [ReservationTables.reserved request draw] := by
  unfold ReservationTables.reserve
  split
  · exact .inl rfl
  · split
    · exact .inl rfl
    · split
      · exact .inl rfl
      · split
        · exact .inl rfl
        · rename_i acquired
          unfold ReservationTables.acquire at acquired
          split at acquired
          · cases acquired
          · split at acquired
            · cases acquired
            · obtain ⟨_, _, _, _, rfl⟩ := ReservationTables.addEntry_eq_ok.mp acquired
              exact .inr rfl

theorem sorted_complete (sorted : ∀ row ∈ t.records, Sorted row) (tenantId id : String)
    (receipt : ToolReceipt) : ∀ row ∈ (t.complete tenantId id receipt).2.records, Sorted row := by
  unfold ReservationTables.complete
  split
  · exact sorted
  · split
    · exact sorted
    · intro row there
      obtain ⟨old, before, rfl⟩ := List.mem_map.mp there
      unfold IdempotencyRow.updated
      split <;> exact sorted old before

theorem Step.sorted [Sha256] {label : Option String} (step : Step t label t')
    (legal : ∀ key, label = some key → ¬ NamesOperation key)
    (sorted : ∀ row ∈ t.records, Sorted row) : ∀ row ∈ t'.records, Sorted row := by
  cases step with
  | remember ctx listed value id now => exact sorted_remember sorted ctx listed value id now
  | @reserve proposer action proposed costUnits draw =>
    rcases reserve_records (Gateway.reservationRequest action costUnits) draw with none | added
    · rw [none]
      exact sorted
    · rw [added]
      intro row there
      rcases List.mem_append.mp there with before | new
      · exact sorted row before
      · cases List.mem_singleton.mp new
        have plain := legal _ rfl
        rw [← proposed.key] at plain
        exact .inr ⟨rfl, plain⟩
  | complete tenantId id receipt => exact sorted_complete sorted tenantId id receipt

theorem Reach.sorted [Sha256] (reach : Reach (fun key => ¬ NamesOperation key) t) :
    ∀ row ∈ t.records, Sorted row := by
  induction reach with
  | start => exact fun _ none => nomatch none
  | next _ step legal sorted => exact step.sorted legal sorted

theorem record?_mem {key : String × String} {row : IdempotencyRow}
    (found : t.record? key = some row) : row ∈ t.records ∧ row.key = key :=
  ⟨List.mem_of_find?_eq_some found, by simpa using List.find?_some found⟩

theorem apart_of_sorted [Sha256] (sorted : ∀ row ∈ t.records, Sorted row) :
    Apart (fun key => ¬ NamesOperation key) t := by
  constructor
  · intro proposer action proposed plain costUnits row found
    obtain ⟨there, same⟩ := record?_mem found
    rcases sorted row there with ⟨_, named⟩ | ⟨some, _⟩
    · rw [show row.idempotencyKey = action.idempotencyKey from congrArg Prod.snd same,
        proposed.key] at named
      exact absurd named plain
    · exact some
  · intro ctx operation listed row found
    obtain ⟨there, same⟩ := record?_mem found
    rcases sorted row there with ⟨none, _⟩ | ⟨_, plain⟩
    · exact none
    · rw [show row.idempotencyKey = ctx.key operation from congrArg Prod.snd same] at plain
      exact absurd (key_namesOperation ctx listed) plain

/-- The key an Action is reserved under differs from every key of a command exactly when it does
not read as one, and fits the column; a command's key fits it exactly when the key of its
context leaves room for the operation and the colon. In every history whose Actions have such
keys neither protocol is answered from a row of the other. -/
theorem keys_apart [Sha256] :
    (∀ proposer action, Proposed proposer action → ∀ costUnits,
      ((∀ ctx : CommandContext, ∀ operation ∈ operations,
        ctx.key operation ≠ (Gateway.reservationRequest action costUnits).idempotencyKey) ↔
          ¬ NamesOperation proposer.idempotencyKey) ∧
      (Gateway.reservationRequest action costUnits).idempotencyKey.length ≤ columnWidth) ∧
    (∀ ctx : CommandContext, ∀ operation ∈ operations, (ctx.key operation).length ≤ columnWidth ↔
      ctx.idempotencyKey.length + operation.length < columnWidth) ∧
    ∀ t, Reach (fun key => ¬ NamesOperation key) t → Apart (fun key => ¬ NamesOperation key) t := by
  refine ⟨fun proposer action proposed costUnits => ?_, fun ctx operation _ => ?_,
    fun t reach => apart_of_sorted reach.sorted⟩
  · rw [show (Gateway.reservationRequest action costUnits).idempotencyKey = _ from proposed.key]
    refine ⟨⟨fun apart named => ?_, fun plain ctx operation listed same => ?_⟩,
      (context_key proposer).2⟩
    · obtain ⟨ctx, operation, listed, same⟩ := exists_context named
      exact apart ctx operation listed same
    · exact plain (same ▸ key_namesOperation ctx listed)
  · rw [key_length]
    omega

namespace Sample
open Autonoesis.Sample

attribute [local instance] Autonoesis.Sample.sha256

/-- A context whose key reads as that of a command. -/
def proposer : CommandContext := context "create_goal:goal-1" (by decide)

/-- Whether a further proposal goes through in the session, and is the first under its key. -/
def proposes (ctx : CommandContext) : Bool :=
  (App.proposeAction (env 200) ctx proposal prepared.store).toBool &&
    (prepared.store.idempotency.get? (ctx.tenantId, ctx.key "propose_action")).isNone

/-- A proposal beside the one of the session. -/
theorem proposed (ctx : CommandContext) (goes : proposes ctx = true) :
    ∃ action, Proposed ctx action := by
  simp only [proposes, Bool.and_eq_true, Option.isNone_iff_eq_none] at goes
  obtain ⟨returns, first⟩ := goes
  cases ran : App.proposeAction (env 200) ctx proposal prepared.store with
  | error e =>
    rw [ran] at returns
    cases returns
  | ok r => exact ⟨r.1, env 200, proposal, prepared.store, r.2, r.1, ran, first, rfl⟩

theorem both_propose :
    proposes proposer = true ∧ proposes (context "mail-2" (by decide)) = true := by
  decide +kernel

theorem longest_named : (isBlank (String.ofList (List.replicate 300 'k')) ||
    decide (300 < (String.ofList (List.replicate 300 'k')).length)) = false := by
  have width : (String.ofList (List.replicate 300 'k')).length = 300 := by
    rw [String.length_ofList, List.length_replicate]
  rw [Bool.or_eq_false_iff]
  refine ⟨?_, decide_eq_false (by rw [width]; exact Nat.lt_irrefl 300)⟩
  rw [isBlank, String.toList_ofList, List.replicate_succ, List.all_cons]
  rfl

/-- A key of the width of the column. -/
def longest : CommandContext :=
  context (String.ofList (List.replicate 300 'k')) longest_named

theorem longest_key (operation : String) :
    columnWidth < (longest.key operation).length := by
  have width : longest.idempotencyKey.length = 300 := by
    change (String.ofList (List.replicate 300 'k')).length = 300
    rw [String.length_ofList, List.length_replicate]
  rw [CommandContext.key, String.length_append, String.length_append, width]
  change 300 < operation.length + 1 + 300
  omega

/-- An Action is reserved under the key of a command, and the longest key is too long for one. -/
theorem keys_meet : (∃ action, Proposed proposer action ∧ ∃ ctx : CommandContext,
      ∃ operation ∈ operations,
        ctx.key operation = (Gateway.reservationRequest action 1).idempotencyKey) ∧
    ∃ ctx : CommandContext, ∃ operation ∈ operations, columnWidth < (ctx.key operation).length := by
  refine ⟨?_, longest, "create_goal", by decide, longest_key "create_goal"⟩
  obtain ⟨action, made⟩ := proposed proposer both_propose.1
  exact ⟨action, made, context "goal-1" (by decide), "create_goal", by decide, made.key.symm⟩

/-- A key without a colon is no command's. -/
theorem keys_apart_plain : ∃ action, Proposed (context "mail-2" (by decide)) action ∧
    ∀ ctx : CommandContext, ∀ operation ∈ operations,
      ctx.key operation ≠ (Gateway.reservationRequest action 1).idempotencyKey := by
  obtain ⟨action, made⟩ := proposed _ both_propose.2
  exact ⟨action, made, (keys_apart.1 _ action made 1).1.mpr (not_namesOperation (by decide))⟩

end Sample

end Keys

end Autonoesis
