import Autonoesis.Domain.Approvals
import Autonoesis.Worker.Activities
import Autonoesis.Worker.Workflow

/-!
# The approval signals of a Run

The handler of `approval_decided` folds every delivery into one slot, which the wait empties
when it looks an approval up. Followed here are the ids that are delivered and not looked up,
two runs of which one gets signals that name nothing, and what `load_approval` has answered
before the write.
-/

namespace Autonoesis
open Base

namespace Workflow

variable {s s' : State} {command : GoalRunInput}

/-! ## Deliveries that wait for a lookup -/

/-- The approval the event has scheduled a lookup of. -/
def lookedUp (s s' : State) : Option String :=
  match s'.scheduled.drop s.scheduled.length with
  | [.loadApproval approvalId] => some approvalId
  | _ => none

/-- The ids delivered and not looked up since, after one more event. -/
def outstanding (ids : List String) (s s' : State) : Event → List String
  | .signal (.approvalDecided approvalId) => if approvalId = "" then ids else ids ++ [approvalId]
  | _ =>
    match lookedUp s s' with
    | some approvalId => ids.filter (· ≠ approvalId)
    | none => ids

/-- A run in which each event meets `ok`, with the ids that wait for a lookup. -/
inductive Delivered (ok : State → Event → Prop) (command : GoalRunInput) :
    State → List String → Prop
  | start : Delivered ok command (.start command [] []) []
  | next {s s' : State} {ids : List String} (event : Event) (past : Delivered ok command s ids)
      (taken : step s event = some s') (legal : ok s event) :
      Delivered ok command s' (outstanding ids s s' event)

/-- The workflow blocks in the wait for an approval. -/
def Blocked (s : State) : Prop := s.point = .awaitingApproval ∧ s.woken = none

/-- The points up to the end of the wait for an approval. -/
def Point.unapproved : Point → Bool
  | .starting | .preparing | .paused .prepared | .awaitingApproval | .loadingApproval
  | .paused .approval => true
  | _ => false

/-- Whether an approval id may still be looked up: the wait lies ahead and nothing ends it. -/
def State.asks (s : State) : Bool :=
  s.command.requiresApproval && s.point.unapproved && !s.terminalControlRequested

/-- An approval id is not delivered while another one waits in the slot. -/
def OneAtATime (s : State) (event : Event) : Prop :=
  ∀ approvalId waiting, event = .signal (.approvalDecided approvalId) → approvalId ≠ "" →
    s.asks = true → s.approvalId = some waiting → waiting = approvalId

/-- As long as an id may be looked up, what waits for a lookup is in the slot, and only a
workflow that asks for an approval waits for one. -/
structure Slotted (s : State) (ids : List String) : Prop where
  slot : s.asks = true → ∀ approvalId ∈ ids, s.approvalId = some approvalId
  asked : s.point = .awaitingApproval ∨ s.point = .loadingApproval ∨ s.point = .paused .approval →
    s.command.requiresApproval = true

theorem State.asks_iff : s.asks = true ↔ s.command.requiresApproval = true ∧
    s.point.unapproved = true ∧ s.terminalControlRequested = false := by
  simp [State.asks, and_assoc]

@[simp] theorem lookedUp_schedule (activity : Activity) (point : Point) (phase : String)
    {base : State} (same : base.scheduled = s.scheduled) :
    lookedUp s (base.schedule activity point phase) =
      match activity with
      | .loadApproval approvalId => some approvalId
      | _ => none := by
  cases activity <;> simp [lookedUp, State.schedule, same]

theorem Controls.unapproved {event : Event} {site : Site} (call : Controls s event site)
    (early : site = .prepared ∨ site = .approval) : s.point.unapproved = true := by
  cases call with
  | stopped _ here => rcases early with rfl | rfl <;> simp [here, Point.unapproved]
  | _ here => simp_all [Point.unapproved]

/-- Control that is passed on in front of the end of the wait. -/
theorem proceed_asks {site : Site} (asks : (s.proceed site).asks = true) :
    (site = .prepared ∧ (s.proceed site).approvalId = s.approvalId ∨
      site = .approval ∧ ∃ approvalId, s.approvalId = some approvalId ∧
        lookedUp s (s.proceed site) = some approvalId) ∧
    s.command.requiresApproval = true ∧ s.terminalControlRequested = false := by
  cases site with
  | prepared =>
    by_cases required : s.command.requiresApproval = true
    · simp only [State.proceed, required, if_true, State.asks_iff] at asks
      exact ⟨.inl ⟨rfl, by simp [State.proceed, required]⟩, required, asks.2.2⟩
    · simp [State.proceed, required, State.asks_iff, State.execute, State.schedule] at asks
  | approval =>
    cases given : s.approvalId with
    | none => simp [State.proceed, given, State.asks_iff, Point.unapproved] at asks
    | some approvalId =>
      simp only [State.proceed, given, State.asks_iff] at asks
      refine ⟨.inr ⟨rfl, approvalId, rfl, ?_⟩, asks.1, asks.2.2⟩
      simp only [State.proceed, given]
      exact lookedUp_schedule (.loadApproval approvalId) _ _ rfl
  | executed => simp [State.proceed, State.asks_iff, State.schedule, Point.unapproved] at asks
  | progressed =>
    simp only [State.proceed] at asks
    split at asks
    · simp [State.asks_iff, State.reject, State.schedule, Point.unapproved] at asks
    · simp [State.asks_iff, State.start, GoalRunInput.continued] at asks

theorem handle_asks {signal : Signal} {signals : List Signal}
    (asks : State.asks { s.handle signal with signals := signals } = true) : s.asks = true := by
  rw [State.asks_iff] at asks ⊢
  cases signal with
  | approvalDecided approvalId =>
    by_cases empty : approvalId = "" <;>
      simpa [State.handle, empty, State.terminalControlRequested] using asks
  | cancel reason => simp [State.handle, State.terminalControlRequested] at asks
  | takeOver reason => simp [State.handle, State.terminalControlRequested] at asks
  | pause => exact asks
  | resume => exact asks

/-- While an id may still be looked up, the slot is only changed by a delivery and a lookup. -/
theorem step_asks {event : Event} (taken : step s event = some s') (asks : s'.asks = true) :
    s.asks = true ∧ ((∃ signal, event = .signal signal) ∨ s'.approvalId = s.approvalId ∨
      ∃ approvalId, s.approvalId = some approvalId ∧ lookedUp s s' = some approvalId) := by
  cases step_moved taken with
  | prepares here =>
    rw [State.asks_iff] at asks
    exact ⟨State.asks_iff.mpr ⟨asks.1, by simp [here, Point.unapproved], asks.2.2⟩, .inr (.inl rfl)⟩
  | controlled call passed =>
    cases passed with
    | pauses quiet =>
      rw [State.asks_iff] at asks
      refine ⟨State.asks_iff.mpr ⟨asks.1, call.unapproved ?_, quiet⟩, .inr (.inl rfl)⟩
      rename_i site _
      cases site <;> simp_all [Point.unapproved]
    | proceeds quiet =>
      obtain ⟨⟨rfl, same⟩ | ⟨rfl, looked⟩, required, _⟩ := proceed_asks asks
      · exact ⟨State.asks_iff.mpr ⟨required, call.unapproved (.inl rfl), quiet⟩, .inr (.inl same)⟩
      · exact ⟨State.asks_iff.mpr ⟨required, call.unapproved (.inr rfl), quiet⟩, .inr (.inr looked)⟩
    | _ => simp [State.asks_iff, State.schedule, Point.unapproved] at asks
  | lifted site here quiet unpaused =>
    obtain ⟨⟨rfl, same⟩ | ⟨rfl, looked⟩, required, _⟩ := proceed_asks asks
    · exact ⟨State.asks_iff.mpr ⟨required, by simp [here, Point.unapproved], quiet⟩,
        .inr (.inl same)⟩
    · exact ⟨State.asks_iff.mpr ⟨required, by simp [here, Point.unapproved], quiet⟩,
        .inr (.inr looked)⟩
  | signalled signal => exact ⟨handle_asks asks, .inl ⟨signal, rfl⟩⟩
  | undecided result here =>
    rw [State.asks_iff] at asks
    exact ⟨State.asks_iff.mpr ⟨asks.1, by simp [here, Point.unapproved], asks.2.2⟩, .inr (.inl rfl)⟩
  | _ =>
    simp [State.asks_iff, State.expire, State.reject, State.execute, State.schedule,
      Point.unapproved] at asks

theorem proceed_asked {site : Site}
    (required : site = .approval → s.command.requiresApproval = true)
    (here : (s.proceed site).point = .awaitingApproval ∨
      (s.proceed site).point = .loadingApproval ∨ (s.proceed site).point = .paused .approval) :
    (s.proceed site).command.requiresApproval = true := by
  cases site with
  | prepared =>
    by_cases asked : s.command.requiresApproval = true
    · simp [State.proceed, asked]
    · simp [State.proceed, asked, State.execute, State.schedule] at here
  | approval =>
    cases given : s.approvalId with
    | none => simp [State.proceed, given] at here
    | some approvalId => simpa [State.proceed, given, State.schedule] using required rfl
  | executed => simp [State.proceed, State.schedule] at here
  | progressed =>
    simp only [State.proceed] at here
    split at here <;> simp [State.reject, State.schedule, State.start] at here

theorem step_asked {event : Event} {ids : List String} (sound : Slotted s ids)
    (taken : step s event = some s')
    (here : s'.point = .awaitingApproval ∨ s'.point = .loadingApproval ∨
      s'.point = .paused .approval) : s'.command.requiresApproval = true := by
  have called {event : Event} (call : Controls s event .approval) :
      s.command.requiresApproval = true := by
    cases call with
    | approval here => exact sound.asked (.inl here)
    | stopped _ here => exact sound.asked (.inr (.inr here))
  cases step_moved taken with
  | controlled call passed =>
    cases passed with
    | pauses =>
      obtain rfl : _ = Site.approval := by simpa using here
      exact called call
    | proceeds => exact proceed_asked (fun approval => called (approval ▸ call)) here
    | _ => simp [State.schedule] at here
  | lifted site paused =>
    exact proceed_asked (fun approval => sound.asked (.inr (.inr (approval ▸ paused)))) here
  | signalled signal =>
    cases signal with
    | approvalDecided approvalId =>
      by_cases empty : approvalId = "" <;> simp only [State.handle, empty, if_true, if_false] at here ⊢
      · exact sound.asked here
      · exact sound.asked here
    | _ => exact sound.asked here
  | undecided _ loading => exact sound.asked (.inr (.inl loading))
  | _ => simp [State.expire, State.reject, State.execute, State.schedule] at here

theorem outstanding_subset {ids : List String} {event : Event}
    (quiet : ∀ approvalId, event ≠ .signal (.approvalDecided approvalId)) :
    outstanding ids s s' event ⊆ ids := by
  unfold outstanding
  split
  · exact absurd rfl (quiet _)
  · split
    · exact List.filter_subset_self _
    · exact List.Subset.refl _

theorem not_outstanding_of_lookedUp {ids : List String} {event : Event} {approvalId : String}
    (quiet : ∀ approvalId, event ≠ .signal (.approvalDecided approvalId))
    (looked : lookedUp s s' = some approvalId) : approvalId ∉ outstanding ids s s' event := by
  unfold outstanding
  split
  · exact absurd rfl (quiet _)
  · simp [looked]

theorem handle_slot {signal : Signal} {ids : List String} (asks : s.asks = true)
    (slot : ∀ approvalId ∈ ids, s.approvalId = some approvalId)
    (legal : OneAtATime s (.signal signal)) (s' : State) (approvalId : String)
    (waits : approvalId ∈ outstanding ids s s' (.signal signal)) :
    (s.handle signal).approvalId = some approvalId := by
  cases signal with
  | approvalDecided delivered =>
    by_cases empty : delivered = ""
    · simp only [outstanding, State.handle, empty, if_true] at waits ⊢
      exact slot approvalId waits
    · simp only [outstanding, State.handle, empty, if_false, List.mem_append,
        List.mem_singleton] at waits ⊢
      rcases waits with earlier | rfl
      · rw [legal delivered approvalId rfl empty asks (slot approvalId earlier)]
      · rfl
  | _ => exact slot approvalId (outstanding_subset (by simp) waits)

theorem step_slotted {event : Event} {ids : List String} (sound : Slotted s ids)
    (taken : step s event = some s') (legal : OneAtATime s event) :
    Slotted s' (outstanding ids s s' event) := by
  refine ⟨fun asks approvalId waits => ?_, step_asked sound taken⟩
  obtain ⟨before, change⟩ := step_asks taken asks
  by_cases delivery : ∃ signal, event = .signal signal
  · obtain ⟨signal, rfl⟩ := delivery
    cases step_moved taken with
    | controlled call => cases call
    | signalled => exact handle_slot before (sound.slot before) legal _ approvalId waits
  have quiet (delivered : String) : event ≠ .signal (.approvalDecided delivered) :=
    fun same => delivery ⟨_, same⟩
  rcases change.resolve_left delivery with same | ⟨looked, given, there⟩
  · rw [same]
    exact sound.slot before approvalId (outstanding_subset quiet waits)
  · -- what waited was in the slot, and the slot is what is looked up
    have held := sound.slot before approvalId (outstanding_subset quiet waits)
    obtain rfl : looked = approvalId := Option.some.inj (given.symm.trans held)
    exact absurd waits (not_outstanding_of_lookedUp quiet there)

/-- In every run in which no approval id is delivered while another one waits in the slot, the
workflow blocks in the wait for an approval only when each id delivered so far has been looked
up after its delivery. -/
theorem delivered_looked_up {s : State} {ids : List String}
    (run : Delivered OneAtATime command s ids) (blocked : Blocked s) : ids = [] := by
  suffices sound : Slotted s ids by
    obtain ⟨here, still⟩ := blocked
    simp only [State.woken, here, Bool.or_eq_true, ite_eq_right_iff, reduceCtorEq, imp_false,
      not_or, Bool.not_eq_true, Option.isSome_eq_false_iff, Option.isNone_iff_eq_none] at still
    obtain ⟨⟨empty, quiet⟩, _⟩ := still
    refine List.eq_nil_iff_forall_not_mem.mpr fun approvalId waits => ?_
    have asks := State.asks_iff.mpr ⟨sound.asked (.inl here), by simp [here, Point.unapproved], quiet⟩
    exact absurd (sound.slot asks approvalId waits) (by simp [empty])
  clear blocked
  induction run with
  | start => exact ⟨fun _ _ waits => absurd waits List.not_mem_nil, by simp [State.start]⟩
  | next event _ taken legal sound => exact step_slotted sound taken legal

namespace Sample

/-- Two approval ids are delivered before the first is taken: the workflow looks the second up
and blocks again without having looked at the first. -/
theorem approval_overwritten :
    ¬ ∀ command s ids, Delivered (fun _ _ => True) command s ids → Blocked s → ids = [] := by
  intro holds
  have begun : Delivered (fun _ _ => True) approvedRun _ _ := .next .begun .start rfl trivial
  have ready := Delivered.next (.completed "ready") begun rfl trivial
  have first := Delivered.next (.signal (.approvalDecided "a")) ready rfl trivial
  have second := Delivered.next (.signal (.approvalDecided "b")) first rfl trivial
  have loading := Delivered.next .woken second rfl trivial
  have waiting := Delivered.next (.completed "pending") loading rfl trivial
  exact absurd (holds approvedRun _ _ waiting ⟨rfl, rfl⟩) (by decide)

theorem oneAtATime_quiet {s : State} {event : Event}
    (quiet : ∀ approvalId, event ≠ .signal (.approvalDecided approvalId)) : OneAtATime s event :=
  fun approvalId _ delivery => absurd delivery (quiet approvalId)

/-- The second id is delivered while the first is looked up, and is looked up next. -/
theorem approval_after_lookup : ∃ s ids, Delivered OneAtATime approvedRun s ids ∧ Blocked s ∧
    s.scheduled = [.prepareRun, .loadApproval "a", .loadApproval "b"] ∧ ids = [] := by
  have quiet {s : State} {event : Event}
      (other : ∀ approvalId, event ≠ .signal (.approvalDecided approvalId)) :=
    oneAtATime_quiet (s := s) other
  have begun : Delivered OneAtATime approvedRun _ _ := .next .begun .start rfl (quiet nofun)
  have ready := Delivered.next (.completed "ready") begun rfl (quiet nofun)
  have first := Delivered.next (.signal (.approvalDecided "a")) ready rfl nofun
  have loading := Delivered.next .woken first rfl (quiet nofun)
  have second := Delivered.next (.signal (.approvalDecided "b")) loading rfl nofun
  have waiting := Delivered.next (.completed "pending") second rfl (quiet nofun)
  have again := Delivered.next .woken waiting rfl (quiet nofun)
  have blocked := Delivered.next (.completed "pending") again rfl (quiet nofun)
  exact ⟨_, _, blocked, ⟨rfl, rfl⟩, rfl, delivered_looked_up blocked ⟨rfl, rfl⟩⟩

end Sample

/-! ## Signals that name no approval of the Run -/

/-- The attempts `_READ_RETRY` allows. -/
def readRetry : Nat := 3

/-- The input of `load_approval` for an approval id. -/
def lookup (command : GoalRunInput) (approvalId : String) : ApprovalLookupInput :=
  ⟨command.tenantId, command.runId, approvalId⟩

/-- On no store the platform goes through does the id name an approval of the Run. -/
def Foreign (world : Store → Prop) (command : GoalRunInput) (approvalId : String) : Prop :=
  ∀ store, world store → ∀ id approval, Uuid.parse approvalId = .ok id →
    store.approvals.get? id = some approval → Uuid.parse command.tenantId = .ok approval.tenantId →
    Uuid.parse command.runId ≠ .ok approval.runId

/-- `load_approval` raises at each of its attempts. -/
def Exhausted (world : Store → Prop) (input : ApprovalLookupInput) (attempts : Nat) : Prop :=
  ∃ stores : List Store, stores.length = attempts ∧ ∀ store ∈ stores, world store ∧
    ∃ e, loadApproval input store = .error e

theorem Foreign.exhausted {world : Store → Prop} {approvalId : String}
    (foreign : Foreign world command approvalId) {store : Store} (here : world store)
    (attempts : Nat) : Exhausted world (lookup command approvalId) attempts := by
  refine ⟨List.replicate attempts store, List.length_replicate, fun tried there => ?_⟩
  obtain rfl := List.eq_of_mem_replicate there
  refine ⟨here, ?_⟩
  cases ran : loadApproval (lookup command approvalId) tried with
  | error e => exact ⟨e, rfl⟩
  | ok r =>
    obtain ⟨id, approval, named, stored, tenant, run, _⟩ := loadApproval_ok ran
    exact absurd run (foreign tried here id approval named stored tenant)

/-- The approval that is being looked up. -/
def State.loading (s : State) : Option String :=
  match s.point, s.scheduled.getLast? with
  | .loadingApproval, some (.loadApproval approvalId) => some approvalId
  | _, _ => none

/-- The result of a lookup is what `load_approval` answers on a store of the platform. -/
def Answered (world : Store → Prop) (s : State) (event : Event) : Prop :=
  ∀ approvalId result, s.loading = some approvalId → event = .completed result →
    ∃ store state, world store ∧
      loadApproval (lookup s.command approvalId) store = .ok (state, store) ∧ state.status = result

/-- Whether the next wake-up takes the id out of the slot. -/
def State.takes (s : State) : Bool :=
  (s.point = .awaitingApproval || s.point = .paused .approval) &&
    !s.terminalControlRequested && !s.paused

theorem State.takes_of (here : s.point = .awaitingApproval ∨ s.point = .paused .approval)
    (quiet : s.terminalControlRequested = false) (unpaused : s.paused = false) :
    s.takes = true := by
  rcases here with here | here <;> simp [State.takes, here, quiet, unpaused]

/-- Two runs of one workflow: `b` gets the events of `a` and, anywhere in between, signals that
name no approval of the Run. When `b` takes one of their ids it goes its own way, and `a` goes on
when `b` has ended. -/
inductive Disturbed (world : Store → Prop) (ok : State → Event → Prop) (command : GoalRunInput) :
    State → State → Prop
  | start : Disturbed world ok command (.start command [] []) (.start command [] [])
  | both {a a' b b' : State} (event : Event) (past : Disturbed world ok command a b)
      (left : step a event = some a') (right : step b event = some b')
      (answered : Answered world a event ∧ Answered world b event) (legal : ok b event) :
      Disturbed world ok command a' b'
  | inserted {a b b' : State} (approvalId : String) (past : Disturbed world ok command a b)
      (foreign : Foreign world command approvalId)
      (taken : step b (.signal (.approvalDecided approvalId)) = some b') :
      Disturbed world ok command a b'
  | strays {a b b' : State} (approvalId : String) (past : Disturbed world ok command a b)
      (takes : b.takes = true) (slot : b.approvalId = some approvalId)
      (foreign : Foreign world command approvalId) (taken : step b .woken = some b')
      (legal : ok b .woken) : Disturbed world ok command a b'
  | raised {a b b' : State} (approvalId : String) (past : Disturbed world ok command a b)
      (loading : b.loading = some approvalId) (foreign : Foreign world command approvalId)
      (raises : Exhausted world (lookup command approvalId) readRetry)
      (taken : step b .failed = some b') : Disturbed world ok command a b'
  | alone {a a' b : State} (event : Event) (past : Disturbed world ok command a b)
      (ended : b.closed = true) (taken : step a event = some a')
      (answered : Answered world a event) : Disturbed world ok command a' b

/-- No wake-up takes an id that names no approval of the Run. -/
def TakesKnown (world : Store → Prop) (command : GoalRunInput) (s : State) (event : Event) : Prop :=
  event = .woken → s.takes = true → ∀ approvalId, s.approvalId = some approvalId →
    ¬ Foreign world command approvalId

/-- No foreign id was looked up. -/
def Clean (world : Store → Prop) (command : GoalRunInput) (scheduled : List Activity) : Prop :=
  ∀ approvalId, .loadApproval approvalId ∈ scheduled → ¬ Foreign world command approvalId

/-- `b` is `a` but for the signals and a slot that holds a foreign id; no such id was looked
up. -/
structure Beside (world : Store → Prop) (command : GoalRunInput) (a b : State) : Prop where
  same : ∃ slot signals, b = { a with approvalId := slot, signals := signals }
  slot : b.approvalId = a.approvalId ∨ ∃ approvalId, b.approvalId = some approvalId ∧
    Foreign world command approvalId
  clean : Clean world command b.scheduled

section
variable {world : Store → Prop} {a a' b b' : State}

theorem Clean.append {scheduled : List Activity} {activity : Activity}
    (clean : Clean world command scheduled)
    (known : ∀ approvalId, activity = .loadApproval approvalId →
      ¬ Foreign world command approvalId) : Clean world command (scheduled ++ [activity]) := by
  intro approvalId there
  rcases List.mem_append.mp there with earlier | now
  · exact clean approvalId earlier
  · exact known approvalId (List.mem_singleton.mp now).symm

theorem Beside.schedule (beside : Beside world command a b) (activity : Activity)
    (known : ∀ approvalId, activity = .loadApproval approvalId →
      ¬ Foreign world command approvalId) (point : Point) (phase : String) :
    Beside world command (a.schedule activity point phase) (b.schedule activity point phase) := by
  obtain ⟨⟨slot, signals, rfl⟩, kind, clean⟩ := beside
  exact ⟨⟨slot, signals, rfl⟩, kind, clean.append known⟩

theorem Beside.proceed (beside : Beside world command a b) (site : Site)
    (known : site = .approval → ∀ approvalId, b.approvalId = some approvalId →
      ¬ Foreign world command approvalId) :
    Beside world command (a.proceed site) (b.proceed site) := by
  have writes := beside.schedule .executeRun (by simp) .executing "executing"
  have evaluates := beside.schedule .evaluateRun (by simp) .evaluating "evaluating"
  have rejects := beside.schedule (.rejectRun "continue_as_new_limit_exhausted")
    (by simp) .rejecting "rejecting"
  obtain ⟨⟨slot, signals, rfl⟩, kind, clean⟩ := beside
  cases site with
  | prepared =>
    simp only [State.proceed]
    split
    · exact ⟨⟨slot, signals, rfl⟩, kind, clean⟩
    · exact writes
  | approval =>
    have same : slot = a.approvalId := by
      rcases kind with same | ⟨approvalId, given, foreign⟩
      · exact same
      · exact absurd foreign (known rfl approvalId given)
    subst same
    cases given : a.approvalId with
    | none =>
      simp only [State.proceed, given]
      exact ⟨⟨none, signals, by simp⟩, .inl (by simp), clean⟩
    | some approvalId =>
      simp only [State.proceed, given]
      refine ⟨⟨none, signals, rfl⟩, .inl rfl, clean.append ?_⟩
      rintro _ ⟨⟩
      exact known rfl approvalId given
  | executed => exact evaluates
  | progressed =>
    simp only [State.proceed]
    split
    · exact rejects
    · exact ⟨⟨none, signals, rfl⟩, .inl rfl, clean⟩

theorem Beside.applyControl (beside : Beside world command a b) (site : Site)
    (known : site = .approval → b.terminalControlRequested = false → b.paused = false →
      ∀ approvalId, b.approvalId = some approvalId → ¬ Foreign world command approvalId) :
    Beside world command (a.applyControl site) (b.applyControl site) := by
  have cancels reason := beside.schedule (.cancelRun reason) (by simp) .cancelling
    "cancelling"
  have takesOver reason := beside.schedule (.takeOverRun reason) (by simp) .takingOver
    "taking_over"
  have proceeds (quiet : b.terminalControlRequested = false) (unpaused : b.paused = false) :=
    beside.proceed site fun here => known here quiet unpaused
  obtain ⟨⟨slot, signals, rfl⟩, kind, clean⟩ := beside
  simp only [State.applyControl]
  split
  · exact cancels _
  · exact takesOver _
  · rename_i cancel takeover
    split
    · exact ⟨⟨slot, signals, rfl⟩, kind, clean⟩
    · rename_i unpaused
      exact proceeds (by simp [State.terminalControlRequested, cancel, takeover])
        (by simpa using unpaused)

theorem Beside.handle (beside : Beside world command a b) (signal : Signal)
    (left right : List Signal) :
    Beside world command { a.handle signal with signals := left }
      { b.handle signal with signals := right } := by
  obtain ⟨⟨slot, signals, rfl⟩, kind, clean⟩ := beside
  cases signal with
  | approvalDecided approvalId =>
    by_cases empty : approvalId = "" <;> simp only [State.handle, empty, if_true, if_false]
    · exact ⟨⟨slot, right, rfl⟩, kind, clean⟩
    · exact ⟨⟨some approvalId, right, rfl⟩, .inl rfl, clean⟩
  | _ => exact ⟨⟨slot, right, rfl⟩, kind, clean⟩

theorem Beside.completed (beside : Beside world command a b) {result : String}
    (taken : a.completed result = some a') :
    ∃ b', b.completed result = some b' ∧ Beside world command a' b' := by
  have prepared := beside.applyControl .prepared (by simp)
  have executed := beside.applyControl .executed (by simp)
  have writes := beside.schedule .executeRun (by simp) .executing "executing"
  have rejects reason := beside.schedule (.rejectRun reason) (by simp) .rejecting
    "rejecting"
  obtain ⟨⟨slot, signals, rfl⟩, kind, clean⟩ := beside
  cases here : a.point with
  | preparing =>
    simp only [State.completed, here] at taken ⊢
    cases taken
    exact ⟨_, rfl, prepared⟩
  | loadingApproval =>
    simp only [State.completed, here] at taken ⊢
    by_cases approved : result = "approved"
    · simp only [approved, if_true] at taken ⊢
      cases taken
      exact ⟨_, rfl, writes⟩
    · simp only [approved, if_false] at taken ⊢
      by_cases refused : (decide (result = "rejected") || decide (result = "expired")) = true
      · simp only [refused, if_true] at taken ⊢
        cases taken
        exact ⟨_, rfl, rejects _⟩
      · simp only [refused] at taken ⊢
        cases taken
        exact ⟨_, rfl, ⟨slot, signals, rfl⟩, kind, clean⟩
  | executing =>
    simp only [State.completed, here] at taken ⊢
    cases taken
    exact ⟨_, rfl, executed⟩
  | evaluating =>
    simp only [State.completed, here] at taken ⊢
    split at taken <;> rename_i final <;> cases taken <;> simp only [final] <;>
      exact ⟨_, rfl, ⟨slot, signals, rfl⟩, kind, clean⟩
  | cancelling | takingOver | rejecting =>
    simp only [State.completed, here] at taken ⊢
    cases taken
    exact ⟨_, rfl, ⟨slot, signals, rfl⟩, kind, clean⟩
  | _ =>
    simp only [State.completed, here] at taken
    cases taken

theorem Beside.woken (beside : Beside world command a b) (taken : a.woken = some a')
    (legal : TakesKnown world command b .woken) :
    ∃ b', b.woken = some b' ∧ Beside world command a' b' := by
  have known := legal rfl
  have approval := beside.applyControl .approval
  have stopped := beside.applyControl
  have lifted := beside.proceed
  have progressed := beside.applyControl .progressed (by simp)
  obtain ⟨⟨slot, signals, rfl⟩, kind, clean⟩ := beside
  cases here : a.point with
  | awaitingApproval =>
    simp only [State.woken, here] at taken ⊢
    split at taken <;> cases taken
    rename_i condition
    have open_ : (slot.isSome || a.terminalControlRequested || a.paused) = true := by
      rcases kind with same | ⟨approvalId, given, _⟩
      · exact (show slot = a.approvalId from same) ▸ condition
      · simp [show slot = some approvalId from given]
    exact ⟨_, if_pos open_, approval fun _ quiet unpaused =>
      known (State.takes_of (.inl here) quiet unpaused)⟩
  | paused site =>
    simp only [State.woken, here] at taken ⊢
    split at taken
    · rename_i requested
      cases taken
      refine ⟨_, if_pos requested, stopped site fun _ quiet => ?_⟩
      exact absurd (quiet.symm.trans requested) (by decide)
    · rename_i quiet
      split at taken <;> cases taken
      rename_i unpaused
      refine ⟨_, (if_neg quiet).trans (if_neg unpaused), lifted site fun approval => known ?_⟩
      subst approval
      exact State.takes_of (.inr here) (Bool.eq_false_iff.mpr quiet) (Bool.eq_false_iff.mpr unpaused)
  | waitingForProgress generation =>
    simp only [State.woken, here] at taken ⊢
    split at taken <;> cases taken
    rename_i condition
    exact ⟨_, if_pos condition, progressed⟩
  | _ =>
    simp only [State.woken, here] at taken
    cases taken

/-- Where no wake-up takes a foreign id, `b` follows `a`. -/
theorem Beside.step (beside : Beside world command a b) {event : Event}
    (taken : step a event = some a') (legal : TakesKnown world command b event) :
    ∃ b', step b event = some b' ∧ Beside world command a' b' := by
  cases event with
  | begun =>
    have prepares := beside.schedule .prepareRun (by simp) .preparing "planning"
    have control := beside.applyControl .prepared (by simp)
    obtain ⟨⟨slot, signals, rfl⟩, kind, clean⟩ := beside
    simp only [Workflow.step] at taken ⊢
    by_cases here : a.point = .starting
    · simp only [here, if_true] at taken ⊢
      by_cases first : a.command.continuationCount = 0
      · simp only [first, if_true] at taken ⊢
        cases taken
        exact ⟨_, rfl, prepares⟩
      · simp only [first, if_false] at taken ⊢
        cases taken
        exact ⟨_, rfl, control⟩
    · simp only [here, if_false, reduceCtorEq] at taken
  | signal signal =>
    have handled := beside.handle signal
    obtain ⟨⟨slot, signals, rfl⟩, kind, clean⟩ := beside
    simp only [Workflow.step] at taken ⊢
    split at taken <;> cases taken
    rename_i opened
    exact ⟨_, if_neg opened, handled _ _⟩
  | completed result => exact beside.completed taken
  | failed =>
    obtain ⟨⟨slot, signals, rfl⟩, kind, clean⟩ := beside
    simp only [Workflow.step] at taken ⊢
    split at taken <;> cases taken
    rename_i running
    exact ⟨_, if_pos running, ⟨slot, signals, rfl⟩, kind, clean⟩
  | woken => exact beside.woken taken legal
  | timedOut =>
    have expires := beside.schedule (.rejectRun "goal_business_deadline_expired")
      (by simp) .rejecting "rejecting"
    obtain ⟨⟨slot, signals, rfl⟩, kind, clean⟩ := beside
    cases here : a.point <;> simp only [Workflow.step, here, reduceCtorEq] at taken ⊢
    all_goals
      cases taken
      exact ⟨_, rfl, expires⟩

theorem Beside.insert (beside : Beside world command a b) {approvalId : String}
    (foreign : Foreign world command approvalId)
    (taken : Workflow.step b (.signal (.approvalDecided approvalId)) = some b') :
    Beside world command a b' := by
  obtain ⟨⟨slot, signals, rfl⟩, kind, clean⟩ := beside
  simp only [Workflow.step] at taken
  split at taken <;> cases taken
  by_cases empty : approvalId = "" <;> simp only [State.handle, empty, if_true, if_false]
  · exact ⟨⟨slot, _, rfl⟩, kind, clean⟩
  · exact ⟨⟨some approvalId, _, rfl⟩, .inr ⟨approvalId, rfl, foreign⟩, clean⟩

theorem step_of_closed (ended : s.closed = true) (event : Event) : step s event = none := by
  cases here : s.point <;> simp only [State.closed, here, Bool.false_eq_true] at ended
  all_goals
    cases event <;>
      simp [step, here, State.closed, State.completed, State.woken, State.running]

theorem loading_scheduled {approvalId : String} (loading : s.loading = some approvalId) :
    .loadApproval approvalId ∈ s.scheduled := by
  unfold State.loading at loading
  split at loading <;> cases loading
  rename_i last
  exact List.mem_of_getLast? last

theorem disturbed_beside (pair : Disturbed world (TakesKnown world command) command a b) :
    Beside world command a b := by
  induction pair with
  | start => exact ⟨⟨none, [], rfl⟩, .inl rfl, fun _ there => by simp [State.start] at there⟩
  | both event past left right _ legal beside =>
    obtain ⟨b', follows, kept⟩ := beside.step left legal
    cases right.symm.trans follows
    exact kept
  | inserted approvalId past foreign taken beside => exact beside.insert foreign taken
  | strays approvalId past takes slot foreign taken legal =>
    exact absurd foreign (legal rfl takes approvalId slot)
  | raised approvalId past loading foreign _ taken beside =>
    exact absurd foreign (beside.clean approvalId (loading_scheduled loading))
  | @alone a a' b event past ended taken _ beside =>
    have closed : a.closed = true := by
      obtain ⟨⟨slot, signals, rfl⟩, _⟩ := beside
      exact ended
    cases (step_of_closed closed event).symm.trans taken

/-- The activities other than lookups, in order. -/
def others (scheduled : List Activity) : List Activity :=
  scheduled.filter fun activity => match activity with
    | .loadApproval _ => false
    | _ => true

/-- Two runs of which one gets signals that name no approval of the Run, none of which a
wake-up takes: they are at the same point, with the same result, and have scheduled the same
activities other than lookups; what the one does, the other can do. -/
theorem same_beside_foreign (pair : Disturbed world (TakesKnown world command) command a b) :
    b.point = a.point ∧ others b.scheduled = others a.scheduled ∧
      ∀ event a', step a event = some a' → TakesKnown world command b event →
        ∃ b', step b event = some b' := by
  have beside := disturbed_beside pair
  refine ⟨?_, ?_, fun event a' taken legal => ?_⟩
  · obtain ⟨⟨slot, signals, rfl⟩, _⟩ := beside
    rfl
  · obtain ⟨⟨slot, signals, rfl⟩, _⟩ := beside
    rfl
  · obtain ⟨b', follows, _⟩ := beside.step taken legal
    exact ⟨b', follows⟩

end

namespace Sample

def governed : GoalRunInput := { approvedRun with
  tenantId := "00000000-0000-0000-0000-000000000001"
  goalId := "00000000-0000-0000-0000-000000000008"
  runId := "00000000-0000-0000-0000-000000000002" }

/-- An approval id of the Run, and one that no store has. -/
def genuine : String := "00000000-0000-0000-0000-000000000004"
def unheard : String := "00000000-0000-0000-0000-000000000009"

def approved : ApprovalRequest :=
  ⟨{ ApprovalRequest.Sample.fields with status := .approved }, by decide +kernel⟩

def platform : Store := { approvals := Dict.empty.set 4 approved }

theorem parses : Uuid.parse governed.tenantId = .ok 1 ∧ Uuid.parse governed.runId = .ok 2 ∧
    Uuid.parse genuine = .ok 4 ∧ Uuid.parse unheard = .ok 9 := by decide +kernel

theorem unheard_foreign : Foreign (· = platform) governed unheard := by
  rintro _ rfl id approval named stored
  cases parses.2.2.2.symm.trans named
  exact absurd stored (by simp [platform, Dict.get?_set])

theorem genuine_approved : ∃ state, loadApproval (lookup governed genuine) platform =
    .ok (state, platform) ∧ state.status = "approved" := by
  refine ⟨⟨approved.approvalId.str, "approved"⟩, ?_, rfl⟩
  simp only [loadApproval, lookup, parses]
  rfl

theorem unanswered {s : State} {event : Event} (idle : s.loading = none) :
    Answered (· = platform) s event := by
  intro approvalId result loading
  exact absurd (idle.symm.trans loading) nofun

/-- One signal that names nothing ends the run that would have succeeded. -/
theorem failed_by_foreign :
    ¬ ∀ world command a b, Disturbed world (fun _ _ => True) command a b → a.closed = true →
      b.closed = true → b.point = a.point ∧ others b.scheduled = others a.scheduled := by
  intro holds
  have idle {s : State} {event : Event} (idle : s.loading = none) :=
    (unanswered idle : Answered _ s event)
  have begun : Disturbed (· = platform) (fun _ _ => True) governed _ _ :=
    .both .begun .start rfl rfl ⟨idle rfl, idle rfl⟩ trivial
  have ready := Disturbed.both (.completed "planned") begun rfl rfl ⟨idle rfl, idle rfl⟩ trivial
  have inserted := Disturbed.inserted unheard ready unheard_foreign rfl
  have strays := Disturbed.strays unheard inserted rfl rfl unheard_foreign rfl trivial
  have raised := Disturbed.raised unheard strays rfl unheard_foreign
    (unheard_foreign.exhausted rfl readRetry) rfl
  have decided := Disturbed.alone (.signal (.approvalDecided genuine)) raised rfl rfl (idle rfl)
  have loading := Disturbed.alone .woken decided rfl rfl (idle rfl)
  have executing := Disturbed.alone (.completed "approved") loading rfl rfl (by
    rintro _ _ ⟨⟩ ⟨⟩
    obtain ⟨state, ran, status⟩ := genuine_approved
    exact ⟨platform, state, rfl, ran, status⟩)
  have evaluating := Disturbed.alone (.completed "dispatched") executing rfl rfl (idle rfl)
  have succeeded := Disturbed.alone (.completed "succeeded") evaluating rfl rfl (idle rfl)
  exact absurd (holds _ _ _ _ succeeded rfl rfl).1 (by decide)

/-- The genuine id comes before the next wake-up: both runs execute. -/
theorem same_when_overwritten : ∃ a b,
    Disturbed (· = platform) (TakesKnown (· = platform) governed) governed a b ∧
      b.signals = [.approvalDecided unheard, .approvalDecided genuine] ∧
      a.point = .executing ∧ b.point = a.point ∧ others b.scheduled = others a.scheduled := by
  have idle {s : State} {event : Event} (idle : s.loading = none) :=
    (unanswered idle : Answered _ s event)
  have known : ¬ Foreign (· = platform) governed genuine := fun foreign =>
    foreign platform rfl 4 approved parses.2.2.1 (by simp [platform]) parses.1 parses.2.1
  have begun : Disturbed (· = platform) (TakesKnown (· = platform) governed) governed _ _ :=
    .both .begun .start rfl rfl ⟨idle rfl, idle rfl⟩ (by rintro ⟨⟩)
  have ready := Disturbed.both (.completed "planned") begun rfl rfl ⟨idle rfl, idle rfl⟩ (by rintro ⟨⟩)
  have inserted := Disturbed.inserted unheard ready unheard_foreign rfl
  have decided := Disturbed.both (.signal (.approvalDecided genuine)) inserted rfl rfl
    ⟨idle rfl, idle rfl⟩ (by rintro ⟨⟩)
  have loading := Disturbed.both .woken decided rfl rfl ⟨idle rfl, idle rfl⟩ (by
    rintro _ _ _ ⟨⟩
    exact known)
  have executing := Disturbed.both (.completed "approved") loading rfl rfl (by
    obtain ⟨state, ran, status⟩ := genuine_approved
    constructor <;> rintro _ _ ⟨⟩ ⟨⟩ <;> exact ⟨platform, state, rfl, ran, status⟩) (by rintro ⟨⟩)
  obtain ⟨point, scheduled, _⟩ := same_beside_foreign executing
  exact ⟨_, _, executing, rfl, rfl, point, scheduled⟩

end Sample

/-! ## The gate in front of the write -/

/-- What a workflow does and learns: an activity is scheduled, the preparation has completed, an
approval was looked up on a store of the platform. -/
inductive Happening where
  | scheduled (activity : Activity)
  | prepared
  | loaded (approvalId : String) (state : ApprovalState) (store : Store)

/-- The activity an event has scheduled. -/
def newly (s s' : State) : List Happening :=
  (s'.scheduled.drop s.scheduled.length).map .scheduled

/-- A run with its history. -/
inductive Told (world : Store → Prop) (command : GoalRunInput) : State → List Happening → Prop
  | start : Told world command (.start command [] []) []
  | prepared {s s' : State} {history : List Happening} (result : String)
      (past : Told world command s history) (here : s.point = .preparing)
      (taken : step s (.completed result) = some s') :
      Told world command s' (history ++ [.prepared] ++ newly s s')
  | loaded {s s' : State} {history : List Happening} {approvalId : String}
      {state : ApprovalState} {store : Store} (past : Told world command s history)
      (loading : s.loading = some approvalId) (here : world store)
      (ran : loadApproval (lookup s.command approvalId) store = .ok (state, store))
      (taken : step s (.completed state.status) = some s') :
      Told world command s' (history ++ [.loaded approvalId state store] ++ newly s s')
  | other {s s' : State} {history : List Happening} (event : Event)
      (past : Told world command s history)
      (here : ∀ result, event = .completed result →
        s.point ≠ .preparing ∧ s.point ≠ .loadingApproval)
      (taken : step s event = some s') : Told world command s' (history ++ newly s s')

/-- The last answer of `load_approval`. -/
def lastLoaded (history : List Happening) : Option (String × ApprovalState × Store) :=
  (history.filterMap fun happening => match happening with
    | .loaded approvalId state store => some (approvalId, state, store)
    | _ => none).getLast?

/-- The preparation has completed, and the last lookup found an approved approval of the Run. -/
def Approved (world : Store → Prop) (command : GoalRunInput) (history : List Happening) : Prop :=
  .prepared ∈ history ∧ ∃ approvalId state store id approval,
    lastLoaded history = some (approvalId, state, store) ∧ state.status = "approved" ∧
      world store ∧ Uuid.parse approvalId = .ok id ∧ store.approvals.get? id = some approval ∧
      Uuid.parse command.runId = .ok approval.runId ∧ approval.status = .approved

/-- Whether a happening is the scheduling of an activity that ends the Run, or of one that works
on it. -/
def Happening.stops : Happening → Bool
  | .scheduled (.cancelRun _) | .scheduled (.takeOverRun _) | .scheduled (.rejectRun _) => true
  | _ => false

def Happening.works : Happening → Bool
  | .scheduled .executeRun | .scheduled .evaluateRun => true
  | _ => false

/-- The points behind which no activity is scheduled. -/
def Point.over : Point → Bool
  | .cancelling | .takingOver | .rejecting | .returned _ | .assertionFailed | .activityFailed =>
    true
  | _ => false

/-- The points of the wait for an approval. -/
def Point.gated : Point → Bool
  | .awaitingApproval | .loadingApproval | .paused .approval => true
  | _ => false

/-- How far a workflow that asks for an approval has come. -/
inductive Stage (world : Store → Prop) (command : GoalRunInput) (s : State)
    (history : List Happening) : Prop
  | preparing (same : s.command = command)
      (here : s.point = .starting ∨ s.point = .preparing)
  | asking (same : s.command = command) (prepared : .prepared ∈ history)
      (here : s.point = .paused .prepared ∨ s.point.gated = true)
  | allowed (approved : Approved world command history) (passed : s.point.gated = false)
      (free : s.point.unapproved = true → s.command.requiresApproval = false)
  | settled (ended : s.point.over = true)

section
variable {world : Store → Prop} {history : List Happening}

theorem Approved.append (approved : Approved world command history) {more : List Happening}
    (quiet : ∀ approvalId state store, .loaded approvalId state store ∉ more) :
    Approved world command (history ++ more) := by
  obtain ⟨prepared, approvalId, state, store, id, approval, last, rest⟩ := approved
  refine ⟨List.mem_append_left _ prepared, approvalId, state, store, id, approval, ?_, rest⟩
  have none_more : (more.filterMap fun happening => match happening with
      | .loaded approvalId state store => some (approvalId, state, store)
      | _ => none) = [] := by
    refine List.filterMap_eq_nil_iff.mpr fun happening there => ?_
    cases happening with
    | loaded approvalId state store => exact absurd there (quiet approvalId state store)
    | _ => rfl
  rw [lastLoaded, List.filterMap_append, none_more, List.append_nil]
  exact last

theorem not_loaded_newly (approvalId : String) (state : ApprovalState) (store : Store) :
    .loaded approvalId state store ∉ newly s s' := by
  simp only [newly, List.mem_map, reduceCtorEq, and_false, exists_false, not_false_eq_true]

theorem newly_same (same : s'.scheduled = s.scheduled) : newly s s' = [] := by
  simp [newly, same]

theorem newly_schedule {base : State} (same : base.scheduled = s.scheduled) (activity : Activity)
    (point : Point) (phase : String) :
    newly s (base.schedule activity point phase) = [.scheduled activity] := by
  simp [newly, State.schedule, same]

/-- Where `_apply_control` may be called from, and what is known there. -/
inductive Enters (world : Store → Prop) (command : GoalRunInput) (s : State)
    (history : List Happening) (site : Site) : Prop
  | asked (same : s.command = command) (prepared : .prepared ∈ history)
      (early : site = .prepared ∨ site = .approval)
  | allowed (approved : Approved world command history) (late : site ≠ .approval)
      (free : site = .prepared → s.command.requiresApproval = false)

/-- The stage behind an event, and what it takes to schedule the write. -/
def Staged (world : Store → Prop) (command : GoalRunInput) (history : List Happening)
    (s s' : State) : Prop :=
  Stage world command s' (history ++ newly s s') ∧
    (.scheduled .executeRun ∈ newly s s' → Approved world command history)

theorem staged_over (ended : s'.point.over = true)
    (idle : .scheduled .executeRun ∉ newly s s') : Staged world command history s s' :=
  ⟨.settled ended, fun writes => absurd writes idle⟩

theorem staged_allowed (approved : Approved world command history)
    (passed : s'.point.gated = false)
    (free : s'.point.unapproved = true → s'.command.requiresApproval = false) :
    Staged world command history s s' :=
  ⟨.allowed (approved.append not_loaded_newly) passed free, fun _ => approved⟩

theorem staged_asking (same : s'.command = command) (prepared : .prepared ∈ history)
    (here : s'.point = .paused .prepared ∨ s'.point.gated = true)
    (idle : .scheduled .executeRun ∉ newly s s') : Staged world command history s s' :=
  ⟨.asking same (List.mem_append_left _ prepared) here, fun writes => absurd writes idle⟩

theorem proceed_staged {site : Site} (required : command.requiresApproval = true)
    (enters : Enters world command s history site) :
    Staged world command history s (s.proceed site) := by
  cases enters with
  | asked same prepared early =>
    rcases early with rfl | rfl
    · have asks : s.command.requiresApproval = true := same ▸ required
      simp only [State.proceed, asks, if_true]
      exact staged_asking same prepared (.inr rfl) (by simp [newly])
    · cases given : s.approvalId with
      | none =>
        simp only [State.proceed, given]
        exact staged_over rfl (by simp [newly])
      | some approvalId =>
        simp only [State.proceed, given]
        exact staged_asking same prepared (.inr rfl) (by simp [newly, State.schedule])
  | allowed approved late free =>
    cases site with
    | prepared =>
      simp only [State.proceed, free rfl]
      exact staged_allowed approved rfl (by simp [State.execute, State.schedule, Point.unapproved])
    | approval => exact absurd rfl late
    | executed => exact staged_allowed approved rfl (by rintro ⟨⟩)
    | progressed =>
      simp only [State.proceed]
      split
      · exact staged_over rfl (by simp [newly, State.reject, State.schedule])
      · exact staged_allowed approved rfl fun _ => rfl

theorem passed_staged {site : Site} (required : command.requiresApproval = true)
    (enters : Enters world command s history site) (passed : Passed s site s') :
    Staged world command history s s' := by
  cases passed with
  | cancels | takesOver => exact staged_over rfl (by simp [newly, State.schedule])
  | pauses =>
    cases enters with
    | asked same prepared early =>
      refine staged_asking same prepared ?_ (by simp [newly])
      rcases early with rfl | rfl
      · exact .inl rfl
      · exact .inr rfl
    | allowed approved late free =>
      refine staged_allowed approved ?_ fun unapproved => ?_
      · cases site <;> first | rfl | exact absurd rfl late
      · cases site <;> first | exact free rfl | exact absurd rfl late | cases unapproved
  | proceeds => exact proceed_staged required enters

/-- What an event tells the workflow before it goes on. -/
structure Tells (world : Store → Prop) (command : GoalRunInput) (history : List Happening)
    (s : State) (event : Event) (told : List Happening) : Prop where
  prepared : s.point = .preparing → ∀ result, event = .completed result → .prepared ∈ told
  quiet : s.point ≠ .loadingApproval → ∀ approvalId state store,
    .loaded approvalId state store ∉ told
  approved : s.point = .loadingApproval → event = .completed "approved" → s.command = command →
    .prepared ∈ history → Approved world command (history ++ told)
  idle : ∀ activity, .scheduled activity ∉ told

variable {event : Event} {told : List Happening} {signal : Signal}

theorem paused_enters {site : Site} (stage : Stage world command s history)
    (tells : Tells world command history s event told) (here : s.point = .paused site) :
    Enters world command s (history ++ told) site := by
  cases stage with
  | preparing _ now | settled now => simp [here, Point.over] at now
  | asking same prepared now =>
    refine .asked same (List.mem_append_left told prepared) ?_
    cases site <;> simp [here, Point.gated] at now <;> simp
  | allowed approved passed free =>
    refine .allowed (approved.append (tells.quiet (by simp [here]))) ?_ ?_
    · rintro rfl
      simp [here, Point.gated] at passed
    · rintro rfl
      exact free (by simp [here, Point.unapproved])

theorem controls_enters {site : Site} (first : command.continuationCount = 0)
    (stage : Stage world command s history) (tells : Tells world command history s event told)
    (call : Controls s event site) : Enters world command s (history ++ told) site := by
  cases call with
  | stopped _ here => exact paused_enters stage tells here
  | continued here again =>
    cases stage with
    | preparing same => exact absurd (same ▸ first) again
    | asking _ _ now | settled now => simp [here, Point.over, Point.gated] at now
    | allowed approved passed free =>
      exact .allowed (approved.append (tells.quiet (by simp [here]))) nofun fun _ =>
        free (by simp [here, Point.unapproved])
  | prepared result here =>
    cases stage with
    | preparing same =>
      exact .asked same (List.mem_append_right _ (tells.prepared here result rfl)) (.inl rfl)
    | asking _ _ now | settled now => simp [here, Point.over, Point.gated] at now
    | allowed approved passed free =>
      exact .allowed (approved.append (tells.quiet (by simp [here]))) nofun fun _ =>
        free (by simp [here, Point.unapproved])
  | approval here =>
    cases stage with
    | preparing _ now | settled now => simp [here, Point.over] at now
    | asking same prepared => exact .asked same (List.mem_append_left told prepared) (.inr rfl)
    | allowed _ passed => simp [here, Point.gated] at passed
  | executed _ here | progressed _ here =>
    cases stage with
    | preparing _ now | asking _ _ now | settled now => simp [here, Point.over, Point.gated] at now
    | allowed approved =>
      exact .allowed (approved.append (tells.quiet (by simp [here]))) nofun nofun

theorem handle_point (s : State) (signal : Signal) :
    (s.handle signal).point = s.point ∧ (s.handle signal).command = s.command := by
  cases signal with
  | approvalDecided approvalId =>
    by_cases empty : approvalId = "" <;> simp [State.handle, empty]
  | _ => exact ⟨rfl, rfl⟩

theorem Stage.keep (stage : Stage world command s history)
    (tells : Tells world command history s (.signal signal) told) (point : s'.point = s.point)
    (same : s'.command = s.command) : Stage world command s' (history ++ told) := by
  cases stage with
  | preparing here now => exact .preparing (same.trans here) (point ▸ now)
  | asking here prepared now =>
    exact .asking (same.trans here) (List.mem_append_left told prepared) (point ▸ now)
  | allowed approved passed free =>
    refine .allowed (approved.append (tells.quiet fun loading => ?_)) (point ▸ passed) ?_
    · simp [loading, Point.gated] at passed
    · rw [point, same]
      exact free
  | settled ended => exact .settled (point ▸ ended)

theorem step_staged (required : command.requiresApproval = true)
    (first : command.continuationCount = 0) (stage : Stage world command s history)
    (tells : Tells world command history s event told) (taken : step s event = some s') :
    Staged world command (history ++ told) s s' := by
  cases step_moved taken with
  | controlled call passed =>
    exact passed_staged required (controls_enters first stage tells call) passed
  | lifted site here => exact proceed_staged required (paused_enters stage tells here)
  | prepares here =>
    have idle : .scheduled .executeRun ∉ newly s (s.schedule .prepareRun .preparing "planning") := by
      simp [newly, State.schedule]
    cases stage with
    | preparing same => exact ⟨.preparing same (.inr rfl), fun writes => absurd writes idle⟩
    | asking _ _ now | settled now => simp [here, Point.over, Point.gated] at now
    | allowed approved passed free =>
      exact staged_allowed (approved.append (tells.quiet (by simp [here]))) rfl fun _ =>
        free (by simp [here, Point.unapproved])
  | signalled signal =>
    obtain ⟨point, same⟩ := handle_point s signal
    have idle : newly s { s.handle signal with signals := s.signals ++ [signal] } = [] :=
      newly_same (handle_scheduled s signal)
    rw [Staged, idle, List.append_nil]
    exact ⟨stage.keep tells point same, fun writes => absurd writes List.not_mem_nil⟩
  | approved here =>
    cases stage with
    | preparing _ now | settled now => simp [here, Point.over] at now
    | asking same prepared =>
      exact staged_allowed (tells.approved here rfl same prepared) rfl (by rintro ⟨⟩)
    | allowed _ passed => simp [here, Point.gated] at passed
  | undecided _ here =>
    cases stage with
    | preparing _ now | settled now => simp [here, Point.over] at now
    | asking same prepared =>
      exact staged_asking same (List.mem_append_left told prepared) (.inr rfl) (by simp [newly])
    | allowed _ passed => simp [here, Point.gated] at passed
  | unfinished _ here =>
    cases stage with
    | preparing _ now | asking _ _ now | settled now => simp [here, Point.over, Point.gated] at now
    | allowed approved =>
      exact staged_allowed (approved.append (tells.quiet (by simp [here]))) rfl (by rintro ⟨⟩)
  | refused | expired =>
    exact staged_over rfl (by simp [newly, State.expire, State.reject, State.schedule])
  | returned | failed => exact staged_over rfl (by simp [newly])

theorem over_step (ended : s.point.over = true) (taken : step s event = some s') :
    s'.point.over = true ∧ newly s s' = [] := by
  cases step_moved taken with
  | controlled call =>
    cases call with
    | continued now | prepared _ now | executed _ now | approval now | stopped _ now
    | progressed _ now => simp [now, Point.over] at ended
  | signalled signal =>
    exact ⟨(handle_point s signal).1 ▸ ended, newly_same (handle_scheduled s signal)⟩
  | returned | failed => exact ⟨rfl, newly_same rfl⟩
  | expired now =>
    rcases now with now | ⟨_, now⟩ | ⟨_, now⟩ <;> simp [now, Point.over] at ended
  | prepares now | lifted _ now | approved now | refused _ now | undecided _ now
  | unfinished _ now => simp [now, Point.over] at ended

/-- At most one activity is scheduled by an event, and behind one that ends the Run the
workflow only returns. -/
def Schedules (s s' : State) : Prop :=
  newly s s' = [] ∨ ∃ activity, newly s s' = [.scheduled activity] ∧
    ((Happening.scheduled activity).stops = true → s'.point.over = true)

theorem proceed_schedules (s : State) (site : Site) : Schedules s (s.proceed site) := by
  cases site with
  | prepared =>
    simp only [State.proceed]
    split
    · exact .inl (newly_same rfl)
    · exact .inr ⟨.executeRun, newly_schedule rfl .., by rintro ⟨⟩⟩
  | approval =>
    cases given : s.approvalId with
    | none =>
      simp only [State.proceed, given]
      exact .inl (newly_same rfl)
    | some approvalId =>
      simp only [State.proceed, given]
      exact .inr ⟨.loadApproval approvalId, by simp [newly, State.schedule], by rintro ⟨⟩⟩
  | executed => exact .inr ⟨.evaluateRun, newly_schedule rfl .., by rintro ⟨⟩⟩
  | progressed =>
    simp only [State.proceed]
    split
    · exact .inr ⟨_, newly_schedule rfl .., fun _ => rfl⟩
    · exact .inl (newly_same rfl)

theorem step_schedules (taken : step s event = some s') : Schedules s s' := by
  cases step_moved taken with
  | controlled _ passed =>
    cases passed with
    | cancels | takesOver => exact .inr ⟨_, newly_schedule rfl .., fun _ => rfl⟩
    | pauses => exact .inl (newly_same rfl)
    | proceeds => exact proceed_schedules s _
  | lifted site => exact proceed_schedules s site
  | signalled signal => exact .inl (newly_same (handle_scheduled s signal))
  | prepares => exact .inr ⟨_, newly_schedule rfl .., nofun⟩
  | approved => exact .inr ⟨.executeRun, newly_schedule rfl .., nofun⟩
  | refused | expired => exact .inr ⟨_, newly_schedule rfl .., fun _ => rfl⟩
  | undecided | unfinished | returned | failed => exact .inl (newly_same rfl)

/-- What the history of a workflow that asks for an approval says. -/
structure Gated (world : Store → Prop) (command : GoalRunInput) (s : State)
    (history : List Happening) : Prop where
  stage : Stage world command s history
  vouched : ∀ before after, history = before ++ .scheduled .executeRun :: after →
    Approved world command before
  ordered : history.Pairwise fun earlier later => earlier.stops = true → later.works = false
  ended : ∀ happening ∈ history, happening.stops = true → s.point.over = true

theorem vouched_append {history : List Happening} {happening : Happening}
    (vouched : ∀ before after, history = before ++ .scheduled .executeRun :: after →
      Approved world command before)
    (now : happening = .scheduled .executeRun → Approved world command history)
    (before after : List Happening)
    (split : history ++ [happening] = before ++ .scheduled .executeRun :: after) :
    Approved world command before := by
  rcases List.eq_nil_or_concat after with rfl | ⟨rest, last, rfl⟩
  · obtain ⟨rfl, same⟩ := List.append_inj' split rfl
    exact now (List.head_eq_of_cons_eq same)
  · rw [List.concat_eq_append, ← List.cons_append, ← List.append_assoc] at split
    exact vouched before rest (List.append_inj' split rfl).1

/-- Only a scheduled activity stops or works. -/
theorem unscheduled_idle {happening : Happening}
    (idle : ∀ activity, happening ≠ .scheduled activity) :
    happening.stops = false ∧ happening.works = false := by
  cases happening with
  | scheduled activity => exact absurd rfl (idle activity)
  | _ => exact ⟨rfl, rfl⟩

theorem Gated.tell (gated : Gated world command s history)
    (idle : ∀ activity, .scheduled activity ∉ told) :
    (∀ before after, history ++ told = before ++ .scheduled .executeRun :: after →
      Approved world command before) ∧
    ((history ++ told).Pairwise fun earlier later => earlier.stops = true → later.works = false) ∧
    ∀ happening ∈ history ++ told, happening.stops = true → s.point.over = true := by
  induction told using List.reverseRecOn with
  | nil =>
    rw [List.append_nil]
    exact ⟨gated.vouched, gated.ordered, gated.ended⟩
  | append_singleton told last ih =>
    obtain ⟨vouched, ordered, ended⟩ := ih fun activity there =>
      idle activity (List.mem_append_left _ there)
    have unscheduled (activity : Activity) : last ≠ .scheduled activity := fun same =>
      idle activity (List.mem_append_right _ (List.mem_singleton.mpr same.symm))
    obtain ⟨harmless, lazy⟩ := unscheduled_idle unscheduled
    rw [← List.append_assoc]
    refine ⟨vouched_append vouched fun same => absurd same (unscheduled _),
      List.pairwise_append.mpr ⟨ordered, List.pairwise_singleton _ _, ?_⟩, ?_⟩
    · rintro _ _ later there _
      rw [List.mem_singleton.mp there]
      exact lazy
    · intro happening there stops
      rcases List.mem_append.mp there with earlier | now
      · exact ended happening earlier stops
      · rw [List.mem_singleton.mp now, harmless] at stops
        cases stops

theorem Gated.step (required : command.requiresApproval = true)
    (first : command.continuationCount = 0) (gated : Gated world command s history)
    (tells : Tells world command history s event told) (taken : Workflow.step s event = some s') :
    Gated world command s' (history ++ told ++ newly s s') := by
  obtain ⟨stage, writes⟩ := step_staged required first gated.stage tells taken
  obtain ⟨vouched, ordered, ended⟩ := gated.tell tells.idle
  have stopped {happening : Happening} (there : happening ∈ history ++ told)
      (stops : happening.stops = true) := over_step (ended happening there stops) taken
  rcases step_schedules taken with none_new | ⟨activity, one_new, stop⟩
  · rw [none_new, List.append_nil] at stage ⊢
    exact ⟨stage, vouched, ordered, fun happening there stops => (stopped there stops).1⟩
  · rw [one_new] at stage writes ⊢
    refine ⟨stage, vouched_append vouched fun same => writes (by simp [same]), ?_, ?_⟩
    · refine List.pairwise_append.mpr ⟨ordered, List.pairwise_singleton _ _, ?_⟩
      intro earlier there _ _ stops
      exact absurd (one_new.symm.trans (stopped there stops).2) nofun
    · intro happening there stops
      rcases List.mem_append.mp there with earlier | now
      · exact (stopped earlier stops).1
      · obtain rfl := List.mem_singleton.mp now
        exact stop stops

theorem loading_point {approvalId : String} (loading : s.loading = some approvalId) :
    s.point = .loadingApproval := by
  unfold State.loading at loading
  split at loading <;> cases loading
  assumption

theorem approved_of_loaded {approvalId : String} {state : ApprovalState} {store : Store}
    (prepared : .prepared ∈ history) (here : world store)
    (ran : loadApproval (lookup command approvalId) store = .ok (state, store))
    (approved : state.status = "approved") :
    Approved world command (history ++ [.loaded approvalId state store]) := by
  obtain ⟨id, approval, named, stored, _, run, status⟩ := loadApproval_ok ran
  refine ⟨List.mem_append_left _ prepared, approvalId, state, store, id, approval, ?_, approved,
    here, named, stored, run, ?_⟩
  · simp [lastLoaded]
  · have value := status.symm.trans approved
    cases is : approval.status <;> simp [is, ApprovalStatus.value] at value ⊢

theorem told_gated (required : command.requiresApproval = true)
    (first : command.continuationCount = 0) (run : Told world command s history) :
    Gated world command s history := by
  induction run with
  | start =>
    refine ⟨.preparing rfl (.inl rfl), fun before after split => ?_, .nil, nofun⟩
    exact absurd split.symm (by simp)
  | prepared result past here taken gated =>
    refine gated.step required first ⟨fun _ _ _ => List.mem_singleton_self _, ?_, ?_, ?_⟩ taken
    · simp
    · intro loading
      exact absurd (here.symm.trans loading) nofun
    · simp
  | @loaded s _ history approvalId state store past loading here ran taken gated =>
    have point := loading_point loading
    refine gated.step required first ⟨fun preparing => ?_, fun other => absurd point other, ?_, ?_⟩
      taken
    · exact absurd (point.symm.trans preparing) nofun
    · intro _ approved same prepared
      rw [Event.completed.injEq] at approved
      subst same
      exact approved_of_loaded prepared here ran approved
    · simp
  | @other s _ history event past here taken gated =>
    have tells : Tells world command history s event [] :=
      ⟨fun preparing result completed => absurd preparing (here result completed).1, nofun,
        fun loading approved => absurd loading (here _ approved).2, nofun⟩
    have step := gated.step required first tells taken
    rwa [List.append_nil] at step

/-- A workflow that asks for an approval and starts at its first run schedules the write only
after the preparation has completed and `load_approval` has last found an approved approval of
the Run; and once it has scheduled the cancellation, the take-over or the rejection of the Run
it schedules neither the write nor the evaluation, also in its continuations. -/
theorem gated_write (required : command.requiresApproval = true)
    (first : command.continuationCount = 0) (run : Told world command s history) :
    (∀ before after, history = before ++ .scheduled .executeRun :: after →
      Approved world command before) ∧
    ∀ before stop after, history = before ++ stop :: after → stop.stops = true →
      ∀ happening ∈ after, happening.works = false := by
  have gated := told_gated required first run
  refine ⟨gated.vouched, fun before stop after split stops happening there => ?_⟩
  have ordered := split ▸ gated.ordered
  exact (List.pairwise_cons.mp (List.pairwise_append.mp ordered).2.1).1 happening there stops

end

namespace Sample

/-- An approved Run that is written, evaluated and returned. -/
theorem written_after_approval : ∃ s history, Told (· = platform) governed s history ∧
    s.point = .returned "succeeded" ∧
    s.scheduled = [.prepareRun, .loadApproval genuine, .executeRun, .evaluateRun] ∧
    (∀ before after, history = before ++ .scheduled .executeRun :: after →
      Approved (· = platform) governed before) ∧
    ∀ before stop after, history = before ++ stop :: after → stop.stops = true →
      ∀ happening ∈ after, happening.works = false := by
  obtain ⟨⟨found, _⟩, ran, rfl⟩ := genuine_approved
  have begun : Told (· = platform) governed _ _ := .other .begun .start nofun rfl
  have ready := Told.prepared "planned" begun rfl rfl
  have decided := Told.other (.signal (.approvalDecided genuine)) ready nofun rfl
  have loading := Told.other .woken decided nofun rfl
  have executing := Told.loaded loading rfl rfl ran rfl
  have evaluating := Told.other (.completed "dispatched") executing (fun _ _ => ⟨nofun, nofun⟩) rfl
  have succeeded := Told.other (.completed "succeeded") evaluating (fun _ _ => ⟨nofun, nofun⟩) rfl
  obtain ⟨vouched, ordered⟩ := gated_write rfl rfl succeeded
  exact ⟨_, _, succeeded, rfl, rfl, vouched, ordered⟩

end Sample

end Workflow

end Autonoesis
