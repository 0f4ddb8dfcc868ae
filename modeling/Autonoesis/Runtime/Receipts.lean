import Autonoesis.Runtime.Ledger

/-! Which receipt a call stores and returns once the target has reported success, and
when a check of that success that breaks off turns it into a failure. -/

namespace Autonoesis.Gateway
open Base Prog

/-- The check of a reported success broke off. -/
def VerifyRaised (h : List GatewayEvent) : Prop :=
  ∃ a tool receipt e, (⟨.egressVerify a tool receipt, .error e⟩ : GatewayEvent) ∈ h

/-- The check broke off with an `Exception` other than a timeout. -/
def Misread (h : List GatewayEvent) : Prop :=
  ∃ a tool receipt e, (⟨.egressVerify a tool receipt, .error e⟩ : GatewayEvent) ∈ h ∧
    e.isA .exception = true ∧ e.isA .timeoutError = false

/-- The egress port reported the side effect as done or taken on. -/
def TookEffect (h : List GatewayEvent) : Prop :=
  ∃ a tool credential receipt,
    (⟨.egressExecute a tool credential, .ok receipt⟩ : GatewayEvent) ∈ h ∧
    (receipt.status = .succeeded ∨ receipt.status = .accepted)

/-- A call the run has made or is about to make. -/
def Issued (h : List GatewayEvent) (q : GatewayProg GatewayResult) (r : GatewayReq) : Prop :=
  (∃ ans, (⟨r, ans⟩ : GatewayEvent) ∈ h) ∨ ∃ k, q = .call r k

namespace Call
variable [Sha256] {c : Call} {h : List GatewayEvent} {q : GatewayProg GatewayResult}

theorem permitted_verify (run : Exec c.prog h q) {a : Action} {tool : ResolvedToolVersion}
    {receipt : ToolReceipt} {ans : Except Exc Bool}
    (there : (⟨.egressVerify a tool receipt, ans⟩ : GatewayEvent) ∈ h) :
    (∃ credential, (⟨.egressExecute a tool credential, .ok receipt⟩ : GatewayEvent) ∈ h) ∧
      receipt.status = .succeeded := by
  obtain ⟨before, after, split⟩ := List.append_of_mem there
  obtain ⟨⟨credential, executed⟩, succeeded, _⟩ := permitted_past run split
  exact ⟨⟨credential, by rw [split]; exact List.mem_append_left _ executed⟩, succeeded⟩

theorem settled_of_issued (run : Exec c.prog h q) {tenantId id : String} {receipt : ToolReceipt}
    (issued : Issued h q (.complete tenantId id receipt)) :
    Settled h receipt ∧ (∃ old, c.Reserved ⟨.acquired, some id, old⟩ h) ∧
      ∃ e ∈ h, isEgress e.req = true := by
  obtain ⟨ans, there⟩ | ⟨k, rfl⟩ := issued
  · obtain ⟨before, after, split⟩ := List.append_of_mem there
    obtain ⟨_, ⟨old, reserved⟩, settled, e, earlier, egress⟩ := permitted_past run split
    have sub : before ⊆ h := by rw [split]; exact List.subset_append_left _ _
    exact ⟨settled.mono sub, ⟨old, sub reserved⟩, e, sub earlier, egress⟩
  · obtain ⟨_, reserved, settled, reached⟩ := permitted_next run
    exact ⟨settled, reserved, reached⟩

/-- After a reported effect the receipt settled on is a failure exactly when the check
broke off with an exception other than a timeout. -/
theorem settled_status (run : Exec c.prog h q) (effect : TookEffect h) {rc : ToolReceipt}
    (settled : Settled h rc) :
    (Misread h → rc.status = .failed) ∧
    (¬ Misread h → (rc.status = .succeeded ∨ rc.status = .accepted ∨ rc.status = .unknown) ∧
      (VerifyRaised h → rc.status = .unknown)) := by
  obtain ⟨a, tool, credential, receipt, executed, reported⟩ := effect
  have noMisread : ∀ {a' tool' receipt' checked},
      (⟨.egressVerify a' tool' receipt', .ok checked⟩ : GatewayEvent) ∈ h → ¬ VerifyRaised h := by
    rintro a' tool' receipt' checked there ⟨_, _, _, _, raised⟩
    cases verify_unique run there raised rfl rfl
  have weaken : Misread h → VerifyRaised h := fun ⟨a', t', r', e, there, _⟩ => ⟨a', t', r', e, there⟩
  cases settled with
  | verified executed' succeeded checked =>
    exact ⟨fun bad => absurd (weaken bad) (noMisread checked),
      fun _ => ⟨Or.inl succeeded, fun bad => absurd bad (noMisread checked)⟩⟩
  | unverified executed' succeeded checked =>
    exact ⟨fun bad => absurd (weaken bad) (noMisread checked),
      fun _ => ⟨Or.inr (Or.inr rfl), fun _ => rfl⟩⟩
  | accepted executed' accepted =>
    have unchecked : ¬ VerifyRaised h := by
      rintro ⟨a', tool', receipt', e, there⟩
      obtain ⟨⟨credential', again⟩, succeeded⟩ := permitted_verify run there
      cases egress_unique run executed' again rfl rfl
      rw [accepted] at succeeded
      cases succeeded
    exact ⟨fun bad => absurd (weaken bad) unchecked,
      fun _ => ⟨Or.inr (Or.inl accepted), fun bad => absurd bad unchecked⟩⟩
  | other executed' notSucceeded notAccepted =>
    cases egress_unique run executed executed' rfl rfl
    rcases reported with succeeded | accepted
    · exact absurd succeeded notSucceeded
    · exact absurd accepted notAccepted
  | @timedOut r e kind raised timeout =>
    refine ⟨?_, fun _ => ⟨Or.inr (Or.inr rfl), fun _ => rfl⟩⟩
    rintro ⟨a', tool', receipt', e', there, _, other⟩
    rcases kind with egress | verify
    · cases egress_unique run executed raised rfl egress
    · cases verify_unique run there raised rfl verify
      rw [timeout] at other
      cases other
  | @failed r e kind raised timeout caught =>
    refine ⟨fun _ => rfl, fun fine => ?_⟩
    rcases kind with egress | verify
    · cases egress_unique run executed raised rfl egress
    · cases r with
      | egressVerify a' tool' receipt' =>
        exact absurd ⟨a', tool', receipt', e, raised, caught, timeout⟩ fine
      | _ => cases verify

/-- A call that returns after a reported effect returns the receipt it settled on. -/
theorem executed_of_effect {result : GatewayResult} (run : Exec c.prog h (.ret result))
    (effect : TookEffect h) :
    Settled h result.receipt ∧ result.action.status = receiptTarget result.receipt.status := by
  obtain ⟨a, tool, credential, receipt, executed, _⟩ := effect
  have reached : ¬ Without isEgress h := fun without => nomatch without _ executed
  cases verdict_of_returned run with
  | refused quiet => exact absurd (Without.of_quiet isEffect_of_isEgress quiet) reached
  | exhausted _ _ quiet => exact absurd quiet reached
  | unsettled _ _ quiet => exact absurd quiet reached
  | replayed _ _ _ quiet => exact absurd quiet reached
  | executed _ _ _ settled reports =>
    rw [reports.receipt_eq]
    exact ⟨settled, reports.status⟩

end Call

/-! ## Replays from the reservation store -/

theorem eq_of_sum_le_one {α : Type} {f : α → Nat} {l : List α} (one : (l.map f).sum ≤ 1)
    {x y : α} (hx : x ∈ l) (hy : y ∈ l) (px : 0 < f x) (py : 0 < f y) : x = y := by
  induction l with
  | nil => simp at hx
  | cons z rest ih =>
    simp only [List.map_cons, List.sum_cons] at one
    have inRest : ∀ {u}, u ∈ rest → f u ≤ (rest.map f).sum := fun hu =>
      List.le_sum_of_mem (List.mem_map_of_mem hu)
    rcases List.mem_cons.mp hx with rfl | hx' <;> rcases List.mem_cons.mp hy with rfl | hy'
    · rfl
    · have := inRest hy'; omega
    · have := inRest hx'; omega
    · exact ih (by omega) hx' hy'

section
variable [Sha256] {limit : Int}
  {w : Pool Reservations GatewayReq GatewayResp Exc GatewayResult} (reach : Reachable limit w)
include reach

/-- Only one thread reaches the egress port under a key. -/
theorem thread_unique {t t' : Thread GatewayReq GatewayResp Exc GatewayResult} {c c' : Call}
    (there : t ∈ w.threads) (there' : t' ∈ w.threads) (run : Exec c.prog t.past t.prog)
    (run' : Exec c'.prog t'.past t'.prog) (same : c.key = c'.key)
    (reached : ∃ e ∈ t.past, isEgress e.req = true)
    (reached' : ∃ e ∈ t'.past, isEgress e.req = true) : t = t' := by
  have count : ∀ {u : Thread GatewayReq GatewayResp Exc GatewayResult} {d : Call},
      Exec d.prog u.past u.prog → (∃ e ∈ u.past, isEgress e.req = true) →
      0 < u.past.countP (egressFor d.key) := by
    rintro u d go ⟨e, past, egress⟩
    obtain ⟨a, tool, credential, req, core, _⟩ := Call.permitted_egress go past egress
    refine List.countP_pos_iff.mpr ⟨e, past, ?_⟩
    simp [egressFor, req, Call.key_of_core core]
  have one := egress_le_one reach c.key
  simp only [Pool.events, List.countP_flatMap] at one
  have pos' := count run' reached'
  rw [← same] at pos'
  exact eq_of_sum_le_one one there there' (count run reached) pos'

/-- What the store holds for the key of a call whose effect was reported. -/
theorem stored_of_effect {t : Thread GatewayReq GatewayResp Exc GatewayResult} {c : Call}
    (there : t ∈ w.threads) (run : Exec c.prog t.past t.prog) (effect : TookEffect t.past)
    {r : MemoryReservation} {rc : ToolReceipt} (found : w.shared.record? c.key = some r)
    (held : r.receipt = some rc) : Call.Settled t.past rc := by
  have ledger := reachable_ledger reach
  obtain ⟨tenantId, ans, event⟩ := ledger.stored _ _ _ found held
  obtain ⟨t', there', past⟩ := List.mem_flatMap.mp event
  obtain ⟨_, ⟨c', rfl⟩, run'⟩ := reach.exec there'
  obtain ⟨settled, ⟨old, acquired⟩, reached'⟩ :=
    Call.settled_of_issued run' (Or.inl ⟨ans, past⟩)
  -- the record the completing call acquired is the one found here
  obtain ⟨r', found', sameId⟩ :=
    ledger.issued _ _ _ (Pool.mem_events_of_thread there' acquired)
  obtain ⟨i, _, at_, key⟩ := Reservations.record?_some _ ledger.consistent found
  obtain ⟨i', _, at', key'⟩ := Reservations.record?_some _ ledger.consistent found'
  have index := (ledger.consistent.indexed i r at_).2
  have index' := (ledger.consistent.indexed i' r' at').2
  rw [sameId, index] at index'
  cases index'
  rw [at_] at at'
  cases at'
  obtain ⟨a, tool, credential, receipt, executed, _⟩ := effect
  have same : t = t' := thread_unique reach there there' run run' (key.symm.trans key')
    ⟨_, executed, rfl⟩ reached'
  rw [same]
  exact settled

/-- A call under the key of one whose effect was reported never reports a failure, unless
the check of that effect was misread. -/
theorem replay_of_effect {t t' : Thread GatewayReq GatewayResp Exc GatewayResult} {c c' : Call}
    (there : t ∈ w.threads) (run : Exec c.prog t.past t.prog) (effect : TookEffect t.past)
    (fine : ¬ Misread t.past) (there' : t' ∈ w.threads) (run' : Exec c'.prog t'.past t'.prog)
    (same : c'.key = c.key) {result : GatewayResult} (returned : t'.prog = .ret result) :
    result.receipt.status ≠ .failed ∧ result.action.status ≠ .failed := by
  have truthful : ∀ {rc}, Call.Settled t.past rc →
      rc.status ≠ .failed ∧ receiptTarget rc.status ≠ .failed := by
    intro rc settled
    obtain ⟨status, _⟩ := (Call.settled_status run effect settled).2 fine
    rcases status with s | s | s <;> simp [s, receiptTarget]
  have run'' := run'
  rw [returned] at run''
  cases Call.verdict_of_returned run'' with
  | refused _ _ denied rejected => simp [denied, rejected]
  | exhausted _ _ _ _ denied rejected => simp [denied, rejected]
  | unsettled _ _ _ _ unknown receipt => simp [unknown, receipt]
  | replayed reserved status stored _ reports =>
    obtain ⟨r, held, sameReceipt⟩ := (reachable_ledger reach).cached _ _ _
      (Pool.mem_events_of_thread there' reserved) status stored
    have found : w.shared.record? c.key = some r := same ▸ held.1
    have := truthful (stored_of_effect reach there run effect found sameReceipt)
    rw [reports.receipt_eq, reports.status]
    exact this
  | executed _ _ reached settled reports =>
    obtain ⟨a, tool, credential, receipt, executed, reported⟩ := effect
    have eq : t' = t := thread_unique reach there' there run' run same reached
      ⟨_, executed, rfl⟩
    rw [reports.receipt_eq, reports.status]
    rw [eq] at settled
    exact truthful settled

end

/-- Once the egress port reported success or acceptance, the receipt a call stores and the
result it returns are truthful exactly when the check was not misread; and over one
reservation store the same holds of what is stored, and of every later call's result. -/
theorem effect_reported_truthfully [Sha256] :
    (∀ (c : Call) h q, Exec c.prog h q → TookEffect h →
      (∀ tenantId id rc, Issued h q (.complete tenantId id rc) →
        ((rc.status ≠ .failed ∧ (VerifyRaised h → rc.status = .unknown)) ↔ ¬ Misread h)) ∧
      (∀ result, q = .ret result →
        ((result.receipt.status ≠ .failed ∧ result.action.status ≠ .failed ∧
          (VerifyRaised h → result.receipt.status = .unknown ∧
            result.action.status = .unknown)) ↔ ¬ Misread h))) ∧
    (∀ limit w, Reachable limit w → ∀ t ∈ w.threads, ∀ c : Call, Exec c.prog t.past t.prog →
      TookEffect t.past →
      (∀ r rc, w.shared.record? c.key = some r → r.receipt = some rc →
        (rc.status ≠ .failed ↔ ¬ Misread t.past)) ∧
      (¬ Misread t.past → ∀ t' ∈ w.threads, ∀ (c' : Call) result, Exec c'.prog t'.past t'.prog →
        c'.key = c.key → t'.prog = .ret result →
        result.receipt.status ≠ .failed ∧ result.action.status ≠ .failed)) := by
  constructor
  · intro c h q run effect
    constructor
    · intro tenantId id rc issued
      obtain ⟨settled, _, _⟩ := Call.settled_of_issued run issued
      obtain ⟨misread, fine⟩ := Call.settled_status run effect settled
      refine ⟨fun ⟨truthful, _⟩ bad => truthful (misread bad), fun good => ?_⟩
      obtain ⟨status, raised⟩ := fine good
      exact ⟨by rcases status with s | s | s <;> simp [s], raised⟩
    · rintro result rfl
      obtain ⟨settled, target⟩ := Call.executed_of_effect run effect
      obtain ⟨misread, fine⟩ := Call.settled_status run effect settled
      refine ⟨fun ⟨truthful, _⟩ bad => truthful (misread bad), fun good => ?_⟩
      obtain ⟨status, raised⟩ := fine good
      rw [target]
      refine ⟨?_, ?_, fun check => ?_⟩
      · rcases status with s | s | s <;> simp [s]
      · rcases status with s | s | s <;> simp [s, receiptTarget]
      · simp [raised check, receiptTarget]
  · intro limit w reach t there c run effect
    constructor
    · intro r rc found held
      have settled := stored_of_effect reach there run effect found held
      obtain ⟨misread, fine⟩ := Call.settled_status run effect settled
      refine ⟨fun truthful bad => truthful (misread bad), fun good => ?_⟩
      rcases (fine good).1 with s | s | s <;> simp [s]
    · intro fine t' there' c' result run' same returned
      exact replay_of_effect reach there run effect fine there' run' same returned

namespace Sample

/-- The sample ports with a check of the sent mail that breaks off with `e`. -/
def raisingAnswers (e : Exc) : (r : GatewayReq) → Except Exc (GatewayResp r)
  | .egressVerify .. => .error e
  | r => answers r

def connectionError : Exc := ⟨"ConnectionError", [.exception], "connection reset by peer"⟩

def timeoutError : Exc := ⟨"TimeoutError", [.timeoutError, .exception], "verification timed out"⟩

/-- The mail is sent and reported as such, the connection drops during the check, and both
the stored receipt and the result say `FAILED`. -/
theorem effect_reported_failed :
    let _ := sha256
    ∃ h result, Exec call.prog h (.ret result) ∧ TookEffect h ∧ VerifyRaised h ∧
      (∃ tenantId id rc ans, (⟨.complete tenantId id rc, ans⟩ : GatewayEvent) ∈ h ∧
        rc.status = .failed) ∧
      result.receipt.status = .failed ∧ result.action.status = .failed := by
  intro _
  obtain ⟨result, returned, receipt, status⟩ : ∃ result,
      (replay (raisingAnswers connectionError) 20 [] call.prog).2 = .ret result ∧
        result.receipt.status = .failed ∧ result.action.status = .failed := ⟨_, rfl, rfl, rfl⟩
  have run := replay_exec (raisingAnswers connectionError) (Exec.start call.prog) 20
  rw [returned] at run
  refine ⟨_, result, run, ?_, ?_, ?_, receipt, status⟩
  · exact ⟨_, _, _, _, List.mem_of_getElem? (i := 10) rfl, Or.inl rfl⟩
  · exact ⟨_, _, _, _, List.mem_of_getElem? (i := 11) rfl⟩
  · exact ⟨_, _, _, _, List.mem_of_getElem? (i := 12) rfl, rfl⟩

/-- A check that times out leaves the result unknown, in the store and for a retry. -/
theorem effect_reported_unknown :
    let _ := sha256
    ∃ h result, Exec call.prog h (.ret result) ∧ TookEffect h ∧ ¬ Misread h ∧
      result.receipt.status ≠ .failed ∧ result.action.status = .unknown := by
  intro _
  obtain ⟨result, returned⟩ : ∃ result,
      (replay (raisingAnswers timeoutError) 20 [] call.prog).2 = .ret result := ⟨_, rfl⟩
  have run := replay_exec (raisingAnswers timeoutError) (Exec.start call.prog) 20
  rw [returned] at run
  have effect : TookEffect (replay (raisingAnswers timeoutError) 20 [] call.prog).1 :=
    ⟨_, _, _, _, List.mem_of_getElem? (i := 10) rfl, Or.inl rfl⟩
  have raised : (⟨.egressVerify _ _ _, .error timeoutError⟩ : GatewayEvent) ∈
      (replay (raisingAnswers timeoutError) 20 [] call.prog).1 :=
    List.mem_of_getElem? (i := 11) rfl
  have fine : ¬ Misread (replay (raisingAnswers timeoutError) 20 [] call.prog).1 := by
    rintro ⟨a, tool, receipt, e, there, _, other⟩
    cases Call.verify_unique run raised there rfl rfl
    cases other
  obtain ⟨receipt, _, unknown⟩ :=
    ((effect_reported_truthfully.1 call _ _ run effect).2 result rfl).mpr fine
  exact ⟨_, result, run, effect, fine, receipt, (unknown ⟨_, _, _, _, raised⟩).2⟩

end Sample

end Autonoesis.Gateway
