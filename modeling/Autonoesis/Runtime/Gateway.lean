import Autonoesis.Runtime.Guards

/-! What a call of the gateway may do, for every behaviour of its ports: which guards
precede a side effect and what each way out returns. -/

namespace Autonoesis.Gateway.Call
open Base Prog

variable [Sha256]

theorem ensures_egressReceipt (c : Call) {h : List GatewayEvent} {executing : Action}
    {tool : ResolvedToolVersion} {credential : CredentialLease} {id : String}
    {old : Option ToolReceipt} (cleared : c.Cleared tool credential h)
    (reserved : c.Reserved ⟨.acquired, some id, old⟩ h)
    (core : executing.core = c.action.core) (status : executing.status = .executing)
    (fresh : Without isEgress h) (unchecked : Without isVerify h) :
    Ensures c.Permitted (fun h' receipt => h ⊆ h' ∧ Settled h' receipt ∧
      ∃ e ∈ h', isEgress e.req = true) h (egressReceipt executing tool credential) := by
  have permitted : c.Permitted h (.egressExecute executing tool credential) :=
    ⟨cleared, ⟨id, old, reserved⟩, core, status, fresh⟩
  -- how the handlers settle an exception of either egress call
  have handled : ∀ h' r e, h ⊆ h' → (isEgress r = true ∨ isVerify r = true) →
      (⟨r, .error e⟩ : GatewayEvent) ∈ h' → (∃ e ∈ h', isEgress e.req = true) →
      Ensures c.Permitted (fun h' receipt => h ⊆ h' ∧ Settled h' receipt ∧
        ∃ e ∈ h', isEgress e.req = true) h'
        (if e.isA .timeoutError then pure ⟨"", .unknown, [("reason", "egress_timeout")]⟩
          else if e.isA .exception then pure ⟨"", .failed, [("reason", e.name)]⟩
          else raise e) := by
    intro h' r e sub kind raised reached
    refine ensures_ite (fun timeout => ?_) fun other => ensures_ite (fun caught => ?_) fun _ => ?_
    · exact ensures_ret ⟨sub, .timedOut kind raised timeout, reached⟩
    · exact ensures_ret ⟨sub, .failed kind raised (by simpa using other) caught, reached⟩
    · exact ensures_raise
  refine ensures_attempt_bind (conforms_bind.mpr (conforms_request.mpr ⟨permitted, fun ans => ?_⟩))
  have sub : h ⊆ h ++ [⟨.egressExecute executing tool credential, ans⟩] :=
    List.subset_append_left _ _
  cases ans with
  | error e =>
    exact handled _ _ e sub (Or.inl rfl) List.mem_concat_self ⟨_, List.mem_concat_self, rfl⟩
  | ok receipt =>
    have here : (⟨.egressExecute executing tool credential, .ok receipt⟩ : GatewayEvent) ∈
        h ++ [⟨.egressExecute executing tool credential, .ok receipt⟩] := List.mem_concat_self
    dsimp only
    by_cases succeeded : receipt.status = .succeeded
    · rw [if_pos succeeded]
      refine conforms_bind.mpr (conforms_request.mpr
        ⟨⟨⟨credential, here⟩, succeeded, unchecked.snoc rfl⟩, fun checked => ?_⟩)
      have sub' := List.Subset.trans sub (List.subset_append_left
        (h ++ [⟨.egressExecute executing tool credential, .ok receipt⟩])
        [⟨.egressVerify executing tool receipt, checked⟩])
      cases checked with
      | error e =>
        exact handled _ _ e sub' (Or.inr rfl) List.mem_concat_self
          ⟨_, List.mem_append_left _ here, rfl⟩
      | ok valid =>
        have reached := List.mem_append_left
          [(⟨.egressVerify executing tool receipt, .ok valid⟩ : GatewayEvent)] here
        cases valid with
        | true =>
          exact ensures_ret ⟨sub', .verified reached succeeded List.mem_concat_self, _, reached, rfl⟩
        | false =>
          exact ensures_ret ⟨sub', .unverified reached succeeded List.mem_concat_self, _, reached, rfl⟩
    · rw [if_neg succeeded]
      by_cases accepted : receipt.status = .accepted
      · rw [if_pos accepted]
        have same : (⟨receipt.externalId, .accepted, receipt.output⟩ : ToolReceipt) = receipt := by
          rw [← accepted]
        refine ensures_ret ⟨sub, ?_, _, here, rfl⟩
        rw [same]
        exact .accepted here accepted
      · rw [if_neg accepted]
        exact ensures_ret ⟨sub, .other here succeeded accepted, _, here, rfl⟩

theorem ensures_executeReserved (c : Call) {h : List GatewayEvent} {tool : ResolvedToolVersion}
    {credential : CredentialLease} (cleared : c.Cleared tool credential h)
    (quiet : Without isEffect h) :
    Ensures c.Permitted c.Verdict h
      (executeReserved c.context c.action c.costUnits tool credential) := by
  have noReserve := Without.of_quiet isEffect_of_isReserve quiet
  have noEgress := Without.of_quiet isEffect_of_isEgress quiet
  have noVerify := Without.of_quiet isEffect_of_isVerify quiet
  refine ensures_request_bind ⟨rfl, noReserve⟩ fun d => ?_
  have reserved : c.Reserved d (h ++ [⟨.reserve c.reservation, .ok d⟩]) := List.mem_concat_self
  have noEgress' := noEgress.snoc (e := ⟨.reserve c.reservation, .ok d⟩) rfl
  have noVerify' := noVerify.snoc (e := ⟨.reserve c.reservation, .ok d⟩) rfl
  cases status : d.status with
  | conflict => exact ensures_raise
  | budgetExhausted =>
    refine (ensures_reject c.permitted_free c.context c.action _).mono ?_
    rintro h' result ⟨g, core, denied, rejected⟩
    exact .exhausted (g.subset reserved) status (noEgress'.grown isEffect_of_isEgress g) core
      denied rejected
  | inProgress =>
    refine (ensures_unknown c.permitted_free c.context c.action _).mono ?_
    rintro h' result ⟨g, core, unknown, receipt⟩
    exact .unsettled (g.subset reserved) (Or.inl status)
      (noEgress'.grown isEffect_of_isEgress g) core unknown receipt
  | unknown =>
    refine (ensures_unknown c.permitted_free c.context c.action _).mono ?_
    rintro h' result ⟨g, core, unknown, receipt⟩
    exact .unsettled (g.subset reserved) (Or.inr status)
      (noEgress'.grown isEffect_of_isEgress g) core unknown receipt
  | cached =>
    cases stored : d.receipt with
    | none => exact ensures_raise
    | some receipt =>
      refine ensures_bind (ensures_resultFromReceipt c.permitted_free c.action receipt true) ?_
      rintro h' result ⟨g, reports⟩
      refine ensures_bind (ensures_record c.permitted_free c.context result _) ?_
      rintro h'' _ g'
      have all := g.trans g'
      exact ensures_ret (.replayed (all.subset reserved) status stored
        (noEgress'.grown isEffect_of_isEgress all) reports)
  | acquired =>
    cases identity : d.reservationId with
    | none => exact ensures_raise
    | some id =>
      have acquired : d = ⟨.acquired, some id, d.receipt⟩ := by rw [← status, ← identity]
      refine ensures_bind (ensures_toExecuting c.permitted_free c.action) ?_
      rintro h₁ executing ⟨g₁, core, executingStatus⟩
      have sub₁ := List.Subset.trans (List.subset_append_left h _) g₁.subset
      have reserved₁ : c.Reserved ⟨.acquired, some id, d.receipt⟩ h₁ := by
        rw [← acquired]
        exact g₁.subset reserved
      refine ensures_bind (ensures_egressReceipt c (cleared.mono sub₁) reserved₁ core
        executingStatus (noEgress'.grown isEffect_of_isEgress g₁)
        (noVerify'.grown isEffect_of_isVerify g₁)) ?_
      rintro h₂ receipt ⟨sub₂, settled, reached⟩
      refine ensures_request_bind ⟨rfl, ⟨d.receipt, sub₂ reserved₁⟩, settled, reached⟩ fun _ => ?_
      refine ensures_bind (ensures_resultFromReceipt c.permitted_free executing receipt false) ?_
      rintro h₃ result ⟨g₃, reports⟩
      refine ensures_bind (ensures_record c.permitted_free c.context result _) ?_
      rintro h₄ _ g₄
      have sub₄ := List.Subset.trans (List.subset_append_left h₂ _) (g₃.trans g₄).subset
      obtain ⟨e, there, egress⟩ := reached
      refine ensures_ret (.executed (sub₄ (sub₂ reserved₁)) rfl ⟨e, sub₄ there, egress⟩
        (settled.mono sub₄) { reports with core := reports.core.trans core })

/-- A refusal by a check that comes before the reservation. -/
theorem ensures_refusal (c : Call) {h : List GatewayEvent} (quiet : Without isEffect h)
    (reason : String) :
    Ensures c.Permitted c.Verdict h (reject c.context c.action reason) := by
  refine (ensures_reject c.permitted_free c.context c.action reason).mono ?_
  rintro h' result ⟨g, core, denied, rejected⟩
  exact .refused (quiet.grown (fun _ => id) g) core denied rejected

theorem ensures_executeApproved (c : Call) {h : List GatewayEvent} {tool : ResolvedToolVersion}
    (fits : c.Fits tool h) (granted : c.Granted tool h) (quiet : Without isEffect h) :
    Ensures c.Permitted c.Verdict h (executeApproved c.context c.action c.costUnits tool) := by
  refine ensures_request_bind trivial fun credential => ?_
  have quiet₁ := quiet.snoc (e := ⟨.issue c.context c.action tool, .ok credential⟩) rfl
  refine ensures_ite (fun _ => c.ensures_refusal quiet₁ _) fun scope => ?_
  refine ensures_request_bind trivial fun issuedAt => ?_
  have quiet₂ := quiet₁.snoc (e := ⟨.now, .ok issuedAt⟩) rfl
  refine ensures_ite (fun _ => c.ensures_refusal quiet₂ _) fun unexpired => ?_
  have sub := List.Subset.trans
    (List.subset_append_left h [⟨.issue c.context c.action tool, .ok credential⟩])
    (List.subset_append_left _ [⟨.now, .ok issuedAt⟩])
  have leased : c.Leased tool credential
      (h ++ [⟨.issue c.context c.action tool, .ok credential⟩] ++ [⟨.now, .ok issuedAt⟩]) :=
    { issued := List.mem_append_left _ List.mem_concat_self
      scope := not_not.mp scope
      unexpired := ⟨issuedAt, List.mem_concat_self, not_le.mp unexpired⟩ }
  exact c.ensures_executeReserved ⟨fits.mono sub, granted.mono sub, leased⟩ quiet₂

theorem ensures_executeAuthorized (c : Call) {h : List GatewayEvent}
    {tool : ResolvedToolVersion} (fits : c.Fits tool h) (quiet : Without isEffect h) :
    Ensures c.Permitted c.Verdict h
      (executeAuthorized c.context c.action c.approval c.costUnits tool) := by
  refine ensures_request_bind trivial fun decision => ?_
  have quiet₁ := quiet.snoc (e := ⟨.policy c.context c.action, .ok decision⟩) rfl
  refine ensures_ite (fun _ => c.ensures_refusal quiet₁ _) fun version => ?_
  refine ensures_ite (fun _ => c.ensures_refusal quiet₁ _) fun allowed => ?_
  refine ensures_request_bind trivial fun blocked => ?_
  have quiet₂ := quiet₁.snoc
    (e := ⟨.isBlocked (killSwitchQuery c.context c.action tool), .ok blocked⟩) rfl
  refine ensures_ite (fun _ => c.ensures_refusal quiet₂ _) fun unblocked => ?_
  have sub := List.Subset.trans
    (List.subset_append_left h [⟨.policy c.context c.action, .ok decision⟩])
    (List.subset_append_left _
      [⟨.isBlocked (killSwitchQuery c.context c.action tool), .ok blocked⟩])
  have asked : (⟨.policy c.context c.action, .ok decision⟩ : GatewayEvent) ∈
      h ++ [⟨.policy c.context c.action, .ok decision⟩] ++
        [⟨.isBlocked (killSwitchQuery c.context c.action tool), .ok blocked⟩] :=
    List.mem_append_left _ List.mem_concat_self
  have open_ : (⟨.isBlocked (killSwitchQuery c.context c.action tool), .ok false⟩ :
      GatewayEvent) ∈ h ++ [⟨.policy c.context c.action, .ok decision⟩] ++
        [⟨.isBlocked (killSwitchQuery c.context c.action tool), .ok blocked⟩] := by
    rw [Bool.not_eq_true] at unblocked
    rw [unblocked]
    exact List.mem_concat_self
  refine ensures_ite (fun required => ?_) fun free => ?_
  · refine ensures_bind
      (ensures_approvalIsExact c.permitted_free c.context c.action c.approval decision) ?_
    rintro h' exact_ ⟨g, approved⟩
    have quiet₃ := quiet₂.grown (fun _ => id) g
    refine ensures_ite (fun _ => c.ensures_refusal quiet₃ _) fun valid => ?_
    have granted : c.Granted tool h' :=
      { policy := ⟨decision, g.subset asked, by simpa using allowed, not_not.mp version,
          fun _ => approved (by simpa using valid)⟩
        unblocked := g.subset open_ }
    exact c.ensures_executeApproved (fits.mono (List.Subset.trans sub g.subset)) granted quiet₃
  · have granted : c.Granted tool _ :=
      { policy := ⟨decision, asked, by simpa using allowed, not_not.mp version,
          fun required => absurd required free⟩
        unblocked := open_ }
    exact c.ensures_executeApproved (fits.mono sub) granted quiet₂

/-- Every behaviour of the ports: effects come only as `Permitted` says, and a call
returns only as `Verdict` lists. -/
theorem ensures_execute (c : Call) : Ensures c.Permitted c.Verdict [] c.prog := by
  refine ensures_ite (fun _ => ensures_raise) fun _ => ?_
  refine ensures_ite (fun _ => ensures_raise) fun _ => ?_
  refine ensures_ite (fun _ => ensures_raise) fun _ => ?_
  refine ensures_attempt_bind (conforms_request.mpr ⟨trivial, fun ans => ?_⟩)
  have quiet₁ : Without isEffect
      ([] ++ [⟨.resolve c.action.toolName c.action.toolVersion, ans⟩]) := by
    intro e there
    rw [List.mem_singleton.mp there]
    rfl
  have resolved : (⟨.resolve c.action.toolName c.action.toolVersion, ans⟩ : GatewayEvent) ∈
      [] ++ [⟨.resolve c.action.toolName c.action.toolVersion, ans⟩] := List.mem_concat_self
  cases ans with
  | error e => exact ensures_ite (fun _ => c.ensures_refusal quiet₁ _) fun _ => ensures_raise
  | ok tool =>
    dsimp only
    refine ensures_ite (fun _ => c.ensures_refusal quiet₁ _) fun exactly => ?_
    generalize [] ++ [_] = h₁ at quiet₁ resolved ⊢
    refine ensures_request_bind trivial fun delegated => ?_
    have quiet₂ := quiet₁.snoc (e := ⟨.delegation c.context c.action tool, .ok delegated⟩) rfl
    refine ensures_ite (fun _ => c.ensures_refusal quiet₂ _) fun yes => ?_
    refine ensures_ite (fun _ => c.ensures_refusal quiet₂ _) fun operation => ?_
    refine ensures_ite (fun _ => c.ensures_refusal quiet₂ _) fun resource => ?_
    have asked : (⟨.delegation c.context c.action tool, .ok true⟩ : GatewayEvent) ∈
        h₁ ++ [⟨.delegation c.context c.action tool, .ok delegated⟩] := by
      simp only [Bool.not_eq_true', Bool.not_eq_false] at yes
      rw [yes]
      exact List.mem_concat_self
    refine ensures_attempt_bind (conforms_request.mpr ⟨trivial, fun ans => ?_⟩)
    have quiet₃ := quiet₂.snoc
      (e := ⟨.validate tool.inputSchema c.action.parameters, ans⟩) rfl
    cases ans with
    | error e => exact ensures_ite (fun _ => c.ensures_refusal quiet₃ _) fun _ => ensures_raise
    | ok accepted =>
      refine ensures_ite (fun _ => c.ensures_refusal quiet₃ _) fun risk => ?_
      refine ensures_ite (fun _ => c.ensures_refusal quiet₃ _) fun privileged => ?_
      refine c.ensures_executeAuthorized ?_ quiet₃
      simp only [Bool.or_eq_true, decide_eq_true_eq, not_or, not_not] at exactly
      simp only [Bool.not_eq_true', Bool.not_eq_false, List.any_eq_true] at resource
      simp only [Bool.and_eq_true, decide_eq_true_eq, Bool.not_eq_true', not_and,
        Bool.not_eq_false] at privileged
      exact {
        resolved := List.mem_append_left _ (List.mem_append_left _ resolved)
        exactly := exactly
        delegated := List.mem_append_left _ asked
        operation := not_not.mp operation
        resource := resource
        schema := List.mem_concat_self
        risk := not_not.mp risk
        privileged := privileged }

variable {c : Call} {h : List GatewayEvent} {q : GatewayProg GatewayResult}

/-- A call about to be made by a run. -/
theorem permitted_next {r : GatewayReq} {k : Except Exc (GatewayResp r) → GatewayProg GatewayResult}
    (run : Exec c.prog h (.call r k)) : c.Permitted h r :=
  (conforms_exec c.ensures_execute.conforms run).1

/-- A call a run has made. -/
theorem permitted_past (run : Exec c.prog h q) {before after : List GatewayEvent}
    {e : GatewayEvent} (split : h = before ++ e :: after) : c.Permitted before e.req :=
  conforms_past c.ensures_execute.conforms run split

theorem verdict_of_returned {result : GatewayResult} (run : Exec c.prog h (.ret result)) :
    c.Verdict h result :=
  conforms_exec c.ensures_execute.conforms run result rfl

omit [Sha256] in
/-- Two events of a kind that is only permitted when none is there yet are the same. -/
theorem unique_of_without {kind : GatewayReq → Bool}
    (first : ∀ before e after, h = before ++ e :: after → kind e.req = true →
      Without kind before) {e e' : GatewayEvent} (there : e ∈ h) (there' : e' ∈ h)
    (isKind : kind e.req = true) (isKind' : kind e'.req = true) : e = e' := by
  obtain ⟨before, after, split⟩ := List.append_of_mem there
  rw [split] at there'
  rcases List.mem_append.mp there' with earlier | later
  · have none := first before e after split isKind e' earlier
    rw [isKind'] at none
    cases none
  · rcases List.mem_cons.mp later with same | after'
    · exact same.symm
    · obtain ⟨mid, rest, split'⟩ := List.append_of_mem after'
      rw [split', ← List.cons_append, ← List.append_assoc] at split
      have none := first (before ++ e :: mid) e' rest split isKind' e (by simp)
      rw [isKind] at none
      cases none

theorem without_before_egress (run : Exec c.prog h q) {before after : List GatewayEvent}
    {e : GatewayEvent} (split : h = before ++ e :: after) (kind : isEgress e.req = true) :
    Without isEgress before := by
  have permitted := permitted_past run split
  obtain ⟨r, ans⟩ := e
  cases r with
  | egressExecute => exact permitted.2.2.2.2
  | _ => cases kind

theorem without_before_verify (run : Exec c.prog h q) {before after : List GatewayEvent}
    {e : GatewayEvent} (split : h = before ++ e :: after) (kind : isVerify e.req = true) :
    Without isVerify before := by
  have permitted := permitted_past run split
  obtain ⟨r, ans⟩ := e
  cases r with
  | egressVerify => exact permitted.2.2
  | _ => cases kind

/-- A run reaches the egress port at most once. -/
theorem egress_unique (run : Exec c.prog h q) {e e' : GatewayEvent} (there : e ∈ h)
    (there' : e' ∈ h) (kind : isEgress e.req = true) (kind' : isEgress e'.req = true) : e = e' :=
  unique_of_without (fun _ _ _ => without_before_egress run) there there' kind kind'

theorem verify_unique (run : Exec c.prog h q) {e e' : GatewayEvent} (there : e ∈ h)
    (there' : e' ∈ h) (kind : isVerify e.req = true) (kind' : isVerify e'.req = true) : e = e' :=
  unique_of_without (fun _ _ _ => without_before_verify run) there there' kind kind'

/-- A side effect is attempted only behind every guard, answered in the same call, and an
acquired reservation. A call that returns without one denies the Action, unless the
reservation was answered: in doubt it reports `UNKNOWN`, from a stored receipt that receipt. -/
theorem execute_guarded (c : Call) :
    (∀ h a tool credential k, Exec c.prog h (.call (.egressExecute a tool credential) k) →
      c.Cleared tool credential h ∧ (∃ id receipt, c.Reserved ⟨.acquired, some id, receipt⟩ h) ∧
      a.core = c.action.core ∧ a.status = .executing) ∧
    (∀ h result, Exec c.prog h (.ret result) → Without isEgress h →
      result.action.core = c.action.core ∧
      ((Without isReserve h ∨ ∃ d, c.Reserved d h ∧ d.status = .budgetExhausted) ∧
          result.action.status = .denied ∧ result.receipt.status = .rejected ∨
        (∃ d, c.Reserved d h ∧ (d.status = .inProgress ∨ d.status = .unknown)) ∧
          result.action.status = .unknown ∧ result.receipt.status = .unknown ∨
        ∃ d receipt, c.Reserved d h ∧ d.status = .cached ∧ d.receipt = some receipt ∧
          result.receipt = receipt ∧ result.action.status = receiptTarget receipt.status)) := by
  constructor
  · intro h a tool credential k run
    obtain ⟨cleared, acquired, core, status, _⟩ := permitted_next run
    exact ⟨cleared, acquired, core, status⟩
  · intro h result run without
    cases verdict_of_returned run with
    | refused quiet core denied rejected =>
      have noReserve := Without.of_quiet isEffect_of_isReserve quiet
      exact ⟨core, Or.inl ⟨Or.inl noReserve, denied, rejected⟩⟩
    | exhausted reserved status _ core denied rejected =>
      exact ⟨core, Or.inl ⟨Or.inr ⟨_, reserved, status⟩, denied, rejected⟩⟩
    | unsettled reserved status _ core unknown receipt =>
      exact ⟨core, Or.inr (Or.inl ⟨⟨_, reserved, status⟩, unknown, receipt⟩)⟩
    | replayed reserved status stored _ reports =>
      exact ⟨reports.core, Or.inr (Or.inr
        ⟨_, _, reserved, status, stored, reports.receipt_eq, reports.status⟩)⟩
    | executed _ _ reached =>
      obtain ⟨e, there, egress⟩ := reached
      rw [without e there] at egress
      cases egress

end Autonoesis.Gateway.Call

namespace Autonoesis.Gateway.Sample
open Base Prog

/-- Sends one mail; the Action the examples below execute. -/
def action : Action where
  tenantId := 1
  runId := 2
  taskId := 3
  toolName := "mail"
  toolVersion := "1.0.0"
  operation := "send"
  resourceScope := "mailbox/ops"
  parameters := ⟨"\x7b\x7d", JsonObject.empty_valid⟩
  riskLevel := .l2ReversibleWrite
  idempotencyKey := "mail-1"
  expectedEffect := "mail sent"
  actionId := 4
  valid := by decide

/-- SHA-256 on the two texts of this Action: its parameters and its canonical form. -/
@[reducible] def sha256 : Sha256 where
  hexdigest text :=
    if text = "\x7b\x7d"
    then "44136fa355b3678a1146ad16f7e8649e94fb4fc21fe77e8310c060f61caaff8a"
    else "f8aec94028a1de583b63ca7128e7a8cdebe9f3c356a02010aef44e02f4cd8cfc"

def context : AuthorizationContext where
  tenantId := Uuid.str 1
  actorId := Uuid.str 5
  principalId := Uuid.str 6
  agentId := "agent"
  roles := []
  policyVersion := "p1"

def tool : ResolvedToolVersion where
  toolName := "mail"
  version := "1.0.0"
  provider := "smtp"
  operations := ["send"]
  resourcePrefixes := ["mailbox/"]
  inputSchema := .obj []
  riskLevel := .l2ReversibleWrite
  credentialScope := "mail.send"

def credential : CredentialLease := ⟨"lease", "mail.send", 100⟩

def call : Call := ⟨false, context, action, none, 1⟩

/-- Ports that let the sample Action through to a mail that is sent and verified. -/
def answers : (r : GatewayReq) → Except Exc (GatewayResp r)
  | .resolve .. => .ok tool
  | .delegation .. => .ok true
  | .validate .. => .ok ()
  | .policy .. => .ok ⟨true, false, "", "p1"⟩
  | .isBlocked .. => .ok false
  | .issue .. => .ok credential
  | .reserve .. => .ok ⟨.acquired, some "r1", none⟩
  | .complete .. => .ok ()
  | .egressExecute .. => .ok ⟨"msg-7", .succeeded, []⟩
  | .egressVerify .. => .ok true
  | .audit .. => .ok ()
  | .now => .ok 10

/-- The same ports with the kill switch on. -/
def blockedAnswers : (r : GatewayReq) → Except Exc (GatewayResp r)
  | .isBlocked .. => .ok true
  | r => answers r

/-- The sample call passes the guards to the egress port, and is denied there when the
kill switch is on. -/
theorem execute_guarded_sample :
    let _ := sha256
    (∃ h a k, Exec call.prog h (.call (.egressExecute a tool credential) k) ∧
      call.Cleared tool credential h) ∧
    ∃ h result, Exec call.prog h (.ret result) ∧ Without isEgress h ∧
      result.action.core = action.core ∧ result.action.status = .denied := by
  intro _
  constructor
  · obtain ⟨a, k, egress⟩ : ∃ a k, (replay answers 10 [] call.prog).2 =
        .call (.egressExecute a tool credential) k := ⟨_, _, rfl⟩
    have run := replay_exec answers (Exec.start call.prog) 10
    rw [egress] at run
    exact ⟨_, a, k, run, (call.execute_guarded.1 _ _ _ _ _ run).1⟩
  · obtain ⟨result, returned, denied⟩ : ∃ result,
        (replay blockedAnswers 20 [] call.prog).2 = .ret result ∧
          result.action.status = .denied := ⟨_, rfl, rfl⟩
    have run := replay_exec blockedAnswers (Exec.start call.prog) 20
    have without : Without isEgress (replay blockedAnswers 20 [] call.prog).1 := by decide
    rw [returned] at run
    exact ⟨_, result, run, without, (call.execute_guarded.2 _ _ run without).1, denied⟩

end Autonoesis.Gateway.Sample
