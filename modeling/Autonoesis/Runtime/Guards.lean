import Autonoesis.Runtime.Tools

/-! The terms in which a call of the gateway is specified: the guards it has seen
answered, the receipt its egress answers settle on and the ways it returns; and what the
gateway's helper programs contribute to them. -/

namespace Autonoesis.Gateway
open Base Prog

/-- The calls with an effect outside the gateway's own checks. -/
def isEffect : GatewayReq → Bool
  | .reserve .. | .complete .. | .egressExecute .. | .egressVerify .. => true
  | _ => false

def isReserve : GatewayReq → Bool
  | .reserve .. => true
  | _ => false

def isEgress : GatewayReq → Bool
  | .egressExecute .. => true
  | _ => false

def isVerify : GatewayReq → Bool
  | .egressVerify .. => true
  | _ => false

/-- `h'` continues `h` without an effect. -/
def Grown (h h' : List GatewayEvent) : Prop :=
  ∃ new, h' = h ++ new ∧ ∀ e ∈ new, isEffect e.req = false

theorem Grown.refl (h : List GatewayEvent) : Grown h h := ⟨[], by simp, by simp⟩

theorem Grown.trans {h h' h'' : List GatewayEvent} (a : Grown h h') (b : Grown h' h'') :
    Grown h h'' := by
  obtain ⟨new, rfl, quiet⟩ := a
  obtain ⟨more, rfl, quiet'⟩ := b
  refine ⟨new ++ more, by simp, fun e there => ?_⟩
  rcases List.mem_append.mp there with first | second
  · exact quiet e first
  · exact quiet' e second

theorem Grown.snoc {h : List GatewayEvent} {e : GatewayEvent} (quiet : isEffect e.req = false) :
    Grown h (h ++ [e]) :=
  ⟨[e], rfl, by simpa⟩

theorem Grown.subset {h h' : List GatewayEvent} (g : Grown h h') : h ⊆ h' := by
  obtain ⟨new, rfl, _⟩ := g
  exact List.subset_append_left h new

/-- An effect after a growth was there before it. -/
theorem Grown.effect {h h' : List GatewayEvent} (g : Grown h h') {e : GatewayEvent}
    (there : e ∈ h') (effect : isEffect e.req = true) : e ∈ h := by
  obtain ⟨new, rfl, quiet⟩ := g
  rcases List.mem_append.mp there with old | added
  · exact old
  · rw [quiet e added] at effect
    cases effect

/-- A kind of call that a history does not contain. -/
def Without (kind : GatewayReq → Bool) (h : List GatewayEvent) : Prop :=
  ∀ e ∈ h, kind e.req = false

instance (kind : GatewayReq → Bool) (h : List GatewayEvent) : Decidable (Without kind h) :=
  inferInstanceAs (Decidable (∀ e ∈ h, kind e.req = false))

theorem Without.grown {kind : GatewayReq → Bool} (effects : ∀ r, kind r = true → isEffect r = true)
    {h h' : List GatewayEvent} (w : Without kind h) (g : Grown h h') : Without kind h' := by
  intro e there
  cases isKind : kind e.req with
  | false => rfl
  | true =>
    have old := w e (g.effect there (effects _ isKind))
    rw [isKind] at old
    cases old

theorem Without.snoc {kind : GatewayReq → Bool} {h : List GatewayEvent} (w : Without kind h)
    {e : GatewayEvent} (other : kind e.req = false) : Without kind (h ++ [e]) := by
  intro e' there
  rcases List.mem_append.mp there with old | added
  · exact w e' old
  · rw [List.mem_singleton.mp added]
    exact other

theorem Without.of_quiet {kind : GatewayReq → Bool}
    (effects : ∀ r, kind r = true → isEffect r = true) {h : List GatewayEvent}
    (quiet : Without isEffect h) : Without kind h := by
  intro e there
  cases isKind : kind e.req with
  | false => rfl
  | true =>
    have none := quiet e there
    rw [effects _ isKind] at none
    cases none

theorem isEffect_of_isReserve (r : GatewayReq) (h : isReserve r = true) : isEffect r = true := by
  cases r <;> first | rfl | cases h

theorem isEffect_of_isEgress (r : GatewayReq) (h : isEgress r = true) : isEffect r = true := by
  cases r <;> first | rfl | cases h

theorem isEffect_of_isVerify (r : GatewayReq) (h : isVerify r = true) : isEffect r = true := by
  cases r <;> first | rfl | cases h

/-- A result that reports `receipt` for `action`, with the status the receipt maps to. -/
structure Reports (result : GatewayResult) (action : Action)
    (receipt : ToolReceipt) (cached : Bool) : Prop where
  core : result.action.core = action.core
  status : result.action.status = receiptTarget receipt.status
  receipt_eq : result.receipt = receipt
  cached_eq : result.cached = cached

section Helpers
variable {P : List GatewayEvent → GatewayReq → Prop}
  (free : ∀ h r, isEffect r = false → P h r) {h : List GatewayEvent}
include free

theorem ensures_transition (action : Action) (target : ActionStatus) :
    Ensures P (fun h' moved => Grown h h' ∧ moved.core = action.core ∧ moved.status = target) h
      (transition action target) := by
  refine ensures_request_bind (free _ _ rfl) fun t => ensures_ofExcept fun moved done => ?_
  obtain ⟨_, fields⟩ := Action.transitionTo_ok done
  exact ⟨Grown.snoc rfl, by rw [fields]; rfl, by rw [fields]; rfl⟩

theorem ensures_toExecuting (action : Action) :
    Ensures P (fun h' moved => Grown h h' ∧ moved.core = action.core ∧ moved.status = .executing)
      h (toExecuting action) := by
  refine ensures_bind (ensures_transition free action .authorized) ?_
  rintro h' authorized ⟨g, core, _⟩
  refine (ensures_transition free authorized .executing).mono ?_
  rintro h'' executing ⟨g', core', status⟩
  exact ⟨g.trans g', core'.trans core, status⟩

variable [Sha256]

theorem ensures_record (context : AuthorizationContext) (result : GatewayResult)
    (reason : String) :
    Ensures P (fun h' _ => Grown h h') h (record context result reason) := by
  refine ensures_request_bind (free _ _ rfl) fun t => ?_
  refine ⟨conforms_request.mpr ⟨free _ _ rfl, fun ans _ _ => ?_⟩⟩
  exact (Grown.snoc rfl).trans (Grown.snoc rfl)

theorem ensures_reject (context : AuthorizationContext) (action : Action) (reason : String) :
    Ensures P (fun h' result => Grown h h' ∧ result.action.core = action.core ∧
      result.action.status = .denied ∧ result.receipt.status = .rejected) h
      (reject context action reason) := by
  refine ensures_bind (ensures_transition free action .denied) ?_
  rintro h' denied ⟨g, core, status⟩
  refine ensures_bind (ensures_record free context _ reason) ?_
  rintro h'' _ g'
  exact ensures_ret ⟨g.trans g', core, status, rfl⟩

theorem ensures_unknown (context : AuthorizationContext) (action : Action) (reason : String) :
    Ensures P (fun h' result => Grown h h' ∧ result.action.core = action.core ∧
      result.action.status = .unknown ∧ result.receipt.status = .unknown) h
      (unknown context action reason) := by
  refine ensures_bind (ensures_toExecuting free action) ?_
  rintro h₁ executing ⟨g₁, core₁, _⟩
  refine ensures_bind (ensures_transition free executing .unknown) ?_
  rintro h₂ settled ⟨g₂, core₂, status⟩
  refine ensures_bind (ensures_record free context _ reason) ?_
  rintro h₃ _ g₃
  exact ensures_ret ⟨(g₁.trans g₂).trans g₃, core₂.trans core₁, status, rfl⟩

omit [Sha256] in
theorem ensures_resultFromReceipt (action : Action) (receipt : ToolReceipt) (cached : Bool) :
    Ensures P (fun h' result => Grown h h' ∧ Reports result action receipt cached) h
      (resultFromReceipt action receipt cached) := by
  have settle : ∀ h₁ (moved : Action), Grown h h₁ → moved.core = action.core →
      Ensures P (fun h' result => Grown h h' ∧ Reports result action receipt cached) h₁ (do
        let settled ← transition moved (receiptTarget receipt.status)
        return (⟨settled, receipt, cached⟩ : GatewayResult)) := by
    intro h₁ moved g₁ core₁
    refine ensures_bind (ensures_transition free moved (receiptTarget receipt.status)) ?_
    rintro h₂ settled ⟨g₂, core₂, status⟩
    exact ensures_ret ⟨g₁.trans g₂, core₂.trans core₁, status, rfl, rfl⟩
  refine ensures_ite (fun _ => ?_) fun _ => settle h action (Grown.refl h) rfl
  refine ensures_bind (ensures_toExecuting free action) ?_
  rintro h₁ moved ⟨g₁, core₁, _⟩
  exact settle h₁ moved g₁ core₁

end Helpers

variable [Sha256]

/-- An approval that covers exactly this Action under this policy version, by two
readings of the clock. -/
structure Exact (context : AuthorizationContext) (action : Action) (approval : ApprovalRequest)
    (decision : PolicyDecision) (h : List GatewayEvent) : Prop where
  decided : approval.status = .approved ∧ approval.decidedBy.isSome
  role : isBlank approval.requiredRole = false
  version : approval.policyVersion = decision.policyVersion
  current : context.policyVersion = decision.policyVersion
  unexpired : ∃ readAt, (⟨.now, .ok readAt⟩ : GatewayEvent) ∈ h ∧ readAt < approval.expiresAt
  bound : ∃ readAt, (⟨.now, .ok readAt⟩ : GatewayEvent) ∈ h ∧
    approval.authorizes action decision.policyVersion readAt = true

theorem ensures_approvalIsExact {P : List GatewayEvent → GatewayReq → Prop}
    (free : ∀ h r, isEffect r = false → P h r) {h : List GatewayEvent}
    (context : AuthorizationContext) (action : Action) (approval : Option ApprovalRequest)
    (decision : PolicyDecision) :
    Ensures P (fun h' exact => Grown h h' ∧ (exact = true →
      ∃ a, approval = some a ∧ Exact context action a decision h')) h
      (approvalIsExact context action approval decision) := by
  cases approval with
  | none => exact ensures_ret ⟨Grown.refl h, nofun⟩
  | some a =>
    refine ensures_ite (fun _ => ensures_ret ⟨Grown.refl h, nofun⟩) fun decided => ?_
    refine ensures_request_bind (free _ _ rfl) fun readAt => ?_
    refine ensures_ite (fun _ => ensures_ret ⟨Grown.snoc rfl, nofun⟩) fun fresh => ?_
    refine ensures_request_bind (free _ _ rfl) fun authorizedAt => ?_
    refine ensures_ret ⟨(Grown.snoc rfl).trans (Grown.snoc rfl), fun exact => ⟨a, rfl, ?_⟩⟩
    simp only [Bool.or_eq_true, decide_eq_true_eq, not_or, not_not, Bool.not_eq_true] at decided
    simp only [Bool.or_eq_true, decide_eq_true_eq, not_or, not_not, not_le] at fresh
    simp only [Bool.and_eq_true, decide_eq_true_eq] at exact
    exact {
      decided := ⟨decided.1.1, by simpa [Option.isSome_iff_ne_none] using decided.1.2⟩
      role := decided.2
      version := fresh.2
      current := exact.2
      unexpired := ⟨readAt, by simp, fresh.1⟩
      bound := ⟨authorizedAt, by simp, exact.1⟩ }

theorem Exact.mono {context : AuthorizationContext} {action : Action}
    {approval : ApprovalRequest} {decision : PolicyDecision} {h h' : List GatewayEvent}
    (sub : h ⊆ h') (x : Exact context action approval decision h) :
    Exact context action approval decision h' where
  decided := x.decided
  role := x.role
  version := x.version
  current := x.current
  unexpired := let ⟨t, there, past⟩ := x.unexpired; ⟨t, sub there, past⟩
  bound := let ⟨t, there, exact⟩ := x.bound; ⟨t, sub there, exact⟩

/-- The arguments of one call of `execute`. -/
structure Call where
  allowL4 : Bool
  context : AuthorizationContext
  action : Action
  approval : Option ApprovalRequest
  costUnits : Int

namespace Call

def prog (c : Call) : GatewayProg GatewayResult :=
  execute c.allowL4 c.context c.action c.approval c.costUnits

def reservation (c : Call) : ExecutionReservation := reservationRequest c.action c.costUnits

/-- The guards that rest on the resolved tool version. -/
structure Fits (c : Call) (tool : ResolvedToolVersion) (h : List GatewayEvent) : Prop where
  resolved : (⟨.resolve c.action.toolName c.action.toolVersion, .ok tool⟩ : GatewayEvent) ∈ h
  exactly : tool.toolName = c.action.toolName ∧ tool.version = c.action.toolVersion
  delegated : (⟨.delegation c.context c.action tool, .ok true⟩ : GatewayEvent) ∈ h
  operation : c.action.operation ∈ tool.operations
  resource : ∃ pre ∈ tool.resourcePrefixes, startsWith c.action.resourceScope pre = true
  schema : (⟨.validate tool.inputSchema c.action.parameters, .ok ()⟩ : GatewayEvent) ∈ h
  risk : c.action.riskLevel = tool.riskLevel
  privileged : tool.riskLevel = .l4Privileged → c.allowL4 = true

/-- The guards that rest on the policy decision. -/
structure Granted (c : Call) (tool : ResolvedToolVersion) (h : List GatewayEvent) : Prop where
  policy : ∃ decision, (⟨.policy c.context c.action, .ok decision⟩ : GatewayEvent) ∈ h ∧
    decision.allowed = true ∧ decision.policyVersion = c.context.policyVersion ∧
    (decision.requiresApproval = true →
      ∃ a, c.approval = some a ∧ Exact c.context c.action a decision h)
  unblocked : (⟨.isBlocked (killSwitchQuery c.context c.action tool), .ok false⟩ :
    GatewayEvent) ∈ h

/-- The credential guard. -/
structure Leased (c : Call) (tool : ResolvedToolVersion) (credential : CredentialLease)
    (h : List GatewayEvent) : Prop where
  issued : (⟨.issue c.context c.action tool, .ok credential⟩ : GatewayEvent) ∈ h
  scope : credential.scope = tool.credentialScope
  unexpired : ∃ readAt, (⟨.now, .ok readAt⟩ : GatewayEvent) ∈ h ∧ readAt < credential.expiresAt

/-- Every guard before the reservation, as this call has seen it answered. -/
structure Cleared (c : Call) (tool : ResolvedToolVersion) (credential : CredentialLease)
    (h : List GatewayEvent) : Prop where
  fits : c.Fits tool h
  granted : c.Granted tool h
  leased : c.Leased tool credential h

omit [Sha256] in
theorem Fits.mono {c : Call} {tool : ResolvedToolVersion} {h h' : List GatewayEvent}
    (sub : h ⊆ h') (x : c.Fits tool h) : c.Fits tool h' :=
  { x with
    resolved := sub x.resolved
    delegated := sub x.delegated
    schema := sub x.schema }

theorem Granted.mono {c : Call} {tool : ResolvedToolVersion} {h h' : List GatewayEvent}
    (sub : h ⊆ h') (x : c.Granted tool h) : c.Granted tool h' where
  policy := by
    obtain ⟨decision, there, allowed, version, approved⟩ := x.policy
    refine ⟨decision, sub there, allowed, version, fun required => ?_⟩
    obtain ⟨a, given, exact⟩ := approved required
    exact ⟨a, given, exact.mono sub⟩
  unblocked := sub x.unblocked

theorem Cleared.mono {c : Call} {tool : ResolvedToolVersion} {credential : CredentialLease}
    {h h' : List GatewayEvent} (sub : h ⊆ h') (x : c.Cleared tool credential h) :
    c.Cleared tool credential h' where
  fits := x.fits.mono sub
  granted := x.granted.mono sub
  leased := { x.leased with
    issued := sub x.leased.issued
    unexpired := let ⟨t, there, past⟩ := x.leased.unexpired; ⟨t, sub there, past⟩ }

/-- The call reserved and was answered `decision`. -/
def Reserved (c : Call) (decision : ReservationDecision) (h : List GatewayEvent) : Prop :=
  (⟨.reserve c.reservation, .ok decision⟩ : GatewayEvent) ∈ h

/-- Which receipt the egress answers in the history settle on. -/
inductive Settled (h : List GatewayEvent) : ToolReceipt → Prop
  | verified {a tool credential receipt}
      (executed : (⟨.egressExecute a tool credential, .ok receipt⟩ : GatewayEvent) ∈ h)
      (succeeded : receipt.status = .succeeded)
      (checked : (⟨.egressVerify a tool receipt, .ok true⟩ : GatewayEvent) ∈ h) :
      Settled h receipt
  | unverified {a tool credential receipt}
      (executed : (⟨.egressExecute a tool credential, .ok receipt⟩ : GatewayEvent) ∈ h)
      (succeeded : receipt.status = .succeeded)
      (checked : (⟨.egressVerify a tool receipt, .ok false⟩ : GatewayEvent) ∈ h) :
      Settled h ⟨receipt.externalId, .unknown, receipt.output⟩
  | accepted {a tool credential receipt}
      (executed : (⟨.egressExecute a tool credential, .ok receipt⟩ : GatewayEvent) ∈ h)
      (accepted : receipt.status = .accepted) : Settled h receipt
  | other {a tool credential receipt}
      (executed : (⟨.egressExecute a tool credential, .ok receipt⟩ : GatewayEvent) ∈ h)
      (notSucceeded : receipt.status ≠ .succeeded) (notAccepted : receipt.status ≠ .accepted) :
      Settled h receipt
  | timedOut {r e} (kind : isEgress r = true ∨ isVerify r = true)
      (raised : (⟨r, .error e⟩ : GatewayEvent) ∈ h) (timeout : e.isA .timeoutError = true) :
      Settled h ⟨"", .unknown, [("reason", "egress_timeout")]⟩
  | failed {r e} (kind : isEgress r = true ∨ isVerify r = true)
      (raised : (⟨r, .error e⟩ : GatewayEvent) ∈ h) (timeout : e.isA .timeoutError = false)
      (caught : e.isA .exception = true) : Settled h ⟨"", .failed, [("reason", e.name)]⟩

omit [Sha256] in
theorem Settled.mono {h h' : List GatewayEvent} (sub : h ⊆ h') {receipt : ToolReceipt}
    (x : Settled h receipt) : Settled h' receipt := by
  cases x with
  | verified executed succeeded checked => exact .verified (sub executed) succeeded (sub checked)
  | unverified executed succeeded checked =>
    exact .unverified (sub executed) succeeded (sub checked)
  | accepted executed accepted => exact .accepted (sub executed) accepted
  | other executed notSucceeded notAccepted => exact .other (sub executed) notSucceeded notAccepted
  | timedOut kind raised timeout => exact .timedOut kind (sub raised) timeout
  | failed kind raised timeout caught => exact .failed kind (sub raised) timeout caught

/-- What a call with an effect may be, given the calls answered before it. -/
def Permitted (c : Call) (h : List GatewayEvent) : GatewayReq → Prop
  | .reserve request => request = c.reservation ∧ Without isReserve h
  | .egressExecute a tool credential =>
    c.Cleared tool credential h ∧ (∃ id receipt, c.Reserved ⟨.acquired, some id, receipt⟩ h) ∧
      a.core = c.action.core ∧ a.status = .executing ∧ Without isEgress h
  | .egressVerify a tool receipt =>
    (∃ credential, (⟨.egressExecute a tool credential, .ok receipt⟩ : GatewayEvent) ∈ h) ∧
      receipt.status = .succeeded ∧ Without isVerify h
  | .complete tenantId id receipt =>
    tenantId = c.action.tenantId.str ∧ (∃ old, c.Reserved ⟨.acquired, some id, old⟩ h) ∧
      Settled h receipt ∧ ∃ e ∈ h, isEgress e.req = true
  | _ => True

theorem permitted_free (c : Call) (h : List GatewayEvent) (r : GatewayReq)
    (quiet : isEffect r = false) : c.Permitted h r := by
  cases r <;> trivial

/-- The ways a call returns. -/
inductive Verdict (c : Call) (h : List GatewayEvent) (result : GatewayResult) : Prop
  | refused (quiet : Without isEffect h) (core : result.action.core = c.action.core)
      (denied : result.action.status = .denied) (rejected : result.receipt.status = .rejected)
  | exhausted {d} (reserved : c.Reserved d h) (status : d.status = .budgetExhausted)
      (quiet : Without isEgress h) (core : result.action.core = c.action.core)
      (denied : result.action.status = .denied) (rejected : result.receipt.status = .rejected)
  | unsettled {d} (reserved : c.Reserved d h)
      (status : d.status = .inProgress ∨ d.status = .unknown)
      (quiet : Without isEgress h) (core : result.action.core = c.action.core)
      (unknown : result.action.status = .unknown) (receipt : result.receipt.status = .unknown)
  | replayed {d receipt} (reserved : c.Reserved d h) (status : d.status = .cached)
      (stored : d.receipt = some receipt) (quiet : Without isEgress h)
      (reports : Reports result c.action receipt true)
  | executed {d receipt} (reserved : c.Reserved d h) (status : d.status = .acquired)
      (reached : ∃ e ∈ h, isEgress e.req = true) (settled : Settled h receipt)
      (reports : Reports result c.action receipt false)

/-- Whatever a call returns is the Action it was given, moved on. -/
theorem Verdict.core {c : Call} {h : List GatewayEvent} {result : GatewayResult}
    (v : c.Verdict h result) : result.action.core = c.action.core := by
  cases v with
  | refused _ core => exact core
  | exhausted _ _ _ core => exact core
  | unsettled _ _ _ core => exact core
  | replayed _ _ _ _ reports => exact reports.core
  | executed _ _ _ _ reports => exact reports.core

end Call

end Autonoesis.Gateway
