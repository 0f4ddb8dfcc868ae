import Mathlib.Logic.Relation
import Autonoesis.Runtime.Guards

/-! What the gateway makes of an Action: whichever way a call returns, it has taken one legal
transition or more. -/

namespace Autonoesis
open Base

/-- One or more legal transitions of an Action. -/
def Action.Moves : Action → Action → Prop :=
  Relation.TransGen fun action action' =>
    ∃ target actorId reason at_, action.transitionTo target actorId reason at_ = .ok action'

namespace Gateway
open Prog

/-- No call is excluded. -/
def AnyCall (_ : List GatewayEvent) (_ : GatewayReq) : Prop := True

/-- Whatever the ports answer, a program that returns has moved the Action on. -/
def Moving {α : Type} (action : Action) (moved : α → Action) (h : List GatewayEvent)
    (p : GatewayProg α) : Prop :=
  Ensures AnyCall (fun _ a => action.Moves (moved a)) h p

variable {h : List GatewayEvent} {action : Action}

theorem transition_moving {current : Action}
    (past : current = action ∨ action.Moves current) (target : ActionStatus) :
    Moving action id h (transition current target) := by
  refine ensures_request_bind trivial fun t => ensures_ofExcept fun moved done => ?_
  rcases past with rfl | past
  · exact .single ⟨_, _, _, _, done⟩
  · exact past.tail ⟨_, _, _, _, done⟩

theorem toExecuting_moving {current : Action}
    (past : current = action ∨ action.Moves current) :
    Moving action id h (toExecuting current) :=
  ensures_bind (transition_moving past .authorized) fun _ _ moved =>
    transition_moving (.inr moved) .executing

theorem resultFromReceipt_moving {current : Action}
    (past : current = action ∨ action.Moves current) (receipt : ToolReceipt) (cached : Bool) :
    Moving action (·.action) h (resultFromReceipt current receipt cached) := by
  have settle : ∀ h (current : Action), (current = action ∨ action.Moves current) →
      Moving action (·.action) h (do
        let settled ← transition current (receiptTarget receipt.status)
        return (⟨settled, receipt, cached⟩ : GatewayResult)) := fun _ _ past =>
    ensures_bind (transition_moving past _) fun _ _ moved => ensures_ret moved
  refine ensures_ite (fun _ => ?_) fun _ => settle h current past
  exact ensures_bind (toExecuting_moving past) fun _ _ moved => settle _ _ (.inr moved)

/-- The egress call returns a receipt, whatever it is. -/
theorem egressReceipt_any (executing : Action) (tool : ResolvedToolVersion)
    (credential : CredentialLease) :
    Ensures AnyCall (fun _ _ => True) h (egressReceipt executing tool credential) := by
  have handled : ∀ (h : List GatewayEvent) (e : Exc),
      Ensures AnyCall (fun _ (_ : ToolReceipt) => True) h
        (if e.isA .timeoutError then pure ⟨"", .unknown, [("reason", "egress_timeout")]⟩
          else if e.isA .exception then pure ⟨"", .failed, [("reason", e.name)]⟩
          else raise e) := fun _ _ =>
    ensures_ite (fun _ => ensures_ret trivial) fun _ =>
      ensures_ite (fun _ => ensures_ret trivial) fun _ => ensures_raise
  refine ensures_attempt_bind (conforms_bind.mpr (conforms_request.mpr ⟨trivial, fun ans => ?_⟩))
  cases ans with
  | error e => exact handled _ e
  | ok receipt =>
    dsimp only
    split
    · refine conforms_bind.mpr (conforms_request.mpr ⟨trivial, fun checked => ?_⟩)
      cases checked with
      | error e => exact handled _ e
      | ok valid => cases valid <;> exact ensures_ret trivial
    · split <;> exact ensures_ret trivial

section
variable [Sha256]

theorem record_any (context : AuthorizationContext) (result : GatewayResult) (reason : String) :
    Ensures AnyCall (fun _ _ => True) h (record context result reason) := by
  refine ensures_request_bind trivial fun t => ?_
  exact ⟨conforms_request.mpr ⟨trivial, fun _ _ _ => trivial⟩⟩

theorem reject_moving (context : AuthorizationContext) (reason : String) :
    Moving action (·.action) h (reject context action reason) :=
  ensures_bind (transition_moving (.inl rfl) .denied) fun _ _ moved =>
    ensures_bind (record_any context _ reason) fun _ _ _ => ensures_ret moved

theorem unknown_moving (context : AuthorizationContext) (reason : String) :
    Moving action (·.action) h (unknown context action reason) :=
  ensures_bind (toExecuting_moving (.inl rfl)) fun _ _ moved =>
    ensures_bind (transition_moving (.inr moved) .unknown) fun _ _ moved =>
      ensures_bind (record_any context _ reason) fun _ _ _ => ensures_ret moved

theorem executeReserved_moving (context : AuthorizationContext) (costUnits : Int)
    (tool : ResolvedToolVersion) (credential : CredentialLease) :
    Moving action (·.action) h (executeReserved context action costUnits tool credential) := by
  refine ensures_request_bind trivial fun d => ?_
  cases d.status with
  | conflict => exact ensures_raise
  | budgetExhausted => exact reject_moving context _
  | inProgress => exact unknown_moving context _
  | unknown => exact unknown_moving context _
  | cached =>
    cases d.receipt with
    | none => exact ensures_raise
    | some receipt =>
      exact ensures_bind (resultFromReceipt_moving (.inl rfl) receipt true) fun _ _ moved =>
        ensures_bind (record_any context _ _) fun _ _ _ => ensures_ret moved
  | acquired =>
    cases d.reservationId with
    | none => exact ensures_raise
    | some id =>
      refine ensures_bind (toExecuting_moving (.inl rfl)) fun _ executing moved => ?_
      refine ensures_bind (egressReceipt_any executing tool credential) fun _ receipt _ => ?_
      refine ensures_request_bind trivial fun _ => ?_
      exact ensures_bind (resultFromReceipt_moving (.inr moved) receipt false) fun _ _ moved =>
        ensures_bind (record_any context _ _) fun _ _ _ => ensures_ret moved

theorem executeApproved_moving (context : AuthorizationContext) (costUnits : Int)
    (tool : ResolvedToolVersion) :
    Moving action (·.action) h (executeApproved context action costUnits tool) := by
  refine ensures_request_bind trivial fun credential => ?_
  refine ensures_ite (fun _ => reject_moving context _) fun _ => ?_
  refine ensures_request_bind trivial fun issuedAt => ?_
  refine ensures_ite (fun _ => reject_moving context _) fun _ => ?_
  exact executeReserved_moving context costUnits tool credential

theorem executeAuthorized_moving (context : AuthorizationContext)
    (approval : Option ApprovalRequest) (costUnits : Int) (tool : ResolvedToolVersion) :
    Moving action (·.action) h (executeAuthorized context action approval costUnits tool) := by
  refine ensures_request_bind trivial fun decision => ?_
  refine ensures_ite (fun _ => reject_moving context _) fun _ => ?_
  refine ensures_ite (fun _ => reject_moving context _) fun _ => ?_
  refine ensures_request_bind trivial fun blocked => ?_
  refine ensures_ite (fun _ => reject_moving context _) fun _ => ?_
  refine ensures_ite (fun _ => ?_) fun _ => executeApproved_moving context costUnits tool
  refine ensures_bind
    (ensures_approvalIsExact (fun _ _ _ => trivial) context action approval decision) ?_
  intro _ exact_ _
  refine ensures_ite (fun _ => reject_moving context _) fun _ => ?_
  exact executeApproved_moving context costUnits tool

theorem Call.prog_moving (c : Call) : Moving c.action (·.action) [] c.prog := by
  refine ensures_ite (fun _ => ensures_raise) fun _ => ?_
  refine ensures_ite (fun _ => ensures_raise) fun _ => ?_
  refine ensures_ite (fun _ => ensures_raise) fun _ => ?_
  refine ensures_attempt_bind (conforms_request.mpr ⟨trivial, fun ans => ?_⟩)
  cases ans with
  | error e => exact ensures_ite (fun _ => reject_moving c.context _) fun _ => ensures_raise
  | ok tool =>
    refine ensures_ite (fun _ => reject_moving c.context _) fun _ => ?_
    refine ensures_request_bind trivial fun delegated => ?_
    refine ensures_ite (fun _ => reject_moving c.context _) fun _ => ?_
    refine ensures_ite (fun _ => reject_moving c.context _) fun _ => ?_
    refine ensures_ite (fun _ => reject_moving c.context _) fun _ => ?_
    refine ensures_attempt_bind (conforms_request.mpr ⟨trivial, fun ans => ?_⟩)
    cases ans with
    | error e => exact ensures_ite (fun _ => reject_moving c.context _) fun _ => ensures_raise
    | ok accepted =>
      refine ensures_ite (fun _ => reject_moving c.context _) fun _ => ?_
      refine ensures_ite (fun _ => reject_moving c.context _) fun _ => ?_
      exact executeAuthorized_moving c.context c.approval c.costUnits tool

/-- What the gateway returns is the Action it was given after one transition or more. -/
theorem Call.returned_moves {c : Call} {result : GatewayResult}
    (returned : Exec c.prog h (.ret result)) : c.action.Moves result.action :=
  conforms_exec c.prog_moving.conforms returned result rfl

end

end Gateway

end Autonoesis
