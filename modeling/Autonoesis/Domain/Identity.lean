import Autonoesis.Domain.Values

/-! Delegations, what one principal lets another do for a purpose and for a time, and temporary
authorizations for an emergency. -/

namespace Autonoesis
open Base

structure DelegationGrantFields where
  tenantId : Uuid
  grantorPrincipalId : Uuid
  delegatePrincipalId : Uuid
  toolName : String
  resourcePrefix : String
  purpose : String
  expiresAt : Instant
  delegationId : Uuid
  createdAt : Instant
  revokedAt : Option Instant := none

def DelegationGrantFields.check (g : DelegationGrantFields) : Except Exc Unit :=
  checks [
    ([g.toolName, g.resourcePrefix, g.purpose].any isBlank,
      .valueError "delegation tool, resource scope, and purpose are required"),
    (g.expiresAt ≤ g.createdAt,
      .valueError "delegation must be short-lived and expire after issuance"),
    (g.grantorPrincipalId = g.delegatePrincipalId,
      .valueError "self-delegation is not permitted")]

structure DelegationGrant extends DelegationGrantFields where
  valid : toDelegationGrantFields.check = .ok ()

namespace DelegationGrant

def make (g : DelegationGrantFields) : Except Exc DelegationGrant :=
  guarded g.check fun h => ⟨g, h⟩

def revoke (g : DelegationGrant) (now : Instant) : DelegationGrant :=
  ⟨{ g.toDelegationGrantFields with revokedAt := some now }, g.valid⟩

def authorizes (g : DelegationGrant) (tenantId principalId : Uuid)
    (toolName resource purpose : String) (now : Instant) : Bool :=
  g.revokedAt.isNone && now < g.expiresAt && tenantId = g.tenantId &&
    principalId = g.delegatePrincipalId && toolName = g.toolName &&
    startsWith resource g.resourcePrefix && purpose = g.purpose

/-- A grant is in force when it is issued. -/
theorem created_before_expiry (g : DelegationGrant) : g.createdAt < g.expiresAt := by
  have valid := g.valid
  simp only [DelegationGrantFields.check, checks_cons, decide_eq_false_iff_not] at valid
  exact Int.not_le.mp valid.2.1

theorem prefix_not_blank (g : DelegationGrant) : isBlank g.resourcePrefix = false := by
  have valid := g.valid
  simp only [DelegationGrantFields.check, checks_cons, List.any_cons, Bool.or_eq_false_iff]
    at valid
  exact valid.1.2.1

end DelegationGrant

structure TemporaryAuthorizationFields where
  tenantId : Uuid
  principalId : Uuid
  scope : String
  reason : String
  expiresAt : Instant
  authorizationId : Uuid
  createdAt : Instant
  reviewedBy : Option Uuid := none
  reviewedAt : Option Instant := none

def TemporaryAuthorizationFields.check (a : TemporaryAuthorizationFields) : Except Exc Unit :=
  checks [
    (isBlank a.scope || isBlank a.reason,
      .valueError "temporary authorization scope and reason are required"),
    (a.expiresAt ≤ a.createdAt,
      .valueError "temporary authorization requires a future timezone-aware expiry")]

structure TemporaryAuthorization extends TemporaryAuthorizationFields where
  valid : toTemporaryAuthorizationFields.check = .ok ()

namespace TemporaryAuthorization

def make (a : TemporaryAuthorizationFields) : Except Exc TemporaryAuthorization :=
  guarded a.check fun h => ⟨a, h⟩

def review (a : TemporaryAuthorization) (reviewer : Uuid) (now : Instant) :
    Except Exc TemporaryAuthorization := do
  raiseIf (reviewer = a.principalId)
    (.valueError "emergency authorization requires independent post-review")
  return ⟨{ a.toTemporaryAuthorizationFields with
    reviewedBy := some reviewer, reviewedAt := some now }, a.valid⟩

/-- What was granted, without the review. -/
def granted (a : TemporaryAuthorization) : TemporaryAuthorizationFields :=
  { a.toTemporaryAuthorizationFields with reviewedBy := none, reviewedAt := none }

/-- A review is by another principal and changes nothing of what was granted. -/
theorem review_ok {a a' : TemporaryAuthorization} {reviewer : Uuid} {now : Instant}
    (reviewed : a.review reviewer now = .ok a') :
    reviewer ≠ a.principalId ∧ a'.granted = a.granted ∧ a'.reviewedBy = some reviewer := by
  simp only [review, bind_eq_ok, raiseIf_eq_ok, decide_eq_false_iff_not] at reviewed
  obtain ⟨_, other, reviewed⟩ := reviewed
  cases reviewed
  exact ⟨other, rfl, rfl⟩

end TemporaryAuthorization

end Autonoesis
