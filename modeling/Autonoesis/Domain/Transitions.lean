import Autonoesis.Domain.Values

/-! State-transition primitives shared by every aggregate. -/

namespace Autonoesis
open Base

structure StateTransition where
  fromStatus : String
  toStatus : String
  occurredAt : Instant
  reason : String
  actorId : Uuid
  deriving DecidableEq

def StateTransition.check (t : StateTransition) : Except Exc Unit :=
  checks [(isBlank t.reason, .valueError "transition reason must not be empty")]

/-- `transition_record`, with the clock reading the caller took. -/
def transitionRecord (current target : String) (actorId : Uuid) (reason : String)
    (occurredAt : Instant) : Except Exc StateTransition := do
  raiseIf (isBlank reason) (.valueError "transition reason must not be empty")
  return ⟨current, target, occurredAt, reason, actorId⟩

theorem transitionRecord_ok {current target : String} {actorId : Uuid} {reason : String}
    {occurredAt : Instant} {e : StateTransition} :
    transitionRecord current target actorId reason occurredAt = .ok e ↔
      isBlank reason = false ∧ e = ⟨current, target, occurredAt, reason, actorId⟩ := by
  simp only [transitionRecord, bind_eq_ok, raiseIf_eq_ok, exists_and_left, exists_const]
  refine and_congr_right fun _ => ⟨fun made => ?_, fun made => ?_⟩
  · cases made; rfl
  · rw [made]; rfl

/-- `require_transition` over the successors a table gives the current status. -/
def requireTransition {σ : Type} [DecidableEq σ] (value : σ → String) (allowed : σ → List σ)
    (current target : σ) : Except Exc Unit :=
  raiseIf (!decide (target ∈ allowed current))
    (.invalidStateTransition ("cannot transition from " ++ value current ++ " to " ++ value target))

theorem requireTransition_ok {σ : Type} [DecidableEq σ] {value : σ → String}
    {allowed : σ → List σ} {current target : σ} {u : Unit} :
    requireTransition value allowed current target = .ok u ↔ target ∈ allowed current := by
  simp [requireTransition]

end Autonoesis
