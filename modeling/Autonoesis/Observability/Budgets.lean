import Mathlib.Algebra.Order.BigOperators.Group.List
import Mathlib.Algebra.Order.Field.Rat
import Autonoesis.Base.Dict
import Autonoesis.Domain.Values

/-!
# Error budgets

`compute_budget` takes one minus the target for the budget, which is a share. A target above one,
such as a latency, leaves a negative budget, and then nothing that is measured or not measured is
within it.
-/

namespace Autonoesis.Observability
open Base

/-- Service level indicators. -/
inductive SLI where
  | outcomeSuccessRate | actionSuccessRate | actionUnknownRate | approvalLatencyP50
  | approvalLatencyP95 | rollbackRate | duplicateSideEffectRate
  deriving DecidableEq

/-- `timedelta(days=days)`, in microseconds. -/
def days (n : Int) : Int := n * 86400000000

structure SLOTarget where
  sli : SLI
  target : Rat
  window : Int := days 30
  operator : String := "gte"

structure SLOMeasurement where
  sli : SLI
  value : Rat
  windowStart : Instant
  windowEnd : Instant
  sampleCount : Int := 0
  recordedAt : Instant

structure ErrorBudget where
  sli : SLI
  totalBudget : Rat
  consumed : Rat := 0
  remaining : Rat := 0
  exhausted : Bool := false
  deriving DecidableEq

structure SLORegistry where
  targets : Dict SLI SLOTarget
  measurements : SLI → List SLOMeasurement

namespace SLORegistry

/-- A later target for the same indicator replaces an earlier one. -/
def make (targets : List SLOTarget) : SLORegistry where
  targets := targets.foldl (fun d t => d.set t.sli t) .empty
  measurements := fun _ => []

def record (r : SLORegistry) (m : SLOMeasurement) : SLORegistry :=
  { r with measurements := Function.update r.measurements m.sli (r.measurements m.sli ++ [m]) }

def weight (m : SLOMeasurement) : Int := max m.sampleCount 0

def totalSamples (recent : List SLOMeasurement) : Int := (recent.map weight).sum

def weightedValue (recent : List SLOMeasurement) : Rat :=
  (recent.map fun m => m.value * weight m).sum / totalSamples recent

/-- The measurements whose window starts in the window of the target. -/
def recent (r : SLORegistry) (target : SLOTarget) (sli : SLI) (now : Instant) :
    List SLOMeasurement :=
  (r.measurements sli).filter fun m => now - target.window ≤ m.windowStart

def computeBudget (r : SLORegistry) (sli : SLI) (now : Instant) : ErrorBudget :=
  match r.targets.get? sli with
  | none => { sli, totalBudget := 0, remaining := 0, exhausted := true }
  | some target =>
    let recent := r.recent target sli now
    if recent.isEmpty then
      { sli, totalBudget := 1 - target.target, remaining := 1 - target.target }
    else if totalSamples recent = 0 then
      -- No weighted evidence: a full budget.
      { sli, totalBudget := 1 - target.target, remaining := 1 - target.target }
    else
      let value := weightedValue recent
      let totalBudget := 1 - target.target
      let shortfall :=
        if target.operator = "gte" then max 0 (target.target - value)
        else max 0 (value - target.target)
      let consumed := min shortfall 1
      let remaining := max 0 (totalBudget - consumed)
      { sli, totalBudget, consumed, remaining, exhausted := remaining ≤ 0 }

end SLORegistry

open SLORegistry

/-- The value meets the target. -/
def SLOTarget.Meets (t : SLOTarget) (value : Rat) : Prop :=
  if t.operator = "gte" then t.target ≤ value else value ≤ t.target

instance (t : SLOTarget) (value : Rat) : Decidable (t.Meets value) := by
  unfold SLOTarget.Meets
  infer_instance

/-- There are samples, and their weighted value meets the target. -/
def SLOTarget.Met (t : SLOTarget) (recent : List SLOMeasurement) : Prop :=
  totalSamples recent ≠ 0 ∧ t.Meets (weightedValue recent)

/-- A target that is met consumes nothing and leaves some budget, and what remains is a part of the
budget. -/
structure ErrorBudget.Sound (budget : ErrorBudget) (met : Prop) : Prop where
  whole : met → budget.consumed = 0 ∧ budget.exhausted = false
  nonneg : 0 ≤ budget.remaining
  within : budget.remaining ≤ budget.totalBudget

/-- How far the value is from the target. -/
def SLOTarget.shortfall (t : SLOTarget) (value : Rat) : Rat :=
  if t.operator = "gte" then max 0 (t.target - value) else max 0 (value - t.target)

theorem SLOTarget.shortfall_nonneg (t : SLOTarget) (value : Rat) : 0 ≤ t.shortfall value := by
  unfold shortfall
  split <;> exact le_max_left _ _

theorem SLOTarget.shortfall_eq_zero {t : SLOTarget} {value : Rat} (meets : t.Meets value) :
    t.shortfall value = 0 := by
  unfold Meets at meets
  unfold shortfall
  split
  · rw [if_pos ‹_›] at meets
    exact max_eq_left (sub_nonpos.mpr meets)
  · rw [if_neg ‹_›] at meets
    exact max_eq_left (sub_nonpos.mpr meets)

/-- The budget without samples. -/
def SLOTarget.fullBudget (t : SLOTarget) (sli : SLI) : ErrorBudget where
  sli
  totalBudget := 1 - t.target
  remaining := 1 - t.target

/-- The budget for a weighted value. -/
def SLOTarget.measuredBudget (t : SLOTarget) (sli : SLI) (value : Rat) : ErrorBudget where
  sli
  totalBudget := 1 - t.target
  consumed := min (t.shortfall value) 1
  remaining := max 0 (1 - t.target - min (t.shortfall value) 1)
  exhausted := max 0 (1 - t.target - min (t.shortfall value) 1) ≤ 0

/-- What a registry reports of an indicator with a target. -/
theorem SLORegistry.computeBudget_eq {r : SLORegistry} {sli : SLI} {t : SLOTarget}
    (targeted : r.targets.get? sli = some t) (now : Instant) :
    r.computeBudget sli now =
      if totalSamples (r.recent t sli now) = 0 then t.fullBudget sli
      else t.measuredBudget sli (weightedValue (r.recent t sli now)) := by
  simp only [computeBudget, targeted]
  by_cases none : (r.recent t sli now).isEmpty
  · rw [if_pos none, if_pos (by rw [List.isEmpty_iff.mp none]; rfl)]
    rfl
  · rw [if_neg none]
    rfl

theorem fullBudget_sound_iff {t : SLOTarget} {sli : SLI} {met : Prop} (unmet : ¬met) :
    (t.fullBudget sli).Sound met ↔ t.target ≤ 1 := by
  constructor
  · intro sound
    exact sub_nonneg.mp sound.nonneg
  · intro share
    exact ⟨fun holds => absurd holds unmet, sub_nonneg.mpr share, le_rfl⟩

/-- With a target of one there is no budget, and it counts as exhausted although nothing is
consumed; with a target above one the budget is negative and what remains of it is not. -/
theorem measuredBudget_sound_iff {t : SLOTarget} {sli : SLI} {value : Rat} {met : Prop}
    (meets : met → t.Meets value) :
    (t.measuredBudget sli value).Sound met ↔ t.target < 1 ∨ t.target = 1 ∧ ¬met := by
  have spent : 0 ≤ min (t.shortfall value) 1 := le_min (t.shortfall_nonneg value) zero_le_one
  constructor
  · intro sound
    have within : max 0 (1 - t.target - min (t.shortfall value) 1) ≤ 1 - t.target := sound.within
    have share : t.target ≤ 1 := sub_nonneg.mp ((le_max_left _ _).trans within)
    obtain below | one := lt_or_eq_of_le share
    · exact .inl below
    · refine .inr ⟨one, fun holds => ?_⟩
      have left := of_decide_eq_false (sound.whole holds).2
      apply left
      apply max_le le_rfl
      rw [one, sub_self, zero_sub]
      exact neg_nonpos.mpr spent
  · intro share
    have budget : 0 ≤ 1 - t.target := by
      obtain below | ⟨one, _⟩ := share
      · exact (sub_pos.mpr below).le
      · exact (sub_eq_zero.mpr one.symm).ge
    refine ⟨fun holds => ?_, le_max_left _ _, max_le budget (sub_le_self _ spent)⟩
    obtain below | ⟨_, unmet⟩ := share
    · have none : min (t.shortfall value) 1 = 0 := by
        rw [SLOTarget.shortfall_eq_zero (meets holds)]
        exact min_eq_left zero_le_one
      refine ⟨none, decide_eq_false ?_⟩
      rw [none, sub_zero, not_le]
      exact lt_max_of_lt_right (sub_pos.mpr below)
    · exact absurd holds unmet

/-- The budget is sound exactly for targets below one, and for a target of one as long as no
samples meet it. -/
theorem SLORegistry.computeBudget_sound_iff (r : SLORegistry) (sli : SLI) (t : SLOTarget)
    (targeted : r.targets.get? sli = some t) (now : Instant) :
    (r.computeBudget sli now).Sound (t.Met (r.recent t sli now)) ↔
      t.target < 1 ∨ t.target = 1 ∧ ¬t.Met (r.recent t sli now) := by
  rw [computeBudget_eq targeted]
  by_cases unsampled : totalSamples (r.recent t sli now) = 0
  · have unmet : ¬t.Met (r.recent t sli now) := fun met => met.1 unsampled
    rw [if_pos unsampled, fullBudget_sound_iff unmet, le_iff_lt_or_eq, and_iff_left unmet]
  · rw [if_neg unsampled, measuredBudget_sound_iff fun met : t.Met _ => met.2]

end Autonoesis.Observability
