import Autonoesis.Base.Wilson
import Autonoesis.Domain.Trials

/-!
# The confidence gate over the real numbers

The interval and the gate with exact arithmetic and any positive number for the normal quantile. The
clamps of the interval are never active, a decision depends on how many trials passed and failed and
on nothing else, and a trial that passes instead of failing never makes it worse.
-/

namespace Autonoesis.Evaluation
open Base

/-! ## The interval -/

noncomputable def center (z : ℝ) (passes total : Int) : ℝ :=
  let rate : ℝ := passes / total
  let zSquared := z * z
  let denominator := 1 + zSquared / total
  (rate + zSquared / (2 * total : Int)) / denominator

noncomputable def spread (z : ℝ) (passes total : Int) : ℝ :=
  let rate : ℝ := passes / total
  let zSquared := z * z
  let denominator := 1 + zSquared / total
  z / denominator * √(rate * (1 - rate) / total + zSquared / (4 * total * total : Int))

/-- `wilson_score_interval`, with `z` for the normal quantile. -/
noncomputable def wilsonScoreInterval (z : ℝ) (passes total : Int) (confidenceLevel : ℝ) :
    Except Exc (ℝ × ℝ) :=
  if total ≤ 0 then .error (.valueError "wilson interval requires at least one trial")
  else if ¬(0 ≤ passes ∧ passes ≤ total) then
    .error (.valueError "passes must be between zero and the trial total")
  else if ¬((1 / 2 : Rat) < confidenceLevel ∧ confidenceLevel < 1) then
    .error (.valueError "confidence level must be between one half and one, exclusive")
  else
    .ok (max 0 (center z passes total - spread z passes total),
      min 1 (center z passes total + spread z passes total))

section
variable {z : ℝ} {total : Int} (positive : 0 < z) (some : 0 < total)
include positive some

theorem spread_eq (passes : Int) : spread z passes total =
    Wilson.root (z ^ 2 / total) (passes / total) / (1 + z ^ 2 / total) := by
  have count : (total : ℝ) ≠ 0 := by exact_mod_cast some.ne'
  have scale : z * √(passes / total * (1 - passes / total) / total +
      z * z / (4 * total * total)) = Wilson.root (z ^ 2 / total) (passes / total) := by
    rw [← Real.sqrt_sq positive.le, ← Real.sqrt_mul (sq_nonneg z), Wilson.root]
    congr 1
    rw [Real.sqrt_sq positive.le]
    field_simp
  unfold spread
  simp only
  rw [← scale, ← sq]
  push_cast
  ring

/-- The bounds before they are clamped. -/
theorem bounds_eq (passes : Int) :
    center z passes total - spread z passes total =
        Wilson.lower (z ^ 2 / total) (passes / total) ∧
      center z passes total + spread z passes total =
        Wilson.upper (z ^ 2 / total) (passes / total) := by
  have shrunk : center z passes total =
      (passes / total + z ^ 2 / total / 2) / (1 + z ^ 2 / total) := by
    unfold center
    simp only
    push_cast
    rw [← sq, div_div, mul_comm (total : ℝ) 2]
  rw [shrunk, spread_eq positive some passes, ← sub_div, ← add_div]
  exact ⟨rfl, rfl⟩

theorem shrink_pos : 0 < z ^ 2 / total := by
  have count : (0 : ℝ) < total := by exact_mod_cast some
  positivity

end

/-- The interval encloses the rate, stays between zero and one, and demonstrates neither. -/
structure Encloses (z : ℝ) (passes total : Int) (lower upper : ℝ) : Prop where
  nonneg : 0 ≤ lower
  lower_le : lower ≤ passes / total
  le_upper : (passes : ℝ) / total ≤ upper
  le_one : upper ≤ 1
  lower_lt_one : lower < 1
  upper_pos : 0 < upper

theorem rate_nonneg {passes total : Int} (some : 0 < total) (low : 0 ≤ passes) :
    (0 : ℝ) ≤ passes / total := by
  apply div_nonneg
  · exact_mod_cast low
  · exact_mod_cast some.le

section
variable {z : ℝ} {passes passes' total : Int} (positive : 0 < z) (some : 0 < total)
  (low : 0 ≤ passes)
include positive some low

theorem encloses (high : passes ≤ total) : Encloses z passes total
    (center z passes total - spread z passes total)
    (center z passes total + spread z passes total) := by
  have shrink := shrink_pos positive some
  have below : (0 : ℝ) ≤ passes / total := rate_nonneg some low
  have above : (passes : ℝ) / total ≤ 1 := by
    rw [div_le_one (by exact_mod_cast some)]
    exact_mod_cast high
  obtain ⟨lower, upper⟩ := bounds_eq positive some passes
  rw [lower, upper]
  exact ⟨Wilson.lower_nonneg shrink below, Wilson.lower_le shrink below above,
    Wilson.le_upper shrink below above, Wilson.upper_le_one shrink above,
    Wilson.lower_lt_one shrink above, Wilson.upper_pos shrink below⟩

/-- The clamps change nothing. -/
theorem wilsonScoreInterval_ok (high : passes ≤ total) {confidenceLevel : ℝ}
    (level : 1 / 2 < confidenceLevel ∧ confidenceLevel < 1) :
    wilsonScoreInterval z passes total confidenceLevel =
      .ok (center z passes total - spread z passes total,
        center z passes total + spread z passes total) := by
  have inside := encloses positive some low high
  have level' : ((1 / 2 : Rat) : ℝ) < confidenceLevel ∧ confidenceLevel < 1 := by
    push_cast
    exact level
  rw [wilsonScoreInterval, if_neg (not_le.mpr some), if_neg (not_not.mpr ⟨low, high⟩),
    if_neg (not_not.mpr level'), max_eq_right inside.nonneg, min_eq_right inside.le_one]

/-- Both bounds rise with the number of passes. -/
theorem bounds_lt (more : passes < passes') (high : passes' ≤ total) :
    center z passes total - spread z passes total <
        center z passes' total - spread z passes' total ∧
      center z passes total + spread z passes total <
        center z passes' total + spread z passes' total := by
  have shrink := shrink_pos positive some
  have count : (0 : ℝ) < total := by exact_mod_cast some
  have below : (passes : ℝ) / total < passes' / total := by
    apply div_lt_div_of_pos_right _ count
    exact_mod_cast more
  have above : (passes' : ℝ) / total ≤ 1 := by
    rw [div_le_one count]
    exact_mod_cast high
  obtain ⟨lower, upper⟩ := bounds_eq positive some passes
  obtain ⟨lower', upper'⟩ := bounds_eq positive some passes'
  rw [lower, upper, lower', upper']
  exact ⟨Wilson.lower_lt_lower shrink (rate_nonneg some low) below above,
    Wilson.upper_lt_upper shrink (rate_nonneg some low) below above⟩

end

/-! ## The gate -/

/-- What `assess` returns, without the texts of its rationale. -/
structure RealAssessment where
  policy : RepeatedTrialPolicy
  decision : ConfidenceDecision
  passedTrials : Nat
  failedTrials : Nat
  invalidTrials : Nat
  passRate : Option ℝ
  bounds : Option (ℝ × ℝ)

/-- `lower >= threshold`, `upper < threshold`, or neither. -/
noncomputable def compareBounds (threshold : ℝ) (bounds : ℝ × ℝ) : ConfidenceDecision :=
  if threshold ≤ bounds.1 then .met
  else if bounds.2 < threshold then .notMet
  else .insufficientSample

/-- `TrialConfidenceGate.assess`. -/
noncomputable def assess (z : ℝ) (policy : RepeatedTrialPolicy) (trials : List Trial) :
    Except Exc RealAssessment := do
  TrialConfidenceGate.requireOneSubject trials
  let passed := trials.countP (·.status = .passed)
  let failed := trials.countP (·.status = .failed)
  let invalid := trials.countP (·.status = .invalid)
  let valid := passed + failed
  let bounds ← if valid = 0 then pure none
    else some <$> wilsonScoreInterval z passed valid policy.confidenceLevel
  let passRate : Option ℝ := if valid = 0 then none else some (passed / valid)
  let assessment (decision : ConfidenceDecision) : RealAssessment :=
    ⟨policy, decision, passed, failed, invalid, passRate, bounds⟩
  if (valid : Int) < policy.minValidTrials then return assessment .insufficientSample
  else match bounds with
    | none => throw ⟨"AssertionError", [.exception], ""⟩
    | some bounds => return assessment (compareBounds policy.passThreshold bounds)

/-- The decision on so many passed and failed trials. -/
noncomputable def judged (z : ℝ) (policy : RepeatedTrialPolicy) (passed failed : Nat) :
    ConfidenceDecision :=
  let valid : Int := passed + failed
  if valid < policy.minValidTrials then .insufficientSample
  else compareBounds policy.passThreshold
    (center z passed valid - spread z passed valid, center z passed valid + spread z passed valid)

/-- The decision of the gate, when it does not raise. -/
noncomputable def decision (z : ℝ) (policy : RepeatedTrialPolicy) (trials : List Trial) :
    Option ConfidenceDecision :=
  (assess z policy trials).toOption.map (·.decision)

section
variable {z : ℝ} (positive : 0 < z) (policy : RepeatedTrialPolicy)
include positive

theorem decision_eq (trials : List Trial) : decision z policy trials =
    (TrialConfidenceGate.requireOneSubject trials).toOption.map fun _ =>
      judged z policy (trials.countP (·.status = .passed))
        (trials.countP (·.status = .failed)) := by
  have valid := policy.valid
  simp only [RepeatedTrialPolicyFields.check, checks_cons, Bool.not_eq_false', Bool.and_eq_true,
    decide_eq_true_eq, decide_eq_false_iff_not, not_lt] at valid
  obtain ⟨_, ⟨low, high⟩, minimum, _⟩ := valid
  have level : 1 / 2 < (policy.confidenceLevel : ℝ) ∧ (policy.confidenceLevel : ℝ) < 1 := by
    constructor
    · simpa using (Rat.cast_lt (K := ℝ)).mpr low
    · exact_mod_cast high
  unfold decision assess
  cases TrialConfidenceGate.requireOneSubject trials with
  | error e => rfl
  | ok u =>
    generalize trials.countP (·.status = .passed) = passed
    generalize trials.countP (·.status = .failed) = failed
    by_cases none : passed + failed = 0
    · obtain ⟨rfl, rfl⟩ := Nat.add_eq_zero_iff.mp none
      have short : (0 : Int) < policy.minValidTrials := by omega
      simp [judged, short, bind, Except.bind, pure, Except.pure, Except.toOption]
    · have some : 0 < ((passed + failed : Nat) : Int) := by omega
      have bounds := wilsonScoreInterval_ok positive some (Int.natCast_nonneg passed)
        (by omega) level
      have counted : ¬(passed = 0 ∧ failed = 0) := by omega
      rw [Nat.cast_add] at bounds
      by_cases short : (passed + failed : Int) < policy.minValidTrials
      · simp [judged, counted, bounds, short, bind, Except.bind, pure, Except.pure, Functor.map,
          Except.map, Except.toOption]
      · simp [judged, counted, bounds, short, bind, Except.bind, pure, Except.pure, Functor.map,
          Except.map, Except.toOption]

end

/-! ## What trials may be assessed together -/

/-- Distinct terminal trials that share their subject. -/
structure Comparable (trials : List Trial) : Prop where
  terminal : ∀ t ∈ trials, t.status ∈ [TrialStatus.passed, .failed, .invalid]
  distinct : (trials.map (·.trialId)).Nodup
  shared : ∀ f ∈ TrialConfidenceGate.sharedFields, ∀ t ∈ trials, ∀ t' ∈ trials, f.2 t = f.2 t'

theorem requireDistinct_ok {u : Unit} (trials : List Trial) : ∀ seen,
    TrialConfidenceGate.requireDistinct seen trials = .ok u ↔
      (∀ t ∈ trials, t.status ∈ [TrialStatus.passed, .failed, .invalid]) ∧
      (trials.map (·.trialId)).Nodup ∧ ∀ t ∈ trials, t.trialId ∉ seen := by
  induction trials with
  | nil =>
    intro seen
    simp [TrialConfidenceGate.requireDistinct]
  | cons trial rest ih =>
    intro seen
    have apart : (∀ t ∈ rest, t.trialId ∉ trial.trialId :: seen) ↔
        trial.trialId ∉ rest.map (·.trialId) ∧ ∀ t ∈ rest, t.trialId ∉ seen := by
      simp only [List.mem_cons, not_or, List.mem_map, not_exists, not_and]
      exact forall₂_and
    simp only [TrialConfidenceGate.requireDistinct, bind_eq_ok, raiseIf_eq_ok, ih, apart,
      decide_eq_false_iff_not, not_not, List.forall_mem_cons, List.map_cons, List.nodup_cons]
    constructor
    · rintro ⟨_, terminal, _, unseen, others, distinct, own, later⟩
      exact ⟨⟨terminal, others⟩, ⟨own, distinct⟩, unseen, later⟩
    · rintro ⟨⟨terminal, others⟩, ⟨own, distinct⟩, unseen, later⟩
      exact ⟨(), terminal, (), unseen, others, distinct, own, later⟩

theorem requireOneSubject_ok (trials : List Trial) :
    TrialConfidenceGate.requireOneSubject trials = .ok () ↔ Comparable trials := by
  simp only [TrialConfidenceGate.requireOneSubject, bind_eq_ok, requireDistinct_ok]
  cases trials with
  | nil =>
    constructor
    · rintro ⟨_, ⟨terminal, distinct, _⟩, _⟩
      exact ⟨terminal, distinct, fun f _ t there => absurd there List.not_mem_nil⟩
    · rintro ⟨terminal, distinct, _⟩
      exact ⟨(), ⟨terminal, distinct, fun t there => absurd there List.not_mem_nil⟩, rfl⟩
  | cons reference rest =>
    simp only [forM_eq_ok, raiseIf_eq_ok, List.any_eq_false, decide_eq_true_eq, not_not]
    constructor
    · rintro ⟨_, ⟨terminal, distinct, _⟩, shared⟩
      exact ⟨terminal, distinct, fun f listed t there t' there' =>
        (shared f listed t there).trans (shared f listed t' there').symm⟩
    · rintro ⟨terminal, distinct, shared⟩
      exact ⟨(), ⟨terminal, distinct, fun t _ => List.not_mem_nil⟩,
        fun f listed t there => shared f listed t there reference List.mem_cons_self⟩

theorem Comparable.perm {trials trials' : List Trial} (comparable : Comparable trials)
    (perm : trials.Perm trials') : Comparable trials' where
  terminal t there := comparable.terminal t (perm.mem_iff.mpr there)
  distinct := (perm.map _).nodup_iff.mp comparable.distinct
  shared f listed t there t' there' :=
    comparable.shared f listed t (perm.mem_iff.mpr there) t' (perm.mem_iff.mpr there')

theorem Comparable.sublist {trials trials' : List Trial} (comparable : Comparable trials)
    (sub : trials'.Sublist trials) : Comparable trials' where
  terminal t there := comparable.terminal t (sub.subset there)
  distinct := (sub.map _).nodup comparable.distinct
  shared f listed t there t' there' :=
    comparable.shared f listed t (sub.subset there) t' (sub.subset there')

/-- The trial as it was, or a failed one that passes instead. -/
def Improved (t t' : Trial) : Prop :=
  t' = t ∨ t.status = .failed ∧ t' = { t with status := .passed }

/-- The decision of the gate on trials, or none when it raises. -/
theorem decision_some {z : ℝ} (positive : 0 < z) {policy : RepeatedTrialPolicy}
    {trials : List Trial} {d : ConfidenceDecision} : decision z policy trials = some d ↔
      Comparable trials ∧ judged z policy (trials.countP (·.status = .passed))
        (trials.countP (·.status = .failed)) = d := by
  rw [decision_eq positive, ← requireOneSubject_ok]
  cases TrialConfidenceGate.requireOneSubject trials with
  | error e => simp [Except.toOption]
  | ok u => simp [Except.toOption]

/-! ## Failed trials that pass -/

section
variable {trials trials' : List Trial} (improved : List.Forall₂ Improved trials trials')
include improved

/-- Some of the failed trials passed, and nothing else is different. -/
theorem improved_counts :
    trials.countP (·.status = .passed) ≤ trials'.countP (·.status = .passed) ∧
      trials'.countP (·.status = .passed) + trials'.countP (·.status = .failed) =
        trials.countP (·.status = .passed) + trials.countP (·.status = .failed) := by
  induction improved with
  | nil => exact ⟨le_rfl, rfl⟩
  | cons first _ ih =>
    obtain ⟨more, total⟩ := ih
    obtain rfl | ⟨failed, rfl⟩ := first
    · simp only [List.countP_cons]
      omega
    · simp only [List.countP_cons, failed]
      simp
      omega

theorem improved_map {α : Type} {f : Trial → α}
    (same : ∀ t : Trial, f { t with status := .passed } = f t) : trials'.map f = trials.map f := by
  induction improved with
  | nil => rfl
  | cons first _ ih =>
    obtain rfl | ⟨_, rfl⟩ := first
    · rw [List.map_cons, List.map_cons, ih]
    · rw [List.map_cons, List.map_cons, ih, same]

theorem improved_terminal : (∀ t ∈ trials', t.status ∈ [TrialStatus.passed, .failed, .invalid]) ↔
    ∀ t ∈ trials, t.status ∈ [TrialStatus.passed, .failed, .invalid] := by
  induction improved with
  | nil => rfl
  | cons first _ ih =>
    rw [List.forall_mem_cons, List.forall_mem_cons, ih]
    obtain rfl | ⟨failed, rfl⟩ := first
    · rfl
    · simp [failed]

theorem improved_comparable : Comparable trials' ↔ Comparable trials := by
  have ids := improved_map improved (f := (·.trialId)) fun _ => rfl
  have fields : ∀ f ∈ TrialConfidenceGate.sharedFields, trials'.map f.2 = trials.map f.2 := by
    intro f listed
    apply improved_map improved
    intro t
    simp only [TrialConfidenceGate.sharedFields, List.mem_cons, List.not_mem_nil, or_false]
      at listed
    obtain rfl | rfl | rfl | rfl | rfl := listed <;> rfl
  have shared : ∀ trials : List Trial, (∀ f ∈ TrialConfidenceGate.sharedFields, ∀ t ∈ trials,
      ∀ t' ∈ trials, f.2 t = f.2 t') ↔ ∀ f ∈ TrialConfidenceGate.sharedFields,
        ∀ v ∈ trials.map f.2, ∀ v' ∈ trials.map f.2, v = v' := by
    intro trials
    simp only [List.forall_mem_map]
  have same : (∀ f ∈ TrialConfidenceGate.sharedFields, ∀ v ∈ trials'.map f.2,
      ∀ v' ∈ trials'.map f.2, v = v') ↔ ∀ f ∈ TrialConfidenceGate.sharedFields,
        ∀ v ∈ trials.map f.2, ∀ v' ∈ trials.map f.2, v = v' := by
    apply forall₂_congr
    intro f listed
    rw [fields f listed]
  constructor
  · rintro ⟨terminal, distinct, together⟩
    exact ⟨(improved_terminal improved).mp terminal, ids ▸ distinct,
      (shared _).mpr (same.mp ((shared _).mp together))⟩
  · rintro ⟨terminal, distinct, together⟩
    exact ⟨(improved_terminal improved).mpr terminal, ids.symm ▸ distinct,
      (shared _).mpr (same.mpr ((shared _).mp together))⟩

end

/-- Both bounds rise, or stay, when failed trials pass. -/
theorem bounds_le {z : ℝ} (positive : 0 < z) (passes passes' total : Int) (low : 0 ≤ passes)
    (more : passes ≤ passes') (high : passes' ≤ total) (some : 0 < total) :
    center z passes total - spread z passes total ≤
        center z passes' total - spread z passes' total ∧
      center z passes total + spread z passes total ≤
        center z passes' total + spread z passes' total := by
  obtain rfl | more := more.eq_or_lt
  · exact ⟨le_rfl, le_rfl⟩
  · obtain ⟨lower, upper⟩ := bounds_lt positive some low more high
    exact ⟨lower.le, upper.le⟩

theorem compareBounds_met {threshold : ℝ} {bounds : ℝ × ℝ} :
    compareBounds threshold bounds = .met ↔ threshold ≤ bounds.1 := by
  unfold compareBounds
  split_ifs with above below
  · simp [above]
  · simp [above]
  · simp [above]

theorem compareBounds_notMet {threshold : ℝ} {bounds : ℝ × ℝ} :
    compareBounds threshold bounds = .notMet ↔ bounds.1 < threshold ∧ bounds.2 < threshold := by
  unfold compareBounds
  split_ifs with above below
  · simp [not_lt.mpr above]
  · simp [not_le.mp above, below]
  · simp [below]

/-- More passes among as many trials never turn a decision for the worse. -/
theorem judged_mono {z : ℝ} (positive : 0 < z) (policy : RepeatedTrialPolicy)
    {passed failed passed' failed' : Nat} (more : passed ≤ passed')
    (total : passed' + failed' = passed + failed) :
    (judged z policy passed failed = .met → judged z policy passed' failed' = .met) ∧
      (judged z policy passed' failed' = .notMet → judged z policy passed failed = .notMet) := by
  have count : (passed' + failed' : Int) = passed + failed := by omega
  unfold judged
  simp only [count]
  by_cases short : (passed + failed : Int) < policy.minValidTrials
  · simp [short]
  · have valid := policy.valid
    simp only [RepeatedTrialPolicyFields.check, checks_cons, decide_eq_false_iff_not, not_lt]
      at valid
    obtain ⟨lower, upper⟩ := bounds_le positive passed passed' (passed + failed) (by omega)
      (by omega) (by omega) (by omega)
    simp only [short, if_false, compareBounds_met, compareBounds_notMet]
    constructor
    · exact fun met => met.trans lower
    · exact fun notMet => ⟨lower.trans_lt notMet.1, upper.trans_lt notMet.2⟩

/-- The interval is a proper one for every sample, and the gate decides by the numbers of passed
and failed trials alone, for the better when more of them pass. -/
theorem confidence_gate {z : ℝ} (positive : 0 < z) :
    (∀ (passes total : Int) (confidenceLevel : ℝ), 1 ≤ total → 0 ≤ passes → passes ≤ total →
      1 / 2 < confidenceLevel → confidenceLevel < 1 →
        wilsonScoreInterval z passes total confidenceLevel =
          .ok (center z passes total - spread z passes total,
            center z passes total + spread z passes total) ∧
        Encloses z passes total (center z passes total - spread z passes total)
          (center z passes total + spread z passes total)) ∧
    (∀ passes passes' total : Int, 0 ≤ passes → passes < passes' → passes' ≤ total →
      center z passes total - spread z passes total <
          center z passes' total - spread z passes' total ∧
        center z passes total + spread z passes total <
          center z passes' total + spread z passes' total) ∧
    (∀ (policy : RepeatedTrialPolicy) (trials trials' : List Trial) (d d' : ConfidenceDecision),
      trials'.countP (·.status = .passed) = trials.countP (·.status = .passed) →
      trials'.countP (·.status = .failed) = trials.countP (·.status = .failed) →
      decision z policy trials = some d → decision z policy trials' = some d' → d' = d) ∧
    (∀ (policy : RepeatedTrialPolicy) (trials trials' : List Trial), trials.Perm trials' →
      decision z policy trials' = decision z policy trials) ∧
    (∀ (policy : RepeatedTrialPolicy) (trials added : List Trial) (d : ConfidenceDecision),
      (∀ t ∈ added, t.status = .invalid) → decision z policy (trials ++ added) = some d →
        decision z policy trials = some d) ∧
    ∀ (policy : RepeatedTrialPolicy) (trials trials' : List Trial),
      List.Forall₂ Improved trials trials' →
        (decision z policy trials = some .met → decision z policy trials' = some .met) ∧
        (decision z policy trials' = some .notMet → decision z policy trials = some .notMet) := by
  refine ⟨?_, ?_, ?_, ?_, ?_, ?_⟩
  · intro passes total confidenceLevel some low high left right
    exact ⟨wilsonScoreInterval_ok positive some low high ⟨left, right⟩,
      encloses positive some low high⟩
  · intro passes passes' total low more high
    exact bounds_lt positive (by omega) low more high
  · intro policy trials trials' d d' passed failed decided decided'
    obtain ⟨_, rfl⟩ := (decision_some positive).mp decided
    obtain ⟨_, rfl⟩ := (decision_some positive).mp decided'
    rw [passed, failed]
  · intro policy trials trials' perm
    apply Option.ext
    intro d
    rw [decision_some positive, decision_some positive, perm.countP_eq, perm.countP_eq]
    exact and_congr_left fun _ =>
      ⟨fun comparable => comparable.perm perm.symm, fun comparable => comparable.perm perm⟩
  · intro policy trials added d invalid decided
    obtain ⟨comparable, judged⟩ := (decision_some positive).mp decided
    have none : ∀ status : TrialStatus, status ≠ .invalid →
        added.countP (·.status = status) = 0 := by
      intro status other
      rw [List.countP_eq_zero]
      intro t there
      simpa [invalid t there] using other.symm
    rw [List.countP_append, List.countP_append, none .passed (by decide),
      none .failed (by decide)] at judged
    exact (decision_some positive).mpr
      ⟨comparable.sublist (List.sublist_append_left _ _), judged⟩
  · intro policy trials trials' improved
    obtain ⟨more, total⟩ := improved_counts improved
    have mono := judged_mono positive policy more total
    rw [decision_some positive, decision_some positive, decision_some positive,
      decision_some positive, improved_comparable improved]
    exact ⟨fun met => ⟨met.1, mono.1 met.2⟩, fun notMet => ⟨notMet.1, mono.2 notMet.2⟩⟩

/-- Nine of ten trials passed, with the quantile of a level of about two thirds. -/
theorem nine_of_ten :
    wilsonScoreInterval 1 9 10 (2 / 3) =
        .ok (center 1 9 10 - spread 1 9 10, center 1 9 10 + spread 1 9 10) ∧
      Encloses 1 9 10 (center 1 9 10 - spread 1 9 10) (center 1 9 10 + spread 1 9 10) ∧
      center 1 8 10 - spread 1 8 10 < center 1 9 10 - spread 1 9 10 := by
  obtain ⟨interval, rises, -⟩ := confidence_gate one_pos
  obtain ⟨value, encloses⟩ := interval 9 10 (2 / 3) (by omega) (by omega) (by omega)
    (by norm_num) (by norm_num)
  exact ⟨value, encloses, (rises 8 9 10 (by omega) (by omega) (by omega)).1⟩

/-- The gate that computes with floats decides the same wherever rounding keeps the bounds on their
side of the threshold. -/
theorem assess_decision [TrialStatistics] {z : ℝ} (positive : 0 < z)
    (policy : RepeatedTrialPolicy)
    (side : ∀ passes total : Nat,
      let bounds := TrialStatistics.wilsonScoreInterval passes total policy.confidenceLevel
      (policy.passThreshold ≤ bounds.1 ↔
        (policy.passThreshold : ℝ) ≤ center z passes total - spread z passes total) ∧
      (bounds.2 < policy.passThreshold ↔
        center z passes total + spread z passes total < policy.passThreshold))
    (trials : List Trial) :
    (TrialConfidenceGate.assess policy trials).toOption.map (·.decision) =
      decision z policy trials := by
  rw [decision_eq positive, TrialConfidenceGate.assess]
  cases TrialConfidenceGate.requireOneSubject trials with
  | error e => rfl
  | ok u =>
    generalize trials.countP (·.status = .passed) = passed
    generalize trials.countP (·.status = .failed) = failed
    obtain ⟨lower, upper⟩ := side passed (passed + failed)
    rw [Nat.cast_add] at lower upper
    simp only [judged, compareBounds, bind, Except.bind, ← lower, ← upper, Nat.cast_add]
    split_ifs <;> rfl

end Autonoesis.Evaluation
