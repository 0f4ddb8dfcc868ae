import Autonoesis.Base.Dict
import Autonoesis.Evaluation.Graders
import Mathlib.Data.List.Induction

/-!
# Grading a recorded path

Of the steps with one name the grader knows where the last of them arrived, and nothing of the
order they are recorded with. A rule of order that it does not see broken can be: the step that has
to come first may never come, come too late, or arrive out of order.
-/

namespace Autonoesis.Evaluation
open Base

structure StepFields where
  kind : String
  name : String
  outcome : String
  order : Int

def StepFields.check (s : StepFields) : Except Exc Unit :=
  checks [
    (isBlank s.kind || isBlank s.name, .valueError "trajectory step requires a kind and a name"),
    (s.order < 0, .valueError "trajectory step order cannot be negative")]

structure TrajectoryStep extends StepFields where
  valid : toStepFields.check = .ok ()

theorem TrajectoryStep.order_nonneg (s : TrajectoryStep) : 0 ≤ s.order := by
  have valid := s.valid
  simp only [StepFields.check, checks_cons, decide_eq_false_iff_not, not_lt] at valid
  exact valid.2.1

structure RuleFields where
  ruleType : String
  step : String := ""
  before : String := ""
  after : String := ""

def RuleFields.check (r : RuleFields) : Except Exc Unit :=
  checks [
    (r.ruleType ∉ ["required", "forbidden", "order"],
      .valueError "trajectory rule type must be one of ['forbidden', 'order', 'required']"),
    (r.ruleType ∈ ["required", "forbidden"] && isBlank r.step,
      .valueError (r.ruleType ++ " trajectory rule requires a step name")),
    (r.ruleType = "order" && (isBlank r.before || isBlank r.after),
      .valueError "order trajectory rule requires before and after steps")]

structure TrajectoryRule extends RuleFields where
  valid : toRuleFields.check = .ok ()

/-- `TrajectorySource.trajectory_for`. -/
abbrev TrajectorySource :=
  (tenantId : Uuid) → (caseId : String) → Except Exc (Option (List TrajectoryStep))

structure TrajectoryGraderBackend where
  source : TrajectorySource
  tenantId : Uuid
  rules : List TrajectoryRule

/-- `{name: index for index, name in enumerate(names)}`. -/
def positions (names : List String) : Dict String Nat :=
  names.zipIdx.foldl (fun d entry => d.set entry.1 entry.2) .empty

/-- What the loop over the rules appends for one of them. -/
def violation (positions : Dict String Nat) (rule : RuleFields) : List String :=
  if rule.ruleType = "required" ∧ positions.get? rule.step = none then
    ["required step missing: " ++ rule.step]
  else if rule.ruleType = "forbidden" ∧ positions.get? rule.step ≠ none then
    ["forbidden step present: " ++ rule.step]
  else if rule.ruleType = "order" then
    match positions.get? rule.before, positions.get? rule.after with
    | some before, some after =>
      if after < before then ["order violated: " ++ rule.before ++ " after " ++ rule.after] else []
    | _, _ => []
  else []

namespace TrajectoryGraderBackend

/-- `evaluate`, which does not look at the output. -/
def evaluate (b : TrajectoryGraderBackend) (case : EvaluationCase) : Except Exc GraderAssessment :=
  let assessment (status : GraderStatus) (score : Option Number) (rationale : String) :=
    GraderAssessment.mk status score rationale [case.caseId]
  let one : Number := .float "1.0" true (by decide)
  let zero : Number := .float "0.0" true (by decide)
  if b.rules.isEmpty then
    return assessment .pass (some one) "case declares no trajectory expectations"
  else do
    let steps := (← b.source b.tenantId case.caseId).getD []
    if steps.isEmpty then
      return assessment .unknown none "no recorded trajectory for a case with trajectory rules"
    let names := steps.map (·.name)
    let violations := b.rules.flatMap fun rule => violation (positions names) rule.toRuleFields
    if violations ≠ [] then
      return assessment .fail (some zero) (String.intercalate "; " violations)
    return assessment .pass (some one) ("trajectory satisfies " ++ toString b.rules.length ++
      " rule(s) over " ++ toString steps.length ++ " steps")

end TrajectoryGraderBackend

/-! ## Positions -/

theorem positions_concat (names : List String) (last : String) :
    positions (names ++ [last]) = (positions names).set last names.length := by
  simp [positions, List.zipIdx_append]

theorem positions_absent {names : List String} {name : String} (absent : name ∉ names) :
    (positions names).get? name = none := by
  induction names using List.reverseRecOn with
  | nil => rfl
  | append_singleton names last ih =>
    rw [List.mem_append, not_or, List.mem_singleton] at absent
    rw [positions_concat, Dict.get?_set_ne _ _ absent.2]
    exact ih absent.1

/-- A position is that of the last step with the name. -/
theorem positions_last (earlier : List String) {name : String} {later : List String}
    (absent : name ∉ later) :
    (positions (earlier ++ name :: later)).get? name = some earlier.length := by
  induction later using List.reverseRecOn with
  | nil => rw [positions_concat, Dict.get?_set_self]
  | append_singleton later last ih =>
    rw [List.mem_append, not_or, List.mem_singleton] at absent
    rw [← List.cons_append, ← List.append_assoc, positions_concat, Dict.get?_set_ne _ _ absent.2]
    exact ih absent.1

theorem exists_last {names : List String} {name : String} (there : name ∈ names) :
    ∃ earlier later, names = earlier ++ name :: later ∧ name ∉ later := by
  obtain ⟨later, earlier, split, absent⟩ :=
    List.eq_append_cons_of_mem (List.mem_reverse.mpr there)
  refine ⟨earlier.reverse, later.reverse, ?_, by simpa using absent⟩
  rw [← List.reverse_reverse names, split]
  simp

theorem positions_eq_none (names : List String) (name : String) :
    (positions names).get? name = none ↔ name ∉ names := by
  constructor
  · intro none there
    obtain ⟨earlier, later, rfl, absent⟩ := exists_last there
    rw [positions_last earlier absent] at none
    cases none
  · exact positions_absent

/-! ## What the grader sees of a rule -/

/-- `before` still comes after the last `after`. -/
def Outlasts (names : List String) (before after : String) : Prop :=
  ∃ earlier later, names = earlier ++ later ∧ after ∈ earlier ∧ before ∈ later ∧ after ∉ later

theorem outlasts_iff (names : List String) (before after : String) :
    Outlasts names before after ↔ ∃ i ∈ (positions names).get? before,
      ∃ j ∈ (positions names).get? after, j < i := by
  constructor
  · rintro ⟨earlier, later, rfl, first, second, absent⟩
    obtain ⟨head, tail, rfl, last⟩ := exists_last first
    obtain ⟨middle, rest, rfl, final⟩ := exists_last second
    refine ⟨(head ++ after :: tail ++ middle).length, ?_, head.length, ?_, ?_⟩
    · rw [← List.append_assoc]
      exact positions_last _ final
    · rw [List.append_assoc, List.cons_append]
      apply positions_last
      rw [List.mem_append, not_or]
      exact ⟨last, absent⟩
    · simp only [List.length_append, List.length_cons]
      omega
  · rintro ⟨i, before_at, j, after_at, less⟩
    have before_in : before ∈ names := by
      by_contra absent
      rw [positions_absent absent] at before_at
      cases before_at
    have after_in : after ∈ names := by
      by_contra absent
      rw [positions_absent absent] at after_at
      cases after_at
    obtain ⟨head, tail, split, last⟩ := exists_last after_in
    obtain ⟨lead, rest, split', final⟩ := exists_last before_in
    rw [split, positions_last head last] at after_at
    rw [split', positions_last lead final] at before_at
    cases after_at
    cases before_at
    obtain ⟨middle, same, others⟩ | ⟨middle, same, others⟩ :=
      List.append_eq_append_iff.mp (split.symm.trans split')
    · cases middle with
      | nil =>
        rw [List.append_nil] at same
        rw [same] at less
        exact absurd less (lt_irrefl _)
      | cons first middle =>
        obtain ⟨rfl, rfl⟩ := List.cons.inj others
        refine ⟨head ++ [after], middle ++ before :: rest, ?_, ?_, ?_, last⟩
        · rw [split]
          simp
        · simp
        · simp
    · rw [same, List.length_append] at less
      omega

/-- What the grader can tell of a broken rule from the names in the order they arrived in. -/
def Reported (names : List String) (rule : RuleFields) : Prop :=
  (rule.ruleType = "required" ∧ rule.step ∉ names) ∨
  (rule.ruleType = "forbidden" ∧ rule.step ∈ names) ∨
  (rule.ruleType = "order" ∧ Outlasts names rule.before rule.after)

theorem violation_ne_nil (names : List String) (rule : RuleFields) :
    violation (positions names) rule ≠ [] ↔ Reported names rule := by
  have present : rule.step ∈ names ↔ (positions names).get? rule.step ≠ none := by
    rw [ne_eq, positions_eq_none, not_not]
  simp only [violation, Reported, outlasts_iff, present, not_not]
  split_ifs with required forbidden order
  · simp [required]
  · simp [forbidden]
  · have kind : ¬(rule.ruleType = "required") := by rw [order]; decide
    have kind' : ¬(rule.ruleType = "forbidden") := by rw [order]; decide
    cases (positions names).get? rule.before with
    | none => simp [kind, kind']
    | some i =>
      cases (positions names).get? rule.after with
      | none => simp [kind, kind']
      | some j => simp [order]
  · tauto

/-! ## Rules of order -/

/-- In the order the steps are recorded with, every `after` comes later than some `before`. -/
def Precedes (steps : List TrajectoryStep) (before after : String) : Prop :=
  ∀ s ∈ steps, s.name = after → ∃ b ∈ steps, b.name = before ∧ b.order < s.order

/-- The least order a step with the name is recorded with. -/
def earliest (steps : List TrajectoryStep) (name : String) : Option Int :=
  ((steps.filter (·.name = name)).map (·.order)).min?

theorem earliest_eq_some {steps : List TrajectoryStep} {name : String} {first : Int} :
    earliest steps name = some first ↔
      (∃ s ∈ steps, s.name = name ∧ s.order = first) ∧
        ∀ s ∈ steps, s.name = name → first ≤ s.order := by
  rw [earliest, List.min?_eq_some_iff]
  simp only [List.mem_map, List.mem_filter, decide_eq_true_eq, and_assoc]
  apply and_congr_right
  intro _
  constructor
  · exact fun least s there called => least s.order ⟨s, there, called, rfl⟩
  · rintro least _ ⟨s, there, called, rfl⟩
    exact least s there called

theorem earliest_eq_none {steps : List TrajectoryStep} {name : String} :
    earliest steps name = none ↔ ∀ s ∈ steps, s.name ≠ name := by
  simp [earliest, List.filter_eq_nil_iff]

/-- If there is an `after`, the first `before` is recorded earlier than the first `after`. -/
def StartsFirst (steps : List TrajectoryStep) (before after : String) : Prop :=
  ∀ first ∈ earliest steps after, ∃ start ∈ earliest steps before, start < first

theorem precedes_iff (steps : List TrajectoryStep) (before after : String) :
    Precedes steps before after ↔ StartsFirst steps before after := by
  constructor
  · intro precedes first found
    obtain ⟨⟨s, there, name, rfl⟩, _⟩ := earliest_eq_some.mp found
    obtain ⟨b, recorded, called, less⟩ := precedes s there name
    cases start : earliest steps before with
    | none => exact absurd called (earliest_eq_none.mp start b recorded)
    | some start' =>
      have least := (earliest_eq_some.mp start).2 b recorded called
      exact ⟨start', rfl, by omega⟩
  · intro starts s there name
    cases found : earliest steps after with
    | none => exact absurd name (earliest_eq_none.mp found s there)
    | some first =>
      obtain ⟨start, start_eq, less⟩ := starts first found
      obtain ⟨⟨b, recorded, called, rfl⟩, _⟩ := earliest_eq_some.mp start_eq
      have least := (earliest_eq_some.mp found).2 s there name
      exact ⟨b, recorded, called, by omega⟩

namespace TrajectoryGraderBackend
variable (b : TrajectoryGraderBackend) (case : EvaluationCase)

/-- A recording passes when there is one and none of the rules is reported. -/
theorem evaluate_pass {steps : List TrajectoryStep}
    (recorded : b.source b.tenantId case.caseId = .ok (some steps)) :
    (∃ assessment, b.evaluate case = .ok assessment ∧ assessment.status = .pass) ↔
      b.rules = [] ∨ steps ≠ [] ∧
        ∀ rule ∈ b.rules, ¬Reported (steps.map (·.name)) rule.toRuleFields := by
  cases rules : b.rules with
  | nil => simp [evaluate, rules, pure, Except.pure]
  | cons rule rest =>
    cases steps with
    | nil => simp [evaluate, rules, recorded, bind, Except.bind, pure, Except.pure]
    | cons step later =>
      have silent : (∀ r ∈ rule :: rest,
          ¬Reported ((step :: later).map (·.name)) r.toRuleFields) ↔
          (rule :: rest).flatMap (fun r => violation
            (positions ((step :: later).map (·.name))) r.toRuleFields) = [] := by
        rw [List.flatMap_eq_nil_iff]
        simp only [← violation_ne_nil, not_not]
      rw [silent]
      simp only [evaluate, rules, recorded, bind, Except.bind, pure, Except.pure, Option.getD_some,
        List.isEmpty_cons, Bool.false_eq_true, if_false]
      split_ifs with violated
      · apply iff_of_false
        · rintro ⟨_, graded, pass⟩
          cases graded
          cases pass
        · rintro (none | ⟨_, empty⟩)
          · cases none
          · exact violated empty
      · exact iff_of_true ⟨_, rfl, rfl⟩ (.inr ⟨List.cons_ne_nil _ _, not_not.mp violated⟩)

/-- A recording that passes breaks no rule of order exactly when some rule is reported or every
rule's first step starts first. -/
theorem evaluate_order_iff :
    (∀ assessment, b.evaluate case = .ok assessment → assessment.status = .pass →
      ∀ steps, b.source b.tenantId case.caseId = .ok (some steps) →
        ∀ rule ∈ b.rules, rule.ruleType = "order" → Precedes steps rule.before rule.after) ↔
    ∀ steps, b.source b.tenantId case.caseId = .ok (some steps) →
      (∃ rule ∈ b.rules, Reported (steps.map (·.name)) rule.toRuleFields) ∨
        ∀ rule ∈ b.rules, rule.ruleType = "order" → StartsFirst steps rule.before rule.after := by
  constructor
  · intro sound steps recorded
    by_cases reported : ∃ rule ∈ b.rules, Reported (steps.map (·.name)) rule.toRuleFields
    · exact .inl reported
    · refine .inr fun rule there order => ?_
      rw [← precedes_iff]
      by_cases some : steps = []
      · intro s recorded
        rw [some] at recorded
        cases recorded
      · have silent : ∀ rule ∈ b.rules, ¬Reported (steps.map (·.name)) rule.toRuleFields :=
          fun rule there reports => reported ⟨rule, there, reports⟩
        obtain ⟨assessment, graded, pass⟩ :=
          (b.evaluate_pass case recorded).mpr (.inr ⟨some, silent⟩)
        exact sound assessment graded pass steps recorded rule there order
  · intro condition assessment graded pass steps recorded rule there order
    obtain none | ⟨_, silent⟩ :=
      (b.evaluate_pass case recorded).mp ⟨assessment, graded, pass⟩
    · rw [none] at there
      cases there
    · obtain ⟨rule', there', reported⟩ | starts := condition steps recorded
      · exact absurd reported (silent rule' there')
      · exact (precedes_iff ..).mpr (starts rule there order)

end TrajectoryGraderBackend

namespace Sample

def step (name : String) (order : Nat) (named : isBlank name = false) : TrajectoryStep where
  kind := "tool"
  name := name
  outcome := "succeeded"
  order := order
  valid := by
    have kind : isBlank "tool" = false := by decide
    simp [StepFields.check, kind, named]

def lookup (order : Nat) : TrajectoryStep := step "lookup" order (by decide)
def write (order : Nat) : TrajectoryStep := step "write" order (by decide)

/-- `StaticTrajectorySource` with one recording, and the rule that `lookup` precedes `write`. -/
def backend (steps : List TrajectoryStep) : TrajectoryGraderBackend where
  source _ _ := .ok (some steps)
  tenantId := 1
  rules := [{ ruleType := "order", before := "lookup", after := "write", valid := by decide }]

def case : EvaluationCase where
  caseId := "c1"
  inputPayload := []
  expectedOutcome := []
  tags := []

/-- If the recording passes, the lookup precedes the writes. -/
def Ordered (steps : List TrajectoryStep) : Prop :=
  ∀ assessment, (backend steps).evaluate case = .ok assessment → assessment.status = .pass →
    Precedes steps "lookup" "write"

/-- No step comes before the first place. -/
theorem not_ordered {steps : List TrajectoryStep}
    (first : ∃ s ∈ steps, s.name = "write" ∧ s.order = 0)
    (passes : ∃ assessment, (backend steps).evaluate case = .ok assessment ∧
      assessment.status = .pass) : ¬Ordered steps := by
  intro ordered
  obtain ⟨s, there, name, first⟩ := first
  obtain ⟨assessment, graded, pass⟩ := passes
  obtain ⟨b, _, _, less⟩ := ordered assessment graded pass s there name
  have order := b.order_nonneg
  omega

/-- No lookup, a lookup after the first write, and steps that do not arrive in their order. -/
theorem late_lookup :
    ¬Ordered [write 0] ∧ ¬Ordered [write 0, lookup 1, write 2] ∧
      ¬Ordered [lookup 1, write 0] := by
  refine ⟨?_, ?_, ?_⟩
  · exact not_ordered ⟨write 0, by simp, rfl, rfl⟩ ⟨_, rfl, rfl⟩
  · exact not_ordered ⟨write 0, by simp, rfl, rfl⟩ ⟨_, rfl, rfl⟩
  · exact not_ordered ⟨write 0, by simp, rfl, rfl⟩ ⟨_, rfl, rfl⟩

end Sample

end Autonoesis.Evaluation
