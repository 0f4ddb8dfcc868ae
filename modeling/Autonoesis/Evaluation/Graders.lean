import Autonoesis.Domain.Trials

/-!
# The pipeline of graders

The stages of a pipeline grade a case one after the other, in the order of governance, and the
first that does not pass it ends the grading. So a case has been passed by every stage exactly when
all the results there are pass it.
-/

namespace Autonoesis.Evaluation
open Base

/-- A result as its constructor leaves it. -/
structure Grade extends GraderResult where
  made : toGraderResult.make = .ok toGraderResult

/-- What a grader returns or raises when it is called for the case number `index` of a run. -/
abbrev Grader := (index : Nat) → EvaluationCase → Payload → Except Exc Grade

structure GraderAssessment where
  status : GraderStatus
  score : Option Number
  rationale : String
  evidenceRefs : List String

/-- What `evaluate` of a backend returns or raises. -/
abbrev GraderBackend :=
  (index : Nat) → EvaluationCase → Payload → Except Exc GraderAssessment

structure IndependentGraderFields where
  kind : GraderKind
  graderId : String
  graderVersion : String
  backend : GraderBackend

def IndependentGraderFields.check (g : IndependentGraderFields) : Except Exc Unit :=
  checks [(g.graderId = "" || g.graderVersion = "",
    .valueError "independent grader requires identity and version")]

structure IndependentGrader extends IndependentGraderFields where
  valid : toIndependentGraderFields.check = .ok ()

namespace IndependentGrader

/-- The result `grade` makes of an assessment. -/
def result (g : IndependentGrader) (assessment : GraderAssessment) : GraderResult where
  trialId := 0
  graderId := g.graderId
  graderVersion := g.graderVersion
  score := assessment.score
  passed := match assessment.status with
    | .pass => some true
    | .fail => some false
    | _ => none
  rationale := assessment.rationale
  evidenceRefs := assessment.evidenceRefs
  status := some assessment.status
  kind := g.kind

def grade (g : IndependentGrader) : Grader := fun index case output => do
  let assessment ← g.backend index case output
  match made : (g.result assessment).make with
  | .ok result => .ok ⟨result, GraderResult.make_made made⟩
  | .error e => .error e

end IndependentGrader

/-- `_PRIORITY`. -/
def priority : GraderKind → Nat
  | .deterministic => 0
  | .outcome => 1
  | .trajectory => 2
  | .llm => 3
  | .human => 4

structure GraderStage where
  kind : GraderKind
  grader : Grader

def checkStages (stages : List GraderStage) : Except Exc Unit :=
  let kinds := stages.map (·.kind)
  checks [
    (stages.isEmpty, .valueError "grader pipeline requires at least one stage"),
    (!decide kinds.Nodup, .valueError "grader pipeline cannot repeat a stage kind"),
    (kinds.insertionSort (priority · ≤ priority ·) ≠ kinds,
      .valueError "grader stages must follow governance priority order")]

structure GraderPipeline where
  stages : List GraderStage
  valid : checkStages stages = .ok ()

namespace GraderPipeline

def make (stages : List GraderStage) : Except Exc GraderPipeline :=
  guarded (checkStages stages) fun valid => ⟨stages, valid⟩

theorem stages_ne_nil (p : GraderPipeline) : p.stages ≠ [] := by
  have valid := p.valid
  simp only [checkStages, checks_cons] at valid
  simpa using valid.1

/-- The kinds of the stages rise in the order of governance. -/
theorem ordered (p : GraderPipeline) :
    (p.stages.map fun stage => priority stage.kind).Pairwise (· < ·) := by
  have valid := p.valid
  simp only [checkStages, checks_cons, Bool.not_eq_false', decide_eq_true_eq,
    decide_eq_false_iff_not, not_not] at valid
  obtain ⟨_, distinct, sorted, _⟩ := valid
  have total : Std.Total fun a b : GraderKind => priority a ≤ priority b :=
    ⟨fun a b => Nat.le_total _ _⟩
  have trans : IsTrans GraderKind fun a b => priority a ≤ priority b :=
    ⟨fun _ _ _ => Nat.le_trans⟩
  have rising := List.pairwise_insertionSort (fun a b => priority a ≤ priority b)
    (p.stages.map (·.kind))
  rw [sorted] at rising
  have strict : (p.stages.map (·.kind)).Pairwise (priority · < priority ·) := by
    apply (rising.and distinct).imp
    rintro a b ⟨below, differ⟩
    apply Nat.lt_of_le_of_ne below
    intro same
    apply differ
    revert same
    cases a <;> cases b <;> decide
  rw [List.pairwise_map] at strict ⊢
  exact strict

/-- The loop of `grade` over the stages, with the identities of the graders before. -/
def gradeStages (index : Nat) (case : EvaluationCase) (output : Payload) :
    List String → List GraderStage → Except Exc (List Grade)
  | _, [] => .ok []
  | identities, stage :: rest => do
    let result ← stage.grader index case output
    raiseIf (result.kind ≠ stage.kind) (.valueError ("grader " ++ result.graderId ++ " returned " ++
      result.kind.value ++ " for " ++ stage.kind.value ++ " stage"))
    raiseIf (result.graderId ∈ identities)
      (.permissionError "grader identities must be distinct across pipeline stages")
    if result.status ≠ some .pass then return [result]
    let later ← gradeStages index case output (result.graderId :: identities) rest
    return result :: later

def grade (p : GraderPipeline) (index : Nat) (case : EvaluationCase)
    (output : Payload) : Except Exc (List Grade) :=
  gradeStages index case output [] p.stages

/-- The stage was run, its grader answered for it and passed the case. -/
structure StagePasses (index : Nat) (case : EvaluationCase) (output : Payload)
    (stage : GraderStage) (result : Grade) : Prop where
  graded : stage.grader index case output = .ok result
  kind : result.kind = stage.kind
  pass : result.status = some .pass

variable {index : Nat} {case : EvaluationCase} {output : Payload}
  {results : List Grade}

/-- All the results pass the case exactly when every stage was run and passed it, each by a grader
of its own. -/
theorem gradeStages_pass_iff (stages : List GraderStage) :
    ∀ (identities : List String) (results : List Grade),
      (gradeStages index case output identities stages = .ok results ∧
        ∀ r ∈ results, r.status = some .pass) ↔
      List.Forall₂ (StagePasses index case output) stages results ∧
        (results.map (·.graderId)).Nodup ∧ ∀ r ∈ results, r.graderId ∉ identities := by
  induction stages with
  | nil =>
    intro identities results
    constructor
    · rintro ⟨⟨⟩, _⟩
      exact ⟨.nil, List.nodup_nil, fun _ there => absurd there List.not_mem_nil⟩
    · rintro ⟨⟨⟩, _⟩
      exact ⟨rfl, fun _ there => absurd there List.not_mem_nil⟩
  | cons stage rest ih =>
    intro identities results
    simp only [gradeStages, bind_eq_ok, raiseIf_eq_ok, decide_eq_false_iff_not, not_not]
    constructor
    · rintro ⟨⟨result, graded, _, kind, _, own, tail⟩, pass⟩
      split_ifs at tail with stopped
      · cases tail
        exact absurd (pass result List.mem_cons_self) stopped
      · obtain ⟨later, went, same⟩ := bind_eq_ok.mp tail
        cases same
        have rest := (ih (result.graderId :: identities) later).mp
          ⟨went, fun r there => pass r (List.mem_cons_of_mem _ there)⟩
        obtain ⟨stages, distinct, others⟩ := rest
        simp only [List.mem_cons, not_or] at others
        refine ⟨.cons ⟨graded, kind, not_not.mp stopped⟩ stages, ?_, ?_⟩
        · rw [List.map_cons, List.nodup_cons]
          refine ⟨?_, distinct⟩
          intro twice
          obtain ⟨r, there, same⟩ := List.mem_map.mp twice
          exact (others r there).1 same
        · intro r there
          obtain rfl | there := List.mem_cons.mp there
          · exact own
          · exact (others r there).2
    · rintro ⟨stages, distinct, others⟩
      cases stages with
      | @cons _ result _ later first stages =>
        rw [List.map_cons, List.nodup_cons] at distinct
        have ran := (ih (result.graderId :: identities) later).mpr ⟨stages, distinct.2, by
          intro r there
          rw [List.mem_cons, not_or]
          exact ⟨fun same => distinct.1 (List.mem_map.mpr ⟨r, there, same⟩),
            others r (List.mem_cons_of_mem _ there)⟩⟩
        refine ⟨⟨result, first.graded, (), first.kind, (), others result List.mem_cons_self, ?_⟩, ?_⟩
        · rw [if_neg (not_not.mpr first.pass)]
          exact bind_eq_ok.mpr ⟨later, ran.1, rfl⟩
        · exact List.forall_mem_cons.mpr ⟨first.pass, ran.2⟩

/-- Stages that pass were run in the order of governance. -/
theorem passes_ordered {p : GraderPipeline}
    (passed : List.Forall₂ (StagePasses index case output) p.stages results) :
    (results.map fun r => priority r.kind).Pairwise (· < ·) := by
  have kinds : ∀ {stages : List GraderStage} {results : List Grade},
      List.Forall₂ (StagePasses index case output) stages results →
      results.map (fun r => priority r.kind) = stages.map fun stage => priority stage.kind := by
    intro stages results passed
    induction passed with
    | nil => rfl
    | cons first _ ih => rw [List.map_cons, List.map_cons, ih, first.kind]
  rw [kinds passed]
  exact p.ordered

theorem grade_ne_nil {p : GraderPipeline} (graded : p.grade index case output = .ok results) :
    results ≠ [] := by
  unfold grade at graded
  cases stages : p.stages with
  | nil => exact absurd stages p.stages_ne_nil
  | cons stage rest =>
    rw [stages] at graded
    simp only [gradeStages, bind_eq_ok] at graded
    obtain ⟨result, _, _, _, _, _, ran⟩ := graded
    split_ifs at ran with stopped
    · cases ran
      exact List.cons_ne_nil _ _
    · obtain ⟨later, _, same⟩ := bind_eq_ok.mp ran
      cases same
      exact List.cons_ne_nil _ _

end GraderPipeline

end Autonoesis.Evaluation
