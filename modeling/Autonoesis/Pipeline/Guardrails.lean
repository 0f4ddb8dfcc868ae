import Autonoesis.Base.Calls
import Autonoesis.Base.Dict
import Autonoesis.Base.History
import Autonoesis.Domain.Values

/-!
# The deployment pipeline and its guardrails

`DeploymentPipeline` moves deployments from shadow over canary to stable, and rolls one back when
a guardrail was breached often enough in a row. The breaches are counted by metric, for all the
deployments and all the guardrails of the pipeline together, and no promotion looks at the stage.
-/

namespace Autonoesis
open Base

inductive DeploymentStage where
  | candidate | evaluating | shadow | canary | stable | rolledBack | failed
  deriving DecidableEq

inductive TrafficSplit where
  | shadow | canary5 | canary10 | canary25 | canary50 | stable

structure GuardrailThreshold where
  metric : String
  operator : String
  value : Rat
  windowSeconds : Int := 300
  consecutiveBreaches : Int := 2
  deriving DecidableEq

/-- `dict[str, float]`. -/
abbrev Metrics := Dict String Rat

structure GuardrailStatus where
  passed : Bool
  breachedMetrics : List String := []
  currentValues : Metrics := .empty

structure ObservationWindow where
  stage : DeploymentStage
  startedAt : Instant
  duration : Int
  metricsCollected : Int := 0

structure DeploymentRecord where
  deploymentId : Uuid
  candidateId : Uuid
  stage : DeploymentStage := .candidate
  split : TrafficSplit := .shadow
  startedAt : Instant
  promotedAt : Option Instant := none
  rolledBackAt : Option Instant := none
  rollbackReason : String := ""

/-- What a pipeline is built with; durations are in microseconds. -/
structure PipelineSettings where
  guardrails : List GuardrailThreshold := []
  shadowDuration : Int := 900000000
  canaryDuration : Int := 1800000000

structure DeploymentPipeline where
  deployments : Dict Uuid DeploymentRecord := .empty
  windows : Dict Uuid ObservationWindow := .empty
  breachCounters : Dict String Int := .empty

namespace DeploymentPipeline

abbrev Method (α : Type) := Calls DeploymentPipeline Exc α

/-- `self._deployments[deployment_id]`. -/
def deployment (id : Uuid) : Method DeploymentRecord := fun p =>
  (match p.deployments.get? id with
    | some record => .ok record
    | none => .error (.keyError id.str), p)

def put (id : Uuid) (record : DeploymentRecord) : Method Unit := fun p =>
  (.ok (), { p with deployments := p.deployments.set id record })

def open_ (id : Uuid) (window : ObservationWindow) : Method Unit := fun p =>
  (.ok (), { p with windows := p.windows.set id window })

variable (settings : PipelineSettings)

/-- `promote_to_shadow`, with the id it draws. -/
def promoteToShadow (candidateId id : Uuid) (now : Instant) : Method DeploymentRecord := do
  let record : DeploymentRecord := {
    deploymentId := id
    candidateId := candidateId
    stage := .shadow
    split := .shadow
    startedAt := now }
  put id record
  open_ id { stage := .shadow, startedAt := now, duration := settings.shadowDuration }
  return record

def promoteToCanary (id : Uuid) (split : TrafficSplit) (now : Instant) :
    Method DeploymentRecord := do
  let record ← deployment id
  let promoted : DeploymentRecord := {
    deploymentId := record.deploymentId
    candidateId := record.candidateId
    stage := .canary
    split := split
    startedAt := record.startedAt
    promotedAt := some now }
  put id promoted
  open_ id { stage := .canary, startedAt := now, duration := settings.canaryDuration }
  return promoted

def promoteToStable (id : Uuid) (now : Instant) : Method DeploymentRecord := do
  let record ← deployment id
  let promoted : DeploymentRecord := {
    deploymentId := record.deploymentId
    candidateId := record.candidateId
    stage := .stable
    split := .stable
    startedAt := record.startedAt
    promotedAt := some now }
  put id promoted
  return promoted

def rollback (id : Uuid) (reason : String) (now : Instant) : Method DeploymentRecord := do
  let record ← deployment id
  let rolledBack : DeploymentRecord := {
    deploymentId := record.deploymentId
    candidateId := record.candidateId
    stage := .rolledBack
    split := record.split
    startedAt := record.startedAt
    rolledBackAt := some now
    rollbackReason := reason }
  put id rolledBack
  return rolledBack

end DeploymentPipeline

/-- Whether the value breaches the guardrail. -/
def GuardrailThreshold.breached (g : GuardrailThreshold) (value : Rat) : Bool :=
  (g.operator = "lt" && value < g.value) || (g.operator = "gt" && g.value < value) ||
    (g.operator = "lte" && value ≤ g.value) || (g.operator = "gte" && g.value ≤ value)

/-- Whether the metrics have a value that breaches the guardrail. -/
def GuardrailThreshold.breachedIn (g : GuardrailThreshold) (metrics : Metrics) : Bool :=
  (metrics.get? g.metric).any g.breached

namespace DeploymentPipeline

abbrev Counters := Dict String Int

def counter (counters : Counters) (metric : String) : Int := (counters.get? metric).getD 0

/-- One guardrail of `check_guardrails`: the counters after it, and itself if it fires. -/
def turn (metrics : Metrics) (counters : Counters) (g : GuardrailThreshold) :
    Counters × List GuardrailThreshold :=
  match metrics.get? g.metric with
  | none => (counters.set g.metric 0, [])
  | some value =>
    if g.breached value then
      let count := counter counters g.metric + 1
      (counters.set g.metric count, if g.consecutiveBreaches ≤ count then [g] else [])
    else (counters.set g.metric 0, [])

/-- The loop of `check_guardrails`: the counters it leaves, and the guardrails that fire. -/
def evaluate (metrics : Metrics) : List GuardrailThreshold → Counters →
    Counters × List GuardrailThreshold
  | [], counters => (counters, [])
  | g :: rest, counters =>
    let here := turn metrics counters g
    let later := evaluate metrics rest here.1
    (later.1, here.2 ++ later.2)

def checkGuardrails (settings : PipelineSettings) (_id : Uuid) (metrics : Metrics) :
    Method GuardrailStatus := fun p =>
  let checked := evaluate metrics settings.guardrails p.breachCounters
  (.ok {
      passed := checked.2.isEmpty
      breachedMetrics := checked.2.map (·.metric)
      currentValues := metrics },
    { p with breachCounters := checked.1 })

def autoRollbackIfBreached (settings : PipelineSettings) (id : Uuid) (metrics : Metrics)
    (now : Instant) : Method (Option DeploymentRecord) := do
  let status ← checkGuardrails settings id metrics
  if !status.passed then
    let reason := "guardrail breach: " ++ String.intercalate ", " status.breachedMetrics
    let record ← rollback id reason now
    return some record
  else return none

/-! ## Runs -/

inductive Call where
  | promoteToShadow (candidateId id : Uuid) (now : Instant)
  | promoteToCanary (id : Uuid) (split : TrafficSplit) (now : Instant)
  | promoteToStable (id : Uuid) (now : Instant)
  | rollback (id : Uuid) (reason : String) (now : Instant)
  | checkGuardrails (id : Uuid) (metrics : Metrics)
  | autoRollbackIfBreached (id : Uuid) (metrics : Metrics) (now : Instant)

/-- A pipeline, and the guardrail checks that were made of it. -/
structure World where
  pipeline : DeploymentPipeline := {}
  checks : List (Uuid × Metrics) := []

/-- The pipeline a call leaves. -/
def Call.leaves (settings : PipelineSettings) (p : DeploymentPipeline) :
    Call → DeploymentPipeline
  | promoteToShadow candidateId id now =>
    (Calls.ran (DeploymentPipeline.promoteToShadow settings candidateId id now) p).2
  | promoteToCanary id split now =>
    (Calls.ran (DeploymentPipeline.promoteToCanary settings id split now) p).2
  | promoteToStable id now => (Calls.ran (DeploymentPipeline.promoteToStable id now) p).2
  | rollback id reason now => (Calls.ran (DeploymentPipeline.rollback id reason now) p).2
  | checkGuardrails id metrics =>
    (Calls.ran (DeploymentPipeline.checkGuardrails settings id metrics) p).2
  | autoRollbackIfBreached id metrics now =>
    (Calls.ran (DeploymentPipeline.autoRollbackIfBreached settings id metrics now) p).2

/-- The check a call makes. -/
def Call.check : Call → List (Uuid × Metrics)
  | checkGuardrails id metrics => [(id, metrics)]
  | autoRollbackIfBreached id metrics _ => [(id, metrics)]
  | _ => []

def step (settings : PipelineSettings) (w : World) (c : Call) : World :=
  ⟨c.leaves settings w.pipeline, w.checks ++ c.check⟩

/-- How many of the checks made last for a deployment have all breached the guardrail. -/
def streak (checks : List (Uuid × Metrics)) (id : Uuid) (g : GuardrailThreshold) : Nat :=
  ((checks.filter (·.1 = id)).reverse.takeWhile (g.breachedIn ·.2)).length

/-- A stage is kept, or it is the next one, or the deployment is rolled back. -/
def Moves : DeploymentStage → DeploymentStage → Prop
  | .shadow, .canary => True
  | .canary, .stable => True
  | from_, to_ => to_ = .rolledBack ∨ to_ = from_

/-- Every deployment begins in shadow and moves on as it should. -/
def Staged (before after : DeploymentPipeline) : Prop :=
  ∀ id record, after.deployments.get? id = some record →
    match before.deployments.get? id with
    | some old => Moves old.stage record.stage
    | none => record.stage = .shadow

/-- The guardrails for which a call rolls a deployment back. -/
def Call.fired (settings : PipelineSettings) (p : DeploymentPipeline) :
    Call → List (Uuid × GuardrailThreshold)
  | autoRollbackIfBreached id metrics now =>
    match (Calls.ran (DeploymentPipeline.autoRollbackIfBreached settings id metrics now) p).1 with
    | .ok (some _) =>
      (evaluate metrics settings.guardrails p.breachCounters).2.map fun g => (id, g)
    | _ => []
  | _ => []

/-- A deployment is rolled back for a guardrail only if the last checks made for it, as many as the
guardrail asks for, have all breached it; stages move as they should. -/
structure Orderly (settings : PipelineSettings) (w : World) (c : Call) : Prop where
  earned : ∀ fired ∈ c.fired settings w.pipeline,
    fired.2.consecutiveBreaches ≤ streak (step settings w c).checks fired.1 fired.2
  staged : Staged w.pipeline (step settings w c).pipeline
  kept : ∀ id, (w.pipeline.deployments.get? id).isSome = true →
    ((step settings w c).pipeline.deployments.get? id).isSome = true

/-- Shadow deployments draw ids that are not in use. -/
def Drawn (w : World) : Call → Prop
  | .promoteToShadow _ id _ => w.pipeline.deployments.get? id = none
  | _ => True

/-- No breach is counted on top of breaches of another guardrail or for another deployment: the
guardrail asks for one breach only, or its counter stands at zero when it is its turn, or no other
guardrail watches the metric and the check before this one was for the same deployment. -/
def Apart (settings : PipelineSettings) (last : Option Uuid) (id : Uuid) (metrics : Metrics) :
    List GuardrailThreshold → Counters → Prop
  | [], _ => True
  | g :: rest, counters =>
    (g.breachedIn metrics = true → g.consecutiveBreaches ≤ 1 ∨ counter counters g.metric = 0 ∨
      settings.guardrails.countP (·.metric = g.metric) = 1 ∧ last = some id) ∧
    Apart settings last id metrics rest (turn metrics counters g).1

/-- A check counts its breaches apart, and only the stage before is promoted. -/
def Careful (settings : PipelineSettings) (w : World) : Call → Prop
  | .promoteToCanary id _ _ => ∀ record ∈ w.pipeline.deployments.get? id,
      record.stage = .shadow ∨ record.stage = .canary
  | .promoteToStable id _ => ∀ record ∈ w.pipeline.deployments.get? id,
      record.stage = .canary ∨ record.stage = .stable
  | .checkGuardrails id metrics | .autoRollbackIfBreached id metrics _ =>
    Apart settings (w.checks.getLast?.map (·.1)) id metrics settings.guardrails
      w.pipeline.breachCounters
  | _ => True

/-! ## The checks -/

section
variable {settings : PipelineSettings} {metrics : Metrics} {checks : List (Uuid × Metrics)}
  {counters : Counters} {id : Uuid} {g : GuardrailThreshold}

theorem streak_append (checks : List (Uuid × Metrics)) (id : Uuid) (metrics : Metrics)
    (g : GuardrailThreshold) : streak (checks ++ [(id, metrics)]) id g =
      if g.breachedIn metrics = true then streak checks id g + 1 else 0 := by
  simp only [streak, List.filter_append, List.filter_cons, List.filter_nil, decide_true, if_true,
    List.reverse_append, List.reverse_cons, List.reverse_nil, List.nil_append,
    List.singleton_append, List.takeWhile_cons]
  split <;> rfl

/-- A guardrail that is breached adds to its counter, and fires with as many as it asks for. -/
theorem turn_breached (breached : g.breachedIn metrics = true) :
    turn metrics counters g = (counters.set g.metric (counter counters g.metric + 1),
      if g.consecutiveBreaches ≤ counter counters g.metric + 1 then [g] else []) := by
  unfold turn
  cases found : metrics.get? g.metric with
  | none =>
    rw [GuardrailThreshold.breachedIn, found] at breached
    cases breached
  | some value =>
    rw [GuardrailThreshold.breachedIn, found] at breached
    dsimp only
    rw [if_pos (by simpa using breached)]

theorem turn_passed (passed : g.breachedIn metrics = false) :
    turn metrics counters g = (counters.set g.metric 0, []) := by
  unfold turn
  cases found : metrics.get? g.metric with
  | none => rfl
  | some value =>
    rw [GuardrailThreshold.breachedIn, found] at passed
    dsimp only
    rw [if_neg (by simpa using passed)]

theorem counter_turn_ne {metric : String} (other : metric ≠ g.metric) :
    counter (turn metrics counters g).1 metric = counter counters metric := by
  cases breached : g.breachedIn metrics with
  | true => rw [turn_breached breached, counter, Dict.get?_set_ne _ _ other, counter]
  | false => rw [turn_passed breached, counter, Dict.get?_set_ne _ _ other, counter]

/-- The counter of a metric is left alone by the guardrails on others. -/
theorem counter_evaluate_ne {metric : String} {guardrails : List GuardrailThreshold}
    (others : ∀ g ∈ guardrails, metric ≠ g.metric) :
    counter (evaluate metrics guardrails counters).1 metric = counter counters metric := by
  induction guardrails generalizing counters with
  | nil => rfl
  | cons g rest ih =>
    rw [evaluate, ih fun h there => others h (List.mem_cons_of_mem g there),
      counter_turn_ne (others g List.mem_cons_self)]

/-- The counter of a guardrail that asks for several breaches and has its metric for itself counts no
more than the last checks that breached it, all made for the deployment that was checked last. -/
def Owned (settings : PipelineSettings) (checks : List (Uuid × Metrics)) (counters : Counters)
    (g : GuardrailThreshold) : Prop :=
  1 < g.consecutiveBreaches → settings.guardrails.countP (·.metric = g.metric) = 1 →
    counter counters g.metric = 0 ∨ ∃ id, checks.getLast?.map (·.1) = some id ∧
      counter counters g.metric ≤ streak checks id g

/-- One guardrail at most has a metric for itself. -/
theorem alone_ne {guardrails rest : List GuardrailThreshold} {metric : String}
    (part : (g :: rest).Sublist guardrails)
    (alone : guardrails.countP (·.metric = metric) = 1) (here : g.metric = metric) :
    ∀ h ∈ rest, h.metric ≠ metric := by
  intro h there same
  have another : 0 < rest.countP (·.metric = metric) :=
    List.countP_pos_iff.mpr ⟨h, there, by simpa using same⟩
  have few := part.countP_le (p := (·.metric = metric))
  rw [alone, List.countP_cons_of_pos (by simpa using here)] at few
  omega

/-- A breach that is counted apart makes the count no more than the breaches in a row. -/
theorem count_le_streak (owned : Owned settings checks counters g)
    (several : 1 < g.consecutiveBreaches) (breached : g.breachedIn metrics = true)
    (apart : counter counters g.metric = 0 ∨
      settings.guardrails.countP (·.metric = g.metric) = 1 ∧
        checks.getLast?.map (·.1) = some id) :
    counter counters g.metric + 1 ≤ streak (checks ++ [(id, metrics)]) id g := by
  rw [streak_append, if_pos breached]
  obtain zero | ⟨alone, last⟩ := apart
  · omega
  · obtain zero | ⟨id', last', count⟩ := owned several alone
    · omega
    · cases last.symm.trans last'
      omega

/-- With its breaches counted apart, a check fires a guardrail only after as many breaches in a row
of the deployment, and it leaves the counters owned. -/
theorem evaluate_owned {guardrails : List GuardrailThreshold}
    (part : guardrails.Sublist settings.guardrails)
    (owned : ∀ g ∈ guardrails, Owned settings checks counters g)
    (apart : Apart settings (checks.getLast?.map (·.1)) id metrics guardrails counters) :
    (∀ g ∈ (evaluate metrics guardrails counters).2,
      g.consecutiveBreaches ≤ streak (checks ++ [(id, metrics)]) id g) ∧
    ∀ g ∈ guardrails, Owned settings (checks ++ [(id, metrics)])
      (evaluate metrics guardrails counters).1 g := by
  induction guardrails generalizing counters with
  | nil => exact ⟨nofun, nofun⟩
  | cons g rest ih =>
    obtain ⟨first, apart⟩ := apart
    have ownedHere := owned g List.mem_cons_self
    have ownedLater : ∀ h ∈ rest, Owned settings checks (turn metrics counters g).1 h := by
      intro h there several alone
      have other : h.metric ≠ g.metric := fun same =>
        alone_ne part (same ▸ alone) rfl h there same
      rw [counter_turn_ne other]
      exact owned h (List.mem_cons_of_mem g there) several alone
    obtain ⟨fires, leaves⟩ := ih ((List.sublist_cons_self g rest).trans part) ownedLater apart
    constructor
    · intro h fired
      obtain now | later := List.mem_append.mp fired
      · cases breached : g.breachedIn metrics with
        | false =>
          rw [turn_passed breached] at now
          cases now
        | true =>
          rw [turn_breached breached] at now
          split at now
          · cases List.mem_singleton.mp now
            by_cases one : g.consecutiveBreaches ≤ 1
            · rw [streak_append, if_pos breached]
              omega
            · have count := count_le_streak ownedHere (Int.not_le.mp one) breached
                ((first breached).resolve_left one)
              omega
          · cases now
      · exact fires h later
    · intro h there
      obtain rfl | later := List.mem_cons.mp there
      · intro several alone
        have others : ∀ k ∈ rest, h.metric ≠ k.metric := fun k among same =>
          alone_ne part alone rfl k among same.symm
        rw [evaluate, counter_evaluate_ne others]
        cases breached : h.breachedIn metrics with
        | false =>
          rw [turn_passed breached]
          exact .inl (by simp [counter])
        | true =>
          refine .inr ⟨id, by simp, ?_⟩
          have count := count_le_streak ownedHere several breached
            ((first breached).resolve_left (Int.not_le.mpr several))
          rw [turn_breached breached]
          simpa [counter] using count
      · exact leaves h later

/-! ## The calls -/

/-- A call leaves the deployments alone, or moves one of them as it should. -/
inductive Effect (p p' : DeploymentPipeline) : Prop
  | same (same : p'.deployments = p.deployments)
  | begun {id : Uuid} {record : DeploymentRecord} (absent : p.deployments.get? id = none)
      (shadow : record.stage = .shadow) (put : p'.deployments = p.deployments.set id record)
  | moved {id : Uuid} {old record : DeploymentRecord} (there : p.deployments.get? id = some old)
      (moves : Moves old.stage record.stage) (put : p'.deployments = p.deployments.set id record)

variable {p p' : DeploymentPipeline}

theorem Moves.refl (stage : DeploymentStage) : Moves stage stage := by
  cases stage <;> exact .inr rfl

theorem Moves.rolledBack (stage : DeploymentStage) : Moves stage .rolledBack := by
  cases stage <;> exact .inl rfl

theorem Effect.staged (effect : Effect p p') : Staged p p' := by
  intro id record there
  have kept (here : p.deployments.get? id = some record) :
      match p.deployments.get? id with
      | some old => Moves old.stage record.stage
      | none => record.stage = .shadow := by
    rw [here]
    exact Moves.refl _
  cases effect with
  | same same => exact kept (same ▸ there)
  | begun absent shadow put =>
    rw [put, Dict.get?_set] at there
    split at there
    · rename_i here
      cases there
      rw [here, absent]
      exact shadow
    · exact kept there
  | moved before moves put =>
    rw [put, Dict.get?_set] at there
    split at there
    · rename_i here
      cases there
      rw [here, before]
      exact moves
    · exact kept there

theorem Effect.kept (effect : Effect p p') (id : Uuid)
    (there : (p.deployments.get? id).isSome = true) :
    (p'.deployments.get? id).isSome = true := by
  have set (key : Uuid) (record : DeploymentRecord) :
      ((p.deployments.set key record).get? id).isSome = true := by
    rw [Dict.get?_set]
    split
    · rfl
    · exact there
  cases effect with
  | same same => rwa [same]
  | begun _ _ put | moved _ _ put =>
    rw [put]
    exact set _ _

/-- Where a call begins, only the deployments count. -/
theorem Effect.from {q : DeploymentPipeline} (effect : Effect q p')
    (same : q.deployments = p.deployments) : Effect p p' := by
  cases effect with
  | same kept => exact .same (kept.trans same)
  | begun absent shadow put => exact .begun (same ▸ absent) shadow (same ▸ put)
  | moved there moves put => exact .moved (same ▸ there) moves (same ▸ put)

theorem deployment_found {record : DeploymentRecord}
    (there : p.deployments.get? id = some record) :
    Calls.ran (deployment id) p = (.ok record, p) := by
  simp only [Calls.ran, deployment, there]

theorem deployment_missing (missing : p.deployments.get? id = none) :
    Calls.ran (deployment id) p = (.error (.keyError id.str), p) := by
  simp only [Calls.ran, deployment, missing]

/-- What moves a deployment raises for one it does not know. -/
theorem unknown_ran {α : Type} {f : DeploymentRecord → Method α}
    (missing : p.deployments.get? id = none) :
    Calls.ran (deployment id >>= f) p = (.error (.keyError id.str), p) :=
  Calls.bind_ran.mpr (.inl ⟨_, deployment_missing missing, rfl⟩)

/-- Rolling back leaves the counters alone, and so it can follow a check. -/
theorem rollback_leaves (id : Uuid) (reason : String) (now : Instant) :
    Effect p (Calls.ran (rollback id reason now) p).2 ∧
      (Calls.ran (rollback id reason now) p).2.breachCounters = p.breachCounters := by
  cases there : p.deployments.get? id with
  | none =>
    rw [rollback, unknown_ran there]
    exact ⟨.same rfl, rfl⟩
  | some record =>
    rw [rollback, Calls.bind_of_ok (deployment_found there) rfl]
    exact ⟨.moved there (Moves.rolledBack _) rfl, rfl⟩

theorem promoteToShadow_leaves {candidateId : Uuid} {now : Instant}
    (drawn : p.deployments.get? id = none) :
    Effect p (Calls.ran (promoteToShadow settings candidateId id now) p).2 ∧
      (Calls.ran (promoteToShadow settings candidateId id now) p).2.breachCounters =
        p.breachCounters :=
  ⟨.begun drawn rfl rfl, rfl⟩

theorem promoteToCanary_leaves {split : TrafficSplit} {now : Instant}
    (careful : ∀ record ∈ p.deployments.get? id, record.stage = .shadow ∨ record.stage = .canary) :
    Effect p (Calls.ran (promoteToCanary settings id split now) p).2 ∧
      (Calls.ran (promoteToCanary settings id split now) p).2.breachCounters =
        p.breachCounters := by
  cases there : p.deployments.get? id with
  | none =>
    rw [promoteToCanary, unknown_ran there]
    exact ⟨.same rfl, rfl⟩
  | some record =>
    rw [promoteToCanary, Calls.bind_of_ok (deployment_found there) rfl]
    refine ⟨.moved there ?_ rfl, rfl⟩
    obtain stage | stage := careful record there
    · rw [stage]
      trivial
    · rw [stage]
      exact Moves.refl _

theorem promoteToStable_leaves {now : Instant}
    (careful : ∀ record ∈ p.deployments.get? id, record.stage = .canary ∨ record.stage = .stable) :
    Effect p (Calls.ran (promoteToStable id now) p).2 ∧
      (Calls.ran (promoteToStable id now) p).2.breachCounters = p.breachCounters := by
  cases there : p.deployments.get? id with
  | none =>
    rw [promoteToStable, unknown_ran there]
    exact ⟨.same rfl, rfl⟩
  | some record =>
    rw [promoteToStable, Calls.bind_of_ok (deployment_found there) rfl]
    refine ⟨.moved there ?_ rfl, rfl⟩
    obtain stage | stage := careful record there
    · rw [stage]
      trivial
    · rw [stage]
      exact Moves.refl _

theorem autoRollback_leaves (settings : PipelineSettings) (id : Uuid) (metrics : Metrics)
    (now : Instant) :
    Effect p (Calls.ran (autoRollbackIfBreached settings id metrics now) p).2 ∧
      (Calls.ran (autoRollbackIfBreached settings id metrics now) p).2.breachCounters =
        (evaluate metrics settings.guardrails p.breachCounters).1 := by
  let p' : DeploymentPipeline := { p with
    breachCounters := (evaluate metrics settings.guardrails p.breachCounters).1 }
  have checked : Calls.ran (checkGuardrails settings id metrics) p = (.ok {
      passed := (evaluate metrics settings.guardrails p.breachCounters).2.isEmpty
      breachedMetrics := (evaluate metrics settings.guardrails p.breachCounters).2.map (·.metric)
      currentValues := metrics }, p') := rfl
  rw [autoRollbackIfBreached, Calls.bind_of_ok checked rfl]
  cases passed : (evaluate metrics settings.guardrails p.breachCounters).2.isEmpty with
  | true => exact ⟨.same rfl, rfl⟩
  | false =>
    dsimp only
    rw [if_pos Bool.not_false, Calls.bind_pure_leaves]
    obtain ⟨effect, counters⟩ := rollback_leaves (p := p') id _ now
    exact ⟨effect.from rfl, counters⟩

/-! ## A run -/

/-- Every guardrail with a metric for itself has its counter owned. -/
def Sound (settings : PipelineSettings) (w : World) : Prop :=
  ∀ g ∈ settings.guardrails, Owned settings w.checks w.pipeline.breachCounters g

variable {w : World} {c : Call}

theorem Call.effect (drawn : Drawn w c) (careful : Careful settings w c) :
    Effect w.pipeline (c.leaves settings w.pipeline) := by
  cases c with
  | promoteToShadow => exact (promoteToShadow_leaves drawn).1
  | promoteToCanary => exact (promoteToCanary_leaves careful).1
  | promoteToStable => exact (promoteToStable_leaves careful).1
  | rollback id reason now => exact (rollback_leaves id reason now).1
  | checkGuardrails => exact .same rfl
  | autoRollbackIfBreached id metrics now =>
    exact (autoRollback_leaves settings id metrics now).1

/-- A call that makes no check leaves the counters, and a check leaves those of its loop. -/
theorem Call.counted (drawn : Drawn w c) (careful : Careful settings w c) :
    c.check = [] ∧ (c.leaves settings w.pipeline).breachCounters = w.pipeline.breachCounters ∨
    ∃ id metrics, c.check = [(id, metrics)] ∧
      (c.leaves settings w.pipeline).breachCounters =
        (evaluate metrics settings.guardrails w.pipeline.breachCounters).1 ∧
      Apart settings (w.checks.getLast?.map (·.1)) id metrics settings.guardrails
        w.pipeline.breachCounters := by
  cases c with
  | promoteToShadow => exact .inl ⟨rfl, (promoteToShadow_leaves drawn).2⟩
  | promoteToCanary => exact .inl ⟨rfl, (promoteToCanary_leaves careful).2⟩
  | promoteToStable => exact .inl ⟨rfl, (promoteToStable_leaves careful).2⟩
  | rollback id reason now => exact .inl ⟨rfl, (rollback_leaves id reason now).2⟩
  | checkGuardrails id metrics => exact .inr ⟨id, metrics, rfl, rfl, careful⟩
  | autoRollbackIfBreached id metrics now =>
    exact .inr ⟨id, metrics, rfl, (autoRollback_leaves settings id metrics now).2, careful⟩

theorem Call.mem_fired {fired : Uuid × GuardrailThreshold}
    (there : fired ∈ c.fired settings w.pipeline) :
    ∃ metrics, c.check = [(fired.1, metrics)] ∧
      fired.2 ∈ (evaluate metrics settings.guardrails w.pipeline.breachCounters).2 := by
  cases c with
  | autoRollbackIfBreached id metrics now =>
    simp only [Call.fired] at there
    split at there
    · obtain ⟨g, fires, rfl⟩ := List.mem_map.mp there
      exact ⟨metrics, rfl, fires⟩
    · cases there
  | _ => cases there

theorem step_orderly (sound : Sound settings w) (drawn : Drawn w c)
    (careful : Careful settings w c) :
    Orderly settings w c ∧ Sound settings (step settings w c) := by
  have effect := Call.effect drawn careful
  obtain ⟨unchecked, counters⟩ | ⟨id, metrics, checked, counters, apart⟩ :=
    Call.counted drawn careful
  · refine ⟨⟨fun fired there => ?_, effect.staged, effect.kept⟩, ?_⟩
    · obtain ⟨metrics, checked, _⟩ := Call.mem_fired there
      rw [unchecked] at checked
      cases checked
    · intro g there
      simp only [step, unchecked, counters, List.append_nil]
      exact sound g there
  · obtain ⟨fires, owned⟩ := evaluate_owned (List.Sublist.refl _) sound apart
    refine ⟨⟨fun fired there => ?_, effect.staged, effect.kept⟩, ?_⟩
    · obtain ⟨metrics', checked', among⟩ := Call.mem_fired there
      cases checked.symm.trans checked'
      simp only [step, checked]
      exact fires fired.2 among
    · intro g there
      simp only [step, checked, counters]
      exact owned g there

/-- In every run of a pipeline in which each check counts its breaches apart and only the stage
before is promoted, deployments are rolled back for what they did themselves and their stages move
in order. -/
theorem orderly_along (settings : PipelineSettings) (calls : List Call)
    (drawn : Along (step settings) Drawn {} calls)
    (careful : Along (step settings) (Careful settings) {} calls) :
    Along (step settings) (Orderly settings) {} calls := by
  apply along_of_inv (fun w c (sound : Sound settings w) legal =>
    step_orderly sound legal.1 legal.2) _ ((along_and _).mpr ⟨drawn, careful⟩)
  intro g there several alone
  exact .inl rfl

end

instance Apart.decidable (settings : PipelineSettings) (last : Option Uuid) (id : Uuid)
    (metrics : Metrics) : ∀ guardrails counters,
      Decidable (Apart settings last id metrics guardrails counters)
  | [], _ => inferInstanceAs (Decidable True)
  | g :: rest, counters =>
    have := Apart.decidable settings last id metrics rest (turn metrics counters g).1
    inferInstanceAs (Decidable ((_ → _ ∨ _ ∨ _ ∧ _) ∧ _))

instance (settings : PipelineSettings) (w : World) (c : Call) :
    Decidable (Careful settings w c) :=
  match c with
  | .promoteToShadow .. | .rollback .. => inferInstanceAs (Decidable True)
  | .promoteToCanary id _ _ => inferInstanceAs (Decidable (∀ record ∈
      w.pipeline.deployments.get? id, record.stage = .shadow ∨ record.stage = .canary))
  | .promoteToStable id _ => inferInstanceAs (Decidable (∀ record ∈
      w.pipeline.deployments.get? id, record.stage = .canary ∨ record.stage = .stable))
  | .checkGuardrails id metrics | .autoRollbackIfBreached id metrics _ =>
    inferInstanceAs (Decidable (Apart settings (w.checks.getLast?.map (·.1)) id metrics
      settings.guardrails w.pipeline.breachCounters))

instance (w : World) (c : Call) : Decidable (Drawn w c) :=
  match c with
  | .promoteToShadow _ id _ => inferInstanceAs (Decidable (w.pipeline.deployments.get? id = none))
  | .promoteToCanary .. | .promoteToStable .. | .rollback .. | .checkGuardrails ..
  | .autoRollbackIfBreached .. => inferInstanceAs (Decidable True)

namespace Sample

/-- One guardrail, which asks for two breaches in a row. -/
def settings : PipelineSettings where
  guardrails := [⟨"error_rate", "gt", 1 / 20, 300, 2⟩]

def failing : Metrics := Dict.empty.set "error_rate" (1 / 10)

def passing : Metrics := Dict.empty.set "error_rate" 0

/-- Two deployments, of which one fails two checks in a row. -/
def alone : List Call := [
  .promoteToShadow 1 11 0, .promoteToShadow 2 12 1, .promoteToCanary 11 .canary5 2,
  .checkGuardrails 12 passing, .autoRollbackIfBreached 11 failing 3,
  .autoRollbackIfBreached 11 failing 4]

/-- Each fails one check. -/
def together : List Call := [
  .promoteToShadow 1 11 0, .promoteToShadow 2 12 1, .autoRollbackIfBreached 11 failing 2,
  .autoRollbackIfBreached 12 failing 3]

/-- A deployment that was rolled back goes on. -/
def revived : List Call := [
  .promoteToShadow 1 11 0, .rollback 11 "unwanted" 1, .promoteToCanary 11 .canary50 2]

theorem orderly_alone : Along (step settings) (Orderly settings) {} alone :=
  orderly_along settings alone (by decide +kernel) (by decide +kernel)

/-- A deployment is rolled back for a breach of another, and one that was rolled back returns. -/
theorem disorderly :
    (Along (step settings) Drawn {} together ∧
      ¬Along (step settings) (Orderly settings) {} together) ∧
    Along (step settings) Drawn {} revived ∧
      ¬Along (step settings) (Orderly settings) {} revived := by
  refine ⟨⟨by decide +kernel, ?_⟩, by decide +kernel, ?_⟩
  · rintro ⟨_, _, _, fourth, _⟩
    have earned := fourth.earned (12, ⟨"error_rate", "gt", 1 / 20, 300, 2⟩) (by decide +kernel)
    exact absurd earned (by decide +kernel)
  · rintro ⟨_, _, third, _⟩
    have there : ∃ record, (step settings (after (step settings) {} (revived.take 2))
        (.promoteToCanary 11 .canary50 2)).pipeline.deployments.get? 11 = some record ∧
          record.stage = .canary := ⟨_, rfl, rfl⟩
    obtain ⟨record, there, stage⟩ := there
    have moves : record.stage = .rolledBack ∨ record.stage = .rolledBack :=
      third.staged 11 record there
    rw [stage] at moves
    obtain wrong | wrong := moves <;> cases wrong

end Sample

end DeploymentPipeline

end Autonoesis
