import Mathlib.Data.List.Dedup
import Mathlib.Data.List.Perm.Subperm
import Mathlib.Logic.Relation
import Autonoesis.Base.Recursive
import Autonoesis.Domain.Execution

/-!
# The task graph of a plan

The constructor of a plan searches its tasks depth first, from every task and in any order. What the
search has left behind leads nowhere back, and a task it meets again on its path closes a cycle. Its
path is the interpreter's stack: every task on it was reached by the first dependency that leads
there, so a plan is accepted in every order exactly if no such path is too long for the stack.
-/

namespace Autonoesis
open Base

/-! ## The search -/

section
variable {dependencies : Uuid → List Uuid}

/-- `d` is a dependency of `t`. -/
abbrev Below (dependencies : Uuid → List Uuid) (d t : Uuid) : Prop := d ∈ dependencies t

def Closed (dependencies : Uuid → List Uuid) (visited : List Uuid) : Prop :=
  ∀ t ∈ visited, dependencies t ⊆ visited

theorem Closed.leads {visited : List Uuid} (closed : Closed dependencies visited) {t u : Uuid}
    (leads : Leads dependencies t u) (here : t ∈ visited) : u ∈ visited := by
  induction leads with
  | refl => exact here
  | tail _ last ih => exact closed _ ih last

theorem acc_irrefl_transGen {α : Type} {r : α → α → Prop} {a : α} (acc : Acc r a) :
    ¬Relation.TransGen r a a := by
  induction acc with
  | intro a _ ih =>
    intro cycle
    obtain ⟨b, path, last⟩ := Relation.TransGen.tail'_iff.mp cycle
    exact ih b last (Relation.TransGen.head' last path)

/-- A path that meets its end again is a cycle. -/
theorem cycle_of_path {taskId : Uuid} {visiting : List Uuid}
    (path : (taskId :: visiting).IsChain (Below dependencies)) (again : taskId ∈ visiting) :
    Relation.TransGen (Below dependencies) taskId taskId := by
  have longer : (taskId :: visiting).IsChain (Relation.TransGen (Below dependencies)) :=
    path.imp fun _ _ => .single
  exact (List.pairwise_cons.mp longer.pairwise).1 taskId again

/-- What a search for `goals` has left behind when it returns. -/
structure LeavesBehind (dependencies : Uuid → List Uuid) (goals visited visited' : List Uuid) :
    Prop where
  more : visited ⊆ visited'
  all : goals ⊆ visited'
  reached : ∀ u ∈ visited', u ∈ visited ∨ ∃ t ∈ goals, Leads dependencies t u
  closed : Closed dependencies visited → Closed dependencies visited'
  done : (∀ u ∈ visited, Acc (Below dependencies) u) → ∀ u ∈ visited', Acc (Below dependencies) u

/-- One search after the other. -/
theorem foldlM_leaves {step : List Uuid × List Uuid → Uuid → Except Exc (List Uuid × List Uuid)}
    {visiting : List Uuid}
    (each : ∀ visited t r, step (visiting, visited) t = .ok r →
      r.1 = visiting ∧ LeavesBehind dependencies [t] visited r.2)
    {goals visited : List Uuid} {r : List Uuid × List Uuid}
    (ran : goals.foldlM step (visiting, visited) = .ok r) :
    r.1 = visiting ∧ LeavesBehind dependencies goals visited r.2 := by
  induction goals generalizing visited with
  | nil =>
    cases ran
    exact ⟨rfl, List.Subset.refl _, List.nil_subset _, fun _ => .inl, id, id⟩
  | cons t rest ih =>
    rw [List.foldlM_cons] at ran
    obtain ⟨⟨path, visited'⟩, first, loop⟩ := bind_eq_ok.mp ran
    obtain ⟨rfl, one⟩ := each visited t _ first
    obtain ⟨same, others⟩ := ih loop
    refine ⟨same, List.Subset.trans one.more others.more, ?_, ?_, others.closed ∘ one.closed,
      others.done ∘ one.done⟩
    · exact List.cons_subset.mpr ⟨others.more (one.all List.mem_cons_self), others.all⟩
    · intro u there
      obtain earlier | ⟨t', listed, leads⟩ := others.reached u there
      · obtain before | ⟨_, listed, leads⟩ := one.reached u earlier
        · exact .inl before
        · rw [List.mem_singleton.mp listed] at leads
          exact .inr ⟨t, List.mem_cons_self, leads⟩
      · exact .inr ⟨t', List.mem_cons_of_mem _ listed, leads⟩

theorem visit_leaves {frames : Nat} {visiting visited : List Uuid} {taskId : Uuid}
    {r : List Uuid × List Uuid}
    (ran : Plan.visit dependencies frames (visiting, visited) taskId = .ok r) :
    r.1 = visiting ∧ LeavesBehind dependencies [taskId] visited r.2 := by
  induction frames generalizing visiting visited taskId r with
  | zero => cases ran
  | succ frames ih =>
    unfold Plan.visit at ran
    split at ran
    · cases ran
    · split at ran
      · rename_i known
        cases ran
        exact ⟨rfl, List.Subset.refl _, List.cons_subset.mpr ⟨known, List.nil_subset _⟩,
          fun _ => .inl, id, id⟩
      · obtain ⟨⟨path, visited'⟩, deeper, ran⟩ := bind_eq_ok.mp ran
        cases ran
        obtain ⟨_, left⟩ := foldlM_leaves (fun _ _ _ one => ih one) deeper
        refine ⟨rfl, List.subset_cons_of_subset _ left.more,
          List.cons_subset.mpr ⟨List.mem_cons_self, List.nil_subset _⟩, ?_, ?_, ?_⟩
        · intro u there
          obtain rfl | there := List.mem_cons.mp there
          · exact .inr ⟨u, List.mem_cons_self, .refl⟩
          · refine (left.reached u there).imp_right fun ⟨d, below, leads⟩ => ?_
            exact ⟨taskId, List.mem_cons_self, .head below leads⟩
        · intro closed
          refine List.forall_mem_cons.mpr ⟨List.subset_cons_of_subset _ left.all, fun t there => ?_⟩
          exact List.subset_cons_of_subset _ (left.closed closed t there)
        · intro done
          refine List.forall_mem_cons.mpr ⟨⟨_, fun d below => ?_⟩, left.done done⟩
          exact left.done done d (left.all below)

/-! ## The stack of the search -/

/-- The path on which a search from its first task comes to `u`: every step takes the first
dependency that leads there. -/
inductive FirstPath (dependencies : Uuid → List Uuid) (u : Uuid) : List Uuid → Prop
  | here : FirstPath dependencies u [u]
  | step {t t' : Uuid} {before after rest : List Uuid}
      (needs : dependencies t = before ++ t' :: after)
      (first : ∀ d ∈ before, ¬Leads dependencies d u)
      (path : FirstPath dependencies u (t' :: rest)) : FirstPath dependencies u (t :: t' :: rest)

/-- A visit of each task on such a path, and of a dependency of its last one, fit the stack. -/
structure Fits (dependencies : Uuid → List Uuid) (frames : Nat) : Prop where
  one : 0 < frames
  paths : ∀ u path, FirstPath dependencies u path → dependencies u ≠ [] → path.length < frames

theorem FirstPath.leads {u t : Uuid} {rest : List Uuid}
    (path : FirstPath dependencies u (t :: rest)) : Leads dependencies t u := by
  generalize whole : t :: rest = path' at path
  induction path generalizing t rest with
  | here =>
    cases whole
    exact .refl
  | step needs _ _ ih =>
    cases whole
    exact .head (by rw [needs]; simp) (ih rfl)

theorem FirstPath.needs {u : Uuid} {path : List Uuid} (first : FirstPath dependencies u path)
    (deeper : dependencies u ≠ []) : ∀ t ∈ path, dependencies t ≠ [] := by
  induction first with
  | here => exact fun t there => List.mem_singleton.mp there ▸ deeper
  | step needs _ _ ih => exact List.forall_mem_cons.mpr ⟨by rw [needs]; simp, ih⟩

/-- Every task of the path depends on those that come later. -/
theorem FirstPath.pairwise {u : Uuid} {path : List Uuid} (first : FirstPath dependencies u path) :
    path.Pairwise fun t d => Relation.TransGen (Below dependencies) d t := by
  have chain : path.IsChain fun t d => Relation.TransGen (Below dependencies) d t := by
    induction first with
    | here => exact .singleton u
    | step needs _ _ ih => exact ih.cons_cons (.single (by rw [Below, needs]; simp))
  have : IsTrans Uuid fun t d => Relation.TransGen (Below dependencies) d t :=
    ⟨fun _ _ _ second third => third.trans second⟩
  exact chain.pairwise

/-- The calls on the stack, the last one first: each is for a dependency of the task below, and
those listed before it are left behind. -/
inductive Stack (dependencies : Uuid → List Uuid) (visited : List Uuid) : List Uuid → Prop
  | first (t : Uuid) : Stack dependencies visited [t]
  | call {t t' : Uuid} {before after rest : List Uuid}
      (needs : dependencies t = before ++ t' :: after) (left : before ⊆ visited)
      (below : Stack dependencies visited (t :: rest)) :
      Stack dependencies visited (t' :: t :: rest)

namespace Stack
variable {visited visited' calls : List Uuid}

theorem mono (stack : Stack dependencies visited calls) (more : visited ⊆ visited') :
    Stack dependencies visited' calls := by
  induction stack with
  | first t => exact .first t
  | call needs left _ ih => exact .call needs (List.Subset.trans left more) ih

theorem isChain (stack : Stack dependencies visited calls) :
    calls.IsChain (Below dependencies) := by
  induction stack with
  | first t => exact .singleton t
  | call needs _ _ ih => exact ih.cons_cons (by rw [Below, needs]; simp)

/-- The stack below a path to a task that is not left behind extends the path: what was listed
earlier is left behind, and so does not lead there. -/
theorem extends_path {u t : Uuid} {rest : List Uuid} {below : List Uuid}
    (stack : Stack dependencies visited (t :: below)) (closed : Closed dependencies visited)
    (fresh : u ∉ visited) (path : FirstPath dependencies u (t :: rest)) :
    FirstPath dependencies u (below.reverse ++ t :: rest) := by
  induction below generalizing t rest with
  | nil => exact path
  | cons v below ih =>
    cases stack with
    | call needs left lower =>
      rw [List.reverse_cons, List.append_assoc]
      refine ih lower (.step needs (fun d earlier leads => ?_) path)
      exact fresh (closed.leads leads (left earlier))

theorem firstPath {t : Uuid} {below : List Uuid}
    (stack : Stack dependencies visited (t :: below)) (closed : Closed dependencies visited)
    (fresh : t ∉ visited) : FirstPath dependencies t (t :: below).reverse := by
  rw [List.reverse_cons]
  exact stack.extends_path closed fresh .here

end Stack

/-- A search raises for a cycle, or because its stack is too small. -/
theorem visit_error {frames : Nat} {visiting visited : List Uuid} {taskId : Uuid} {e : Exc}
    (stack : Stack dependencies visited (taskId :: visiting)) (closed : Closed dependencies visited)
    (path : ∀ t below, visiting = t :: below → FirstPath dependencies t visiting.reverse)
    (raised : Plan.visit dependencies frames (visiting, visited) taskId = .error e) :
    (∃ t, Relation.TransGen (Below dependencies) t t) ∨
      ¬Fits dependencies (frames + visiting.length) := by
  induction frames generalizing visiting visited taskId with
  | zero =>
    refine .inr fun fits => ?_
    cases stack with
    | first => exact absurd fits.one (by simp)
    | @call t _ before after rest needs _ _ =>
      have short := fits.paths t _ (path t rest rfl) (by rw [needs]; simp)
      rw [List.length_reverse] at short
      omega
  | succ frames ih =>
    unfold Plan.visit at raised
    split at raised
    · rename_i again
      exact .inl ⟨taskId, cycle_of_path stack.isChain again⟩
    · split at raised
      · cases raised
      · rename_i fresh
        have deeper : (dependencies taskId).foldlM (Plan.visit dependencies frames)
            (taskId :: visiting, visited) = .error e := by
          cases ran : (dependencies taskId).foldlM (Plan.visit dependencies frames)
              (taskId :: visiting, visited) with
          | error e' =>
            rw [ran] at raised
            exact raised
          | ok r =>
            rw [ran] at raised
            cases raised
        obtain ⟨before, d, after, ⟨calls, visited'⟩, needs, ran, last⟩ := foldlM_error deeper
        obtain ⟨rfl, left⟩ := foldlM_leaves (fun _ _ _ one => visit_leaves one) ran
        have deep := ih (.call needs left.all (stack.mono left.more)) (left.closed closed)
          (fun t below same => by cases same; exact stack.firstPath closed fresh) last
        rw [List.length_cons, ← Nat.add_assoc, Nat.add_right_comm] at deep
        exact deep

/-- A search that returns had room for every path to a task it had not left behind. -/
theorem visit_room {frames : Nat} {visiting visited rest : List Uuid} {taskId u : Uuid}
    {r : List Uuid × List Uuid} (closed : Closed dependencies visited) (fresh : u ∉ visited)
    (path : FirstPath dependencies u (taskId :: rest)) (deeper : dependencies u ≠ [])
    (ran : Plan.visit dependencies frames (visiting, visited) taskId = .ok r) :
    (taskId :: rest).length < frames := by
  induction frames generalizing visiting visited taskId rest r with
  | zero => cases ran
  | succ frames ih =>
    unfold Plan.visit at ran
    split at ran
    · cases ran
    · split at ran
      · rename_i known
        exact absurd (closed.leads path.leads known) fresh
      · obtain ⟨_, ran, _⟩ := bind_eq_ok.mp ran
        cases path with
        | here =>
          obtain ⟨d, others, needs⟩ := List.exists_cons_of_ne_nil deeper
          rw [needs, List.foldlM_cons] at ran
          obtain ⟨_, first, _⟩ := bind_eq_ok.mp ran
          cases frames with
          | zero => cases first
          | succ frames => simp
        | @step _ t' before after rest needs earlier path =>
          rw [needs, List.foldlM_append] at ran
          obtain ⟨⟨calls, visited'⟩, before', ran⟩ := bind_eq_ok.mp ran
          obtain ⟨rfl, left⟩ := foldlM_leaves (fun _ _ _ one => visit_leaves one) before'
          rw [List.foldlM_cons] at ran
          obtain ⟨_, next, _⟩ := bind_eq_ok.mp ran
          have still : u ∉ visited' := fun there =>
            (left.reached u there).elim fresh fun ⟨d, listed, leads⟩ => earlier d listed leads
          have shorter := ih (left.closed closed) still path next
          rw [List.length_cons]
          omega

end

/-! ## The constructor -/

namespace PlanFields

/-- A task of the plan, `t`, depends on `d`. -/
def Depends (p : PlanFields) (d t : Uuid) : Prop :=
  ∃ task ∈ p.tasks, task.taskId = t ∧ d ∈ task.dependsOn

/-- What a plan has to be. -/
structure WellFormed (p : PlanFields) : Prop where
  version : 0 < p.version
  tasks : p.tasks ≠ []
  unique : (p.tasks.map (·.taskId)).Nodup
  members : ∀ t ∈ p.tasks, t.tenantId = p.tenantId ∧ t.runId = p.runId
  closed : ∀ t ∈ p.tasks, ∀ d ∈ t.dependsOn, ∃ t' ∈ p.tasks, t'.taskId = d
  acyclic : ∀ t, ¬Relation.TransGen p.Depends t t

/-- What a task depends on is looked up by its identifier. -/
theorem dependencies_eq {p : PlanFields} (unique : (p.tasks.map (·.taskId)).Nodup) {task : Task}
    (there : task ∈ p.tasks) : p.dependencies task.taskId = task.dependsOn := by
  unfold dependencies
  cases found : p.tasks.find? (·.taskId = task.taskId) with
  | none => simpa using List.find?_eq_none.mp found task there
  | some other =>
    have same : other.taskId = task.taskId := by simpa using List.find?_some found
    rw [List.inj_on_of_nodup_map unique (List.mem_of_find?_eq_some found) there same]
    rfl

/-- Only a task of the plan has dependencies. -/
theorem task_of_dependencies {p : PlanFields} {d t : Uuid} (below : d ∈ p.dependencies t) :
    ∃ task ∈ p.tasks, task.taskId = t := by
  unfold dependencies at below
  cases found : p.tasks.find? (·.taskId = t) with
  | none => simp [found] at below
  | some task =>
    exact ⟨task, List.mem_of_find?_eq_some found, by simpa using List.find?_some found⟩

theorem mem_dependencies {p : PlanFields} (unique : (p.tasks.map (·.taskId)).Nodup)
    (d t : Uuid) : d ∈ p.dependencies t ↔ p.Depends d t := by
  constructor
  · intro below
    obtain ⟨task, there, rfl⟩ := task_of_dependencies below
    rw [dependencies_eq unique there] at below
    exact ⟨task, there, rfl, below⟩
  · rintro ⟨task, there, rfl, below⟩
    rw [dependencies_eq unique there]
    exact below

theorem below_eq {p : PlanFields} (unique : (p.tasks.map (·.taskId)).Nodup) :
    Below p.dependencies = p.Depends :=
  funext₂ fun d t => propext (mem_dependencies unique d t)

theorem checkTask_ok {p : PlanFields} {t : Task} :
    p.checkTask t = .ok () ↔ (t.tenantId = p.tenantId ∧ t.runId = p.runId) ∧
      ∀ d ∈ t.dependsOn, ∃ t' ∈ p.tasks, t'.taskId = d := by
  simp [checkTask]

theorem checkIn_ok {p : PlanFields} {frames : Nat} {order : List Uuid} :
    p.checkIn frames order = .ok () ↔ 0 < p.version ∧ p.tasks ≠ [] ∧
      (p.tasks.map (·.taskId)).Nodup ∧ (∀ t ∈ p.tasks, p.checkTask t = .ok ()) ∧
      ∃ found, order.foldlM (Plan.visit p.dependencies frames) ([], []) = .ok found := by
  simp only [checkIn, bind_eq_ok, forM_eq_ok, checks_cons, checks_nil, and_true,
    decide_eq_false_iff_not, Bool.not_eq_false', decide_eq_true_eq, List.isEmpty_eq_false_iff]
  constructor
  · rintro ⟨_, ⟨version, tasks, unique⟩, _, checked, found, ran, _⟩
    exact ⟨by omega, tasks, unique, checked, found, ran⟩
  · rintro ⟨version, tasks, unique, checked, found, ran⟩
    exact ⟨(), ⟨by omega, tasks, unique⟩, (), checked, found, ran, rfl⟩

/-- Whatever the stack, only well-formed plans are accepted. -/
theorem wellFormed_of_checkIn {p : PlanFields} {frames : Nat} {order : List Uuid}
    (ids : p.tasks.map (·.taskId) ⊆ order) (accepted : p.checkIn frames order = .ok ()) :
    p.WellFormed := by
  obtain ⟨version, tasks, unique, checked, found, ran⟩ := checkIn_ok.mp accepted
  have left := (foldlM_leaves (fun _ _ _ one => visit_leaves one) ran).2
  refine ⟨version, tasks, unique, fun t there => (checkTask_ok.mp (checked t there)).1,
    fun t there => (checkTask_ok.mp (checked t there)).2, fun t cycle => ?_⟩
  obtain ⟨_, _, last⟩ := Relation.TransGen.tail'_iff.mp cycle
  obtain ⟨task, there, rfl, _⟩ := last
  have mine : task.taskId ∈ order := ids (List.mem_map_of_mem there)
  rw [← below_eq unique] at cycle
  have done := left.done (fun _ none => absurd none List.not_mem_nil) _ (left.all mine)
  exact acc_irrefl_transGen done cycle

/-- On a stack it fits, a well-formed plan is accepted. -/
theorem checkIn_of_fits {p : PlanFields} (formed : p.WellFormed) {frames : Nat}
    (fits : Fits p.dependencies frames) (order : List Uuid) :
    p.checkIn frames order = .ok () := by
  refine checkIn_ok.mpr ⟨formed.version, formed.tasks, formed.unique, fun t there => ?_, ?_⟩
  · exact checkTask_ok.mpr ⟨formed.members t there, formed.closed t there⟩
  · cases ran : order.foldlM (Plan.visit p.dependencies frames) ([], []) with
    | ok found => exact ⟨found, rfl⟩
    | error e =>
      obtain ⟨before, t, _, ⟨calls, visited⟩, _, ran, last⟩ := foldlM_error ran
      obtain ⟨rfl, left⟩ := foldlM_leaves (fun _ _ _ one => visit_leaves one) ran
      have closed := left.closed fun _ none => absurd none List.not_mem_nil
      obtain ⟨t, cycle⟩ | deep := visit_error (.first t) closed (fun _ _ same => by cases same) last
      · rw [below_eq formed.unique] at cycle
        exact absurd cycle (formed.acyclic t)
      · exact absurd fits deep

/-- A plan that is accepted in every order fits the stack: the search starts at the first task of
a path when the order does. -/
theorem fits_of_checkIn {p : PlanFields} (formed : p.WellFormed) {frames : Nat}
    (accepted : ∀ order : List Uuid, order.Perm (p.tasks.map (·.taskId)).dedup →
      p.checkIn frames order = .ok ()) : Fits p.dependencies frames := by
  have starts (task : Task) (there : task ∈ p.tasks) : ∃ r,
      Plan.visit p.dependencies frames ([], []) task.taskId = .ok r := by
    have listed : task.taskId ∈ (p.tasks.map (·.taskId)).dedup :=
      List.mem_dedup.mpr (List.mem_map_of_mem there)
    obtain ⟨_, _, _, _, found, ran⟩ :=
      checkIn_ok.mp (accepted _ (List.perm_cons_erase listed).symm)
    rw [List.foldlM_cons] at ran
    obtain ⟨r, first, _⟩ := bind_eq_ok.mp ran
    exact ⟨r, first⟩
  constructor
  · obtain ⟨task, others, same⟩ := List.exists_cons_of_ne_nil formed.tasks
    obtain ⟨r, ran⟩ := starts task (by rw [same]; exact List.mem_cons_self)
    cases frames with
    | zero => cases ran
    | succ frames => exact Nat.succ_pos frames
  · intro u path first deeper
    obtain ⟨t, rest, rfl⟩ : ∃ t rest, path = t :: rest := by
      cases first with
      | here => exact ⟨u, [], rfl⟩
      | @step t t' _ _ rest => exact ⟨t, t' :: rest, rfl⟩
    obtain ⟨d, _, same⟩ := List.exists_cons_of_ne_nil (first.needs deeper t List.mem_cons_self)
    obtain ⟨task, there, rfl⟩ := task_of_dependencies (by rw [same]; exact List.mem_cons_self)
    obtain ⟨r, ran⟩ := starts task there
    exact visit_room (fun _ none => absurd none List.not_mem_nil) List.not_mem_nil first deeper ran

/-- The constructor of a plan accepts the well-formed plans and no others, in whatever order it
goes through the set of the task ids, exactly if a well-formed plan fits the stack. -/
theorem checkIn_ok_iff (p : PlanFields) (frames : Nat) :
    (∀ order : List Uuid, order.Perm (p.tasks.map (·.taskId)).dedup →
      (p.checkIn frames order = .ok () ↔ p.WellFormed)) ↔
      (p.WellFormed → Fits p.dependencies frames) := by
  constructor
  · intro accepts formed
    exact fits_of_checkIn formed fun order ids => (accepts order ids).mpr formed
  · intro fits order ids
    refine ⟨wellFormed_of_checkIn fun id there => ?_, fun formed => ?_⟩
    · exact ids.mem_iff.mpr (List.mem_dedup.mpr there)
    · exact checkIn_of_fits formed (fits formed) order

namespace Sample

/-- A task that depends on others. -/
def task (taskId : Uuid) (dependsOn : List Uuid) : TaskFields where
  tenantId := 1
  runId := 2
  name := "look up"
  completionCriterion := "found"
  dependsOn := dependsOn
  taskId := taskId

/-- The second task waits for the first, and the third for both. -/
def waiting : PlanFields where
  tenantId := 1
  goalId := 3
  runId := 2
  tasks := [⟨task 11 [], by decide⟩, ⟨task 12 [11], by decide⟩, ⟨task 13 [11, 12], by decide⟩]
  planId := 4

/-- A task that waits for the one before. -/
def link : Nat → Task
  | 0 => ⟨task 0 [], by decide⟩
  | n + 1 => ⟨task (.ofNat 128 (n + 1)) [.ofNat 128 n], by
      have other : BitVec.ofNat 128 (n + 1) ≠ BitVec.ofNat 128 n := by
        intro same
        have values := congrArg BitVec.toNat same
        simp only [BitVec.toNat_ofNat] at values
        omega
      simp [TaskFields.check, task, checks, other]
      decide⟩

/-- A plan of one task after the other, `n` times. -/
def chain (n : Nat) : PlanFields :=
  { waiting with tasks := (List.range (n + 1)).map link }

theorem link_taskId (n : Nat) : (link n).taskId = .ofNat 128 n := by
  cases n <;> rfl

theorem link_dependsOn {n : Nat} {d : Uuid} (needs : d ∈ (link n).dependsOn) :
    ∃ m, n = m + 1 ∧ d = .ofNat 128 m := by
  cases n with
  | zero => cases needs
  | succ m => exact ⟨m, rfl, List.mem_singleton.mp needs⟩

section
variable {n : Nat} (small : n < 2 ^ 128)
include small

theorem toNat_id {m : Nat} (among : m ≤ n) : (BitVec.ofNat 128 m).toNat = m :=
  (BitVec.toNat_ofNat ..).trans (Nat.mod_eq_of_lt (lt_of_le_of_lt among small))

theorem chain_unique : ((chain n).tasks.map (·.taskId)).Nodup := by
  rw [chain, List.map_map]
  refine List.Nodup.map_on (fun a listed b listed' same => ?_) List.nodup_range
  simp only [Function.comp, link_taskId] at same
  rw [List.mem_range] at listed listed'
  rw [← toNat_id small (Nat.le_of_lt_succ listed), same, toNat_id small (Nat.le_of_lt_succ listed')]

theorem chain_wellFormed : (chain n).WellFormed where
  version := by
    change (0 : Int) < 1
    decide
  tasks := by simp [chain]
  unique := chain_unique small
  members t there := by
    obtain ⟨m, _, rfl⟩ := List.mem_map.mp there
    cases m <;> exact ⟨rfl, rfl⟩
  closed t there d needs := by
    obtain ⟨m, listed, rfl⟩ := List.mem_map.mp there
    obtain ⟨m, rfl, rfl⟩ := link_dependsOn needs
    refine ⟨link m, List.mem_map_of_mem ?_, link_taskId m⟩
    rw [List.mem_range] at listed ⊢
    omega
  acyclic t cycle := by
    have falls {d t : Uuid} (depends : (chain n).Depends d t) : d.toNat < t.toNat := by
      obtain ⟨task, there, rfl, needs⟩ := depends
      obtain ⟨m, listed, rfl⟩ := List.mem_map.mp there
      obtain ⟨m, rfl, rfl⟩ := link_dependsOn needs
      rw [List.mem_range] at listed
      rw [link_taskId, toNat_id small (by omega), toNat_id small (by omega)]
      exact Nat.lt_succ_self m
    have below : t.toNat < t.toNat := by
      refine Relation.TransGen.trans_induction_on (motive := fun {d t} _ => d.toNat < t.toNat)
        cycle falls fun _ _ => Nat.lt_trans
    exact Nat.lt_irrefl _ below

/-- The search comes to the first task but one along the whole chain. -/
theorem chain_path {m : Nat} (among : m + 1 ≤ n) : ∃ rest,
    FirstPath (chain n).dependencies 1 (BitVec.ofNat 128 (m + 1) :: rest) ∧ rest.length = m := by
  induction m with
  | zero => exact ⟨[], .here, rfl⟩
  | succ m ih =>
    obtain ⟨rest, path, length⟩ := ih (by omega)
    have there : link (m + 2) ∈ (chain n).tasks :=
      List.mem_map_of_mem (List.mem_range.mpr (by omega))
    have needs : (chain n).dependencies (BitVec.ofNat 128 (m + 2)) =
        [] ++ BitVec.ofNat 128 (m + 1) :: [] := dependencies_eq (chain_unique small) there
    exact ⟨_, .step needs (by simp) path, by simp [length]⟩

end

theorem chain_deep {n : Nat} (small : n < 2 ^ 128) (long : 0 < n) :
    ¬Fits (chain n).dependencies n := by
  intro fits
  obtain ⟨m, rfl⟩ := Nat.exists_eq_succ_of_ne_zero (Nat.ne_of_gt long)
  obtain ⟨rest, path, length⟩ := chain_path small (Nat.le_refl (m + 1))
  have there : link 1 ∈ (chain (m + 1)).tasks :=
    List.mem_map_of_mem (List.mem_range.mpr (by omega))
  have deeper : (chain (m + 1)).dependencies 1 = [0] := dependencies_eq (chain_unique small) there
  have short := fits.paths 1 _ path (by rw [deeper]; simp)
  rw [List.length_cons, length] at short
  exact Nat.lt_irrefl _ short

/-- A stack for a thousand visits is too small for a chain of a thousand and one tasks. -/
theorem chain_refused : (chain 1000).WellFormed ∧ ∃ order : List Uuid,
    order.Perm ((chain 1000).tasks.map (·.taskId)).dedup ∧
      (chain 1000).checkIn 1000 order ≠ .ok () := by
  have small : 1000 < 2 ^ 128 := by decide
  have formed := chain_wellFormed small
  refine ⟨formed, ?_⟩
  by_contra accepted
  refine chain_deep small (by decide) (fits_of_checkIn formed fun order ids => ?_)
  by_contra refused
  exact accepted ⟨order, ids, refused⟩

end Sample

/-- A path of a well-formed plan goes through different tasks of the plan. -/
theorem fits_length {p : PlanFields} (formed : p.WellFormed) :
    Fits p.dependencies (p.tasks.length + 1) := by
  refine ⟨Nat.succ_pos _, fun u path first deeper => ?_⟩
  have apart : path.Nodup := by
    refine first.pairwise.imp fun below same => ?_
    rw [same, below_eq formed.unique] at below
    exact formed.acyclic _ below
  have inside : path ⊆ p.tasks.map (·.taskId) := by
    intro t there
    obtain ⟨d, _, same⟩ := List.exists_cons_of_ne_nil (first.needs deeper t there)
    obtain ⟨task, listed, rfl⟩ := task_of_dependencies (by rw [same]; exact List.mem_cons_self)
    exact List.mem_map_of_mem listed
  have short := (List.subperm_of_subset apart inside).length_le
  rw [List.length_map] at short
  exact Nat.lt_succ_of_le short

/-- The order of the set does not matter: the list of the task ids will do. -/
theorem check_ok_iff (p : PlanFields) : p.check = .ok () ↔ p.WellFormed :=
  ⟨wellFormed_of_checkIn (List.Subset.refl _), fun formed =>
    checkIn_of_fits formed (fits_length formed) _⟩

end PlanFields

theorem Plan.wellFormed (p : Plan) : p.WellFormed := (PlanFields.check_ok_iff _).mp p.valid

end Autonoesis
