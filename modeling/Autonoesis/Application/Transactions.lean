import Autonoesis.Base.Replay
import Autonoesis.Application.Completion

/-!
# Concurrent transactions of the in-memory store

`InMemoryPlatformStore.transaction` copies the whole store when a block is entered and, when
the block raises, puts the copy back. Blocks are interleaved at the await points of their
bodies; what a block does to the store between two of them is one change. The log lists the
changes and the raises, so that the store can be compared with what the blocks that did not
fail have made of it.
-/

namespace Autonoesis.Transactions
open Base

inductive BlockStatus where
  | running | committed | failed
  deriving DecidableEq

/-- A `transaction()` block: the copy it took when it was entered, and how long the log was
then. -/
structure Block where
  snapshot : Store
  entered : Nat
  status : BlockStatus := .running

/-- The store, the blocks in the order they were entered, and what they have done. -/
structure Shared where
  store : Store
  blocks : List Block := []
  log : List (Deed Nat Store) := []

/-- One step of one block; the label is the block that raised, if one did. -/
inductive Step (s : Shared) : Option Nat → Shared → Prop
  | enter : Step s none { s with blocks := s.blocks ++ [⟨s.store, s.log.length, .running⟩] }
  | change {i : Nat} {b : Block} (here : s.blocks[i]? = some b) (running : b.status = .running)
      (f : Store → Store) :
      Step s none { s with store := f s.store, log := s.log ++ [⟨i, f⟩] }
  | commit {i : Nat} {b : Block} (here : s.blocks[i]? = some b) (running : b.status = .running) :
      Step s none { s with blocks := s.blocks.set i { b with status := .committed } }
  | raised {i : Nat} {b : Block} (here : s.blocks[i]? = some b) (running : b.status = .running) :
      Step s (some i) {
        store := b.snapshot
        blocks := s.blocks.set i { b with status := .failed }
        log := s.log ++ [⟨i, id⟩] }

/-- The interleavings from the store `s₀` in which each raise meets `ok`. -/
inductive Reach (ok : Shared → Nat → Prop) (s₀ : Store) : Shared → Prop
  | start : Reach ok s₀ { store := s₀ }
  | next {s s' : Shared} {label : Option Nat} (past : Reach ok s₀ s) (step : Step s label s')
      (legal : ∀ i, label = some i → ok s i) : Reach ok s₀ s'

/-- The store holds every change of the committed blocks and none of the failed ones. -/
def Isolated (s₀ : Store) (s : Shared) : Prop :=
  ∃ keep : Nat → Bool, (∀ i b, s.blocks[i]? = some b →
    (b.status = .committed → keep i = true) ∧ (b.status = .failed → keep i = false)) ∧
    s.store = replay keep s₀ s.log

/-- Since the block was entered, no other block has changed the store or raised. -/
def Undisturbed (s : Shared) (i : Nat) : Prop :=
  ∀ b, s.blocks[i]? = some b → ∀ d ∈ s.log.drop b.entered, d.owner = i

/-- Whether a block has not failed. -/
def stands (s : Shared) (i : Nat) : Bool :=
  (s.blocks[i]?).all fun b => b.status ≠ .failed

structure Sound (s₀ : Store) (s : Shared) : Prop where
  store : s.store = replay (stands s) s₀ s.log
  owners : ∀ d ∈ s.log, d.owner < s.blocks.length
  entered : ∀ i b, s.blocks[i]? = some b → b.entered ≤ s.log.length ∧
    ∀ d ∈ s.log.take b.entered, d.owner < i
  snapshot : ∀ i b, s.blocks[i]? = some b → b.status = .running → Undisturbed s i →
    b.snapshot = replay (stands s) s₀ (s.log.take b.entered)

variable {s₀ : Store} {s s' : Shared}

theorem Sound.isolated (sound : Sound s₀ s) : Isolated s₀ s := by
  refine ⟨stands s, fun i b here => ?_, sound.store⟩
  rw [stands, here]
  constructor <;> intro status <;> simp [status]

theorem stands_enter (b : Block) (running : b.status = .running) :
    stands { s with blocks := s.blocks ++ [b] } = stands s := by
  funext i
  simp only [stands]
  rcases Nat.lt_trichotomy i s.blocks.length with below | rfl | above
  · rw [List.getElem?_append_left below]
  · simp [running]
  · rw [List.getElem?_eq_none (by simp; omega), List.getElem?_eq_none (by omega)]

theorem stands_set {i : Nat} {b : Block} (here : s.blocks[i]? = some b) (b' : Block)
    (log : List (Deed Nat Store)) (store : Store) (j : Nat) :
    stands ⟨store, s.blocks.set i b', log⟩ j =
      if j = i then decide (b'.status ≠ .failed) else stands s j := by
  have inside : i < s.blocks.length := (List.getElem?_eq_some_iff.mp here).1
  by_cases same : j = i
  · rw [if_pos same, same, stands, List.getElem?_set_self inside]
    rfl
  · rw [if_neg same, stands, stands, List.getElem?_set_ne (Ne.symm same)]

/-- A block of the store after one was entered, or that one. -/
theorem block_cases {blocks : List Block} {b new : Block} {i : Nat}
    (here : (blocks ++ [new])[i]? = some b) :
    blocks[i]? = some b ∨ i = blocks.length ∧ b = new := by
  rcases Nat.lt_trichotomy i blocks.length with below | rfl | above
  · rw [List.getElem?_append_left below] at here
    exact .inl here
  · rw [List.getElem?_concat_length, Option.some.injEq] at here
    exact .inr ⟨rfl, here.symm⟩
  · rw [List.getElem?_eq_none (by simp; omega)] at here
    cases here

theorem set_cases {blocks : List Block} {b new : Block} {i j : Nat}
    (here : (blocks.set i new)[j]? = some b) :
    (j = i ∧ b = new) ∨ (j ≠ i ∧ blocks[j]? = some b) := by
  by_cases same : j = i
  · rw [same] at here
    have inside : i < blocks.length := by
      simpa using (List.getElem?_eq_some_iff.mp here).1
    rw [List.getElem?_set_self inside, Option.some.injEq] at here
    exact .inl ⟨same, here.symm⟩
  · rw [List.getElem?_set_ne (Ne.symm same)] at here
    exact .inr ⟨same, here⟩

theorem Sound.enter (sound : Sound s₀ s) :
    Sound s₀ { s with blocks := s.blocks ++ [⟨s.store, s.log.length, .running⟩] } := by
  have same := stands_enter (s := s) ⟨s.store, s.log.length, .running⟩ rfl
  refine ⟨?_, fun d there => ?_, fun i b here => ?_, fun i b here running quiet => ?_⟩
  · rw [same]
    exact sound.store
  · have before := sound.owners d there
    simp only [List.length_append, List.length_singleton]
    omega
  · rcases block_cases here with old | ⟨rfl, rfl⟩
    · exact sound.entered i b old
    · exact ⟨le_rfl, fun d there => sound.owners d (List.mem_of_mem_take there)⟩
  · rw [same]
    rcases block_cases here with old | ⟨rfl, rfl⟩
    · refine sound.snapshot i b old running fun b' here' => ?_
      cases old.symm.trans here'
      exact quiet b here
    · rw [List.take_length]
      exact sound.store

theorem Sound.change {i : Nat} {b : Block} (sound : Sound s₀ s) (here : s.blocks[i]? = some b)
    (running : b.status = .running) (f : Store → Store) :
    Sound s₀ { s with store := f s.store, log := s.log ++ [⟨i, f⟩] } := by
  have stays : stands s i = true := by
    rw [stands, here]
    simp [running]
  refine ⟨?_, fun d there => ?_, fun j c at_j => ?_, fun j c at_j runs quiet => ?_⟩
  · change f s.store = replay (stands s) s₀ (s.log ++ [⟨i, f⟩])
    rw [replay_snoc stays, sound.store]
  · rcases List.mem_append.mp there with old | new
    · exact sound.owners d old
    · cases List.mem_singleton.mp new
      exact (List.getElem?_eq_some_iff.mp here).1
  · obtain ⟨bound, earlier⟩ := sound.entered j c at_j
    rw [List.take_append_of_le_length bound]
    refine ⟨?_, earlier⟩
    simp only [List.length_append, List.length_singleton]
    omega
  · have bound := (sound.entered j c at_j).1
    change c.snapshot = replay (stands s) s₀ (List.take c.entered (s.log ++ [⟨i, f⟩]))
    rw [List.take_append_of_le_length bound]
    refine sound.snapshot j c at_j runs fun c' at_j' d there => ?_
    cases at_j.symm.trans at_j'
    refine quiet c at_j d ?_
    rw [List.drop_append_of_le_length bound]
    exact List.mem_append_left _ there

theorem Sound.commit {i : Nat} {b : Block} (sound : Sound s₀ s) (here : s.blocks[i]? = some b)
    (running : b.status = .running) :
    Sound s₀ { s with blocks := s.blocks.set i { b with status := .committed } } := by
  have same : stands { s with blocks := s.blocks.set i { b with status := .committed } } =
      stands s := by
    funext j
    rw [stands_set here]
    split
    · rename_i at_i
      rw [at_i, stands, here]
      simp [running]
    · rfl
  refine ⟨?_, fun d there => ?_, fun j c at_j => ?_, fun j c at_j runs quiet => ?_⟩
  · rw [same]
    exact sound.store
  · rw [List.length_set]
    exact sound.owners d there
  · rcases set_cases at_j with ⟨rfl, rfl⟩ | ⟨_, at_j⟩
    · exact sound.entered j b here
    · exact sound.entered j c at_j
  · rcases set_cases at_j with ⟨rfl, rfl⟩ | ⟨_, old⟩
    · cases runs
    · rw [same]
      refine sound.snapshot j c old runs fun c' at_j' => ?_
      cases old.symm.trans at_j'
      exact quiet c at_j

/-- A block that nothing came between puts the store back to where only its own changes are
missing. -/
theorem Sound.raised {i : Nat} {b : Block} (sound : Sound s₀ s) (here : s.blocks[i]? = some b)
    (running : b.status = .running) (quiet : Undisturbed s i) :
    Sound s₀ {
      store := b.snapshot
      blocks := s.blocks.set i { b with status := .failed }
      log := s.log ++ [⟨i, id⟩] } := by
  have fails := stands_set here { b with status := .failed } (s.log ++ [⟨i, id⟩]) b.snapshot
  obtain ⟨bound, earlier⟩ := sound.entered i b here
  refine ⟨?_, fun d there => ?_, fun j c at_j => ?_, fun j c at_j runs undisturbed => ?_⟩
  · have own : ∀ d ∈ s.log.drop b.entered ++ [⟨i, id⟩], d.owner = i := by
      intro d there
      rcases List.mem_append.mp there with old | new
      · exact quiet b here d old
      · rw [List.mem_singleton.mp new]
    have split : s.log ++ [⟨i, id⟩] =
        s.log.take b.entered ++ (s.log.drop b.entered ++ [⟨i, id⟩]) := by
      rw [← List.append_assoc, List.take_append_drop]
    have restored := sound.snapshot i b here running quiet
    change b.snapshot = replay (stands ⟨_, _, _⟩) s₀ (s.log ++ [⟨i, id⟩])
    generalize stands ⟨_, _, _⟩ = keep at fails ⊢
    rw [split, replay_append, replay_dropped fun d there => by rw [own d there, fails]; simp,
      restored]
    refine replay_congr fun d there => ?_
    rw [fails, if_neg (Nat.ne_of_lt (earlier d there))]
  · rw [List.length_set]
    rcases List.mem_append.mp there with old | new
    · exact sound.owners d old
    · cases List.mem_singleton.mp new
      exact (List.getElem?_eq_some_iff.mp here).1
  · have before : c.entered ≤ s.log.length ∧ ∀ d ∈ s.log.take c.entered, d.owner < j := by
      rcases set_cases at_j with ⟨rfl, rfl⟩ | ⟨_, old⟩
      · exact sound.entered j b here
      · exact sound.entered j c old
    dsimp only
    rw [List.take_append_of_le_length before.1, List.length_append, List.length_singleton]
    exact ⟨by omega, before.2⟩
  · -- the raise itself disturbs every other block
    rcases set_cases at_j with ⟨rfl, rfl⟩ | ⟨other, old⟩
    · cases runs
    · have last := undisturbed c at_j ⟨i, id⟩ (by
        dsimp only
        rw [List.drop_append_of_le_length (sound.entered j c old).1]
        exact List.mem_concat_self)
      exact absurd last.symm other

theorem Sound.step {label : Option Nat} (sound : Sound s₀ s) (step : Step s label s')
    (legal : ∀ i, label = some i → Undisturbed s i) : Sound s₀ s' := by
  cases step with
  | enter => exact sound.enter
  | change here running f => exact sound.change here running f
  | commit here running => exact sound.commit here running
  | raised here running => exact sound.raised here running (legal _ rfl)

/-- In an interleaving in which no block raises after another has changed the store or raised
since it was entered, the store always holds every change of the committed blocks and none
of the failed ones. -/
theorem undisturbed_isolated {s₀ : Store} {s : Shared} (reach : Reach Undisturbed s₀ s) :
    Isolated s₀ s := by
  refine Sound.isolated ?_
  induction reach with
  | start => exact ⟨rfl, by simp, by simp, by simp⟩
  | next _ step legal sound => exact sound.step step legal

/-! ## A command that raises beside one that commits -/

namespace Sample
open Autonoesis.Sample

attribute [local instance] Autonoesis.Sample.sha256

/-- A store with an active Goal. -/
def opened : Store :=
  (.activateGoal (context "activate-1" activate_named) 16 "ready" : Command).run ports (env 18)
    ((.createGoal (context "goal-1" goal_named) goal : Command).run ports (env 16) {})

/-- What `create_goal` does to the store. -/
def secondGoal (s : Store) : Store :=
  (.createGoal (context "goal-2" goal_named_two) goal : Command).run ports (env 216) s

/-- `request_run` raises when its deployment router does. -/
example : ((App.requestRun
    { ports with runDeploymentRouter := some fun _ _ => .error (.runtimeError "no route") }
    (env 32) (context "run-1" (by decide)) 16).commit opened).1.toOption.isNone = true := by
  decide +kernel

/-- The steps of one block around those of another, which changes the store and commits. -/
theorem around (s₀ : Store) (f : Store → Store) : Reach (fun _ _ => True) s₀
    ⟨s₀, [⟨s₀, 0, .failed⟩, ⟨s₀, 0, .committed⟩], [⟨1, f⟩, ⟨0, id⟩]⟩ := by
  have first : Reach (fun _ _ => True) s₀ ⟨s₀, [⟨s₀, 0, .running⟩], []⟩ :=
    Reach.start.next .enter fun _ _ => trivial
  have second : Reach (fun _ _ => True) s₀ ⟨s₀, [⟨s₀, 0, .running⟩, ⟨s₀, 0, .running⟩], []⟩ :=
    first.next .enter fun _ _ => trivial
  have changed : Reach (fun _ _ => True) s₀
      ⟨f s₀, [⟨s₀, 0, .running⟩, ⟨s₀, 0, .running⟩], [⟨1, f⟩]⟩ :=
    second.next (.change (i := 1) rfl rfl f) fun _ _ => trivial
  have committed : Reach (fun _ _ => True) s₀
      ⟨f s₀, [⟨s₀, 0, .running⟩, ⟨s₀, 0, .committed⟩], [⟨1, f⟩]⟩ :=
    changed.next (.commit (i := 1) (b := ⟨s₀, 0, .running⟩) rfl rfl) fun _ _ => trivial
  exact committed.next (.raised (i := 0) (b := ⟨s₀, 0, .running⟩) rfl rfl) fun _ _ => trivial

/-- While one block awaits its router, another creates a Goal and commits; the first raises,
and the Goal is gone. -/
theorem committed_goal_lost :
    ¬ ∀ s₀ s, Reach (fun _ _ => True) s₀ s → Isolated s₀ s := by
  intro isolated
  obtain ⟨keep, kept, same⟩ := isolated _ _ (around opened secondGoal)
  have first : keep 0 = false := (kept 0 _ rfl).2 rfl
  have second : keep 1 = true := (kept 1 _ rfl).1 rfl
  have lost : opened = secondGoal opened := by
    simpa only [replay, List.foldl_cons, List.foldl_nil, first, second, if_true,
      Bool.false_eq_true, if_false] using same
  have there := congrArg (fun s => (s.goals.get? 216).isSome) lost
  exact absurd there (by decide +kernel)

/-- A block that raises before another one has changed anything takes its own change back;
the other then commits. -/
theorem before (s₀ : Store) (f : Store → Store) : Reach Undisturbed s₀
    ⟨f s₀, [⟨s₀, 0, .failed⟩, ⟨f s₀, 1, .committed⟩], [⟨0, f⟩, ⟨0, id⟩, ⟨1, f⟩]⟩ := by
  have first : Reach Undisturbed s₀ ⟨s₀, [⟨s₀, 0, .running⟩], []⟩ :=
    Reach.start.next .enter fun _ none => nomatch none
  have changed : Reach Undisturbed s₀ ⟨f s₀, [⟨s₀, 0, .running⟩], [⟨0, f⟩]⟩ :=
    first.next (.change (i := 0) rfl rfl f) fun _ none => nomatch none
  have second : Reach Undisturbed s₀
      ⟨f s₀, [⟨s₀, 0, .running⟩, ⟨f s₀, 1, .running⟩], [⟨0, f⟩]⟩ :=
    changed.next .enter fun _ none => nomatch none
  have raised : Reach Undisturbed s₀
      ⟨s₀, [⟨s₀, 0, .failed⟩, ⟨f s₀, 1, .running⟩], [⟨0, f⟩, ⟨0, id⟩]⟩ := by
    refine second.next (.raised (i := 0) (b := ⟨s₀, 0, .running⟩) rfl rfl) ?_
    rintro _ ⟨⟩ b here d there
    cases here
    rw [List.mem_singleton.mp there]
  have changed' : Reach Undisturbed s₀
      ⟨f s₀, [⟨s₀, 0, .failed⟩, ⟨f s₀, 1, .running⟩], [⟨0, f⟩, ⟨0, id⟩, ⟨1, f⟩]⟩ :=
    raised.next (.change (i := 1) rfl rfl f) fun _ none => nomatch none
  exact changed'.next (.commit (i := 1) (b := ⟨f s₀, 1, .running⟩) rfl rfl)
    fun _ none => nomatch none

theorem undisturbed_isolated_alone : Isolated opened
    ⟨secondGoal opened, [⟨opened, 0, .failed⟩, ⟨secondGoal opened, 1, .committed⟩],
      [⟨0, secondGoal⟩, ⟨0, id⟩, ⟨1, secondGoal⟩]⟩ :=
  undisturbed_isolated (before opened secondGoal)

end Sample

end Autonoesis.Transactions
