import Mathlib.Data.List.Chain
import Mathlib.Logic.Function.Basic
import Mathlib.Logic.Relation
import Autonoesis.Base.Dict

/-!
# Rows with a version

A row is replaced by an update that names the version it was read at. A read stays usable as
long as no update has come between: until then it is the committed row, and afterwards its
version is behind. Any number of clients read rows and save what they make of them, and the
transaction of a save may insert rows whose keys are unique. The values committed under one key
then follow each other, each made of the one before.
-/

namespace Base.Versioned

variable {κ α μ : Type} [DecidableEq κ]

/-- `UPDATE … WHERE id = k AND …`: the table after it, or `none` when it matches no row. -/
def update (matching : α → Bool) (d : Dict κ α) (k : κ) (a : α) : Option (Dict κ α) :=
  match d.get? k with
  | some b => if matching b then some (d.set k a) else none
  | none => none

theorem update_eq_some {matching : α → Bool} {d d' : Dict κ α} {k : κ} {a : α} :
    update matching d k a = some d' ↔
      ∃ b, d.get? k = some b ∧ matching b = true ∧ d' = d.set k a := by
  unfold update
  cases found : d.get? k with
  | none => simp
  | some b =>
    by_cases matched : matching b = true
    · simp only [matched, if_true, Option.some.injEq, true_and, exists_eq_left']
      exact eq_comm
    · simp [matched]

/-- What a read returned: the committed row, or one of an earlier version. -/
def Read (version : α → Int) (d : Dict κ α) (k : κ) (a : α) : Prop :=
  ∃ b, d.get? k = some b ∧ (b = a ∨ version a < version b)

variable {version : α → Int} {d : Dict κ α} {k : κ} {a b : α}

theorem Read.of_get? (found : d.get? k = some a) : Read version d k a :=
  ⟨a, found, .inl rfl⟩

/-- A row that still has the version it was read at is the row that was read. -/
theorem Read.eq (read : Read version d k a) (found : d.get? k = some b)
    (same : version b = version a) : b = a := by
  obtain ⟨c, there, current | behind⟩ := read
  · cases found.symm.trans there
    exact current
  · cases found.symm.trans there
    omega

/-- Replacing a row by a later version of it keeps every read. -/
theorem Read.set {j : κ} {c : α} (read : Read version d k a)
    (later : ∀ b, d.get? j = some b → b = c ∨ version b < version c) :
    Read version (d.set j c) k a := by
  obtain ⟨b, there, order⟩ := read
  by_cases here : k = j
  · refine ⟨c, by rw [here, Dict.get?_set_self], ?_⟩
    rcases later b (here ▸ there) with rfl | newer
    · exact order
    · rcases order with rfl | behind
      · exact .inr newer
      · exact .inr (Int.lt_trans behind newer)
  · exact ⟨b, by rw [Dict.get?_set_ne d c here, there], order⟩

/-! ## Clients that read and save -/

/-- What a client may save once it has read `a`, with the unique keys its transaction inserts, and
the rows such a save matches. -/
structure Protocol (κ α μ : Type) where
  key : α → κ
  version : α → Int
  Saves : α → List μ → α → Prop
  matching : α → α → α → Bool

/-- A save is of a later version under the same key, or changes nothing, and it matches only
a row of the version that was read. -/
structure Protocol.Lawful (p : Protocol κ α μ) : Prop where
  key_eq : ∀ {a marks b}, p.Saves a marks b → p.key b = p.key a
  later : ∀ {a marks b}, p.Saves a marks b → b = a ∨ p.version a < p.version b
  version_eq : ∀ {a marks b row}, p.Saves a marks b → p.matching a b row = true →
    p.version row = p.version a

/-- The committed rows, the values in the order they were committed, the unique keys that are
taken, and what each client has read. -/
structure State (κ α μ : Type) where
  rows : Dict κ α := .empty
  history : List α := []
  taken : List μ := []
  clients : Nat → Option α := fun _ => none

/-- The steps of the clients, in any order. -/
inductive Step (p : Protocol κ α μ) (s : State κ α μ) : State κ α μ → Prop
  | add (a : α) (absent : s.rows.get? (p.key a) = none) :
      Step p s { s with rows := s.rows.set (p.key a) a, history := s.history ++ [a] }
  | read (i : Nat) (a : α) (found : s.rows.get? (p.key a) = some a) :
      Step p s { s with clients := Function.update s.clients i (some a) }
  | commit (i : Nat) {a b : α} {marks : List μ} {rows : Dict κ α} (here : s.clients i = some a)
      (saves : p.Saves a marks b) (free : ∀ m ∈ marks, m ∉ s.taken)
      (matched : update (p.matching a b) s.rows (p.key b) b = some rows) :
      Step p s ⟨rows, s.history ++ [b], s.taken ++ marks, Function.update s.clients i none⟩
  | conflict (i : Nat) {a b : α} {marks : List μ} (here : s.clients i = some a)
      (saves : p.Saves a marks b)
      (missed : update (p.matching a b) s.rows (p.key b) b = none) :
      Step p s { s with clients := Function.update s.clients i none }
  | duplicate (i : Nat) {a b : α} {marks : List μ} (here : s.clients i = some a)
      (saves : p.Saves a marks b) (used : ∃ m ∈ marks, m ∈ s.taken) :
      Step p s { s with clients := Function.update s.clients i none }

/-- The values committed under one key. -/
def State.historyOf (s : State κ α μ) (p : Protocol κ α μ) (k : κ) : List α :=
  s.history.filter (p.key · = k)

structure Sound (p : Protocol κ α μ) (s : State κ α μ) : Prop where
  last : ∀ k, s.rows.get? k = (s.historyOf p k).getLast?
  chain : ∀ k, (s.historyOf p k).IsChain fun a b => ∃ marks, p.Saves a marks b
  clients : ∀ i a, s.clients i = some a → Read p.version s.rows (p.key a) a

variable {p : Protocol κ α μ} {s s' : State κ α μ} {marks : List μ}

/-- A row that a save matches is the one its client has read. -/
theorem Sound.matched (lawful : p.Lawful) (sound : Sound p s) {i : Nat}
    (here : s.clients i = some a) (saves : p.Saves a marks b) {rows : Dict κ α}
    (matched : update (p.matching a b) s.rows (p.key b) b = some rows) :
    s.rows.get? (p.key a) = some a ∧ rows = s.rows.set (p.key a) b := by
  obtain ⟨row, found, matching, rfl⟩ := update_eq_some.mp matched
  rw [lawful.key_eq saves] at found ⊢
  have same := (sound.clients i a here).eq found (lawful.version_eq saves matching)
  exact ⟨same ▸ found, rfl⟩

/-- A save whose client has read an earlier value than the committed one matches no row. -/
theorem Sound.stale (lawful : p.Lawful) (sound : Sound p s) {i : Nat}
    (here : s.clients i = some a) (saves : p.Saves a marks b)
    (stale : s.rows.get? (p.key a) ≠ some a) :
    update (p.matching a b) s.rows (p.key b) b = none := by
  cases outcome : update (p.matching a b) s.rows (p.key b) b with
  | none => rfl
  | some rows => exact absurd (sound.matched lawful here saves outcome).1 stale

/-- Committing `c`, made of the committed row if there is one. -/
theorem Sound.append (lawful : p.Lawful) (sound : Sound p s) {c : α}
    (follows : ∀ a, s.rows.get? (p.key c) = some a → ∃ marks, p.Saves a marks c)
    (taken : List μ) {clients : Nat → Option α}
    (fewer : ∀ i a, clients i = some a → s.clients i = some a) :
    Sound p ⟨s.rows.set (p.key c) c, s.history ++ [c], taken, clients⟩ := by
  have extended (k : κ) :
      State.historyOf ⟨s.rows.set (p.key c) c, s.history ++ [c], taken, clients⟩ p k =
        s.historyOf p k ++ if p.key c = k then [c] else [] := by
    simp only [State.historyOf, List.filter_append, List.filter_singleton, Bool.cond_decide]
  refine ⟨fun k => ?_, fun k => ?_, fun i a here => ?_⟩
  · rw [extended, Dict.get?_set]
    by_cases here : k = p.key c
    · rw [if_pos here, if_pos here.symm, List.getLast?_concat]
    · rw [if_neg here, if_neg (Ne.symm here), List.append_nil]
      exact sound.last k
  · rw [extended]
    split
    · rename_i here
      subst here
      refine List.isChain_append.mpr ⟨sound.chain _, List.isChain_singleton c, ?_⟩
      intro a last b first
      rw [List.head?_cons, Option.mem_some_iff] at first
      subst first
      exact follows a ((sound.last _).trans last)
    · rw [List.append_nil]
      exact sound.chain k
  · exact (sound.clients i a (fewer i a here)).set fun b there =>
      (lawful.later (follows b there).choose_spec).imp_left Eq.symm

theorem Step.sound (lawful : p.Lawful) (step : Step p s s') (sound : Sound p s) : Sound p s' := by
  have cleared (i j : Nat) (a : α) (here : Function.update s.clients i none j = some a) :
      s.clients j = some a := by
    by_cases same : j = i
    · rw [same, Function.update_self] at here
      cases here
    · rwa [Function.update_of_ne same] at here
  cases step with
  | add a absent =>
    exact sound.append lawful (fun b there => nomatch absent.symm.trans there) _ fun _ _ => id
  | read i a found =>
    refine ⟨sound.last, sound.chain, fun j b here => ?_⟩
    dsimp only at here
    by_cases same : j = i
    · rw [same, Function.update_self, Option.some.injEq] at here
      exact here ▸ Read.of_get? found
    · rw [Function.update_of_ne same] at here
      exact sound.clients j b here
  | commit i here saves _ matched =>
    obtain ⟨current, rfl⟩ := sound.matched lawful here saves matched
    rw [← lawful.key_eq saves] at current ⊢
    exact sound.append lawful (fun a there => by
      cases current.symm.trans there
      exact ⟨_, saves⟩) _ (cleared i)
  | conflict i | duplicate i =>
    exact ⟨sound.last, sound.chain, fun j a here => sound.clients j a (cleared i j a here)⟩

/-- The states any number of clients reach from an empty table. -/
def Reachable (p : Protocol κ α μ) (s : State κ α μ) : Prop :=
  Relation.ReflTransGen (Step p) {} s

theorem Reachable.sound (lawful : p.Lawful) (reach : Reachable p s) : Sound p s := by
  induction reach with
  | refl => exact ⟨fun _ => rfl, fun _ => List.isChain_nil, nofun⟩
  | tail _ step sound => exact step.sound lawful sound

/-- A read and its save with nothing between commit. -/
theorem Reachable.save {rows : Dict κ α} {history : List α} {taken : List μ}
    (reach : Reachable p ⟨rows, history, taken, fun _ => none⟩)
    (found : rows.get? (p.key a) = some a) (saves : p.Saves a marks b)
    (free : ∀ m ∈ marks, m ∉ taken) (same : p.key b = p.key a)
    (matching : p.matching a b a = true) :
    Reachable p ⟨rows.set (p.key b) b, history ++ [b], taken ++ marks, fun _ => none⟩ := by
  have read := reach.tail (.read 0 a found)
  refine read.tail ?_
  have commit := Step.commit (p := p)
    (s := ⟨rows, history, taken, Function.update (fun _ => none) 0 (some a)⟩) 0
    (by dsimp only; rw [Function.update_self]) saves free
    (update_eq_some.mpr ⟨a, same ▸ found, matching, rfl⟩)
  rwa [Function.update_idem, Function.update_eq_self] at commit

end Base.Versioned
