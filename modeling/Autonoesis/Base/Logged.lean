import Autonoesis.Base.Tx

/-!
# States with a log

A state keeps a log of entries beside what is seen of it. A transition accounts for itself
when it only appends to the log, in its own name, and changes what is seen only if it does
append. Transitions that account for themselves compose, and a transaction does so when every
part of it that writes is followed by one that logs.
-/

namespace Base

variable {σ ε α β E ρ : Type}

/-- From `s` to `s'` the log grows by entries that are `mine`, and what is seen of the state
changes only if it grows. -/
structure Accounts (log : σ → List E) (seen : σ → ρ) (mine : E → Prop) (s s' : σ) : Prop where
  grows : ∃ entries, log s' = log s ++ entries ∧ ∀ e ∈ entries, mine e
  silent : log s' = log s → seen s' = seen s

section
variable {log : σ → List E} {seen : σ → ρ} {mine : E → Prop} {s s₁ s' : σ}

theorem Accounts.of_eq (logged : log s' = log s) (same : seen s' = seen s) :
    Accounts log seen mine s s' :=
  ⟨⟨[], by rw [logged, List.append_nil], fun _ there => by cases there⟩, fun _ => same⟩

theorem Accounts.refl (s : σ) : Accounts log seen mine s s := .of_eq rfl rfl

theorem Accounts.trans (first : Accounts log seen mine s s₁)
    (second : Accounts log seen mine s₁ s') : Accounts log seen mine s s' := by
  obtain ⟨⟨entries, grown, own⟩, silent⟩ := first
  obtain ⟨⟨entries', grown', own'⟩, silent'⟩ := second
  refine ⟨⟨entries ++ entries', by rw [grown', grown, List.append_assoc], fun e there => ?_⟩,
    fun same => ?_⟩
  · rcases List.mem_append.mp there with before | after
    · exact own e before
    · exact own' e after
  · rw [grown', grown, List.append_assoc, List.append_right_eq_self, List.append_eq_nil_iff] at same
    rw [silent' (by rw [grown', same.2, List.append_nil]),
      silent (by rw [grown, same.1, List.append_nil])]

end

namespace Tx

/-- When it returns, the transaction has appended at least `least` entries, all of them
`mine`. -/
structure Logs (log : σ → List E) (mine : E → Prop) (least : Nat) (x : Tx σ ε α) : Prop where
  run : ∀ {s a s'}, x s = .ok (a, s') →
    ∃ entries, log s' = log s ++ entries ∧ (∀ e ∈ entries, mine e) ∧ least ≤ entries.length

/-- When it returns, the transaction accounts for what it has done. -/
structure Accounted (log : σ → List E) (seen : σ → ρ) (mine : E → Prop) (x : Tx σ ε α) : Prop where
  run : ∀ {s a s'}, x s = .ok (a, s') → Accounts log seen mine s s'

variable {log : σ → List E} {seen : σ → ρ} {mine : E → Prop}

/-- A part that leaves the log alone, and then one that appends. -/
theorem Keeps.ahead {n : Nat} {x : Tx σ ε α} {k : α → Tx σ ε β} (first : Keeps log x)
    (rest : ∀ a, Logs log mine n (k a)) : Logs log mine n (x >>= k) := by
  constructor
  intro s b s' ran
  obtain ⟨a, s₁, before, after⟩ := bind_ok.mp ran
  rw [← first.eq before]
  exact (rest a).run after

theorem Logs.append {n m : Nat} {x : Tx σ ε α} {k : α → Tx σ ε β} (first : Logs log mine n x)
    (rest : ∀ a, Logs log mine m (k a)) : Logs log mine (n + m) (x >>= k) := by
  constructor
  intro s b s' ran
  obtain ⟨a, s₁, before, after⟩ := bind_ok.mp ran
  obtain ⟨entries, grown, own, some⟩ := first.run before
  obtain ⟨entries', grown', own', more⟩ := (rest a).run after
  refine ⟨entries ++ entries', by rw [grown', grown, List.append_assoc], fun e there => ?_, ?_⟩
  · rcases List.mem_append.mp there with earlier | later
    · exact own e earlier
    · exact own' e later
  · rw [List.length_append]
    exact Nat.add_le_add some more

/-- A transaction that leaves the log alone. -/
theorem Keeps.logs {x : Tx σ ε α} (keeps : Keeps log x) : Logs log mine 0 x := by
  constructor
  intro s a s' ran
  refine ⟨[], by rw [keeps.eq ran, List.append_nil], fun e there => ?_, Nat.le_refl 0⟩
  cases there

theorem logs_ite {n : Nat} {c : Prop} [Decidable c] {x y : Tx σ ε α} (yes : Logs log mine n x)
    (no : Logs log mine n y) : Logs log mine n (if c then x else y) := by
  split
  · exact yes
  · exact no

/-- A transaction that appends an entry may change anything. -/
theorem Logs.accounted {n : Nat} {x : Tx σ ε α} (logs : Logs log mine n x) (some : 0 < n) :
    Accounted log seen mine x := by
  constructor
  intro s a s' ran
  obtain ⟨entries, grown, own, least⟩ := logs.run ran
  refine ⟨⟨entries, grown, own⟩, fun same => ?_⟩
  rw [grown, List.append_right_eq_self] at same
  rw [same] at least
  exact absurd (Nat.lt_of_lt_of_le some least) (Nat.lt_irrefl 0)

theorem Keeps.accounted {x : Tx σ ε α} (keeps : Keeps (fun s => s) x) :
    Accounted log seen mine x :=
  ⟨fun ran => .of_eq (congrArg log (keeps.eq ran)) (congrArg seen (keeps.eq ran))⟩

/-- A first part that only reads. -/
theorem Keeps.before {x : Tx σ ε α} {k : α → Tx σ ε β} (first : Keeps (fun s => s) x)
    (rest : ∀ a, Accounted log seen mine (k a)) : Accounted log seen mine (x >>= k) := by
  constructor
  intro s b s' ran
  obtain ⟨a, s₁, read, after⟩ := bind_ok.mp ran
  cases first.eq read
  exact (rest a).run after

theorem accounted_bind {x : Tx σ ε α} {k : α → Tx σ ε β} (first : Accounted log seen mine x)
    (rest : ∀ a, Accounted log seen mine (k a)) : Accounted log seen mine (x >>= k) := by
  constructor
  intro s b s' ran
  obtain ⟨a, s₁, before, after⟩ := bind_ok.mp ran
  exact (first.run before).trans ((rest a).run after)

theorem accounted_ite {c : Prop} [Decidable c] {x y : Tx σ ε α}
    (yes : Accounted log seen mine x) (no : Accounted log seen mine y) :
    Accounted log seen mine (if c then x else y) := by
  split
  · exact yes
  · exact no

theorem Accounted.commit {x : Tx σ ε α} (accounted : Accounted log seen mine x) (s : σ) :
    Accounts log seen mine s (x.commit s).2 := by
  obtain ⟨e, failed⟩ | ⟨a, s', ran, done⟩ := commit_cases x s
  · rw [failed]
    exact .refl s
  · rw [done]
    exact accounted.run ran

theorem Accounted.andThen {x : Tx σ ε α} {rest : α → σ → Except ε β × σ}
    (first : Accounted log seen mine x)
    (second : ∀ a s, Accounts log seen mine s (rest a s).2) (s : σ) :
    Accounts log seen mine s (x.andThen rest s).2 := by
  unfold Tx.andThen
  obtain ⟨e, failed⟩ | ⟨a, s', ran, done⟩ := commit_cases x s
  · rw [failed]
    exact .refl s
  · rw [done]
    exact (first.run ran).trans (second a s')

end Tx

end Base
