import Mathlib.Logic.Basic

/-!
# Logs of changes

A log lists what was done to a state and by whom. `replay` does the same again for some of
the owners only; it depends on the choice for the owners in the log and on no other.
-/

namespace Base

variable {ι σ : Type}

/-- Something an owner did to a state. -/
structure Deed (ι σ : Type) where
  owner : ι
  effect : σ → σ

/-- The state after the deeds of the owners that are kept, in the order of the log. -/
def replay (keep : ι → Bool) (s : σ) (log : List (Deed ι σ)) : σ :=
  log.foldl (fun s d => if keep d.owner then d.effect s else s) s

variable {keep keep' : ι → Bool} {s : σ} {log more : List (Deed ι σ)}

theorem replay_append : replay keep s (log ++ more) = replay keep (replay keep s log) more :=
  List.foldl_append

theorem replay_snoc {d : Deed ι σ} (kept : keep d.owner = true) :
    replay keep s (log ++ [d]) = d.effect (replay keep s log) := by
  rw [replay_append]
  exact if_pos kept

theorem replay_congr (agree : ∀ d ∈ log, keep d.owner = keep' d.owner) :
    replay keep s log = replay keep' s log := by
  induction log generalizing s with
  | nil => rfl
  | cons d rest ih =>
    have later := fun d' there => agree d' (List.mem_cons_of_mem _ there)
    change replay keep (if keep d.owner then d.effect s else s) rest =
      replay keep' (if keep' d.owner then d.effect s else s) rest
    rw [agree d List.mem_cons_self, ih later]

theorem replay_dropped (dropped : ∀ d ∈ log, keep d.owner = false) : replay keep s log = s := by
  induction log generalizing s with
  | nil => rfl
  | cons d rest ih =>
    have later := fun d' there => dropped d' (List.mem_cons_of_mem _ there)
    change replay keep (if keep d.owner then d.effect s else s) rest = s
    rw [dropped d List.mem_cons_self, ih later]
    rfl

end Base
