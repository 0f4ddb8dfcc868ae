import Mathlib.Data.List.Nodup

/-!
# Insertion-ordered dictionaries

An association list without duplicate keys. Assigning to a key that is present
replaces its value and keeps its position; assigning to a new key appends, so
`values` lists the values in the order in which their keys were first assigned.
-/

namespace Base

/-- A dictionary that iterates in insertion order. -/
structure Dict (κ α : Type) where
  entries : List (κ × α)
  nodup : (entries.map Prod.fst).Nodup

namespace Dict

variable {κ α : Type}

def empty : Dict κ α := ⟨[], List.nodup_nil⟩

instance : Inhabited (Dict κ α) := ⟨empty⟩

def values (d : Dict κ α) : List α := d.entries.map Prod.snd

def lookupIn [DecidableEq κ] (k : κ) : List (κ × α) → Option α
  | [] => none
  | (k', v) :: rest => if k' = k then some v else lookupIn k rest

def get? [DecidableEq κ] (d : Dict κ α) (k : κ) : Option α := lookupIn k d.entries

def assign [DecidableEq κ] (k : κ) (v : α) : List (κ × α) → List (κ × α)
  | [] => [(k, v)]
  | (k', v') :: rest => if k' = k then (k, v) :: rest else (k', v') :: assign k v rest

theorem keys_assign [DecidableEq κ] (k : κ) (v : α) (l : List (κ × α)) :
    (assign k v l).map Prod.fst =
      if k ∈ l.map Prod.fst then l.map Prod.fst else l.map Prod.fst ++ [k] := by
  induction l with
  | nil => simp [assign]
  | cons e rest ih =>
    obtain ⟨k', v'⟩ := e
    by_cases h : k' = k
    · subst h; simp [assign]
    · have hne : ¬ k = k' := fun e => h e.symm
      simp only [assign, h, ↓reduceIte, List.map_cons, ih, List.mem_cons, hne, false_or]
      split <;> simp

theorem assign_nodup [DecidableEq κ] (k : κ) (v : α) {l : List (κ × α)}
    (h : (l.map Prod.fst).Nodup) : ((assign k v l).map Prod.fst).Nodup := by
  rw [keys_assign]
  split
  · exact h
  · rename_i absent
    exact List.Nodup.append h (by simp) (by simpa using absent)

/-- Assign `v` to `k`, in place when `k` is present. -/
def set [DecidableEq κ] (d : Dict κ α) (k : κ) (v : α) : Dict κ α :=
  ⟨assign k v d.entries, assign_nodup k v d.nodup⟩

/-- Delete every key that fails `keep`. -/
def filterKeys (d : Dict κ α) (keep : κ → Bool) : Dict κ α :=
  ⟨d.entries.filter fun e => keep e.1, d.nodup.sublist (List.filter_sublist.map _)⟩

theorem lookupIn_assign [DecidableEq κ] (k k' : κ) (v : α) (l : List (κ × α)) :
    lookupIn k' (assign k v l) = if k' = k then some v else lookupIn k' l := by
  induction l with
  | nil => simp only [assign, lookupIn, eq_comm]
  | cons e rest ih =>
    obtain ⟨j, w⟩ := e
    by_cases hj : j = k
    · subst hj
      by_cases hk : k' = j
      · simp [assign, lookupIn, hk]
      · have hne : ¬ j = k' := fun e => hk e.symm
        simp [assign, lookupIn, hk, hne]
    · by_cases hk : j = k'
      · subst hk; simp [assign, lookupIn, hj]
      · simp [assign, lookupIn, hj, hk, ih]

@[simp] theorem get?_empty [DecidableEq κ] (k : κ) : (empty : Dict κ α).get? k = none := rfl

theorem get?_set [DecidableEq κ] (d : Dict κ α) (k k' : κ) (v : α) :
    (d.set k v).get? k' = if k' = k then some v else d.get? k' :=
  lookupIn_assign k k' v d.entries

@[simp] theorem get?_set_self [DecidableEq κ] (d : Dict κ α) (k : κ) (v : α) :
    (d.set k v).get? k = some v := by
  simp [get?_set]

theorem get?_set_ne [DecidableEq κ] (d : Dict κ α) {k k' : κ} (v : α) (h : k' ≠ k) :
    (d.set k v).get? k' = d.get? k' := by
  simp [get?_set, h]

theorem assign_absent [DecidableEq κ] {k : κ} {l : List (κ × α)} (absent : lookupIn k l = none)
    (v : α) : assign k v l = l ++ [(k, v)] := by
  induction l with
  | nil => rfl
  | cons e rest ih =>
    obtain ⟨k', v'⟩ := e
    rw [lookupIn] at absent
    split at absent
    · cases absent
    · rename_i other
      rw [assign, if_neg other, ih absent, List.cons_append]

/-- A new key comes last. -/
theorem entries_set [DecidableEq κ] {d : Dict κ α} {k : κ} (absent : d.get? k = none) (v : α) :
    (d.set k v).entries = d.entries ++ [(k, v)] :=
  assign_absent absent v

theorem lookupIn_eq_some [DecidableEq κ] {l : List (κ × α)} (h : (l.map Prod.fst).Nodup)
    (k : κ) (v : α) : lookupIn k l = some v ↔ (k, v) ∈ l := by
  induction l with
  | nil => simp [lookupIn]
  | cons e rest ih =>
    obtain ⟨j, w⟩ := e
    simp only [List.map_cons, List.nodup_cons] at h
    by_cases hj : j = k
    · subst hj
      have fresh : (j, v) ∉ rest := fun m => h.1 (List.mem_map_of_mem m)
      simp [lookupIn, fresh, eq_comm]
    · have hne : ¬ k = j := fun e => hj e.symm
      simp [lookupIn, hj, hne, ih h.2]

theorem get?_eq_some [DecidableEq κ] (d : Dict κ α) (k : κ) (v : α) :
    d.get? k = some v ↔ (k, v) ∈ d.entries :=
  lookupIn_eq_some d.nodup k v

theorem get?_filterKeys [DecidableEq κ] (d : Dict κ α) (keep : κ → Bool) (k : κ) :
    (d.filterKeys keep).get? k = if keep k then d.get? k else none := by
  apply Option.ext
  intro v
  by_cases kept : keep k = true
  · rw [if_pos kept, get?_eq_some, get?_eq_some]
    simp [filterKeys, kept]
  · rw [if_neg kept, get?_eq_some]
    simp [filterKeys, kept]

theorem mem_values [DecidableEq κ] (d : Dict κ α) (v : α) :
    v ∈ d.values ↔ ∃ k, d.get? k = some v := by
  simp only [values, List.mem_map, Prod.exists, exists_eq_right, get?_eq_some]


@[simp] theorem values_empty : (empty : Dict κ α).values = [] := rfl

theorem mem_values_of_get? [DecidableEq κ] {d : Dict κ α} {k : κ} {v : α}
    (h : d.get? k = some v) : v ∈ d.values :=
  (d.mem_values v).mpr ⟨k, h⟩

/-- What a value of an assigned dictionary can be. -/
theorem mem_values_set [DecidableEq κ] {d : Dict κ α} {k : κ} {v w : α}
    (h : w ∈ (d.set k v).values) : w = v ∨ ∃ k', k' ≠ k ∧ d.get? k' = some w := by
  obtain ⟨k', hk⟩ := (mem_values _ _).mp h
  rw [get?_set] at hk
  split at hk
  · exact Or.inl (Option.some.inj hk).symm
  · exact Or.inr ⟨k', by assumption, hk⟩

/-- Values that are stored under their own key stay so when one is assigned to its own. -/
theorem keys_set [DecidableEq κ] {d : Dict κ α} {f : α → κ}
    (keys : ∀ id a, d.get? id = some a → f a = id) (a : α) :
    ∀ id b, (d.set (f a) a).get? id = some b → f b = id := by
  intro id b found
  rw [get?_set] at found
  split at found
  · rename_i here
    cases found
    exact here.symm
  · exact keys id b found

/-- Values that are stored under their own key have distinct keys. -/
theorem nodup_values [DecidableEq κ] {d : Dict κ α} {idOf : α → κ}
    (keys : ∀ id a, d.get? id = some a → idOf a = id) : (d.values.map idOf).Nodup := by
  have same : d.values.map idOf = d.entries.map Prod.fst := by
    rw [values, List.map_map]
    exact List.map_congr_left fun e there => keys e.1 e.2 ((d.get?_eq_some ..).mpr there)
  rw [same]
  exact d.nodup

/-- The entries whose values satisfy `mine`. -/
def owned [DecidableEq κ] (mine : α → Bool) (d : Dict κ α) (k : κ) : Option α :=
  (d.get? k).filter mine

/-- Assigning someone else's value to a key that holds none of mine leaves mine alone. -/
theorem owned_set [DecidableEq κ] {mine : α → Bool} {d : Dict κ α} {k : κ} {v : α}
    (other : mine v = false) (free : d.owned mine k = none) :
    (d.set k v).owned mine = d.owned mine := by
  funext k'
  by_cases here : k' = k
  · rw [here, free, owned, get?_set_self, Option.filter_some_neg (by simp [other])]
  · rw [owned, owned, get?_set_ne d v here]

/-- A key that holds someone else's value holds none of mine. -/
theorem owned_eq_none [DecidableEq κ] {mine : α → Bool} {d : Dict κ α} {k : κ} {v : α}
    (there : d.get? k = some v) (other : mine v = false) : d.owned mine k = none := by
  rw [owned, there, Option.filter_some_neg (by simp [other])]

end Dict

end Base
