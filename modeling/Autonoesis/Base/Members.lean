import Autonoesis.Base.Codec
import Autonoesis.Base.Loads

/-!
# What equal dumps say

Two values with one dump are read back as one value, so their members agree, name by name and up
to what is lost in reading back.
-/

namespace Base.Json

variable {ascii : Bool}

theorem loaded_of_dumps {v v' : Json} (same : dumps ascii v = dumps ascii v') :
    loaded v = loaded v' := by
  have read := loads_dumps ascii v
  rw [same, loads_dumps, Option.some.injEq] at read
  exact read.symm

/-- A member of one object is a member of the other. -/
theorem member_of_dumps {fields fields' : List (String × Json)}
    (same : dumps ascii (.obj fields) = dumps ascii (.obj fields')) {name : String} {v : Json}
    (there : (name, v) ∈ fields) : ∃ v', (name, v') ∈ fields' ∧ loaded v' = loaded v := by
  have read := loaded_of_dumps same
  rw [loaded, loaded, Json.obj.injEq, loadedFields_eq, loadedFields_eq] at read
  have listed : (name, loaded v) ∈ sortMembers (fields.map fun f => (f.1, loaded f.2)) :=
    (List.mem_insertionSort _).mpr (List.mem_map.mpr ⟨_, there, rfl⟩)
  rw [read] at listed
  obtain ⟨⟨name', v'⟩, there', same'⟩ := List.mem_map.mp ((List.mem_insertionSort _).mp listed)
  cases (Prod.mk.inj same').1
  exact ⟨v', there', (Prod.mk.inj same').2⟩

@[simp] theorem loaded_str (s : String) : loaded (.str s) = .str s := by
  rw [loaded]
  all_goals intros; contradiction

@[simp] theorem loaded_arr (items : List Json) : loaded (.arr items) = .arr (items.map loaded) := by
  rw [loaded, loadedItems_eq]

theorem dumps_eq_iff {v v' : Json} : dumps ascii v = dumps ascii v' ↔ loaded v = loaded v' := by
  constructor
  · exact loaded_of_dumps
  · intro same
    rw [← dumps_loaded ascii v, same, dumps_loaded]

/-! ## Members by their names -/

theorem field?_eq_some {fields : List (String × Json)} (keys : (fields.map Prod.fst).Nodup)
    {name : String} {v : Json} : field? name (.obj fields) = some v ↔ (name, v) ∈ fields := by
  induction fields with
  | nil => simp
  | cons f rest ih =>
    obtain ⟨first, value⟩ := f
    obtain ⟨fresh, keys⟩ := List.nodup_cons.mp keys
    rw [field?_cons]
    split_ifs with same
    · subst same
      have absent : (name, v) ∉ rest := fun there => fresh (List.mem_map.mpr ⟨_, there, rfl⟩)
      simp [absent, eq_comm]
    · simp [same, ih keys]

/-- Two dictionaries that are read back as one have the same members, read back. -/
theorem field?_of_loaded {fields fields' : List (String × Json)}
    (same : loaded (.obj fields) = loaded (.obj fields')) (keys : (fields.map Prod.fst).Nodup)
    (keys' : (fields'.map Prod.fst).Nodup) (name : String) :
    (field? name (.obj fields)).map loaded = (field? name (.obj fields')).map loaded := by
  have part {fields fields' : List (String × Json)}
      (same : loaded (.obj fields) = loaded (.obj fields')) (keys : (fields.map Prod.fst).Nodup)
      (keys' : (fields'.map Prod.fst).Nodup) {v : Json}
      (there : (field? name (.obj fields)).map loaded = some v) :
      (field? name (.obj fields')).map loaded = some v := by
    obtain ⟨w, found, rfl⟩ := Option.map_eq_some_iff.mp there
    have dumped : dumps true (.obj fields) = dumps true (.obj fields') := dumps_eq_iff.mpr same
    obtain ⟨v', there', loads⟩ := member_of_dumps dumped ((field?_eq_some keys).mp found)
    rw [(field?_eq_some keys').mpr there', Option.map_some, loads]
  apply Option.ext
  intro v
  exact ⟨part same keys keys', part same.symm keys' keys⟩

end Base.Json
