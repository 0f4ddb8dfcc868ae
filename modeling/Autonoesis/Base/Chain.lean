import Mathlib.Data.List.Forall2
import Mathlib.Data.List.Induction

/-!
# Chains of linked events

`Links p n e d` says that the event `e` follows the digest `p` at position `n` and has
the digest `d`. A list of events is `Linked` from `p` at `n` up to `d` when each event
follows the one before it. Chains grow at the end (`linked_concat`) and, where a link
gives away what it follows, are determined by where they end (`linked_agree`).
-/

namespace Base

variable {ε δ : Type} {Links : δ → Nat → ε → δ → Prop}

/-- The events lead from the digest `p`, the first at position `n`, to the digest `d`. -/
def Linked (Links : δ → Nat → ε → δ → Prop) : δ → Nat → List ε → δ → Prop
  | p, _, [], d => d = p
  | p, n, e :: rest, d => ∃ q, Links p n e q ∧ Linked Links q (n + 1) rest d

theorem linked_nil {p d : δ} {n : Nat} : Linked Links p n [] d ↔ d = p := Iff.rfl

theorem linked_append {p d : δ} {n : Nat} {first rest : List ε} :
    Linked Links p n (first ++ rest) d ↔
      ∃ q, Linked Links p n first q ∧ Linked Links q (n + first.length) rest d := by
  induction first generalizing p n with
  | nil => simp [Linked]
  | cons e first ih =>
    simp only [List.cons_append, Linked, ih, List.length_cons]
    constructor
    · rintro ⟨q, link, r, before, behind⟩
      exact ⟨r, ⟨q, link, before⟩, by rwa [Nat.add_comm first.length, ← Nat.add_assoc]⟩
    · rintro ⟨r, ⟨q, link, before⟩, behind⟩
      exact ⟨q, link, r, before, by rwa [Nat.add_assoc, Nat.add_comm 1]⟩

/-- A chain that grows by one event. -/
theorem linked_concat {p d : δ} {n : Nat} {es : List ε} {e : ε} :
    Linked Links p n (es ++ [e]) d ↔
      ∃ q, Linked Links p n es q ∧ Links q (n + es.length) e d := by
  rw [linked_append]
  simp [Linked]

/-- Every event of a chain is linked to something. -/
theorem Linked.mem {p d : δ} {n : Nat} {es : List ε} (linked : Linked Links p n es d) {e : ε}
    (there : e ∈ es) : ∃ q m r, Links q m e r := by
  induction es generalizing p n with
  | nil => exact absurd there List.not_mem_nil
  | cons a rest ih =>
    obtain ⟨q, link, tail⟩ := linked
    rcases List.mem_cons.mp there with rfl | there
    · exact ⟨p, n, q, link⟩
    · exact ih tail there

/-- What an event tells of its position is counted along a chain. -/
theorem Linked.map_eq {π : Type} {f : ε → π} {g : Nat → π}
    (placed : ∀ {p n e q}, Links p n e q → f e = g n) {p d : δ} {n : Nat} {es : List ε}
    (linked : Linked Links p n es d) : es.map f = (List.range' n es.length).map g := by
  induction es generalizing p n with
  | nil => rfl
  | cons e rest ih =>
    obtain ⟨q, link, tail⟩ := linked
    rw [List.map_cons, placed link, ih tail]
    rfl

/-- Two chains of one length that end alike are alike, event by event: the last link
gives away its event and the digest the rest ends in. -/
theorem linked_agree {Same : ε → ε → Prop}
    (reveals : ∀ {p p' n e e' d}, Links p n e d → Links p' n e' d → p = p' ∧ Same e e')
    {p p' d : δ} {n : Nat} {es es' : List ε} (length : es.length = es'.length)
    (linked : Linked Links p n es d) (linked' : Linked Links p' n es' d) :
    List.Forall₂ Same es es' := by
  induction es using List.reverseRecOn generalizing es' d with
  | nil =>
    rw [List.eq_nil_of_length_eq_zero length.symm]
    exact .nil
  | append_singleton init e ih =>
    rcases List.eq_nil_or_concat es' with rfl | ⟨init', e', rfl⟩
    · simp at length
    · rw [List.concat_eq_append] at length linked' ⊢
      have lengths : init.length = init'.length := by simpa using length
      obtain ⟨q, before, link⟩ := linked_concat.mp linked
      obtain ⟨q', before', link'⟩ := linked_concat.mp linked'
      rw [← lengths] at link'
      obtain ⟨rfl, same⟩ := reveals link link'
      exact List.rel_append (ih lengths before before') (.cons same .nil)

end Base
