import Mathlib.Tactic.TypeStar

/-!
# Signatures

A scheme signs a message with a private key and checks the signature with the public key. It is
exact when a signature is accepted for the message and the key it was made with and for no other,
and nothing else is accepted.
-/

namespace Base

class Signatures (κ π σ μ : Type) where
  publicKey : κ → π
  sign : κ → μ → σ
  verify : π → σ → μ → Bool

namespace Signatures
variable {κ π σ μ : Type} [Signatures κ π σ μ]

variable (κ π σ μ) in
/-- What is accepted was signed, and a signature says with which key and what. -/
structure Exact : Prop where
  verify_iff : ∀ (p : π) (s : σ) (m : μ), verify κ p s m = true ↔
    ∃ k : κ, publicKey σ μ k = p ∧ sign π k m = s
  signed : ∀ (k k' : κ) (m m' : μ), (sign π k m : σ) = sign π k' m' →
    (publicKey σ μ k : π) = publicKey σ μ k' ∧ m = m'

theorem Exact.verify_sign (exact : Exact κ π σ μ) (k : κ) (m : μ) :
    verify κ (publicKey σ μ k : π) (sign π k m : σ) m = true :=
  (exact.verify_iff _ _ _).mpr ⟨k, rfl, rfl⟩

/-- A signature is accepted for one message at most, whatever the keys. -/
theorem Exact.verify_unique (exact : Exact κ π σ μ) {p p' : π} {s : σ} {m m' : μ}
    (first : verify κ p s m = true) (second : verify κ p' s m' = true) : m = m' := by
  obtain ⟨k, _, made⟩ := (exact.verify_iff p s m).mp first
  obtain ⟨k', _, made'⟩ := (exact.verify_iff p' s m').mp second
  exact (exact.signed k k' m m' (made.trans made'.symm)).2

end Signatures

end Base
