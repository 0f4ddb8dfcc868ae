import Autonoesis.Base.Several
import Autonoesis.Context.Access

/-!
# Conflicting facts

`detect` compares each fact only with the one seen last for the same subject and identifier. It
still reports every fact that occurs with two different values, whatever stands between them.
-/

namespace Autonoesis.Context
open Base

def factKey (fact : EnvironmentFact) : String × String := (fact.subject, fact.factId)

/-- `json.dumps(fact.value, sort_keys=True, separators=(",", ":"))`. -/
def canonicalValue (fact : EnvironmentFact) : Except Exc String :=
  jsonDumps "," ":" (.record fact.value)

def conflictLabel (key : String × String) : String := "environment:" ++ key.1 ++ ":" ++ key.2

/-- The canonical value, where there is one. -/
def canonicalText (fact : EnvironmentFact) : String := (canonicalValue fact).toOption.getD ""

theorem canonicalValue_eq {fact : EnvironmentFact} (written : fact.Serializable) :
    canonicalValue fact = .ok (canonicalText fact) := by
  obtain ⟨text, dumped⟩ := jsonDumps_returns.mpr written
  have value : canonicalValue fact = .ok text := dumped
  rw [canonicalText, value]
  rfl

/-- The loop of the detector is a scan for keys with several values. -/
theorem foldlM_compareFact {facts : List EnvironmentFact} (written : ∀ f ∈ facts, f.Serializable) :
    facts.foldlM compareFact (.empty, ∅) =
      .ok ((changes factKey canonicalText conflictLabel facts).seen,
        (changes factKey canonicalText conflictLabel facts).marked) := by
  induction facts using List.reverseRecOn with
  | nil => rfl
  | append_singleton before fact ih =>
    have last := canonicalValue_eq (written fact (by simp))
    rw [List.foldlM_append, ih fun f there => written f (List.mem_append_left _ there),
      changes_append]
    change compareFact _ fact >>= pure = _
    rw [compareFact]
    change (canonicalValue fact >>= _) >>= pure = _
    rw [last]
    rfl

theorem detect_changes {facts : List EnvironmentFact} (written : ∀ f ∈ facts, f.Serializable) :
    detect facts =
      .ok ((changes factKey canonicalText conflictLabel facts).marked.sort (· ≤ ·)) := by
  rw [detect, foldlM_compareFact written]
  rfl

theorem detect_returns {facts : List EnvironmentFact} (written : ∀ f ∈ facts, f.Serializable) :
    ∃ labels, detect facts = .ok labels := ⟨_, detect_changes written⟩

/-- What is reported are the labels of the keys with two different values, in order and each once,
and no order of the facts changes it. -/
theorem detect_conflicts (facts : List EnvironmentFact) (written : ∀ f ∈ facts, f.Serializable) :
    ∃ labels, detect facts = .ok labels ∧ labels.Pairwise (· < ·) ∧
      (∀ label, label ∈ labels ↔ ∃ f ∈ facts, ∃ g ∈ facts, factKey f = factKey g ∧
        canonicalValue f ≠ canonicalValue g ∧ label = conflictLabel (factKey f)) ∧
      ∀ facts' : List EnvironmentFact, facts'.Perm facts → detect facts' = .ok labels := by
  have differ {f g : EnvironmentFact} (there : f ∈ facts) (there' : g ∈ facts) :
      canonicalValue f ≠ canonicalValue g ↔ canonicalText f ≠ canonicalText g := by
    rw [canonicalValue_eq (written f there), canonicalValue_eq (written g there'), Ne,
      Except.ok.injEq]
  refine ⟨_, detect_changes written, Finset.sortedLT_sort _ |>.pairwise, fun label => ?_,
    fun facts' same => ?_⟩
  · rw [Finset.mem_sort, marked_changes]
    constructor
    · rintro ⟨_, ⟨f, there, g, there', rfl, owned, apart⟩, rfl⟩
      exact ⟨f, there, g, there', owned.symm, (differ there there').mpr apart, rfl⟩
    · rintro ⟨f, there, g, there', owned, apart, rfl⟩
      exact ⟨factKey f, ⟨f, there, g, there', rfl, owned.symm, (differ there there').mp apart⟩, rfl⟩
  · rw [detect_changes fun f there => written f (same.mem_iff.mp there), marked_perm _ _ _ same]

namespace Sample

def observed (value : Int) : EnvironmentFact where
  tenantId := 1
  factId := "f1"
  source := "crm"
  sourceAuthority := "crm"
  subject := "order"
  value := [("items", .int value)]
  observedAt := 0
  validUntil := 1
  trust := .advisory
  classification := .internal
  freshnessPolicy := .lax

def observations : List EnvironmentFact := [observed 1, observed 2, observed 2, observed 1]

theorem observations_written : ∀ f ∈ observations, f.Serializable := by decide +kernel

/-- The value goes from one to two and back. -/
theorem observed_conflict : detect observations = .ok ["environment:order:f1"] ∧
    ∀ facts' : List EnvironmentFact, facts'.Perm observations →
      detect facts' = .ok ["environment:order:f1"] := by
  have found : detect observations = .ok ["environment:order:f1"] := by decide +kernel
  obtain ⟨labels, same, _, _, orders⟩ := detect_conflicts observations observations_written
  cases found.symm.trans same
  exact ⟨found, orders⟩

end Sample

end Autonoesis.Context
