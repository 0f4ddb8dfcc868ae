import Mathlib.Algebra.GroupWithZero.Nat
import Autonoesis.Domain.Context

/-!
# Compressing a context

`compress` counts the facts as they are dumped against its budget and cuts the one that does not
fit to the characters that are left. What it puts in the place of a fact is dumped again, in quotes
and with a mark, and is longer than what was left. So the compressed facts fit the budget exactly
when all of them fit it uncompressed.
-/

namespace Autonoesis.Context
open Base

def encoded (value : Payload) : Except Exc String := jsonDumps ", " ": " (.record value)

/-- What stands for a fact that does not fit. -/
def truncated (encoded : String) (remaining : Nat) : Payload :=
  [("summary", .str (String.ofList (encoded.toList.take remaining))), ("truncated", .bool true)]

/-- `replace(fact, value=value, visible_fields=tuple(value))`; the constructor accepts the fact
again, as all that is in it is visible. -/
def withValue (fact : EnvironmentFact) (value : Payload) : EnvironmentFact :=
  { fact with value, visibleFields := value.map (·.1) }

/-- The value a fact with this dump gets when so much of the budget is left. -/
def fitted (remaining : Nat) (encoded : String) (value : Payload) : Payload :=
  if remaining < encoded.length then truncated encoded remaining else value

/-- The loop of `compress`. -/
def compressFacts (budget : Nat) : Nat → List EnvironmentFact → Except Exc (List EnvironmentFact)
  | _, [] => return []
  | used, fact :: rest => do
    let encoded ← encoded fact.value
    let others ← compressFacts budget (used + min encoded.length (budget - used)) rest
    return withValue fact (fitted (budget - used) encoded fact.value) :: others

/-- `ContextCompressor.compress`. -/
def compress (snapshot : ContextSnapshot) (maxTokens : Int := 128000) :
    Except Exc ContextSnapshot := do
  raiseIf (maxTokens < 64)
    (.valueError "context budget is too small to retain security boundaries")
  let facts ← compressFacts (maxTokens * 4).toNat 0 snapshot.environmentFacts
  let fields := { snapshot.toContextSnapshotFields with environmentFacts := facts }
  guarded fields.check fun valid => ⟨fields, valid⟩

/-- The length of the dump. -/
def encodedLength (value : Payload) : Nat := Any.dumpLength ", " ": " (.record value)

theorem encodedLength_eq {value : Payload} {text : String} (written : encoded value = .ok text) :
    encodedLength value = text.length := Any.dumpLength_eq (jsonDumps_eq_ok.mp written)

/-- The length of all the dumped values. -/
def totalLength (facts : List EnvironmentFact) : Nat :=
  (facts.map fun fact => encodedLength fact.value).sum

/-- The fact keeps its value, or a part of its dump stands for it. -/
def Kept (before after : EnvironmentFact) : Prop :=
  after.value = before.value ∨ ∃ text, encoded before.value = .ok text ∧
    ∃ remaining < text.length, after.value = truncated text remaining

/-- The loop goes over all facts if each has a dump. -/
theorem compressFacts_returns (budget : Nat) {facts : List EnvironmentFact}
    (written : ∀ f ∈ facts, f.Serializable) :
    ∀ used, ∃ compressed, compressFacts budget used facts = .ok compressed := by
  induction facts with
  | nil => exact fun _ => ⟨[], rfl⟩
  | cons fact rest ih =>
    intro used
    obtain ⟨text, dumped⟩ := jsonDumps_returns.mpr (written fact List.mem_cons_self)
    obtain ⟨others, loop⟩ := ih (fun f there => written f (List.mem_cons_of_mem _ there))
      (used + min text.length (budget - used))
    exact ⟨_, bind_eq_ok.mpr ⟨text, dumped, bind_eq_ok.mpr ⟨others, loop, rfl⟩⟩⟩

/-- What the loop makes of the first fact. -/
theorem compressFacts_cons {budget used : Nat} {fact : EnvironmentFact}
    {rest compressed : List EnvironmentFact}
    (loop : compressFacts budget used (fact :: rest) = .ok compressed) :
    ∃ text others, encoded fact.value = .ok text ∧
      compressFacts budget (used + min text.length (budget - used)) rest = .ok others ∧
      compressed = withValue fact (fitted (budget - used) text fact.value) :: others := by
  obtain ⟨text, dumped, onward⟩ := bind_eq_ok.mp loop
  obtain ⟨others, later, made⟩ := bind_eq_ok.mp onward
  cases made
  exact ⟨text, others, dumped, later, rfl⟩

theorem compressFacts_tenantId {budget : Nat} {facts : List EnvironmentFact} :
    ∀ {used compressed}, compressFacts budget used facts = .ok compressed →
      compressed.map (·.tenantId) = facts.map (·.tenantId) := by
  induction facts with
  | nil =>
    rintro used compressed ⟨⟩
    rfl
  | cons fact rest ih =>
    intro used compressed loop
    obtain ⟨text, others, _, later, rfl⟩ := compressFacts_cons loop
    rw [List.map_cons, List.map_cons, ih later]
    rfl

/-- Nor does the constructor of the snapshot object to compressed facts. -/
theorem compressFacts_check {budget : Nat} {s : ContextSnapshotFields}
    {compressed : List EnvironmentFact}
    (loop : compressFacts budget 0 s.environmentFacts = .ok compressed) :
    ({ s with environmentFacts := compressed } : ContextSnapshotFields).check = s.check := by
  have tenants : ∀ facts : List EnvironmentFact, facts.any (fun f => f.tenantId ≠ s.tenantId) =
      (facts.map (·.tenantId)).any (· ≠ s.tenantId) := by
    intro facts
    rw [List.any_map]
    rfl
  have same : compressed.any (fun f => f.tenantId ≠ s.tenantId) =
      s.environmentFacts.any fun f => f.tenantId ≠ s.tenantId := by
    rw [tenants, tenants, compressFacts_tenantId loop]
  simp only [ContextSnapshotFields.check, same]

/-- What stands for a fact is longer than the part of the dump that it holds. -/
theorem length_truncated {text : String} {remaining : Nat} (cut : remaining ≤ text.length) :
    remaining < encodedLength (truncated text remaining) := by
  have length := Any.dumpLength_record ", " ": " (List.cons_ne_nil _ _)
    (Any.serializable_record (truncated text remaining))
  have inside := Any.length_quote_ge true (String.ofList (text.toList.take remaining))
  have summary : Any.dumpLength ", " ": " (.str (String.ofList (text.toList.take remaining))) =
      (Json.quote true (String.ofList (text.toList.take remaining))).length := rfl
  rw [String.length_ofList, List.length_take, String.length_toList, min_eq_left cut] at inside
  rw [encodedLength]
  simp only [truncated, List.map_cons, List.sum_cons, summary] at length ⊢
  omega

/-- The compressed facts fit what is left of the budget exactly when the facts do. -/
theorem totalLength_compressFacts {budget : Nat} {facts : List EnvironmentFact} :
    ∀ {used compressed}, compressFacts budget used facts = .ok compressed →
      (totalLength compressed ≤ budget - used ↔ totalLength facts ≤ budget - used) := by
  induction facts with
  | nil =>
    rintro used compressed ⟨⟩
    rfl
  | cons fact rest ih =>
    intro used compressed loop
    obtain ⟨text, others, dumped, behind, rfl⟩ := compressFacts_cons loop
    have later := ih behind
    have length := encodedLength_eq dumped
    simp only [totalLength, List.map_cons, List.sum_cons, withValue] at later ⊢
    by_cases cut : budget - used < text.length
    · have longer := length_truncated (Nat.le_of_lt cut)
      rw [fitted, if_pos cut]
      omega
    · rw [fitted, if_neg cut]
      rw [Nat.min_eq_left (Nat.le_of_not_lt cut)] at later
      omega

theorem compressFacts_kept {budget : Nat} {facts : List EnvironmentFact} :
    ∀ {used compressed}, compressFacts budget used facts = .ok compressed →
      List.Forall₂ Kept facts compressed := by
  induction facts with
  | nil =>
    rintro used compressed ⟨⟩
    exact .nil
  | cons fact rest ih =>
    intro used compressed loop
    obtain ⟨text, others, dumped, later, rfl⟩ := compressFacts_cons loop
    refine .cons ?_ (ih later)
    by_cases cut : budget - used < text.length
    · exact .inr ⟨text, dumped, _, cut, by rw [withValue, fitted, if_pos cut]⟩
    · exact .inl (by rw [withValue, fitted, if_neg cut])

theorem compress_ok {snapshot compressed : ContextSnapshot} {maxTokens : Int}
    (made : compress snapshot maxTokens = .ok compressed) :
    compressFacts (maxTokens * 4).toNat 0 snapshot.environmentFacts =
      .ok compressed.environmentFacts := by
  obtain ⟨_, _, made⟩ := bind_eq_ok.mp made
  obtain ⟨facts, loop, made⟩ := bind_eq_ok.mp made
  obtain ⟨_, rfl⟩ := guarded_eq_ok.mp made
  exact loop

/-- The compressed facts stay within the budget, and those that are not truncated keep their
values, exactly when the facts were within the budget before. -/
theorem compress_bounded_iff (snapshot : ContextSnapshot) {maxTokens : Int}
    (written : ∀ f ∈ snapshot.environmentFacts, f.Serializable) (enough : 64 ≤ maxTokens) :
    ∃ compressed, compress snapshot maxTokens = .ok compressed ∧
      ((totalLength compressed.environmentFacts ≤ 4 * maxTokens ∧
          List.Forall₂ Kept snapshot.environmentFacts compressed.environmentFacts) ↔
        totalLength snapshot.environmentFacts ≤ 4 * maxTokens) := by
  obtain ⟨facts, loop⟩ := compressFacts_returns (maxTokens * 4).toNat written 0
  have valid := (compressFacts_check loop).trans snapshot.valid
  refine ⟨⟨_, valid⟩, ?_, ?_⟩
  · refine bind_eq_ok.mpr ⟨(), raiseIf_eq_ok.mpr (decide_eq_false (by omega)), ?_⟩
    exact bind_eq_ok.mpr ⟨facts, loop, guarded_eq_ok.mpr ⟨valid, rfl⟩⟩
  have fits := totalLength_compressFacts loop
  rw [and_iff_left (compressFacts_kept loop)]
  change (totalLength facts : Int) ≤ 4 * maxTokens ↔ _
  rw [Nat.sub_zero] at fits
  omega

namespace Sample

/-- One fact with a text of so many characters. -/
def fact (length : Nat) : EnvironmentFact where
  tenantId := 1
  factId := "f1"
  source := "crm"
  sourceAuthority := "crm"
  subject := "order"
  value := [("text", .str (String.ofList (List.replicate length 'x')))]
  observedAt := 0
  validUntil := 1
  trust := .advisory
  classification := .internal
  freshnessPolicy := .lax

def snapshot (length : Nat) : ContextSnapshot where
  tenantId := 1
  goalId := 2
  runId := 3
  environmentFacts := [fact length]
  knowledgeRefs := []
  memoryIds := []
  historyDigest := "history"
  toolVersions := []
  snapshotId := 4
  createdAt := 0
  valid := by
    have versions : (isBlank "history" || isBlank "context-policy@1") = false := by decide
    simp [ContextSnapshotFields.check, versions, fact]

theorem snapshot_written (length : Nat) :
    ∀ f ∈ (snapshot length).environmentFacts, f.Serializable := by
  intro f there
  rw [List.mem_singleton.mp there]
  rfl

/-- The dump of the fact holds its text. -/
theorem length_le_encoded (length : Nat) : length ≤ encodedLength (fact length).value := by
  have dumped := Any.dumpLength_record ", " ": " (List.cons_ne_nil _ _)
    (snapshot_written length _ List.mem_cons_self)
  have inside := Any.length_quote_ge true (String.ofList (List.replicate length 'x'))
  have text : Any.dumpLength ", " ": " (.str (String.ofList (List.replicate length 'x'))) =
      (Json.quote true (String.ofList (List.replicate length 'x'))).length := rfl
  rw [String.length_ofList, List.length_replicate] at inside
  rw [encodedLength]
  simp only [fact, List.map_cons, List.sum_cons, text] at dumped ⊢
  omega

/-- A text that is longer than the budget leaves more than the budget. -/
theorem over_budget {length : Nat} (long : 256 < length) {compressed : List EnvironmentFact}
    (loop : compressFacts 256 0 [fact length] = .ok compressed) :
    256 < totalLength compressed := by
  have fits := totalLength_compressFacts loop
  have large := length_le_encoded length
  have single : totalLength [fact length] = encodedLength (fact length).value := by
    simp only [totalLength, List.map_cons, List.map_nil, List.sum_cons, List.sum_nil,
      Nat.add_zero]
  omega

/-- A text of 300 characters is cut to 256, which are 293 with what is put around them. -/
theorem summary_over_budget : ¬∀ (snapshot : ContextSnapshot) (maxTokens : Int),
    (∀ f ∈ snapshot.environmentFacts, f.Serializable) → 64 ≤ maxTokens →
    ∃ compressed, compress snapshot maxTokens = .ok compressed ∧
      totalLength compressed.environmentFacts ≤ 4 * maxTokens ∧
      List.Forall₂ Kept snapshot.environmentFacts compressed.environmentFacts := by
  intro bounded
  obtain ⟨compressed, made, within, _⟩ :=
    bounded (snapshot 300) 64 (snapshot_written 300) le_rfl
  have more := over_budget (by omega) (compress_ok made)
  omega

theorem snapshot_bounded : (∃ compressed, compress (snapshot 20) 64 = .ok compressed ∧
      ((totalLength compressed.environmentFacts ≤ 4 * (64 : Int) ∧
          List.Forall₂ Kept (snapshot 20).environmentFacts compressed.environmentFacts) ↔
        totalLength (snapshot 20).environmentFacts ≤ 4 * (64 : Int))) ∧
    totalLength (snapshot 20).environmentFacts ≤ 4 * (64 : Int) :=
  ⟨compress_bounded_iff (snapshot 20) (snapshot_written 20) le_rfl, by decide +kernel⟩

end Sample

end Autonoesis.Context
