import Autonoesis.Base.Dict
import Autonoesis.Base.History
import Autonoesis.Domain.Context

/-!
# The memory write gate

What may enter the stable memory, the service that lets it in, and its in-memory store with the
ledger. The gate goes through the existing records in the order it is given and takes the first
that conflicts with the candidate or that it can be merged into.
-/

namespace Autonoesis.Memory
open Base

inductive WriteDecision where
  | accept | reject | merge
  deriving DecidableEq

structure WriteGateResult where
  decision : WriteDecision
  reason : String := ""
  existingRecordId : Option Uuid := none

/-- The threshold is 0.3, as a double, unless one is given. -/
structure MemoryWriteGate where
  minConfidence : ℚ := 5404319552844595 / 18014398509481984

/-- A record that shares a conflict key with the candidate and says something else. -/
def Conflicts (ex candidate : MemoryRecord) : Bool :=
  ex.conflictKeys.any (· ∈ candidate.conflictKeys) && ex.content ≠ candidate.content

/-- Another record of the same provenance. -/
def Merges (ex candidate : MemoryRecord) : Bool :=
  ex.provenance = candidate.provenance && ex.memoryId ≠ candidate.memoryId

namespace MemoryWriteGate

/-- Why `evaluate` refuses a candidate before it looks at the existing records. -/
def refusal (gate : MemoryWriteGate) (now : Instant) (candidate : MemoryRecord)
    (approverRoles : List String) : Option String :=
  if candidate.status ≠ .proposed then some "only observations may enter the gate"
  else if candidate.confidence < gate.minConfidence then some "confidence below threshold"
  else if candidate.sourceTrust = .untrusted ∨
      candidate.provenance.any (· ∈ ["untrusted", "unknown"]) then some "untrusted provenance"
  else if candidate.expiresAt ≤ now then some "memory TTL has expired"
  else if (candidate.containsPii ∨ candidate.classification = .restricted) ∧
      ¬approverRoles.any (· ∈ ["privacy_reviewer", "data_steward"]) then
    some "PII requires privacy approval"
  else none

/-- The loop of `evaluate` over the existing records. -/
def scan (candidate : MemoryRecord) : List MemoryRecord → WriteGateResult
  | [] => ⟨.accept, "new memory accepted", none⟩
  | ex :: rest =>
    if Conflicts ex candidate then
      ⟨.reject, "candidate conflicts with stable memory", some ex.memoryId⟩
    else if Merges ex candidate then
      ⟨.merge, "merging update from same provenance", some ex.memoryId⟩
    else scan candidate rest

def evaluate (gate : MemoryWriteGate) (now : Instant) (candidate : MemoryRecord)
    (existing : List MemoryRecord) (approverRoles : List String) : WriteGateResult :=
  match gate.refusal now candidate approverRoles with
  | some reason => ⟨.reject, reason, none⟩
  | none => scan candidate existing

end MemoryWriteGate

inductive LedgerEntryKind where
  | write | merge | delete
  deriving DecidableEq

structure LedgerEntry where
  entryId : Uuid
  memoryId : Uuid
  kind : LedgerEntryKind
  tenantId : Uuid
  actorId : Uuid
  recordedAt : Instant
  metadata : List (String × String) := []

/-- An `InMemoryMemoryStore` and a `MemoryLedger`. -/
structure MemoryTables where
  records : Dict Uuid MemoryRecord := .empty
  entries : List LedgerEntry := []

namespace MemoryTables

def store (record : MemoryRecord) (s : MemoryTables) : Except Exc MemoryTables :=
  if record.status ≠ .stable then
    .error (.permissionError "only Write Gate output can enter stable memory")
  else .ok { s with records := s.records.set record.memoryId record }

def record (entry : LedgerEntry) (s : MemoryTables) : MemoryTables :=
  { s with entries := s.entries ++ [entry] }

/-- `MemoryLedger.history`. -/
def history (memoryId : Uuid) (s : MemoryTables) : List LedgerEntry :=
  s.entries.filter (·.memoryId = memoryId)

end MemoryTables

/-- A call of `MemoryWriteService.write`, with the clock readings and the identifier it draws. -/
structure WriteCall where
  candidate : MemoryRecord
  actorId : Uuid
  existing : List MemoryRecord
  approverRoles : List String := []
  now : Instant
  entryId : Uuid
  recordedAt : Instant

/-- The ledger entry of a record that was let in. -/
def WriteCall.entry (c : WriteCall) (result : WriteGateResult) (stable : MemoryRecord) :
    LedgerEntry where
  entryId := c.entryId
  memoryId := stable.memoryId
  kind := if result.decision = .merge then .merge else .write
  tenantId := stable.tenantId
  actorId := c.actorId
  recordedAt := c.recordedAt
  metadata := [
    ("source_memory_id", (result.existingRecordId.map Uuid.str).getD ""),
    ("classification", stable.classification.value)]

/-- `MemoryWriteService.write`. -/
def write (gate : MemoryWriteGate) (c : WriteCall) (s : MemoryTables) :
    Except Exc MemoryRecord × MemoryTables :=
  let result := gate.evaluate c.now c.candidate c.existing c.approverRoles
  if result.decision = .reject then (.error (.permissionError result.reason), s)
  else
    let stored := do
      let stable ← c.candidate.stabilize
      let kept ← s.store stable
      return (stable, kept.record (c.entry result stable))
    match stored with
    | .ok (stable, kept) => (.ok stable, kept)
    | .error e => (.error e, s)

/-- A call leaves the tables as they are, or the gate lets the candidate in. -/
theorem write_cases (gate : MemoryWriteGate) (c : WriteCall) (s : MemoryTables) :
    (write gate c s).2 = s ∨
      (gate.evaluate c.now c.candidate c.existing c.approverRoles).decision ≠ .reject ∧
      (write gate c s).2 = {
        records := s.records.set c.candidate.memoryId { c.candidate with status := .stable }
        entries := s.entries ++ [c.entry
          (gate.evaluate c.now c.candidate c.existing c.approverRoles)
          { c.candidate with status := .stable }] } := by
  unfold write
  by_cases rejected :
      (gate.evaluate c.now c.candidate c.existing c.approverRoles).decision = .reject
  · exact .inl (by rw [if_pos rejected])
  · rw [if_neg rejected]
    cases made : c.candidate.stabilize with
    | error e => exact .inl rfl
    | ok stable =>
      obtain ⟨_, _, rfl⟩ := MemoryRecord.stabilize_ok.mp made
      exact .inr ⟨rejected, rfl⟩

/-! ## A store without conflicts -/

/-- Stored records that share a conflict key say the same. -/
def ConflictFree (s : MemoryTables) : Prop :=
  ∀ a ∈ s.records.values, ∀ b ∈ s.records.values,
    (∃ key ∈ a.conflictKeys, key ∈ b.conflictKeys) → a.content = b.content

section
variable (gate : MemoryWriteGate)

def step (s : MemoryTables) (c : WriteCall) : MemoryTables := (write gate c s).2

/-- The call is made with the current content of the store, in some order. -/
def Current (s : MemoryTables) (c : WriteCall) : Prop := c.existing.Perm s.records.values

/-- In whatever order the store is read, the gate rejects what conflicts with it, and the store
stays free of conflicts. -/
def Guards (s : MemoryTables) (c : WriteCall) : Prop :=
  (∀ order, order.Perm s.records.values → (∃ ex ∈ order, Conflicts ex c.candidate) →
    (gate.evaluate c.now c.candidate order c.approverRoles).decision = .reject) ∧
  ConflictFree (step gate s c)

/-- The candidate is refused at once, or conflicts with nothing, or every record it could be merged
into conflicts with it. -/
def Apt (s : MemoryTables) (c : WriteCall) : Prop :=
  gate.refusal c.now c.candidate c.approverRoles ≠ none ∨
    (∀ ex ∈ s.records.values, ¬Conflicts ex c.candidate) ∨
      ∀ ex ∈ s.records.values, Merges ex c.candidate → Conflicts ex c.candidate

instance (s : MemoryTables) (c : WriteCall) : Decidable (Current s c) :=
  inferInstanceAs (Decidable (c.existing.Perm s.records.values))

instance (s : MemoryTables) (c : WriteCall) : Decidable (Apt gate s c) :=
  inferInstanceAs (Decidable (_ ∨ _ ∨ _))

end

namespace MemoryWriteGate

/-- A list in which what could be merged conflicts, and something does, is rejected. -/
theorem scan_reject {candidate : MemoryRecord} {existing : List MemoryRecord}
    (apt : ∀ ex ∈ existing, Merges ex candidate → Conflicts ex candidate)
    (clash : ∃ ex ∈ existing, Conflicts ex candidate) :
    (scan candidate existing).decision = .reject := by
  induction existing with
  | nil =>
    obtain ⟨_, there, _⟩ := clash
    cases there
  | cons ex rest ih =>
    obtain ⟨here, later⟩ := List.forall_mem_cons.mp apt
    unfold scan
    by_cases conflicts : Conflicts ex candidate = true
    · rw [if_pos conflicts]
    · have unmerged : ¬Merges ex candidate = true := fun merges => conflicts (here merges)
      rw [if_neg conflicts, if_neg unmerged]
      apply ih later
      obtain ⟨ex', there, clash⟩ := clash
      obtain rfl | inside := List.mem_cons.mp there
      · exact absurd clash conflicts
      · exact ⟨ex', inside, clash⟩

/-- A record in front that can be merged and does not conflict decides. -/
theorem scan_merge {candidate ex : MemoryRecord} (rest : List MemoryRecord)
    (merges : Merges ex candidate) (peace : ¬Conflicts ex candidate) :
    (scan candidate (ex :: rest)).decision = .merge := by
  rw [scan, if_neg peace, if_pos merges]

variable {gate : MemoryWriteGate} {s : MemoryTables} {c : WriteCall}

theorem evaluate_open {order : List MemoryRecord}
    (admits : gate.refusal c.now c.candidate c.approverRoles = none) :
    gate.evaluate c.now c.candidate order c.approverRoles = scan c.candidate order := by
  rw [evaluate, admits]

theorem evaluate_refused {order : List MemoryRecord}
    (refused : gate.refusal c.now c.candidate c.approverRoles ≠ none) :
    (gate.evaluate c.now c.candidate order c.approverRoles).decision = .reject := by
  obtain ⟨reason, found⟩ := Option.ne_none_iff_exists'.mp refused
  rw [evaluate, found]

theorem rejects_iff_apt :
    (∀ order, order.Perm s.records.values → (∃ ex ∈ order, Conflicts ex c.candidate) →
      (gate.evaluate c.now c.candidate order c.approverRoles).decision = .reject) ↔
      Apt gate s c := by
  constructor
  · intro rejects
    by_cases admits : gate.refusal c.now c.candidate c.approverRoles = none
    · refine .inr (or_iff_not_imp_left.mpr fun clash ex there merges => ?_)
      by_contra peace
      obtain ⟨ex', inside, clash⟩ : ∃ ex' ∈ s.records.values, Conflicts ex' c.candidate := by
        simpa using clash
      -- The record is put in front of all others.
      obtain ⟨before, behind, whole⟩ := List.append_of_mem there
      have order : (ex :: (before ++ behind)).Perm s.records.values :=
        whole ▸ List.perm_middle.symm
      have rejected := rejects _ order ⟨ex', order.mem_iff.mpr inside, clash⟩
      rw [evaluate_open admits, scan_merge _ merges peace] at rejected
      cases rejected
    · exact .inl admits
  · rintro (refused | free | apt) order perm clash
    · exact evaluate_refused refused
    · obtain ⟨ex, there, clash⟩ := clash
      exact absurd clash (free ex (perm.mem_iff.mp there))
    · by_cases admits : gate.refusal c.now c.candidate c.approverRoles = none
      · rw [evaluate_open admits]
        exact scan_reject (fun ex there => apt ex (perm.mem_iff.mp there)) clash
      · exact evaluate_refused admits

end MemoryWriteGate

section
variable {gate : MemoryWriteGate} {s : MemoryTables} {c : WriteCall}

theorem conflictFree_stable (free : ConflictFree s)
    (peace : ∀ ex ∈ s.records.values, ¬Conflicts ex c.candidate) (entries : List LedgerEntry) :
    ConflictFree {
      records := s.records.set c.candidate.memoryId { c.candidate with status := .stable }
      entries } := by
  have beside (ex : MemoryRecord) (there : ex ∈ s.records.values)
      (shares : ∃ key ∈ ex.conflictKeys, key ∈ c.candidate.conflictKeys) :
      ex.content = c.candidate.content := by
    have none := peace ex there
    obtain ⟨key, mine, its⟩ := shares
    simp only [Conflicts, Bool.and_eq_true, List.any_eq_true, decide_eq_true_eq, not_and,
      not_not] at none
    exact none ⟨key, mine, its⟩
  intro a inside b inside' shares
  obtain rfl | there := Dict.mem_values_set inside
  · obtain rfl | ⟨_, _, there'⟩ := Dict.mem_values_set inside'
    · rfl
    · obtain ⟨key, mine, its⟩ := shares
      exact (beside b (Dict.mem_values_of_get? there') ⟨key, its, mine⟩).symm
  · obtain ⟨_, _, there⟩ := there
    obtain rfl | ⟨_, _, there'⟩ := Dict.mem_values_set inside'
    · exact beside a (Dict.mem_values_of_get? there) shares
    · exact free a (Dict.mem_values_of_get? there) b (Dict.mem_values_of_get? there') shares

theorem step_conflictFree (free : ConflictFree s) (current : Current s c) (apt : Apt gate s c) :
    ConflictFree (step gate s c) := by
  obtain same | ⟨admitted, done⟩ := write_cases gate c s
  · rw [step, same]
    exact free
  · rw [step, done]
    apply conflictFree_stable free
    intro ex there clash
    have rejected := MemoryWriteGate.rejects_iff_apt.mpr apt c.existing current
      ⟨ex, current.mem_iff.mpr there, clash⟩
    exact admitted rejected

theorem guards_iff (free : ConflictFree s) (current : Current s c) :
    Guards gate s c ↔ Apt gate s c := by
  constructor
  · exact fun guards => MemoryWriteGate.rejects_iff_apt.mp guards.1
  · exact fun apt => ⟨MemoryWriteGate.rejects_iff_apt.mpr apt, step_conflictFree free current apt⟩

/-- In a history of calls that are made with the current content of the store, the gate rejects
every conflict in any order and the store stays free of conflicts, exactly when no candidate that
conflicts with a record could also be merged into one it does not conflict with. -/
theorem guards_along_iff (gate : MemoryWriteGate) (calls : List WriteCall)
    (current : Along (step gate) Current {} calls) :
    Along (step gate) (Guards gate) {} calls ↔ Along (step gate) (Apt gate) {} calls := by
  apply along_congr (fun s c (free : ConflictFree s) current => guards_iff free current)
    (fun s c free current apt => step_conflictFree free current apt) _ current
  intro a inside
  cases inside

end

namespace Sample

/-- What an agent has heard in a conversation. -/
def heard (n : Uuid) (content source : String) (conflictKeys : List String) : MemoryRecord where
  tenantId := 1
  scope := "support"
  content := content
  provenance := [source]
  confidence := 1
  expiresAt := 100
  approvedBy := 2
  conflictKeys := conflictKeys
  memoryId := n
  createdAt := 10

def saying (candidate : MemoryRecord) (existing : List MemoryRecord) : WriteCall where
  candidate := candidate
  actorId := 3
  existing := existing
  now := 20
  entryId := 4
  recordedAt := 21

def stable (m : MemoryRecord) : MemoryRecord := { m with status := .stable }

def mail : MemoryRecord := heard 11 "the customer wants mail" "chat" ["contact"]
def plan : MemoryRecord := heard 12 "the customer has plan B" "call" []
def phone : MemoryRecord := heard 13 "the customer wants calls" "call" ["contact"]

/-- The record of the same provenance comes before the one that conflicts. -/
def merging : List WriteCall :=
  [saying mail [], saying plan [stable mail], saying phone [stable plan, stable mail]]

theorem merging_current : Along (step {}) Current {} merging := by
  decide +kernel

/-- Both ways of reaching the customer are stable. -/
theorem conflict_merged :
    ¬∀ calls, Along (step {}) Current {} calls → ConflictFree (after (step {}) {} calls) := by
  intro all
  have free := all merging merging_current
  have inside : stable mail ∈ (after (step {}) {} merging).records.values ∧
      stable phone ∈ (after (step {}) {} merging).records.values := by
    decide +kernel
  have same := free (stable mail) inside.1 (stable phone) inside.2
    ⟨"contact", by decide, by decide⟩
  exact absurd same (by decide)

/-- A conflict beside nothing to merge into is rejected. -/
theorem guards_apart :
    Along (step {}) (Guards {}) {} [saying mail [], saying phone [stable mail]] := by
  have current : Along (step {}) Current {} [saying mail [], saying phone [stable mail]] := by
    decide +kernel
  apply (guards_along_iff {} _ current).mpr
  decide +kernel

end Sample

end Autonoesis.Memory
