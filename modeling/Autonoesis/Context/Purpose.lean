import Autonoesis.Context.Assembler

/-!
# Purpose limitation

Facts and references carry the purposes they are allowed for, a memory record the one purpose it
was kept for. The check of access looks for the former only, so a memory enters the snapshot for
any purpose; and a fact of any purpose stops the assembly when its value cannot be dumped. The
snapshot is limited to the purpose of the call exactly when neither happens, or nothing is assembled
anyway.
-/

namespace Autonoesis.Context
open Base

namespace AssembleCall

/-- The call without the items that declare another purpose. -/
def purposed (c : AssembleCall) : AssembleCall :=
  { c with
    environmentFacts := c.environmentFacts.filter fun f =>
      f.allowedPurposes = ∅ ∨ c.purpose ∈ f.allowedPurposes
    knowledgeRefs := c.knowledgeRefs.filter fun r =>
      r.allowedPurposes = ∅ ∨ c.purpose ∈ r.allowedPurposes
    memoryRecords := c.memoryRecords.filter (·.purpose = c.purpose) }

/-- The digest of the snapshot, where there is one. -/
def shownDigest [Sha256] (c : AssembleCall) (snapshotId : Uuid) : Option String :=
  (c.digest snapshotId).toOption

/-- No item that declares another purpose shows in the digest. -/
def PurposeLimited [Sha256] (c : AssembleCall) : Prop :=
  ∀ snapshotId snapshotId', c.shownDigest snapshotId = c.purposed.shownDigest snapshotId'

variable (c : AssembleCall)

/-- Facts and references of another purpose leave no trace in the snapshot. -/
theorem purposed_markedFields (snapshotId : Uuid) :
    c.purposed.markedFields snapshotId = { c.markedFields snapshotId with
      memoryIds := ((c.memoryRecords.filter c.MemoryPasses).filter (·.purpose = c.purpose)).map
        (·.memoryId) } := by
  have facts : c.purposed.markedFacts = c.markedFacts :=
    foldl_keepMarked_filter c (fun _ passes => passes.purpose) c.environmentFacts _
  have refs : c.purposed.knowledgeRefs.filter (fun ref => (c.refAccess ref).allowed) =
      c.knowledgeRefs.filter fun ref => (c.refAccess ref).allowed := by
    rw [purposed, List.filter_filter]
    apply List.filter_congr
    intro r _
    rw [Bool.eq_iff_iff, Bool.and_eq_true, decide_eq_true_eq]
    constructor
    · exact And.left
    · exact fun allowed => ⟨allowed, ((refPasses_iff_allowed c r).mp allowed).purpose⟩
  have memories : c.purposed.keptMemories =
      (c.memoryRecords.filter c.MemoryPasses).filter (·.purpose = c.purpose) := by
    have same : c.purposed.keptMemories =
        (c.memoryRecords.filter (·.purpose = c.purpose)).filter fun item =>
          (FreshnessGuard.checkMemory c.now item).passed && (c.memoryAccess item).allowed := rfl
    rw [same, ← keptMemories_eq, keptMemories, List.filter_filter, List.filter_filter]
    simp only [Bool.and_comm]
  unfold markedFields
  rw [facts, memories]
  exact congrArg (fun knowledgeRefs : List KnowledgeRef =>
    ({ c.markedFields snapshotId with
      knowledgeRefs
      memoryIds := ((c.memoryRecords.filter c.MemoryPasses).filter (·.purpose = c.purpose)).map
        (·.memoryId) } : ContextSnapshotFields)) refs

theorem purposed_serializable (written : c.Serializable) : c.purposed.Serializable :=
  fun f there => written f (List.mem_filter.mp there).1

/-! ## What the digest tells of the memories -/

theorem sum_sublist {α : Type} {size : α → Nat} (each : ∀ a, 1 ≤ size a) {fewer more : List α}
    (sub : fewer.Sublist more) :
    (fewer.map size).sum + more.length ≤ (more.map size).sum + fewer.length := by
  induction sub with
  | slnil => exact Nat.le_refl _
  | cons a _ ih =>
    have := each a
    simp only [List.map_cons, List.sum_cons, List.length_cons]
    omega
  | cons_cons a _ ih =>
    simp only [List.map_cons, List.sum_cons, List.length_cons]
    omega

/-- The dump of fewer texts is shorter. -/
theorem dumpLength_texts {fewer more : List String} (sub : fewer.Sublist more)
    (less : fewer.length < more.length) :
    Any.dumpLength "," ":" (.list (texts fewer)) < Any.dumpLength "," ":" (.list (texts more)) := by
  let size (s : String) : Nat := Any.dumpLength "," ":" (.str s) + ",".length
  have each (s : String) : 3 ≤ size s := by
    have quoted := Any.length_quote_ge true s
    have comma : ",".length = 1 := rfl
    change 3 ≤ (Json.quote true s).length + ",".length
    omega
  have list {values : List String} (full : values ≠ []) :
      Any.dumpLength "," ":" (.list (texts values)) + ",".length = 2 + (values.map size).sum := by
    have items : texts values ≠ [] := mt List.map_eq_nil_iff.mp full
    have length := Any.dumpLength_list "," ":" items (serializable_texts values)
    rwa [texts, List.map_map] at length
  have comma : ",".length = 1 := rfl
  have large := list (List.ne_nil_of_length_pos (Nat.zero_lt_of_lt less))
  have sums := sum_sublist (fun s => Nat.le_trans (by decide) (each s)) sub
  by_cases none : fewer = []
  · subst none
    have empty : Any.dumpLength "," ":" (.list (texts [])) = 2 := by decide +kernel
    cases more with
    | nil => cases less
    | cons s rest =>
      have := each s
      simp only [List.map_cons, List.sum_cons] at large
      omega
  · have small := list none
    omega

/-- The dump gives away which memories of the list there are. -/
theorem memoryIds_of_dumps {s : ContextSnapshotFields} {ids : List Uuid} {text : String}
    (sub : ids.Sublist s.memoryIds)
    (dumped : jsonDumps "," ":" (.record s.contentPayload) = .ok text)
    (dumped' : jsonDumps "," ":" (.record { s with memoryIds := ids }.contentPayload) = .ok text) :
    ids = s.memoryIds := by
  refine sub.eq_of_length (Nat.le_antisymm sub.length_le (Nat.le_of_not_lt fun less => ?_))
  have shorter := dumpLength_texts (sub.map (·.str)) (by simpa using less)
  have length := Any.dumpLength_eq (jsonDumps_eq_ok.mp dumped)
  have length' := Any.dumpLength_eq (jsonDumps_eq_ok.mp dumped')
  have members := Any.dumpLength_record "," ":" (List.cons_ne_nil _ _)
    (jsonDumps_returns.mp ⟨text, dumped⟩)
  have members' := Any.dumpLength_record "," ":" (List.cons_ne_nil _ _)
    (jsonDumps_returns.mp ⟨text, dumped'⟩)
  simp only [ContextSnapshotFields.contentPayload, List.map_cons, List.map_nil, List.sum_cons,
    List.sum_nil] at length length' members members'
  omega

/-- Every memory record that passes what is checked was kept for the purpose of the call and every
fact can be dumped, or there is no snapshot whatever is left out: a version is blank, or a fact for
the purpose of the call is refused. -/
def OnlyPurpose (c : AssembleCall) : Prop :=
  (isBlank c.historyDigest || isBlank c.policyVersion) = true ∨ ¬c.purposed.Serializable ∨
    c.Serializable ∧ ∀ m ∈ c.memoryRecords, c.MemoryPasses m → m.purpose = c.purpose

instance : DecidablePred OnlyPurpose := fun c =>
  inferInstanceAs (Decidable ((isBlank c.historyDigest || isBlank c.policyVersion) = true ∨
    ¬c.purposed.Serializable ∨
      c.Serializable ∧ ∀ m ∈ c.memoryRecords, c.MemoryPasses m → m.purpose = c.purpose))

theorem shownDigest_refused [Sha256] (refused : ¬c.Serializable) (snapshotId : Uuid) :
    c.shownDigest snapshotId = none := by
  obtain ⟨message, raised⟩ := assemble_refused c refused snapshotId
  rw [shownDigest, digest, raised]
  rfl

theorem shownDigest_blank [Sha256]
    (blank : (isBlank c.historyDigest || isBlank c.policyVersion) = true) (snapshotId : Uuid) :
    c.shownDigest snapshotId = none := by
  by_cases written : c.Serializable
  · rw [shownDigest, digest_eq c written, blank]
    rfl
  · exact shownDigest_refused c written snapshotId

/-- A call whose facts can be dumped and that gives the versions has a digest. -/
theorem shownDigest_eq [Sha256] (written : c.Serializable)
    (given : (isBlank c.historyDigest || isBlank c.policyVersion) = false) :
    ∃ text, jsonDumps "," ":" (.record (c.markedFields 0).contentPayload) = .ok text ∧
      ∀ snapshotId, c.shownDigest snapshotId = some (Sha256.hexdigest text) := by
  have facts := markedFacts_written c written
  have whole : (Any.record (c.markedFields 0).contentPayload).serializable = true :=
    ContextSnapshotFields.serializable_contentPayload.mpr facts
  obtain ⟨text, dumped⟩ := jsonDumps_returns.mpr whole
  refine ⟨text, dumped, fun snapshotId => ?_⟩
  rw [shownDigest, digest_eq c written, given, ContextSnapshotFields.contentDigest, dumped]
  rfl

/-- The two snapshots show the same exactly if no memory of another purpose is in the first. -/
theorem markedFields_dumps {text text' : String}
    (dumped : jsonDumps "," ":" (.record (c.markedFields 0).contentPayload) = .ok text)
    (dumped' : jsonDumps "," ":" (.record (c.purposed.markedFields 0).contentPayload) = .ok text') :
    text = text' ↔ ∀ m ∈ c.memoryRecords, c.MemoryPasses m → m.purpose = c.purpose := by
  have kept : (c.markedFields 0).memoryIds =
      (c.memoryRecords.filter c.MemoryPasses).map (·.memoryId) :=
    congrArg (List.map MemoryRecord.memoryId) (keptMemories_eq c)
  rw [purposed_markedFields] at dumped'
  constructor
  · rintro rfl
    have sub : ((c.memoryRecords.filter c.MemoryPasses).filter (·.purpose = c.purpose)).Sublist
        (c.memoryRecords.filter c.MemoryPasses) := List.filter_sublist
    have ids := memoryIds_of_dumps (kept ▸ sub.map (·.memoryId)) dumped dumped'
    have whole : (c.memoryRecords.filter c.MemoryPasses).filter (·.purpose = c.purpose) =
        c.memoryRecords.filter c.MemoryPasses := by
      refine sub.eq_of_length ?_
      rw [kept] at ids
      simpa using congrArg List.length ids
    intro m there passes
    have filtered := List.filter_eq_self.mp whole m
      (List.mem_filter.mpr ⟨there, decide_eq_true passes⟩)
    exact of_decide_eq_true filtered
  · intro only
    have whole : (c.memoryRecords.filter c.MemoryPasses).filter (·.purpose = c.purpose) =
        c.memoryRecords.filter c.MemoryPasses := by
      refine List.filter_eq_self.mpr fun m there => ?_
      obtain ⟨there, passes⟩ := List.mem_filter.mp there
      exact decide_eq_true (only m there (of_decide_eq_true passes))
    rw [whole, ← kept] at dumped'
    exact Except.ok.inj (dumped.symm.trans dumped')

theorem purposeLimited_iff_onlyPurpose [Sha256]
    (injective : Function.Injective (Sha256.hexdigest : String → String)) :
    c.PurposeLimited ↔ c.OnlyPurpose := by
  by_cases blank : (isBlank c.historyDigest || isBlank c.policyVersion) = true
  case pos =>
    have blank' : (isBlank c.purposed.historyDigest || isBlank c.purposed.policyVersion) = true :=
      blank
    refine iff_of_true (fun snapshotId snapshotId' => ?_) (.inl blank)
    rw [shownDigest_blank c blank, shownDigest_blank c.purposed blank']
  by_cases own : c.purposed.Serializable
  case neg =>
    refine iff_of_true (fun snapshotId snapshotId' => ?_) (.inr (.inl own))
    have whole : ¬c.Serializable := mt (purposed_serializable c) own
    rw [shownDigest_refused c whole, shownDigest_refused c.purposed own]
  have given := Bool.eq_false_iff.mpr blank
  obtain ⟨text', dumped', digest'⟩ := shownDigest_eq c.purposed own given
  have left : c.OnlyPurpose ↔
      c.Serializable ∧ ∀ m ∈ c.memoryRecords, c.MemoryPasses m → m.purpose = c.purpose := by
    rw [OnlyPurpose, or_iff_right blank, or_iff_right (not_not.mpr own)]
  rw [left]
  by_cases whole : c.Serializable
  case neg =>
    refine iff_of_false (fun limited => ?_) (mt And.left whole)
    have none := limited 0 0
    rw [shownDigest_refused c whole, digest'] at none
    cases none
  obtain ⟨text, dumped, digest⟩ := shownDigest_eq c whole given
  rw [and_iff_right whole, ← markedFields_dumps c dumped dumped', PurposeLimited]
  constructor
  · intro limited
    have equal := limited 0 0
    rw [digest, digest'] at equal
    exact injective (Option.some.inj equal)
  · rintro rfl snapshotId snapshotId'
    rw [digest, digest']

/-- The snapshot is limited to the purpose of the call exactly when no memory record of another
purpose passes the predicates that are checked and no fact of another purpose is refused, or there
is no snapshot anyway; and of two such calls that differ only in items of other purposes the
digests are equal. -/
theorem purposeLimited_iff [Sha256]
    (injective : Function.Injective (Sha256.hexdigest : String → String)) :
    (∀ c : AssembleCall, c.PurposeLimited ↔ c.OnlyPurpose) ∧
      ∀ c c' : AssembleCall, c.OnlyPurpose → c'.OnlyPurpose → c.purposed = c'.purposed →
        ∀ snapshotId snapshotId', c.shownDigest snapshotId = c'.shownDigest snapshotId' := by
  refine ⟨fun c => c.purposeLimited_iff_onlyPurpose injective, ?_⟩
  intro c c' only only' same snapshotId snapshotId'
  have limited := (c.purposeLimited_iff_onlyPurpose injective).mpr only
  have limited' := (c'.purposeLimited_iff_onlyPurpose injective).mpr only'
  calc c.shownDigest snapshotId = c.purposed.shownDigest snapshotId := limited snapshotId snapshotId
    _ = c'.purposed.shownDigest snapshotId := by rw [same]
    _ = c'.shownDigest snapshotId' := (limited' snapshotId' snapshotId).symm

namespace Sample

attribute [local instance] sha256

/-- A memory kept for marketing. -/
def marketing : MemoryRecord where
  tenantId := 1
  scope := "customer"
  content := "prefers calls in the morning"
  provenance := ["crm"]
  confidence := 1
  expiresAt := seconds 7200
  approvedBy := 9
  purpose := "marketing"
  status := .stable
  memoryId := 5
  createdAt := 0

/-- A run for another purpose. -/
def running : AssembleCall := { call [] with memoryRecords := [marketing] }

/-- The memory is in the snapshot, so the digest tells that it is there. -/
theorem marketing_shows : ¬∀ c c' : AssembleCall, c.purposed = c'.purposed →
    ∀ snapshotId snapshotId', c.shownDigest snapshotId = c'.shownDigest snapshotId' := by
  intro limited
  have digests := limited running running.purposed rfl 7 8
  exact absurd digests (by decide +kernel)

theorem call_limited : ((∀ c : AssembleCall, c.PurposeLimited ↔ c.OnlyPurpose) ∧
      ∀ c c' : AssembleCall, c.OnlyPurpose → c'.OnlyPurpose → c.purposed = c'.purposed →
        ∀ snapshotId snapshotId', c.shownDigest snapshotId = c'.shownDigest snapshotId') ∧
    marketing.check = .ok () ∧ ¬running.OnlyPurpose ∧ running.purposed.OnlyPurpose :=
  ⟨purposeLimited_iff fun _ _ same => same, by decide +kernel, by decide +kernel,
    by decide +kernel⟩

end Sample

end AssembleCall

end Autonoesis.Context
