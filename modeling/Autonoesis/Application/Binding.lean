import Autonoesis.Base.Lines
import Autonoesis.Domain.Approvals
import Autonoesis.Application.Actions

/-!
# What a digest binds

An approval and an execution envelope name an Action by the SHA-256 of its executable
fields, joined by newlines. The texts among them may hold newlines of their own, so the
joined text can be the text of two Actions. `single_iff_legible` says exactly for which
Actions it cannot.
-/

namespace Autonoesis
open Base

/-- The fields a digest is taken over. -/
structure Executable where
  tenantId : Uuid
  runId : Uuid
  taskId : Uuid
  actionId : Uuid
  toolName : String
  toolVersion : String
  operation : String
  resourceScope : String
  parameters : JsonObject
  riskLevel : RiskLevel
  idempotencyKey : String
  expectedEffect : String
  classification : DataClassification
  executionMode : ExecutionMode
  deriving DecidableEq

def ActionFields.executable (a : ActionFields) : Executable :=
  ⟨a.tenantId, a.runId, a.taskId, a.actionId, a.toolName, a.toolVersion, a.operation,
    a.resourceScope, a.parameters, a.riskLevel, a.idempotencyKey, a.expectedEffect,
    a.classification, a.executionMode⟩

def EnvelopeFields.executable (e : EnvelopeFields) : Executable :=
  ⟨e.tenantId, e.runId, e.taskId, e.actionId, e.toolName, e.toolVersion, e.operation,
    e.resourceScope, e.arguments, e.riskLevel, e.idempotencyKey, e.expectedEffect,
    e.classification, e.executionMode⟩

theorem JsonObject.newline_not_mem (j : JsonObject) : '\n' ∉ j.canonical.toList := by
  obtain ⟨fields, _, dumped⟩ := j.valid
  rw [dumped]
  exact Json.newline_not_mem_dumps false _

theorem JsonObject.not_blank (j : JsonObject) : isBlank j.canonical = false := by
  obtain ⟨fields, _, dumped⟩ := j.valid
  have brace : isSpace '\x7b' = false := by decide
  simp [dumped, isBlank, Json.dumps, brace]

theorem JsonObject.canonical_injective {i j : JsonObject} (same : i.canonical = j.canonical) :
    i = j := by
  cases i
  cases j
  cases same
  rfl

theorem RiskLevel.value_injective {r s : RiskLevel} (same : r.value = s.value) : r = s := by
  cases r <;> cases s <;> first | rfl | exact absurd same (by decide)

theorem RiskLevel.value_single (r : RiskLevel) :
    '\n' ∉ r.value.toList ∧ isBlank r.value = false := by
  cases r <;> decide

theorem DataClassification.value_injective {c d : DataClassification}
    (same : c.value = d.value) : c = d := by
  cases c <;> cases d <;> first | rfl | exact absurd same (by decide)

theorem DataClassification.newline_not_mem (c : DataClassification) : '\n' ∉ c.value.toList := by
  cases c <;> decide

theorem ExecutionMode.value_injective {m n : ExecutionMode} (same : m.value = n.value) :
    m = n := by
  cases m <;> cases n <;> first | rfl | exact absurd same (by decide)

theorem ExecutionMode.newline_not_mem (m : ExecutionMode) : '\n' ∉ m.value.toList := by
  cases m <;> decide

namespace Executable

def canonical (x : Executable) : String :=
  "\n".intercalate [x.tenantId.str, x.runId.str, x.taskId.str, x.actionId.str, x.toolName,
    x.toolVersion, x.operation, x.resourceScope, x.parameters.canonical, x.riskLevel.value,
    x.idempotencyKey, x.expectedEffect, x.classification.value, x.executionMode.value]

/-- The texts the constructors want not blank. -/
structure Filled (x : Executable) : Prop where
  toolName : isBlank x.toolName = false
  toolVersion : isBlank x.toolVersion = false
  operation : isBlank x.operation = false
  resourceScope : isBlank x.resourceScope = false
  idempotencyKey : isBlank x.idempotencyKey = false
  expectedEffect : isBlank x.expectedEffect = false

/-- The newlines an Action's texts may hold: none in the tool version and the operation,
only blank text before one in the tool name and the idempotency key, only blank text
after one in the resource scope and the expected effect. -/
structure Legible (x : Executable) : Prop where
  toolName : ∀ front back, x.toolName = front ++ "\n" ++ back → isBlank front = true
  toolVersion : '\n' ∉ x.toolVersion.toList
  operation : '\n' ∉ x.operation.toList
  resourceScope : ∀ front back, x.resourceScope = front ++ "\n" ++ back → isBlank back = true
  idempotencyKey : ∀ front back, x.idempotencyKey = front ++ "\n" ++ back → isBlank front = true
  expectedEffect : ∀ front back, x.expectedEffect = front ++ "\n" ++ back → isBlank back = true

/-- No other fields a constructor accepts have the same text. -/
def Single (x : Executable) : Prop :=
  ∀ y : Executable, y.Filled → y.canonical = x.canonical → y = x

/-! ## A legible text is read in one way -/

/-- The lines of the eight fields between the identifiers and the two closing values. -/
def parts (x : Executable) : List (List (List Char)) :=
  [lines x.toolName, lines x.toolVersion, lines x.operation, lines x.resourceScope,
    lines x.parameters.canonical, lines x.riskLevel.value, lines x.idempotencyKey,
    lines x.expectedEffect]

theorem lines_canonical (x : Executable) :
    lines x.canonical = x.tenantId.str.toList :: x.runId.str.toList :: x.taskId.str.toList ::
      x.actionId.str.toList :: (x.parts.flatten ++
        [x.classification.value.toList, x.executionMode.value.toList]) := by
  rw [canonical, lines_intercalate]
  simp [parts, lines_of_single (Uuid.newline_not_mem_str _),
    lines_of_single (DataClassification.newline_not_mem _),
    lines_of_single (ExecutionMode.newline_not_mem _)]

theorem Filled.parts {y : Executable} (filled : y.Filled) :
    ∀ part ∈ y.parts, 1 ≤ part.countP inked := by
  simp only [Executable.parts, List.forall_mem_cons]
  exact ⟨inked_of_not_blank filled.toolName, inked_of_not_blank filled.toolVersion,
    inked_of_not_blank filled.operation, inked_of_not_blank filled.resourceScope,
    inked_of_not_blank y.parameters.not_blank, inked_of_not_blank y.riskLevel.value_single.2,
    inked_of_not_blank filled.idempotencyKey, inked_of_not_blank filled.expectedEffect,
    List.forall_mem_nil _⟩

/-- Two readings of one text, the first legible, have the same parts. -/
theorem Legible.parts_eq {x y : Executable} (legible : x.Legible) (filled : x.Filled)
    (other : y.Filled) (same : x.parts.flatten = y.parts.flatten) : x.parts = y.parts := by
  obtain ⟨tool, toolEnds⟩ := last_line filled.toolName legible.toolName
  obtain ⟨version, versionStarts, versionEnds⟩ :=
    one_line filled.toolVersion legible.toolVersion
  obtain ⟨operation, operationStarts, operationEnds⟩ :=
    one_line filled.operation legible.operation
  obtain ⟨scope, scopeStarts⟩ := first_line filled.resourceScope legible.resourceScope
  obtain ⟨json, jsonStarts, jsonEnds⟩ :=
    one_line x.parameters.not_blank x.parameters.newline_not_mem
  obtain ⟨risk, _, riskEnds⟩ := one_line x.riskLevel.value_single.2 x.riskLevel.value_single.1
  obtain ⟨key, keyEnds⟩ := last_line filled.idempotencyKey legible.idempotencyKey
  obtain ⟨effect, effectStarts⟩ := first_line filled.expectedEffect legible.expectedEffect
  obtain ⟨_, jsonStarts', jsonEnds'⟩ :=
    one_line y.parameters.not_blank y.parameters.newline_not_mem
  obtain ⟨_, _, riskEnds'⟩ := one_line y.riskLevel.value_single.2 y.riskLevel.value_single.1
  refine cut_unique rfl same ?_ other.parts ?_
  · simp only [parts, List.forall_mem_cons]
    exact ⟨tool, version, operation, scope, json, risk, key, effect, List.forall_mem_nil _⟩
  · exact ⟨.inl toolEnds, .inr versionStarts, .inl versionEnds, .inr operationStarts,
      .inl operationEnds, .inr scopeStarts, .inr jsonStarts', .inr jsonStarts,
      .inl jsonEnds, .inl jsonEnds', .inl riskEnds, .inl riskEnds', .inl keyEnds,
      .inr effectStarts, trivial⟩

theorem Legible.single {x : Executable} (legible : x.Legible) (filled : x.Filled) : x.Single := by
  intro y other same
  have text := congrArg lines same
  rw [lines_canonical, lines_canonical] at text
  simp only [List.cons.injEq, String.toList_inj] at text
  obtain ⟨tenant, run, task, action, rest⟩ := text
  obtain ⟨flat, tail⟩ := List.append_inj' rest rfl
  simp only [List.cons.injEq, String.toList_inj, and_true] at tail
  have eight := legible.parts_eq filled other flat.symm
  simp only [parts, List.cons.injEq, and_true] at eight
  obtain ⟨tool, version, operation, scope, json, risk, key, effect⟩ := eight
  cases x
  cases y
  cases Uuid.str_injective tenant
  cases Uuid.str_injective run
  cases Uuid.str_injective task
  cases Uuid.str_injective action
  cases lines_injective tool
  cases lines_injective version
  cases lines_injective operation
  cases lines_injective scope
  cases JsonObject.canonical_injective (lines_injective json)
  cases RiskLevel.value_injective (lines_injective risk)
  cases lines_injective key
  cases lines_injective effect
  cases DataClassification.value_injective tail.1
  cases ExecutionMode.value_injective tail.2
  rfl

/-! ## A text that is not legible is read in two -/

theorem Single.legible {x : Executable} (single : x.Single) (filled : x.Filled) : x.Legible := by
  have joined (front back : String) (blank : isBlank front = false ∨ isBlank back = false) :
      isBlank (front ++ "\n" ++ back) = false := by
    rw [isBlank_newline]
    rcases blank with blank | blank <;> simp [blank]
  -- every cut at a newline that leaves ink on the far side moves a line to the neighbour
  refine ⟨?_, ?_, ?_, ?_, ?_, ?_⟩
  · intro front back cut
    by_contra ink
    have moved := single
      { x with toolName := front, toolVersion := back ++ "\n" ++ x.toolVersion }
      { filled with
        toolName := Bool.eq_false_iff.mpr ink
        toolVersion := joined _ _ (.inr filled.toolVersion) }
      (by simp [canonical, cut, String.append_assoc])
    exact front_ne front back ((congrArg toolName moved).trans cut)
  · intro newline
    obtain ⟨front, back, cut⟩ := cut_at_newline newline
    have ink := filled.toolVersion
    rw [cut, isBlank_newline, Bool.and_eq_false_iff] at ink
    rcases ink with ink | ink
    · have moved := single
        { x with toolVersion := front, operation := back ++ "\n" ++ x.operation }
        { filled with toolVersion := ink, operation := joined _ _ (.inr filled.operation) }
        (by simp [canonical, cut, String.append_assoc])
      exact front_ne front back ((congrArg toolVersion moved).trans cut)
    · have moved := single
        { x with toolName := x.toolName ++ "\n" ++ front, toolVersion := back }
        { filled with toolName := joined _ _ (.inl filled.toolName), toolVersion := ink }
        (by simp [canonical, cut, String.append_assoc])
      exact back_ne front back ((congrArg toolVersion moved).trans cut)
  · intro newline
    obtain ⟨front, back, cut⟩ := cut_at_newline newline
    have ink := filled.operation
    rw [cut, isBlank_newline, Bool.and_eq_false_iff] at ink
    rcases ink with ink | ink
    · have moved := single
        { x with operation := front, resourceScope := back ++ "\n" ++ x.resourceScope }
        { filled with operation := ink, resourceScope := joined _ _ (.inr filled.resourceScope) }
        (by simp [canonical, cut, String.append_assoc])
      exact front_ne front back ((congrArg operation moved).trans cut)
    · have moved := single
        { x with toolVersion := x.toolVersion ++ "\n" ++ front, operation := back }
        { filled with toolVersion := joined _ _ (.inl filled.toolVersion), operation := ink }
        (by simp [canonical, cut, String.append_assoc])
      exact back_ne front back ((congrArg operation moved).trans cut)
  · intro front back cut
    by_contra ink
    have moved := single
      { x with operation := x.operation ++ "\n" ++ front, resourceScope := back }
      { filled with
        operation := joined _ _ (.inl filled.operation)
        resourceScope := Bool.eq_false_iff.mpr ink }
      (by simp [canonical, cut, String.append_assoc])
    exact back_ne front back ((congrArg resourceScope moved).trans cut)
  · intro front back cut
    by_contra ink
    have moved := single
      { x with idempotencyKey := front, expectedEffect := back ++ "\n" ++ x.expectedEffect }
      { filled with
        idempotencyKey := Bool.eq_false_iff.mpr ink
        expectedEffect := joined _ _ (.inr filled.expectedEffect) }
      (by simp [canonical, cut, String.append_assoc])
    exact front_ne front back ((congrArg idempotencyKey moved).trans cut)
  · intro front back cut
    by_contra ink
    have moved := single
      { x with idempotencyKey := x.idempotencyKey ++ "\n" ++ front, expectedEffect := back }
      { filled with
        idempotencyKey := joined _ _ (.inl filled.idempotencyKey)
        expectedEffect := Bool.eq_false_iff.mpr ink }
      (by simp [canonical, cut, String.append_assoc])
    exact back_ne front back ((congrArg expectedEffect moved).trans cut)

theorem single_iff_legible {x : Executable} (filled : x.Filled) : x.Single ↔ x.Legible :=
  ⟨fun single => single.legible filled, fun legible => legible.single filled⟩

end Executable

/-! ## Approvals and envelopes -/

theorem Action.filled (a : Action) : a.executable.Filled := by
  have valid := a.valid
  simp only [ActionFields.check, checks_cons, List.any_cons, List.any_nil,
    Bool.or_eq_false_iff] at valid
  obtain ⟨⟨tool, version, operation, scope, key, effect, _⟩, _⟩ := valid
  exact ⟨tool, version, operation, scope, key, effect⟩

section
variable [Sha256]

theorem ActionExecutionEnvelope.filled (e : ActionExecutionEnvelope) : e.executable.Filled := by
  have valid := e.valid
  simp only [EnvelopeFields.check, checks_cons, List.any_cons, List.any_nil,
    Bool.or_eq_false_iff] at valid
  obtain ⟨⟨_, _, tool, version, operation, scope, key, _, _, effect, _⟩, _⟩ := valid
  exact ⟨tool, version, operation, scope, key, effect⟩

theorem ActionExecutionEnvelope.digest_eq (e : ActionExecutionEnvelope) :
    Sha256.hexdigest e.executable.canonical = e.actionDigest := by
  have valid := e.valid
  simp only [EnvelopeFields.check, checks_cons, decide_eq_false_iff_not, not_not] at valid
  exact valid.2.2.1

/-- An envelope for any fields that are filled. -/
def Executable.envelope (x : Executable) : EnvelopeFields where
  invocationId := 0
  tenantId := x.tenantId
  runId := x.runId
  taskId := x.taskId
  actionId := x.actionId
  actorId := 0
  principalId := 0
  agentIdentity := "agent"
  delegationRef := "delegation"
  toolName := x.toolName
  toolVersion := x.toolVersion
  operation := x.operation
  resourceScope := x.resourceScope
  arguments := x.parameters
  actionDigest := Sha256.hexdigest x.canonical
  riskLevel := x.riskLevel
  idempotencyKey := x.idempotencyKey
  budgetRef := "budget"
  approvalId := none
  policyVersion := "policy"
  expectedEffect := x.expectedEffect
  deadline := 0
  traceparent := "trace"
  classification := x.classification
  executionMode := x.executionMode

theorem Executable.Filled.envelope_check {x : Executable} (filled : x.Filled)
    (digest : isSha256Hex (Sha256.hexdigest x.canonical) = true) :
    x.envelope.check = .ok () := by
  have constant : isBlank "agent" = false ∧ isBlank "delegation" = false ∧
      isBlank "budget" = false ∧ isBlank "policy" = false ∧ isBlank "trace" = false := by decide
  obtain ⟨agent, delegation, budget, policy, trace⟩ := constant
  have same : x.envelope.canonical = x.canonical := rfl
  simp only [EnvelopeFields.check, same, checks_cons, checks_nil]
  simp [envelope, agent, delegation, budget, policy, trace, digest, filled.toolName,
    filled.toolVersion, filled.operation, filled.resourceScope, filled.idempotencyKey,
    filled.expectedEffect]

namespace App

/-- Every Action an approval of `a` authorizes has its executable fields. -/
def ApprovalBinds (a : Action) : Prop :=
  ∀ (cmd : RequestApproval) (approvalId : Uuid) (createdAt : Instant) (request : ApprovalRequest),
    ApprovalRequest.make (approvalFor cmd a approvalId createdAt) = .ok request →
    ∀ (votes : List Vote) (b : Action) (now : Instant),
      (after ApprovalRequest.vote request votes).authorizes b cmd.policyVersion now = true →
      b.executable = a.executable

/-- Every envelope with the digest of `a` has its executable fields. -/
def EnvelopeBinds (a : Action) : Prop :=
  ∀ e : ActionExecutionEnvelope, e.actionDigest = a.canonicalDigest →
    e.executable = a.executable

theorem approvalBinds_of_single {a : Action}
    (collisionFree : ∀ text, Sha256.hexdigest text = a.canonicalDigest → text = a.canonical)
    (single : a.executable.Single) : ApprovalBinds a := by
  intro cmd approvalId createdAt request made votes b now authorizes
  simp only [ApprovalRequest.authorizes, Bool.and_eq_true, decide_eq_true_eq] at authorizes
  obtain ⟨⟨⟨⟨⟨⟨⟨⟨⟨⟨_, _⟩, _⟩, _⟩, _⟩, digest⟩, _⟩, _⟩, _⟩, _⟩, _⟩ := authorizes
  rw [ApprovalRequest.after_digest, ApprovalRequest.make_ok made] at digest
  exact single b.executable b.filled (collisionFree b.canonical digest.symm)

theorem envelopeBinds_iff_single {a : Action}
    (collisionFree : ∀ text, Sha256.hexdigest text = a.canonicalDigest → text = a.canonical)
    (digest : isSha256Hex a.canonicalDigest = true) :
    EnvelopeBinds a ↔ a.executable.Single := by
  constructor
  · intro binds y filled same
    have hash : Sha256.hexdigest y.canonical = a.canonicalDigest := congrArg _ same
    exact binds ⟨y.envelope, filled.envelope_check (hash ▸ digest)⟩ hash
  · intro single e named
    have hash := e.digest_eq.trans named
    exact single e.executable e.filled (collisionFree _ hash)

/-- A digest binds exactly the Actions whose joined fields can be read in one way only. -/
theorem binding_injective_iff (a : Action)
    (collisionFree : ∀ text, Sha256.hexdigest text = a.canonicalDigest → text = a.canonical)
    (digest : isSha256Hex a.canonicalDigest = true) :
    (ApprovalBinds a ∧ EnvelopeBinds a) ↔ a.executable.Legible := by
  rw [envelopeBinds_iff_single collisionFree digest, ← Executable.single_iff_legible a.filled]
  constructor
  · exact fun binds => binds.2
  · exact fun single => ⟨approvalBinds_of_single collisionFree single, single⟩

end App

end

/-! ## Two mails with one digest -/

namespace Executable.Sample
open App

def fields (idempotencyKey expectedEffect : String) : ActionFields where
  tenantId := 1
  runId := 2
  taskId := 3
  toolName := "mail"
  toolVersion := "1.0.0"
  operation := "send"
  resourceScope := "mailbox/ops"
  parameters := ⟨"\x7b\x7d", JsonObject.empty_valid⟩
  riskLevel := .l2ReversibleWrite
  idempotencyKey := idempotencyKey
  expectedEffect := expectedEffect
  actionId := 4

def plain : Action := ⟨fields "mail-1" "mail sent", by decide⟩
def folded : Action := ⟨fields "mail-1" "mail sent\nto ops", by decide⟩
def refolded : Action := ⟨fields "mail-1\nmail sent" "to ops", by decide⟩

/-- SHA-256 on the texts of these Actions, and a text of its own for every other. -/
def hexdigest (text : String) : String :=
  if text = "\x7b\x7d"
  then "44136fa355b3678a1146ad16f7e8649e94fb4fc21fe77e8310c060f61caaff8a"
  else if text = plain.canonical
  then "f8aec94028a1de583b63ca7128e7a8cdebe9f3c356a02010aef44e02f4cd8cfc"
  else if text = folded.canonical
  then "908ee50f93055489bdbe636f1c6677b7a71009c9253318272e61c0583b65c490"
  else "~" ++ text

@[reducible] def sha256 : Sha256 := ⟨hexdigest⟩

attribute [local instance] sha256

theorem hexdigest_injective : Function.Injective hexdigest := by
  have other (text digest : String) (hex : digest.toList.head? ≠ some '~') :
      "~" ++ text ≠ digest := by
    rintro rfl
    simp at hex
  intro x y same
  unfold hexdigest at same
  generalize plain.canonical = p, folded.canonical = f at same
  split_ifs at same <;>
    first
    | (subst_vars; rfl)
    | exact absurd same (by decide +kernel)
    | exact absurd same (other _ _ (by decide +kernel))
    | exact absurd same.symm (other _ _ (by decide +kernel))
    | simpa using same

def approvalCommand : RequestApproval := ⟨4, "p1", "one mail", "approver", 100⟩

def request : ApprovalRequest := ⟨approvalFor approvalCommand folded 5 0, by decide +kernel⟩

def votes : List Vote := [⟨7, true, "fine", none, 10⟩]

/-- A newline in the expected effect lets the approval of one mail authorize another, and
the other run under its digest. -/
theorem approval_authorizes_refolded :
    Function.Injective (Sha256.hexdigest : String → String) ∧
      ¬(∀ a : Action, ApprovalBinds a) ∧ ¬(∀ a : Action, EnvelopeBinds a) ∧
      ApprovalRequest.make (approvalFor approvalCommand folded 5 0) = .ok request ∧
      (after ApprovalRequest.vote request votes).authorizes refolded "p1" 50 = true ∧
      refolded.executable ≠ folded.executable := by
  have made : ApprovalRequest.make (approvalFor approvalCommand folded 5 0) = .ok request :=
    guarded_eq_ok.mpr ⟨request.valid, rfl⟩
  have authorized : (after ApprovalRequest.vote request votes).authorizes refolded "p1" 50 = true :=
    by decide +kernel
  have differ : refolded.executable ≠ folded.executable := by decide +kernel
  have enveloped : refolded.executable.envelope.check = .ok () := by decide +kernel
  have named : refolded.executable.envelope.actionDigest = folded.canonicalDigest := by
    decide +kernel
  refine ⟨hexdigest_injective, fun binds => ?_, fun binds => ?_, made, authorized, differ⟩
  · exact differ (binds folded approvalCommand 5 0 request made votes refolded 50 authorized)
  · exact differ (binds folded ⟨refolded.executable.envelope, enveloped⟩ named)

theorem binding_injective_iff_plain :
    (ApprovalBinds plain ∧ EnvelopeBinds plain) ∧ plain.executable.Legible := by
  have legible : plain.executable.Legible := by
    have single (s : String) (clean : '\n' ∉ s.toList) (front back : String) :
        s ≠ front ++ "\n" ++ back := by
      rintro rfl
      simp at clean
    exact ⟨fun _ _ cut => absurd cut (single _ (by decide) _ _), by decide, by decide,
      fun _ _ cut => absurd cut (single _ (by decide) _ _),
      fun _ _ cut => absurd cut (single _ (by decide) _ _),
      fun _ _ cut => absurd cut (single _ (by decide) _ _)⟩
  have collisionFree (text : String) (same : Sha256.hexdigest text = plain.canonicalDigest) :
      text = plain.canonical := by
    unfold ActionFields.canonicalDigest at same
    exact @hexdigest_injective text plain.canonical same
  exact ⟨(binding_injective_iff plain collisionFree (by decide +kernel)).mpr legible, legible⟩

end Executable.Sample

end Autonoesis
