import Autonoesis.Base.Marks
import Autonoesis.Domain.Uuids

/-!
# Namespaces of tenants

Every name outside the database holds the identifier of its tenant in a fixed width. What stands in
front of it may be configured and what stands behind it may be free text; the identifier can still
be told from both.
-/

namespace Autonoesis
open Base

inductive IsolationRiskPool where
  | read | write | highRisk
  deriving DecidableEq

def IsolationRiskPool.value : IsolationRiskPool → String
  | read => "read"
  | write => "write"
  | highRisk => "high-risk"

/-- The lower case of a character, of which only the ASCII letters matter: the two others with
such a letter in their lower case are the Kelvin sign and the dotted capital I. -/
def loweredChar (c : Char) : List Char :=
  if c.toNat = 0x212A then ['k']
  else if c.toNat = 0x0130 then ['i', Char.ofNat 0x0307]
  else [c.toLower]

def isLabelChar (c : Char) : Bool := (97 ≤ c.toNat && c.toNat ≤ 122) || c.isDigit

/-- `re.sub(r"[^a-z0-9]+", separator, text)`; `inside` says that the separator of the run of other
characters is written already. -/
def separated (separator : Char) : Bool → List Char → List Char
  | _, [] => []
  | inside, c :: rest =>
    if isLabelChar c then c :: separated separator false rest
    else if inside then separated separator true rest
    else separator :: separated separator true rest

/-- `text.strip(separator)`. -/
def stripChar (separator : Char) (text : List Char) : List Char :=
  ((text.dropWhile (· = separator)).reverse.dropWhile (· = separator)).reverse

/-- `_label`. -/
def label (value : String) (separator : Char := '-') : Except Exc String :=
  let normalized := stripChar separator
    (separated separator false ((strip value).toList.flatMap loweredChar))
  if normalized.isEmpty || 80 < normalized.length then
    .error (.valueError "logical namespace name must be non-empty and at most 80 characters")
  else .ok (String.ofList normalized)

/-- A first character of one kind and at most 31 more of another. -/
def isBounded (first more : Char → Bool) (text : String) : Bool :=
  match text.toList with
  | [] => false
  | c :: rest => first c && rest.all more && rest.length ≤ 31

def isLowerLetter (c : Char) : Bool := 97 ≤ c.toNat && c.toNat ≤ 122

structure NamespaceFields where
  tenantId : Uuid
  namePrefix : String := "autonoesis"

def NamespaceFields.check (n : NamespaceFields) : Except Exc Unit :=
  checks [(!isBounded isLowerLetter (fun c => isLabelChar c || c = '-') n.namePrefix,
    .valueError "namespace prefix must be a bounded DNS-safe label")]

structure TenantNamespaces extends NamespaceFields where
  valid : toNamespaceFields.check = .ok ()

namespace TenantNamespaces

def make (n : NamespaceFields) : Except Exc TenantNamespaces := guarded n.check fun h => ⟨n, h⟩

variable (n : TenantNamespaces)

/-- `tenant_id.hex`. -/
def tenantToken : String := String.ofList (hexDigits 32 n.tenantId.toNat)

def objectPrefix (resource : String) : Except Exc String := do
  return "tenants/" ++ n.tenantId.str ++ "/" ++ (← label resource) ++ "/"

def cacheKey (logicalKey : String) : Except Exc String := do
  return n.namePrefix ++ ":tenant:" ++ n.tenantId.str ++ ":" ++ (← label logicalKey ':')

def searchIndex (logicalName : String) : Except Exc String := do
  return n.namePrefix ++ "-t-" ++ n.tenantToken ++ "-" ++ (← label logicalName)

def vectorCollection (logicalName : String) : Except Exc String := do
  return n.namePrefix ++ "_t_" ++ n.tenantToken ++ "_" ++ (← label logicalName '_')

def messageTopic (logicalName : String) : Except Exc String := do
  return n.namePrefix ++ ".tenant." ++ n.tenantId.str ++ "." ++ (← label logicalName '.')

def workflowNamespace (pool : IsolationRiskPool) : String :=
  n.namePrefix ++ "-t-" ++ n.tenantToken ++ "-" ++ pool.value

def workflowTaskQueue (pool : IsolationRiskPool) : String :=
  n.namePrefix ++ "-t-" ++ n.tenantToken ++ "-" ++ pool.value

def workflowId (runId : Uuid) : String :=
  "tenant-" ++ n.tenantToken ++ "-goal-run-" ++ runId.str

/-- `digest[:16]`. -/
def digestStart (digest : String) : String := String.ofList (digest.toList.take 16)

def shadowWorkflowId (deploymentId requestId : Uuid) (payloadDigest : String) :
    Except Exc String := do
  raiseIf (!isSha256Hex payloadDigest)
    (.valueError "shadow payload digest must be lowercase sha256 hex")
  return "tenant-" ++ n.tenantToken ++ "-shadow-" ++ deploymentId.str ++ "-" ++ requestId.str ++
    "-" ++ digestStart payloadDigest

def releaseWorkflowId (action : String) (targetId : Uuid) (commandDigest : String) :
    Except Exc String := do
  raiseIf (!isBounded isLowerLetter (fun c => isLabelChar c || c = '_') action)
    (.valueError "release action must be a bounded snake_case label")
  raiseIf (!isSha256Hex commandDigest)
    (.valueError "release command digest must be lowercase sha256 hex")
  return "tenant-" ++ n.tenantToken ++ "-release-" ++ action ++ "-" ++ targetId.str ++ "-" ++
    digestStart commandDigest

def workerPool (pool : IsolationRiskPool) : String :=
  n.namePrefix ++ "/tenant/" ++ n.tenantId.str ++ "/" ++ pool.value

def evaluationDataset (logicalName : String) : Except Exc String := do
  return n.namePrefix ++ "/tenants/" ++ n.tenantId.str ++ "/evaluations/" ++ (← label logicalName)

end TenantNamespaces

inductive NameKind where
  | objectPrefix | cacheKey | searchIndex | vectorCollection | messageTopic | workflowNamespace
  | workflowTaskQueue | workflowId | shadowWorkflowId | releaseWorkflowId | workerPool
  | evaluationDataset

namespace TenantNamespaces

/-- The names a tenant can get, by kind. -/
inductive Name (n : TenantNamespaces) : NameKind → String → Prop
  | objectPrefix {resource name : String} (made : n.objectPrefix resource = .ok name) :
      Name n .objectPrefix name
  | cacheKey {key name : String} (made : n.cacheKey key = .ok name) : Name n .cacheKey name
  | searchIndex {logical name : String} (made : n.searchIndex logical = .ok name) :
      Name n .searchIndex name
  | vectorCollection {logical name : String} (made : n.vectorCollection logical = .ok name) :
      Name n .vectorCollection name
  | messageTopic {logical name : String} (made : n.messageTopic logical = .ok name) :
      Name n .messageTopic name
  | workflowNamespace (pool : IsolationRiskPool) :
      Name n .workflowNamespace (n.workflowNamespace pool)
  | workflowTaskQueue (pool : IsolationRiskPool) :
      Name n .workflowTaskQueue (n.workflowTaskQueue pool)
  | workflowId (runId : Uuid) : Name n .workflowId (n.workflowId runId)
  | shadowWorkflowId {deploymentId requestId : Uuid} {digest name : String}
      (made : n.shadowWorkflowId deploymentId requestId digest = .ok name) :
      Name n .shadowWorkflowId name
  | releaseWorkflowId {action : String} {targetId : Uuid} {digest name : String}
      (made : n.releaseWorkflowId action targetId digest = .ok name) :
      Name n .releaseWorkflowId name
  | workerPool (pool : IsolationRiskPool) : Name n .workerPool (n.workerPool pool)
  | evaluationDataset {logical name : String} (made : n.evaluationDataset logical = .ok name) :
      Name n .evaluationDataset name

/-! ## The two spellings of the tenant -/

variable {n n' : TenantNamespaces}

theorem length_str (u : Uuid) : u.str.toList.length = 36 := by
  simp [Uuid.str, length_hexDigits]

theorem length_token (n : TenantNamespaces) : n.tenantToken.toList.length = 32 := by
  simp [tenantToken, length_hexDigits]

theorem tenant_of_str (same : n.tenantId.str.toList = n'.tenantId.str.toList) :
    n.tenantId = n'.tenantId :=
  Uuid.str_injective (String.toList_inj.mp same)

theorem tenant_of_token (same : n.tenantToken.toList = n'.tenantToken.toList) :
    n.tenantId = n'.tenantId := by
  rw [tenantToken, tenantToken, String.toList_ofList, String.toList_ofList] at same
  apply Uuid.str_injective
  rw [Uuid.str, Uuid.str, same]

/-! ## The prefix -/

theorem prefix_bounded (n : TenantNamespaces) :
    isBounded isLowerLetter (fun c => isLabelChar c || c = '-') n.namePrefix = true := by
  have valid := n.valid
  simp only [NamespaceFields.check, checks_cons, checks_nil, and_true, Bool.not_eq_false'] at valid
  exact valid

theorem bounded_chars {first more : Char → Bool} {text : String}
    (bounded : isBounded first more text = true) :
    text.toList ≠ [] ∧ text.toList.length ≤ 32 ∧ ∀ c ∈ text.toList, first c ∨ more c := by
  unfold isBounded at bounded
  cases chars : text.toList with
  | nil =>
    rw [chars] at bounded
    cases bounded
  | cons c rest =>
    rw [chars] at bounded
    simp only [Bool.and_eq_true, List.all_eq_true, decide_eq_true_eq] at bounded
    obtain ⟨⟨head, tail⟩, short⟩ := bounded
    have length : (c :: rest).length ≤ 32 := by
      rw [List.length_cons]
      omega
    refine ⟨List.cons_ne_nil _ _, length, fun d there => ?_⟩
    obtain rfl | there := List.mem_cons.mp there
    · exact .inl head
    · exact .inr (tail d there)

/-- A character that no prefix holds. -/
theorem not_mem_labels {c : Char} (other : isLowerLetter c = false)
    (other' : (isLabelChar c || decide (c = '-')) = false) (n : TenantNamespaces) :
    c ∉ n.namePrefix.toList := by
  intro there
  obtain letter | kept := (bounded_chars n.prefix_bounded).2.2 c there
  · rw [other] at letter
    cases letter
  · rw [other'] at kept
    cases kept

theorem not_mem_token {c : Char} (other : isHexDigit c = false) (n : TenantNamespaces) :
    c ∉ n.tenantToken.toList := by
  intro there
  rw [tenantToken, String.toList_ofList] at there
  rw [isHexDigit_of_mem_hexDigits there] at other
  cases other

/-! ## What a name tells -/

/-- What a name of the kind starts with: the prefix, or a fixed text. -/
def front (n : TenantNamespaces) : NameKind → String
  | .objectPrefix => "tenants/"
  | .workflowId | .shadowWorkflowId | .releaseWorkflowId => "tenant-"
  | _ => n.namePrefix

/-- What stands between the front and the tenant. -/
def mark : NameKind → String
  | .objectPrefix | .workflowId | .shadowWorkflowId | .releaseWorkflowId => ""
  | .cacheKey => ":tenant:"
  | .vectorCollection => "_t_"
  | .messageTopic => ".tenant."
  | .workerPool => "/tenant/"
  | .evaluationDataset => "/tenants/"
  | .searchIndex | .workflowNamespace | .workflowTaskQueue => "-t-"

/-- The spelling of the tenant. -/
def spelled (n : TenantNamespaces) : NameKind → String
  | .objectPrefix | .cacheKey | .messageTopic | .workerPool | .evaluationDataset =>
    n.tenantId.str
  | _ => n.tenantToken

/-- A text of the kind, with what stands behind the tenant. -/
def form (n : TenantNamespaces) (kind : NameKind) (rest : List Char) : List Char :=
  (n.front kind).toList ++ ((mark kind).toList ++ ((n.spelled kind).toList ++ rest))

theorem name_form {kind : NameKind} {name : String} (named : n.Name kind name) :
    ∃ rest, name.toList = n.form kind rest := by
  cases named with
  | objectPrefix made | cacheKey made | searchIndex made | vectorCollection made
  | messageTopic made | evaluationDataset made | shadowWorkflowId made =>
    obtain ⟨_, _, made⟩ := bind_eq_ok.mp made
    cases made
    simp only [String.toList_append, List.append_assoc, form, front, mark, spelled,
      String.toList_empty, List.nil_append]
    exact ⟨_, rfl⟩
  | releaseWorkflowId made =>
    obtain ⟨_, _, made⟩ := bind_eq_ok.mp made
    obtain ⟨_, _, made⟩ := bind_eq_ok.mp made
    cases made
    simp only [String.toList_append, List.append_assoc, form, front, mark, spelled,
      String.toList_empty, List.nil_append]
    exact ⟨_, rfl⟩
  | workflowNamespace | workflowTaskQueue | workflowId | workerPool =>
    simp only [workflowNamespace, workflowTaskQueue, workflowId, workerPool,
      String.toList_append, List.append_assoc, form, front, mark, spelled, String.toList_empty,
      List.nil_append]
    exact ⟨_, rfl⟩

theorem form_append (n : TenantNamespaces) (kind : NameKind) (rest more : List Char) :
    n.form kind (rest ++ more) = n.form kind rest ++ more := by
  simp only [form, List.append_assoc]

/-- Both spellings have a width of their own and give the tenant away. -/
theorem length_spelled (kind : NameKind) :
    (n.spelled kind).toList.length = (n'.spelled kind).toList.length := by
  unfold spelled
  split
  all_goals simp only [length_str, length_token]

theorem tenant_of_spelled {kind : NameKind}
    (same : (n.spelled kind).toList = (n'.spelled kind).toList) : n.tenantId = n'.tenantId := by
  cases kind with
  | objectPrefix | cacheKey | messageTopic | workerPool | evaluationDataset =>
    exact tenant_of_str same
  | searchIndex | vectorCollection | workflowNamespace | workflowTaskQueue | workflowId
  | shadowWorkflowId | releaseWorkflowId => exact tenant_of_token same

/-- Behind a fixed text. -/
theorem spelled_of_fixed {kind : NameKind} {rest rest' : List Char}
    (fixed : n.front kind = n'.front kind) (same : n.form kind rest = n'.form kind rest') :
    (n.spelled kind).toList = (n'.spelled kind).toList := by
  rw [form, form, fixed] at same
  apply (List.append_inj (List.append_cancel_left (List.append_cancel_left same)) _).1
  exact length_spelled kind

/-- Behind a mark that starts with a character no prefix holds. -/
theorem spelled_of_cut {kind : NameKind} {rest rest' : List Char} {separator : Char}
    (starts : ∃ tail, (mark kind).toList = separator :: tail)
    (free : ∀ m : TenantNamespaces, separator ∉ (m.front kind).toList)
    (same : n.form kind rest = n'.form kind rest') :
    (n.spelled kind).toList = (n'.spelled kind).toList := by
  obtain ⟨tail, starts⟩ := starts
  exact token_of_cut starts (free n) (free n') (length_spelled kind) same

/-- Behind a dash: the prefix may hold dashes, but it is no longer than the token, which holds
none. -/
theorem token_of_dash {rest rest' : List Char}
    (same : n.namePrefix.toList ++ '-' :: 't' :: '-' :: (n.tenantToken.toList ++ rest) =
      n'.namePrefix.toList ++ '-' :: 't' :: '-' :: (n'.tenantToken.toList ++ rest')) :
    n.tenantToken.toList = n'.tenantToken.toList := by
  have dash : ∀ m : TenantNamespaces, '-' ∉ m.tenantToken.toList := not_mem_token (by decide)
  have letter : ∀ m : TenantNamespaces, 't' ∉ m.tenantToken.toList := not_mem_token (by decide)
  obtain ⟨some, short, _⟩ := bounded_chars n.prefix_bounded
  obtain ⟨some', short', _⟩ := bounded_chars n'.prefix_bounded
  rw [← length_token n] at short short'
  have width : n.tenantToken.toList.length = n'.tenantToken.toList.length := by
    rw [length_token, length_token]
  exact token_of_marked (by decide) (dash n) (dash n') (letter n) (letter n') width some some'
    short short' same

/-- Two names of one kind agree only for one tenant. -/
theorem form_tenant {kind : NameKind} {rest rest' : List Char}
    (same : n.form kind rest = n'.form kind rest') : n.tenantId = n'.tenantId := by
  suffices spelled : (n.spelled kind).toList = (n'.spelled kind).toList from
    tenant_of_spelled spelled
  cases kind with
  | objectPrefix | workflowId | shadowWorkflowId | releaseWorkflowId =>
    exact spelled_of_fixed rfl same
  | cacheKey => exact spelled_of_cut ⟨_, rfl⟩ (not_mem_labels (by decide) (by decide)) same
  | messageTopic => exact spelled_of_cut ⟨_, rfl⟩ (not_mem_labels (by decide) (by decide)) same
  | vectorCollection => exact spelled_of_cut ⟨_, rfl⟩ (not_mem_labels (by decide) (by decide)) same
  | workerPool | evaluationDataset =>
    exact spelled_of_cut ⟨_, rfl⟩ (not_mem_labels (by decide) (by decide)) same
  | searchIndex | workflowNamespace | workflowTaskQueue =>
    have dashed : "-t-".toList = ['-', 't', '-'] := rfl
    simp only [form, front, mark, spelled, dashed, List.cons_append, List.nil_append] at same
    exact token_of_dash same

/-- Names of one kind of two tenants differ, and no object prefix of one leads into the objects of
the other. -/
theorem namespaces_disjoint (n n' : TenantNamespaces) (apart : n.tenantId ≠ n'.tenantId) :
    (∀ kind name name', n.Name kind name → n'.Name kind name' → name ≠ name') ∧
      ∀ name name', n.Name .objectPrefix name → n'.Name .objectPrefix name' →
        ¬name.toList <+: name'.toList := by
  constructor
  · rintro kind name _ named named' rfl
    obtain ⟨rest, text⟩ := name_form named
    obtain ⟨rest', text'⟩ := name_form named'
    exact apart (form_tenant (text.symm.trans text'))
  · intro name name' named named' leads
    obtain ⟨more, longer⟩ := leads
    obtain ⟨rest, text⟩ := name_form named
    obtain ⟨rest', text'⟩ := name_form named'
    rw [text, text'] at longer
    exact apart (form_tenant ((form_append n _ rest more).trans longer))

namespace Sample

def ofTenant (tenantId : Uuid) (namePrefix : String)
    (bounded : isBounded isLowerLetter (fun c => isLabelChar c || c = '-') namePrefix = true) :
    TenantNamespaces where
  tenantId
  namePrefix
  valid := by
    simp only [NamespaceFields.check, checks_cons, checks_nil, and_true, Bool.not_eq_false']
    exact bounded

/-- The prefix of the second tenant is spelled like the start of a name of the first. -/
theorem dashes_told_apart : (ofTenant 1 "a" (by decide)).searchIndex "T-1" =
      .ok "a-t-00000000000000000000000000000001-t-1" ∧
    ∀ name name', (ofTenant 1 "a" (by decide)).Name .searchIndex name →
      (ofTenant 2 "a-t-0000" (by decide)).Name .searchIndex name' → name ≠ name' :=
  ⟨by decide +kernel,
    (namespaces_disjoint (ofTenant 1 "a" (by decide)) (ofTenant 2 "a-t-0000" (by decide))
      (by decide)).1 .searchIndex⟩

end Sample

end TenantNamespaces

end Autonoesis
