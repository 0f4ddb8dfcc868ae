import Autonoesis.Application.Decisions
import Autonoesis.Base.History

/-!
# Tombstones of deleted evidence

`request_evidence_deletion` records the request before it asks the artifact store, and its result
after. The record has one place for each evidence, so a new request takes that of a deletion that
has been proven.
-/

namespace Autonoesis
open Base

namespace Tombstones
open App

/-- A call of `request_evidence_deletion`, by an application with its artifact store; it may crash
between its two transactions. -/
structure Request where
  ports : Ports
  env : Env
  ctx : CommandContext
  cmd : RequestEvidenceDeletion
  crashes : Bool := false

section
variable [Sha256]

/-- The states a call leaves by its transactions. -/
def passage (s : Store) (c : Request) : List Store :=
  match requestDeletion c.ports c.env c.ctx c.cmd s with
  | .error _ => []
  | .ok ((evidence, record), s') =>
    if c.crashes then [s']
    else
      match settleDeletion record (c.ports.evidence.delete evidence.descriptor) with
      | .error _ => [s']
      | .ok final =>
        match finishDeletion c.env c.ctx evidence final s' with
        | .error _ => [s']
        | .ok (_, s'') => [s', s'']

/-- A call that does not crash is the command. -/
theorem reached_passage (s : Store) (c : Request) (completes : c.crashes = false) :
    reached passage s c = (requestEvidenceDeletion c.ports c.env c.ctx c.cmd s).2 := by
  simp only [reached, passage, requestEvidenceDeletion, Tx.andThen, Tx.commit, completes]
  cases requestDeletion c.ports c.env c.ctx c.cmd s with
  | error e => rfl
  | ok r =>
    obtain ⟨⟨evidence, record⟩, s'⟩ := r
    dsimp only
    rw [if_neg Bool.false_ne_true]
    cases settleDeletion record (c.ports.evidence.delete evidence.descriptor) with
    | error e => rfl
    | ok final =>
      dsimp only
      cases finishDeletion c.env c.ctx evidence final s' with
      | error e => rfl
      | ok r => rfl

end

/-- The deletion of the evidence is recorded with its proof. -/
def Deleted (evidenceId : Uuid) (record : EvidenceDeletionRecord) (s : Store) : Prop :=
  s.evidenceDeletions.get? evidenceId = some record ∧ record.status = .deleted ∧
    record.proofDigest.isSome = true

/-- Each proven deletion stays recorded, with its time and its proof. -/
def Keeps (s s' : Store) : Prop :=
  ∀ evidenceId record, Deleted evidenceId record s → ∃ record', Deleted evidenceId record' s' ∧
    record'.deletedAt = record.deletedAt ∧ record'.proofDigest = record.proofDigest

/-- The request may be made: by an administrator, of a configured artifact store, with a reason,
for evidence of the tenant. -/
def Accepted (s : Store) (c : Request) : Prop :=
  roleCheck c.ctx ["platform_admin", "tenant_admin"] = .ok () ∧
    c.ports.evidenceArtifactsConfigured = true ∧ isBlank c.cmd.reason = false ∧
    ∃ e, s.evidence.get? c.cmd.evidenceId = some e ∧ e.tenantId = c.ctx.tenantId

/-- A request that may be made is not for evidence that is recorded as deleted. -/
def Undeleted (s : Store) (c : Request) : Prop :=
  Accepted s c → ∀ record, ¬Deleted c.cmd.evidenceId record s

theorem keeps_trans {s s' s'' : Store} (first : Keeps s s') (second : Keeps s' s'') :
    Keeps s s'' := by
  intro evidenceId record deleted
  obtain ⟨record', deleted', at_, proof⟩ := first evidenceId record deleted
  obtain ⟨record'', deleted'', at_', proof'⟩ := second evidenceId record' deleted'
  exact ⟨record'', deleted'', at_'.trans at_, proof'.trans proof⟩

instance : Trans Keeps Keeps Keeps := ⟨keeps_trans⟩

theorem settleDeletion_evidenceId {record final : EvidenceDeletionRecord}
    {answer : Except Exc ArtifactDeletionReceipt} (settled : settleDeletion record answer = .ok final) :
    final.evidenceId = record.evidenceId := by
  unfold settleDeletion at settled
  split at settled
  · cases settled
    rfl
  · split at settled
    · cases settled
      rfl
    · split at settled <;> cases settled
      rfl

/-- Writing over the record of evidence that is not recorded as deleted loses no proof. -/
theorem keeps_of_set {s s' : Store} {evidenceId : Uuid} {record : EvidenceDeletionRecord}
    (wrote : s'.evidenceDeletions = s.evidenceDeletions.set evidenceId record)
    (undeleted : ∀ r, ¬Deleted evidenceId r s) : Keeps s s' := by
  intro id r deleted
  have other : id ≠ evidenceId := by
    rintro rfl
    exact undeleted r deleted
  refine ⟨r, ⟨?_, deleted.2⟩, rfl, rfl⟩
  rw [wrote, Dict.get?_set_ne _ _ other]
  exact deleted.1

section
variable [Sha256] {s : Store} {c : Request}

theorem audit_deletions (ctx : CommandContext) (eventType : String) (item : AuditItem)
    (eventId : Uuid) (now : Instant) :
    Tx.Keeps (·.evidenceDeletions) (audit ctx eventType item eventId now) :=
  Tx.keeps_bind (Tx.keeps_read _) fun _ => Tx.keeps_bind (Tx.keeps_ofExcept _) fun _ =>
    Tx.keeps_write fun _ => rfl

/-- What the first transaction writes of a deletion. -/
theorem requestDeletion_ok {r : (Evidence × EvidenceDeletionRecord) × Store}
    (requested : requestDeletion c.ports c.env c.ctx c.cmd s = .ok r) :
    Accepted s c ∧ s.evidence.get? c.cmd.evidenceId = some r.1.1 ∧
      r.1.2.evidenceId = r.1.1.evidenceId ∧ r.1.2.status = .requested ∧
      r.2.evidenceDeletions = s.evidenceDeletions.set r.1.2.evidenceId r.1.2 := by
  simp only [requestDeletion, requireAny, Tx.bind_ok, Tx.ofExcept_ok, Tx.check_ok] at requested
  obtain ⟨_, _, ⟨role, rfl⟩, _, _, ⟨configured, rfl⟩, _, _, ⟨reason, rfl⟩, e, _, found, _, _,
    recorded, _, _, audited, returned⟩ := requested
  obtain ⟨there, tenant, rfl⟩ := Store.find_ok.mp found
  have wrote := Tx.write_ok.mp recorded
  have kept := (audit_deletions _ _ _ _ _).eq audited
  cases Tx.pure_ok.mp returned
  refine ⟨⟨role, by simpa using configured, reason, e, there, tenant⟩, there, rfl, rfl, ?_⟩
  exact kept.trans (congrArg (·.evidenceDeletions) wrote)

theorem requestDeletion_returns (audited : s.Audited) (accepted : Accepted s c) :
    ∃ r, requestDeletion c.ports c.env c.ctx c.cmd s = .ok r := by
  obtain ⟨role, configured, reason, e, there, tenant⟩ := accepted
  let record : EvidenceDeletionRecord := {
    tenantId := c.ctx.tenantId
    evidenceId := e.evidenceId
    artifactUri := e.reference
    requestedBy := c.ctx.identity.actorId
    reason := c.cmd.reason
    requestedAt := c.env.now 0 }
  let s' : Store := { s with evidenceDeletions := s.evidenceDeletions.set e.evidenceId record }
  obtain ⟨events, logged⟩ := Store.recordAudit_returns (s := s') audited
    (c.ctx.audit "evidence.deletion_requested" e.auditItem (c.env.uuid 0)) (c.env.now 1)
  exact ⟨((e, record), { s' with audits := events }),
    Tx.bind_ok.mpr ⟨(), s, Tx.ofExcept_ok.mpr ⟨role, rfl⟩,
    Tx.bind_ok.mpr ⟨(), s, Tx.check_ok.mpr ⟨by simp [configured], rfl⟩,
    Tx.bind_ok.mpr ⟨(), s, Tx.check_ok.mpr ⟨reason, rfl⟩,
    Tx.bind_ok.mpr ⟨e, s, Store.find_ok.mpr ⟨there, tenant, rfl⟩,
    Tx.bind_ok.mpr ⟨(), s', rfl, Tx.bind_ok.mpr ⟨(), _, logged, rfl⟩⟩⟩⟩⟩⟩⟩

theorem finishDeletion_ok {evidence : Evidence} {final : EvidenceDeletionRecord}
    {r : EvidenceDeletionRecord × Store}
    (finished : finishDeletion c.env c.ctx evidence final s = .ok r) :
    r.2.evidenceDeletions = s.evidenceDeletions.set final.evidenceId final := by
  simp only [finishDeletion, Tx.bind_ok] at finished
  obtain ⟨_, _, recorded, _, _, audited, returned⟩ := finished
  cases Tx.pure_ok.mp returned
  exact ((audit_deletions _ _ _ _ _).eq audited).trans
    (congrArg (·.evidenceDeletions) (Tx.write_ok.mp recorded))

/-- A call that is refused changes nothing; else it leaves a state in which the deletion is
requested, and what it may leave after that differs in the record of that evidence alone. -/
theorem passage_cases (s : Store) (c : Request) :
    (∃ e, requestDeletion c.ports c.env c.ctx c.cmd s = .error e) ∧ passage s c = [] ∨
    ∃ e record s', Accepted s c ∧ s.evidence.get? c.cmd.evidenceId = some e ∧
      record.status = .requested ∧
      s'.evidenceDeletions = s.evidenceDeletions.set e.evidenceId record ∧
      (passage s c = [s'] ∨ ∃ final s'', passage s c = [s', s''] ∧
        s''.evidenceDeletions = s'.evidenceDeletions.set e.evidenceId final) := by
  unfold passage
  cases requested : requestDeletion c.ports c.env c.ctx c.cmd s with
  | error e => exact .inl ⟨⟨e, rfl⟩, rfl⟩
  | ok r =>
    obtain ⟨⟨e, record⟩, s'⟩ := r
    obtain ⟨accepted, there, named, status, wrote⟩ := requestDeletion_ok requested
    dsimp only at there named status wrote
    refine .inr ⟨e, record, s', accepted, there, status, named ▸ wrote, ?_⟩
    dsimp only
    split
    · exact .inl rfl
    · cases settled : settleDeletion record (c.ports.evidence.delete e.descriptor) with
      | error _ => exact .inl rfl
      | ok final =>
        dsimp only
        cases finished : finishDeletion c.env c.ctx e final s' with
        | error _ => exact .inl rfl
        | ok r' =>
          have same := (settleDeletion_evidenceId settled).trans named
          exact .inr ⟨final, r'.2, rfl, same ▸ finishDeletion_ok finished⟩

/-- Evidence is stored under its id, and the log takes more events. -/
structure Sound (s : Store) : Prop where
  keyed : s.Keyed
  audited : s.Audited

/-- No state of a call loses a proof exactly when the request is not for deleted evidence. -/
theorem passage_keeps_iff (sound : Sound s) (c : Request) :
    (s :: passage s c).IsChain Keeps ↔ Undeleted s c := by
  obtain ⟨⟨e, refused⟩, empty⟩ | ⟨e, record, s', accepted, there, status, wrote, passed⟩ :=
    passage_cases s c
  · rw [empty]
    refine iff_of_true (.singleton s) fun accepted => ?_
    obtain ⟨r, requested⟩ := requestDeletion_returns sound.audited accepted
    rw [refused] at requested
    cases requested
  · have named : e.evidenceId = c.cmd.evidenceId := sound.keyed .evidence c.cmd.evidenceId e there
    rw [named] at wrote passed
    have requested : ∀ r, ¬Deleted c.cmd.evidenceId r s' := by
      rintro r ⟨found, deleted, _⟩
      rw [wrote, Dict.get?_set_self] at found
      cases found
      rw [status] at deleted
      cases deleted
    have first : Keeps s s' ↔ Undeleted s c := by
      constructor
      · intro keeps _ r deleted
        obtain ⟨r', deleted', _⟩ := keeps _ r deleted
        exact requested r' deleted'
      · intro undeleted
        exact keeps_of_set wrote (undeleted accepted)
    obtain passed | ⟨final, s'', passed, finished⟩ := passed
    · rw [passed, List.isChain_pair, first]
    · rw [passed, List.isChain_cons_cons, List.isChain_pair, first]
      exact and_iff_left (keeps_of_set finished requested)

theorem reached_sound (hex : ∀ text, (Sha256.hexdigest text).length = 64) (sound : Sound s)
    (c : Request) : Sound (reached passage s c) := by
  have kept (p : Part) : Store.Kept (fun _ => False) Sound p :=
    ⟨fun wrote ⟨keyed, audited⟩ => ⟨(Store.keyed_kept p).keep wrote keyed,
      (Store.audited_kept hex p).keep wrote audited⟩⟩
  unfold reached passage
  cases requested : requestDeletion c.ports c.env c.ctx c.cmd s with
  | error e => exact sound
  | ok r =>
    obtain ⟨⟨e, record⟩, s'⟩ := r
    have asked : Sound s' :=
      ((App.requestDeletion_holds (kept .deletions) (kept .audits) c.cmd).run sound requested).1
    dsimp only
    split
    · exact asked
    · cases settleDeletion record (c.ports.evidence.delete e.descriptor) with
      | error _ => exact asked
      | ok final =>
        dsimp only
        cases finished : finishDeletion c.env c.ctx e final s' with
        | error _ => exact asked
        | ok r' =>
          exact ((App.finishDeletion_holds (kept .deletions) (kept .audits) e final).run asked
            finished).1

/-- Over any sequence of requests each proven deletion stays recorded in all later states, with its
time and its proof, exactly when no request that may be made is for deleted evidence. -/
theorem tombstones_along_iff (hex : ∀ text, (Sha256.hexdigest text).length = 64) (sound : Sound s)
    (calls : List Request) :
    (s :: states passage s calls).Pairwise Keeps ↔
      Along (reached passage) Undeleted s calls := by
  rw [← List.isChain_iff_pairwise, isChain_states]
  exact along_congr (fun s c (sound : Sound s) _ => passage_keeps_iff sound c)
    (fun s c sound _ _ => reached_sound hex sound c) sound
    (along_of_forall (fun _ _ => trivial) s calls)

end

namespace Sample
open Autonoesis.Sample (sha256 contextFields ports)
open App.Sample (observed)

def tenantAdmin : CommandContext :=
  ⟨{ contextFields "delete-1" with identity := {
      tenantId := 1, actorId := 5, principalId := 6, roles := ["tenant_admin"] } },
    by decide +kernel⟩

/-- Evidence whose deletion nobody has requested. -/
def evidenced : Store where
  evidence := Dict.empty.set 80 observed

/-- A request the artifact store answers so. -/
def request (answer : Except Exc ArtifactDeletionReceipt) (now : Instant) (crashes : Bool) :
    Request where
  ports := { ports with evidence := { ports.evidence with delete := fun _ => answer } }
  env := { uuid := fun n => BitVec.ofNat 128 (200 + n), now := fun _ => now, uuid5 := fun _ => 0 }
  ctx := tenantAdmin
  cmd := ⟨80, "retention is over"⟩
  crashes := crashes

def receipt : ArtifactDeletionReceipt :=
  ⟨600, some "1", "373e0712c83cffe15ff427b60e788b549f82496fe5fd5391f7921832b04c6b20"⟩

theorem evidenced_sound : Sound evidenced where
  keyed := by
    intro i id row found
    cases i with
    | evidence =>
      have found : (Dict.empty.set 80 observed).get? id = some row := found
      rw [Dict.get?_set] at found
      split at found
      · rename_i here
        cases found
        exact here.symm
      · cases found
    | _ => cases found
  audited := fun _ listed => by cases listed

theorem not_deleted {s : Store} {evidenceId : Uuid}
    (open_ : (s.evidenceDeletions.get? evidenceId).all (·.status ≠ .deleted) = true) :
    ∀ record, ¬Deleted evidenceId record s := by
  rintro record ⟨found, deleted, _⟩
  rw [found] at open_
  exact of_decide_eq_true open_ deleted

theorem undeleted_of {s : Store} {c : Request}
    (open_ : (s.evidenceDeletions.get? c.cmd.evidenceId).all (·.status ≠ .deleted) = true) :
    Undeleted s c :=
  fun _ => not_deleted open_

/-- Retained at first, then deleted by a call that crashes, and by one that does not. -/
theorem tombstones_kept : let _ := sha256
    (evidenced :: states passage evidenced [request (.error (.permissionError "retained")) 300 false,
      request (.ok receipt) 600 true, request (.ok receipt) 600 false]).Pairwise Keeps := by
  let _ := sha256
  have hex (text : String) : (Sha256.hexdigest text).length = 64 := by
    change "373e0712c83cffe15ff427b60e788b549f82496fe5fd5391f7921832b04c6b20".length = 64
    decide +kernel
  refine (tombstones_along_iff hex evidenced_sound _).mpr ⟨?_, ?_, ?_, trivial⟩
  all_goals exact undeleted_of (by decide +kernel)

theorem not_keeps {s s' : Store} (evidenceId : Uuid)
    (proven : (s.evidenceDeletions.get? evidenceId).any
      (fun r => r.status = .deleted ∧ r.proofDigest.isSome = true) = true)
    (open_ : (s'.evidenceDeletions.get? evidenceId).all (·.status ≠ .deleted) = true) :
    ¬Keeps s s' := by
  intro keeps
  obtain ⟨record, found, here⟩ := (Option.any_eq_true _ _).mp proven
  obtain ⟨record', deleted, _⟩ := keeps evidenceId record ⟨found, of_decide_eq_true here⟩
  exact not_deleted open_ record' deleted

/-- Once deleted, the evidence is requested to be deleted again: the artifact store cannot find the
object any more, and the record says that the deletion has failed. -/
theorem tombstone_lost : let _ := sha256
    ¬(evidenced :: states passage evidenced [request (.ok receipt) 600 false,
      request (.error (.keyError "1")) 700 false]).Pairwise Keeps := by
  intro _ keeps
  have lost := List.pairwise_iff_getElem.mp keeps 2 4 (by decide +kernel) (by decide +kernel)
    (by decide)
  exact not_keeps 80 (by decide +kernel) (by decide +kernel) lost

end Sample

end Tombstones

end Autonoesis
