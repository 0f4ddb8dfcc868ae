import Autonoesis.Base.Chain
import Autonoesis.Base.Reading
import Autonoesis.Application.Platform
import Autonoesis.Domain.Timestamps

/-!
# The audit chain of a tenant

Each event is digested together with the digest of the event before it.
`verify_audit_chain` walks a list of events from the genesis digest; `verify_iff` says
that it accepts exactly the non-empty chains. The digest of the last event gives away the
whole chain (`audit_chain_tamper_evident`).
-/

namespace Autonoesis
open Base

section
variable [Sha256]

/-- The loop of `verify_audit_chain`, from an expected digest and sequence number. -/
def verifyFrom (previousDigest : String) (expectedSequence : Int) :
    List AuditEvent → Except Exc Bool
  | [] => .ok true
  | event :: rest =>
    if event.sequence ≠ some expectedSequence ∨ event.previousDigest ≠ some previousDigest
    then .ok false
    else match event.createdAt, event.eventDigest with
      | some createdAt, some digest => do
        let expected ← event.chained expectedSequence previousDigest createdAt
        if expected.eventDigest ≠ some digest then return false
        else verifyFrom digest (expectedSequence + 1) rest
      | _, _ => .ok false

def verifyAuditChain (events : List AuditEvent) : Except Exc Bool := do
  if ← verifyFrom genesisDigest 1 events then return !events.isEmpty
  else return false

/-- The event follows the digest `p` at position `n`, counted from one, and has the digest `d`. -/
def AuditEvent.Links (p : String) (n : Nat) (e : AuditEvent) (d : String) : Prop :=
  p.length = 64 ∧ 0 < n ∧ e.sequence = some (n : Int) ∧ e.previousDigest = some p ∧
    e.eventDigest = some d ∧ ∃ createdAt, e.createdAt = some createdAt ∧
    d = Sha256.hexdigest (p ++ "\n" ++ e.canonical n createdAt)

theorem AuditEvent.chained_ok {e e' : AuditEvent} {sequence : Int} {p : String}
    {createdAt : Instant} : e.chained sequence p createdAt = .ok e' ↔
      (0 < sequence ∧ p.length = 64) ∧ e' = { e with
        sequence := some sequence
        previousDigest := some p
        eventDigest := some (Sha256.hexdigest (p ++ "\n" ++ e.canonical sequence createdAt))
        createdAt := some createdAt } := by
  simp only [chained, bind_eq_ok, raiseIf_eq_ok, Bool.or_eq_false_iff, decide_eq_false_iff_not,
    not_not, Int.not_le, exists_and_left, exists_const]
  refine and_congr_right fun _ => ⟨fun made => ?_, fun made => ?_⟩
  · cases made
    rfl
  · rw [made]
    rfl

/-- An event chained behind a digest is linked to it. -/
theorem AuditEvent.links_of_chained {e e' : AuditEvent} {n : Nat} {p : String}
    {createdAt : Instant} (made : e.chained n p createdAt = .ok e') :
    ∃ d, e'.Links p n d := by
  obtain ⟨⟨positive, length⟩, rfl⟩ := chained_ok.mp made
  exact ⟨_, length, by omega, rfl, rfl, rfl, createdAt, rfl, rfl⟩

theorem AuditEvent.Links.digest {p : String} {n : Nat} {e : AuditEvent} {d : String}
    (link : e.Links p n d) : e.eventDigest = some d := by
  obtain ⟨_, _, _, _, digest, _⟩ := link
  exact digest

theorem verifyFrom_iff {p : String} {n : Nat} (positive : 0 < n) (events : List AuditEvent) :
    verifyFrom p n events = .ok true ↔ ∃ d, Linked AuditEvent.Links p n events d := by
  induction events generalizing p n with
  | nil => simp [verifyFrom, Linked]
  | cons e rest ih =>
    have next : ((n : Int) + 1) = ((n + 1 : Nat) : Int) := by omega
    simp only [verifyFrom, Linked]
    constructor
    · intro accepted
      split at accepted
      · cases accepted
      rename_i place
      simp only [not_or, not_not] at place
      split at accepted
      · rename_i createdAt digest created digested
        obtain ⟨expected, made, accepted⟩ := bind_eq_ok.mp accepted
        obtain ⟨⟨_, length⟩, rfl⟩ := AuditEvent.chained_ok.mp made
        split at accepted
        · cases accepted
        rename_i same
        simp only [not_not, Option.some.injEq] at same
        rw [next] at accepted
        obtain ⟨d, linked⟩ := (ih (by omega)).mp accepted
        exact ⟨d, digest, ⟨length, positive, place.1, place.2, digested, createdAt, created,
          same.symm⟩, linked⟩
      · cases accepted
    · rintro ⟨d, q, ⟨length, _, sequence, previous, digest, createdAt, created, hashed⟩, linked⟩
      rw [if_neg (by simp [sequence, previous]), created, digest]
      refine bind_eq_ok.mpr ⟨_, AuditEvent.chained_ok.mpr ⟨⟨by omega, length⟩, rfl⟩, ?_⟩
      rw [if_neg (by simp [hashed]), next]
      exact (ih (by omega)).mpr ⟨d, linked⟩

/-- `verify_audit_chain` accepts the non-empty chains from the genesis digest, and only those. -/
theorem verify_iff (events : List AuditEvent) :
    verifyAuditChain events = .ok true ↔
      events ≠ [] ∧ ∃ d, Linked AuditEvent.Links genesisDigest 1 events d := by
  have loop := verifyFrom_iff (p := genesisDigest) Nat.zero_lt_one events
  rw [← loop]
  simp only [verifyAuditChain, bind_eq_ok]
  constructor
  · rintro ⟨walked, accepted, answer⟩
    cases walked with
    | false => cases answer
    | true =>
      refine ⟨?_, accepted⟩
      rintro rfl
      cases answer
  · rintro ⟨some, accepted⟩
    refine ⟨true, accepted, ?_⟩
    cases events with
    | nil => exact absurd rfl some
    | cons => rfl

/-! ## What a digest gives away -/

/-- The members of an event's text, in the order of their keys. -/
def AuditEvent.members (e : AuditEvent) (sequence : Int) (createdAt : Instant) :
    List (String × String) :=
  [("actor_id", Json.quote true e.actorId.str),
    ("correlation_id", Json.quote true e.correlationId.str),
    ("created_at", Json.quote true createdAt.isoformat),
    ("details", Json.dumps true (.obj e.details)),
    ("event_id", Json.quote true e.eventId.str),
    ("event_type", Json.quote true e.eventType),
    ("object_id", Json.quote true e.objectId),
    ("object_type", Json.quote true e.objectType),
    ("principal_id", Json.quote true e.principalId.str),
    ("sequence", toString sequence),
    ("tenant_id", Json.quote true e.tenantId.str)]

omit [Sha256] in
theorem AuditEvent.canonical_eq (e : AuditEvent) (sequence : Int) (createdAt : Instant) :
    e.canonical sequence createdAt =
      "\x7b" ++ Json.memberText (e.members sequence createdAt) ++ "\x7d" := by
  simp only [canonical, members, Json.memberText, Json.dumps, Json.dumpsFields, Json.sortFields,
    List.insertionSort, List.foldr, List.orderedInsert]
  simp

omit [Sha256] in
/-- Two events at one position with one text agree on every field of it; the details as
far as their dumps tell. -/
theorem AuditEvent.canonical_inj {e e' : AuditEvent} {sequence : Int} {t t' : Instant}
    (same : e.canonical sequence t = e'.canonical sequence t') :
    e.members sequence t = e'.members sequence t' := by
  rw [canonical_eq, canonical_eq] at same
  have text := congrArg String.toList same
  simp only [String.toList_append, List.append_assoc, List.append_cancel_left_eq] at text
  have keys : (e.members sequence t).map Prod.fst = (e'.members sequence t').map Prod.fst := by
    simp only [members, List.map_cons]
  refine (@Json.members_agree (e.members sequence t) (e'.members sequence t') _ _ keys ?_ text).1
  unfold members
  exact .cons (Json.quote_delimited _ _) (.cons (Json.quote_delimited _ _)
    (.cons (Json.quote_delimited _ _) (.cons (Json.obj_delimited _ _)
    (.cons (Json.quote_delimited _ _) (.cons (Json.quote_delimited _ _)
    (.cons (Json.quote_delimited _ _) (.cons (Json.quote_delimited _ _)
    (.cons (Json.quote_delimited _ _) (.cons (.refl _)
    (.cons (Json.quote_delimited _ _) .nil))))))))))

/-- The dump of one event's details tells them from the other's. -/
def AuditEvent.DetailsTold (e e' : AuditEvent) : Prop :=
  Json.dumps true (.obj e.details) = Json.dumps true (.obj e'.details) → e.details = e'.details

/-- A digest gives away the digest before it and the event. -/
theorem AuditEvent.links_reveal (injective : Function.Injective (Sha256.hexdigest : String → String))
    {p p' : String} {n : Nat} {e e' : AuditEvent} {d : String} (link : e.Links p n d)
    (link' : e'.Links p' n d) : p = p' ∧ (e.DetailsTold e' → e = e') := by
  obtain ⟨length, _, sequence, previous, digest, t, created, hashed⟩ := link
  obtain ⟨length', _, sequence', previous', digest', t', created', hashed'⟩ := link'
  have text := congrArg String.toList (injective (hashed.symm.trans hashed'))
  simp only [String.toList_append, List.append_assoc] at text
  obtain ⟨front, back⟩ := List.append_inj text (by
    rw [String.length_toList, String.length_toList, length, length'])
  have before := String.toList_inj.mp front
  refine ⟨before, fun told => ?_⟩
  have fields := canonical_inj (String.toList_inj.mp (List.append_cancel_left back))
  simp only [members, List.cons.injEq, Prod.mk.injEq, true_and, and_true] at fields
  obtain ⟨actor, correlation, time, details, event, type, object, kind, principal, tenant⟩ := fields
  have times := Instant.isoformat_injective (Json.quote_injective time)
  cases e
  cases e'
  dsimp only at *
  cases Uuid.str_injective (Json.quote_injective actor)
  cases Uuid.str_injective (Json.quote_injective correlation)
  cases Uuid.str_injective (Json.quote_injective event)
  cases Uuid.str_injective (Json.quote_injective principal)
  cases Uuid.str_injective (Json.quote_injective tenant)
  cases Json.quote_injective type
  cases Json.quote_injective object
  cases Json.quote_injective kind
  cases told details
  rw [sequence, sequence', previous, previous', before, digest, digest', created, created', times]

theorem AuditEvent.last_digest {p d : String} {n : Nat} {events : List AuditEvent}
    (some : events ≠ []) (linked : Linked Links p n events d) :
    events.getLast?.bind (·.eventDigest) = .some d := by
  rcases List.eq_nil_or_concat events with rfl | ⟨init, e, rfl⟩
  · exact absurd rfl some
  · rw [List.concat_eq_append] at linked ⊢
    obtain ⟨_, _, link⟩ := linked_concat.mp linked
    rw [List.getLast?_concat]
    exact link.digest

omit [Sha256] in
theorem AuditEvent.eq_of_told {events events' : List AuditEvent}
    (alike : List.Forall₂ (fun e e' => DetailsTold e e' → e = e') events events')
    (told : ∀ e ∈ events, ∀ e' ∈ events', e.DetailsTold e') : events = events' := by
  induction alike with
  | nil => rfl
  | cons same _ ih =>
    rw [same (told _ List.mem_cons_self _ List.mem_cons_self),
      ih fun e there e' there' =>
        told e (List.mem_cons_of_mem _ there) e' (List.mem_cons_of_mem _ there')]

/-- Tamper evidence: two accepted chains of one length that end in one digest are the
same chain, event by event and field by field. -/
theorem audit_chain_tamper_evident
    (injective : Function.Injective (Sha256.hexdigest : String → String))
    (events events' : List AuditEvent) (length : events.length = events'.length)
    (told : ∀ e ∈ events, ∀ e' ∈ events', e.DetailsTold e')
    (accepted : verifyAuditChain events = .ok true)
    (accepted' : verifyAuditChain events' = .ok true)
    (last : events.getLast?.bind (·.eventDigest) = events'.getLast?.bind (·.eventDigest)) :
    events = events' := by
  obtain ⟨some, d, linked⟩ := (verify_iff events).mp accepted
  obtain ⟨some', d', linked'⟩ := (verify_iff events').mp accepted'
  rw [AuditEvent.last_digest some linked, AuditEvent.last_digest some' linked',
    Option.some.injEq] at last
  subst last
  have alike := @linked_agree _ _ AuditEvent.Links (fun e e' => e.DetailsTold e' → e = e')
    (fun link link' => AuditEvent.links_reveal injective link link') _ _ _ _ _ _ length linked
    linked'
  exact AuditEvent.eq_of_told alike told

end

/-! ## A chain of two events -/

namespace AuditSample

/-- The event that opens the sample chain, before it is chained. -/
def event : AuditEvent where
  tenantId := 1
  actorId := 2
  principalId := 3
  eventType := "goal.created"
  objectType := "goal"
  objectId := Uuid.str 4
  correlationId := 5
  details := [("goal_id", .str (Uuid.str 4))]
  eventId := 6

def now : Instant := 1709210096000007

/-- The last sixty-four characters of the text, or zeros in front of it. -/
def digits (text : String) : String :=
  String.ofList ((List.replicate 64 '0' ++ text.toList).drop text.toList.length)

theorem length_digits (text : String) : (digits text).length = 64 := by
  rw [digits, String.length_ofList, List.length_drop, List.length_append, List.length_replicate,
    Nat.add_sub_cancel]

def firstDigest : String := "530343a77546c54648e52b8e2336691097ac3927127ba49bbc7d5a6a0d101925"

def secondDigest : String := "5bed26e967a7bf06e1f4b2a08d4f3180b000d5b1ecf802dd746832fe1cba75ed"

def first : AuditEvent :=
  { event with
    sequence := some 1
    previousDigest := some genesisDigest
    eventDigest := some firstDigest
    createdAt := some now }

def second : AuditEvent :=
  { event with
    eventType := "goal.activated"
    eventId := 7
    sequence := some 2
    previousDigest := some firstDigest
    eventDigest := some secondDigest
    createdAt := some 1709210097000000 }

def firstText : String := genesisDigest ++ "\n" ++ first.canonical 1 now

def secondText : String := firstDigest ++ "\n" ++ second.canonical 2 1709210097000000

/-- SHA-256 on the two texts of the chain, and a text of its own for every other. -/
def hexdigest (text : String) : String :=
  if text = firstText then firstDigest
  else if text = secondText then secondDigest
  else "~" ++ text

@[reducible] def sha256 : Sha256 := ⟨hexdigest⟩

attribute [local instance] sha256

theorem hexdigest_injective : Function.Injective hexdigest := by
  have other (text digest : String) (hex : digest.toList.head? ≠ some '~') :
      "~" ++ text ≠ digest := by
    rintro rfl
    simp at hex
  intro x y same
  unfold hexdigest at same
  generalize firstText = p, secondText = q at same
  split_ifs at same <;>
    first
    | (subst_vars; rfl)
    | exact absurd same (by decide +kernel)
    | exact absurd same (other _ _ (by decide +kernel))
    | exact absurd same.symm (other _ _ (by decide +kernel))
    | simpa using same

/-- The chain as `chained` computes it. -/
def recomputed : List AuditEvent :=
  [{ first with eventDigest := some (hexdigest firstText) },
    { second with eventDigest := some (hexdigest secondText) }]

theorem hexdigest_first : hexdigest firstText = firstDigest := if_pos rfl

/-- The two texts start with different digests. -/
theorem hexdigest_second : hexdigest secondText = secondDigest := by
  have first : firstText.toList.head? = some '0' := by
    simp only [firstText, String.toList_append, List.append_assoc]
    rfl
  have second : secondText.toList.head? = some '5' := by
    simp only [secondText, String.toList_append, List.append_assoc]
    rfl
  have other : secondText ≠ firstText := by
    intro same
    rw [same, first] at second
    cases second
  rw [hexdigest, if_neg other, if_pos rfl]

theorem recomputed_eq : recomputed = [first, second] := by
  rw [recomputed, hexdigest_first, hexdigest_second]
  rfl

/-- The two events are linked from the genesis digest. -/
theorem accepted : verifyAuditChain [first, second] = .ok true := by
  refine (verify_iff _).mpr ⟨List.cons_ne_nil _ _, secondDigest, firstDigest, ?_, secondDigest,
    ?_, rfl⟩
  · refine ⟨by decide +kernel, Nat.zero_lt_one, rfl, rfl, rfl, now, rfl, ?_⟩
    exact hexdigest_first.symm
  · refine ⟨by decide +kernel, Nat.zero_lt_two, rfl, rfl, rfl, 1709210097000000, rfl, ?_⟩
    exact hexdigest_second.symm

theorem audit_chain_tamper_evident_recomputed :
    verifyAuditChain [first, second] = .ok true ∧ [first, second] = recomputed := by
  have same : verifyAuditChain recomputed = .ok true := by
    rw [recomputed_eq]
    exact accepted
  refine ⟨accepted, audit_chain_tamper_evident hexdigest_injective [first, second] recomputed
    (by simp [recomputed]) (fun e there e' there' _ => ?_) accepted same ?_⟩
  · simp only [recomputed, List.mem_cons, List.not_mem_nil, or_false] at there there'
    rcases there with rfl | rfl <;> rcases there' with rfl | rfl <;> rfl
  · rw [recomputed_eq]

end AuditSample

end Autonoesis
