import Mathlib.Data.List.Induction
import Autonoesis.Base.History
import Autonoesis.Domain.Execution

/-!
# Sequences of decisions on one approval

A request is a value: a `decide` that raises leaves it as it was, so the request after
a sequence of calls is a fold. Who has voted, how and when is read off the reviews.
-/

namespace Autonoesis
open Base

/-- One call of `decide`, with the clock reading it takes. -/
structure Vote where
  approverId : Uuid
  approved : Bool
  reason : String
  principalId : Option Uuid
  now : Instant

namespace Vote

def reviewer (v : Vote) : Uuid := v.principalId.getD v.approverId

/-- The review the call adds when it counts. -/
def review (v : Vote) : ApprovalReview := ⟨v.approverId, v.reviewer, v.approved, v.reason, v.now⟩

end Vote

namespace ApprovalRequest

def decideBy (a : ApprovalRequest) (v : Vote) : Except Exc ApprovalRequest :=
  a.decide v.approverId v.approved v.reason v.principalId v.now

/-- The request a caller holds after the call, raised or not. -/
def vote (a : ApprovalRequest) (v : Vote) : ApprovalRequest :=
  match a.decideBy v with
  | .ok decided => decided
  | .error _ => a

/-- The status and reviews a successful call leaves, with the condition it takes. -/
inductive Decision (a : ApprovalRequest) (v : Vote) : ApprovalStatus → List ApprovalReview → Prop
  | expired (late : a.expiresAt ≤ v.now) : Decision a v .expired a.reviews
  | counted (inTime : v.now < a.expiresAt) (approves : v.approved = true)
      (short : (a.reviews.length + 1 : Int) < a.requiredReviews) :
      Decision a v .pending (a.reviews ++ [v.review])
  | approved (inTime : v.now < a.expiresAt) (approves : v.approved = true)
      (enough : a.requiredReviews ≤ a.reviews.length + 1) :
      Decision a v .approved (a.reviews ++ [v.review])
  | rejected (inTime : v.now < a.expiresAt) (rejects : v.approved = false) :
      Decision a v .rejected (a.reviews ++ [v.review])

theorem make_ok {f : ApprovalFields} {a : ApprovalRequest} (h : make f = .ok a) :
    a.toApprovalFields = f := by
  obtain ⟨valid, rfl⟩ := guarded_eq_ok.mp h
  rfl

/-- Everything a successful call does to a request. -/
theorem decideBy_ok {a decided : ApprovalRequest} {v : Vote} (h : a.decideBy v = .ok decided) :
    a.status = .pending ∧ v.reviewer ∉ a.reviews.map (·.principalId) ∧
      decided.expiresAt = a.expiresAt ∧ decided.requiredReviews = a.requiredReviews ∧
      decided.actionDigest = a.actionDigest ∧
      decided.optimisticVersion = a.optimisticVersion + 1 ∧
      Decision a v decided.status decided.reviews := by
  simp only [decideBy, decide, bind_eq_ok, raiseIf_eq_ok, decide_eq_false_iff_not, not_not,
    exists_and_left, exists_const] at h
  obtain ⟨pending, _, fresh, rest⟩ := h
  refine ⟨pending, fresh, ?_⟩
  split at rest
  next late =>
    obtain ⟨_, _, made⟩ := bind_eq_ok.mp rest
    rw [make_ok made]
    exact ⟨rfl, rfl, rfl, rfl, .expired late⟩
  next early =>
    have inTime : v.now < a.expiresAt := Int.not_le.mp early
    have length : ((a.reviews ++ [v.review]).length : Int) = a.reviews.length + 1 := by simp
    split at rest
    next partly =>
      obtain ⟨approves, short⟩ := Bool.and_eq_true_iff.mp partly
      rw [make_ok rest]
      refine ⟨rfl, rfl, rfl, rfl, ?_⟩
      dsimp only
      rw [pending]
      exact .counted inTime approves (length ▸ of_decide_eq_true short)
    next decisive =>
      obtain ⟨_, _, made⟩ := bind_eq_ok.mp rest
      rw [make_ok made]
      refine ⟨rfl, rfl, rfl, rfl, ?_⟩
      dsimp only
      by_cases approves : v.approved = true
      · rw [if_pos approves]
        have enough : ¬((a.reviews ++ [v.review]).length : Int) < a.requiredReviews :=
          fun short => decisive (Bool.and_eq_true_iff.mpr ⟨approves, decide_eq_true short⟩)
        exact .approved inTime approves (by omega)
      · rw [if_neg approves]
        exact .rejected inTime (Bool.eq_false_iff.mpr approves)

theorem decideBy_version {a decided : ApprovalRequest} {v : Vote}
    (h : a.decideBy v = .ok decided) :
    decided.optimisticVersion = a.optimisticVersion + 1 := by
  obtain ⟨_, _, _, _, _, version, _⟩ := decideBy_ok h
  exact version

/-- A call either raises and changes nothing or decides. -/
theorem vote_cases (a : ApprovalRequest) (v : Vote) :
    a.vote v = a ∨ a.decideBy v = .ok (a.vote v) := by
  cases h : a.decideBy v with
  | error _ => exact .inl (by simp [vote, h])
  | ok decided => exact .inr (by simp [vote, h])

/-- No sequence of calls changes the digest a request was made for. -/
theorem after_digest (a : ApprovalRequest) (votes : List Vote) :
    (after vote a votes).actionDigest = a.actionDigest := by
  refine inv_after (fun b : ApprovalRequest => b.actionDigest = a.actionDigest)
    (fun b v kept => ?_) rfl votes
  rcases vote_cases b v with same | decided
  · rw [same, kept]
  · obtain ⟨_, _, _, _, digest, _, _⟩ := decideBy_ok decided
    exact digest.trans kept

theorem decideBy_decided {a : ApprovalRequest} (decided : a.status ≠ .pending) (v : Vote) :
    ∃ e, a.decideBy v = .error e := by
  cases h : a.decideBy v with
  | error e => exact ⟨e, rfl⟩
  | ok _ => exact absurd (decideBy_ok h).1 decided

/-! ## What holds after any sequence of calls -/

/-- What the reviews of a request say of its status. -/
structure Tallied (a : ApprovalRequest) : Prop where
  distinct : (a.reviews.map (·.principalId)).Nodup
  inTime : ∀ r ∈ a.reviews, r.reviewedAt < a.expiresAt
  pending : a.status = .pending →
    (a.reviews.length : Int) < a.requiredReviews ∧ ∀ r ∈ a.reviews, r.approved = true
  approved : a.status = .approved →
    (a.reviews.length : Int) = a.requiredReviews ∧ ∀ r ∈ a.reviews, r.approved = true
  rejected : a.status = .rejected → ∃ earlier last, a.reviews = earlier ++ [last] ∧
    last.approved = false ∧ ∀ r ∈ earlier, r.approved = true

theorem Tallied.start {a : ApprovalRequest} (pending : a.status = .pending)
    (fresh : a.reviews = []) : a.Tallied := by
  have valid := a.valid
  simp only [ApprovalFields.check, checks_cons, Bool.and_eq_false_iff,
    decide_eq_false_iff_not, not_not] at valid
  obtain ⟨_, _, _, _, required, _⟩ := valid
  constructor <;> simp only [fresh, pending] <;> simp
  omega

theorem Tallied.step {a decided : ApprovalRequest} {v : Vote} (tallied : a.Tallied)
    (h : a.decideBy v = .ok decided) : decided.Tallied := by
  obtain ⟨pending, fresh, expires, required, _, _, decision⟩ := decideBy_ok h
  obtain ⟨fewer, approving⟩ := tallied.pending pending
  have distinct : ((a.reviews ++ [v.review]).map (·.principalId)).Nodup := by
    rw [List.map_append, List.nodup_append]
    refine ⟨tallied.distinct, List.nodup_singleton _, ?_⟩
    rintro p voted q added rfl
    rw [List.map_singleton, List.mem_singleton] at added
    have reviewer : p = v.reviewer := added
    exact fresh (reviewer ▸ voted)
  have inTime (early : v.now < a.expiresAt) :
      ∀ r ∈ a.reviews ++ [v.review], r.reviewedAt < a.expiresAt :=
    List.forall_mem_append.mpr ⟨tallied.inTime, by simpa [Vote.review] using early⟩
  have approvingAll (approves : v.approved = true) :
      ∀ r ∈ a.reviews ++ [v.review], r.approved = true :=
    List.forall_mem_append.mpr ⟨approving, by simpa [Vote.review] using approves⟩
  generalize status : decided.status = s, reviews : decided.reviews = rs at decision
  have length : ((a.reviews ++ [v.review]).length : Int) = a.reviews.length + 1 := by simp
  cases decision with
  | expired late =>
    constructor <;> simp only [status, reviews, expires, required]
    · exact tallied.distinct
    · exact tallied.inTime
    all_goals simp
  | counted early approves short =>
    constructor <;> simp only [status, reviews, expires, required]
    · exact distinct
    · exact inTime early
    · exact fun _ => ⟨length ▸ short, approvingAll approves⟩
    all_goals simp
  | approved early approves enough =>
    constructor <;> simp only [status, reviews, expires, required]
    · exact distinct
    · exact inTime early
    · simp
    · exact fun _ => ⟨by omega, approvingAll approves⟩
    · simp
  | rejected early rejects =>
    constructor <;> simp only [status, reviews, expires, required]
    · exact distinct
    · exact inTime early
    · simp
    · simp
    · exact fun _ => ⟨a.reviews, v.review, rfl, rejects, approving⟩

/-- A request after a sequence of calls: its reviews are those of calls that were made,
they agree with its status, only a late call expires it, and a decided one is final. -/
structure Lawful (a₀ : ApprovalRequest) (votes : List Vote) (a : ApprovalRequest) : Prop where
  expiry : a.expiresAt = a₀.expiresAt
  required : a.requiredReviews = a₀.requiredReviews
  cast : List.Sublist a.reviews (votes.map Vote.review)
  tallied : a.Tallied
  expired : a.status = .expired → ∃ earlier v later, votes = earlier ++ v :: later ∧
    (after vote a₀ earlier).status = .pending ∧ a₀.expiresAt ≤ v.now ∧
    a.reviews = (after vote a₀ earlier).reviews
  expires : ∀ v decided, a.decideBy v = .ok decided → decided.status = .expired →
    a.expiresAt ≤ v.now ∧ decided.reviews = a.reviews
  final : a.status ≠ .pending → ∀ v, (∃ e, a.decideBy v = .error e) ∧ a.vote v = a
  version : ∀ v decided, a.decideBy v = .ok decided →
    decided.optimisticVersion = a.optimisticVersion + 1

/-- An expiry by a call. -/
theorem Decision.late {a : ApprovalRequest} {v : Vote} {reviews : List ApprovalReview}
    (decision : Decision a v .expired reviews) : a.expiresAt ≤ v.now ∧ reviews = a.reviews := by
  cases decision with
  | expired late => exact ⟨late, rfl⟩

theorem Decision.cast {a : ApprovalRequest} {v : Vote} {status : ApprovalStatus}
    {reviews : List ApprovalReview} (decision : Decision a v status reviews) :
    List.Sublist reviews (a.reviews ++ [v.review]) := by
  cases decision with
  | expired _ => exact List.sublist_append_left _ _
  | counted | approved | rejected => exact .refl _

theorem decideBy_expires {a decided : ApprovalRequest} {v : Vote}
    (h : a.decideBy v = .ok decided) (expired : decided.status = .expired) :
    a.expiresAt ≤ v.now ∧ decided.reviews = a.reviews := by
  obtain ⟨_, _, _, _, _, _, decision⟩ := decideBy_ok h
  exact (expired ▸ decision).late

theorem vote_decided {a : ApprovalRequest} (decided : a.status ≠ .pending) (v : Vote) :
    (∃ e, a.decideBy v = .error e) ∧ a.vote v = a := by
  obtain ⟨e, raised⟩ := decideBy_decided decided v
  exact ⟨⟨e, raised⟩, by simp [vote, raised]⟩

/-- Four-eyes approval over every sequence of votes, whoever casts them, whatever they
say and whenever they come. -/
theorem decisions_lawful (a : ApprovalRequest) (pending : a.status = .pending)
    (fresh : a.reviews = []) (votes : List Vote) :
    Lawful a votes (after vote a votes) := by
  induction votes using List.reverseRecOn with
  | nil =>
    refine ⟨rfl, rfl, ?_, .start pending fresh, ?_, fun _ _ => decideBy_expires,
      vote_decided, fun _ _ h => decideBy_version h⟩
    · exact fresh ▸ List.nil_sublist _
    · intro expired
      exact absurd (pending.symm.trans expired) (by decide)
  | append_singleton votes v ih =>
    have snoc : after vote a (votes ++ [v]) = (after vote a votes).vote v :=
      List.foldl_concat ..
    have reviews : (votes ++ [v]).map Vote.review = votes.map Vote.review ++ [v.review] := by
      simp
    rw [snoc]
    rcases vote_cases (after vote a votes) v with same | decided
    · -- a call that raised: only the history it belongs to grows
      rw [same]
      refine ⟨ih.expiry, ih.required, reviews ▸ ih.cast.trans (List.sublist_append_left _ _),
        ih.tallied, fun expired => ?_, ih.expires, ih.final, ih.version⟩
      obtain ⟨earlier, w, later, rfl, rest⟩ := ih.expired expired
      exact ⟨earlier, w, later ++ [v], by simp, rest⟩
    · obtain ⟨before, _, expiry, required, _, _, decision⟩ := decideBy_ok decided
      refine ⟨expiry.trans ih.expiry, required.trans ih.required,
        reviews ▸ decision.cast.trans (ih.cast.append (.refl _)), ih.tallied.step decided,
        fun expired => ?_, fun _ _ => decideBy_expires, vote_decided,
        fun _ _ h => decideBy_version h⟩
      obtain ⟨late, kept⟩ := (expired ▸ decision).late
      exact ⟨votes, v, [], rfl, before, ih.expiry ▸ late, kept⟩

/-! ## A sample request -/

namespace Sample

def digest : String := String.ofList (List.replicate 64 'a')

/-- A request that needs two reviews before the instant 100. -/
def fields : ApprovalFields where
  tenantId := 1
  runId := 2
  actionId := 3
  actionDigest := digest
  toolVersion := "1"
  operation := "send"
  resourceScope := "inbox"
  argumentDigest := digest
  policyVersion := "p1"
  impactSummary := "one message"
  requiredRole := "approver"
  expiresAt := 100
  approvalId := 4
  createdAt := 0
  requiredReviews := 2

def request : ApprovalRequest := ⟨fields, by decide +kernel⟩

/-- One principal twice, then a second one, then a vote too late to matter. -/
def votes : List Vote :=
  [⟨7, true, "fine", none, 10⟩, ⟨7, true, "again", none, 20⟩, ⟨8, true, "fine", some 9, 30⟩,
    ⟨6, false, "no", none, 40⟩]

theorem decisions_lawful_two :
    (after vote request votes).status = .approved ∧
      Lawful request votes (after vote request votes) :=
  ⟨by decide +kernel, decisions_lawful request rfl rfl votes⟩

end Sample

end ApprovalRequest

end Autonoesis
