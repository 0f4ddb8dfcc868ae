import Autonoesis.Base.Dict
import Autonoesis.Base.History
import Autonoesis.Base.Like
import Autonoesis.Base.Tx
import Autonoesis.Domain.Identity
import Autonoesis.Domain.Uuids
import Autonoesis.Persistence.Reservations
import Autonoesis.Runtime.Gateway

/-!
# Delegations, in memory and in PostgreSQL

The in-memory store asks the grant itself whether it authorizes a call. `PostgreSQLDelegationStore`
asks the database, with the stored prefix and a percent sign as a pattern, so the two agree until a
grant is stored whose prefix is read as a pattern, or one that was revoked before it was stored.
-/

namespace Autonoesis
open Base

/-! ## In memory -/

/-- What the in-memory store holds: a grant, or the tool and the prefix of a unit fixture. -/
inductive HeldDelegation where
  | scoped (grant : DelegationGrant)
  | fixture (toolName resourcePrefix : String)

structure InMemoryDelegationStore where
  grants : Dict String HeldDelegation := .empty

namespace InMemoryDelegationStore

def grant (delegationId toolName resourcePrefix : String) (s : InMemoryDelegationStore) :
    InMemoryDelegationStore :=
  ⟨s.grants.set delegationId (.fixture toolName resourcePrefix)⟩

def grantScoped (grant : DelegationGrant) (s : InMemoryDelegationStore) :
    InMemoryDelegationStore :=
  ⟨s.grants.set grant.delegationId.str (.scoped grant)⟩

def revoke (delegationId : String) (now : Instant) (s : InMemoryDelegationStore) :
    InMemoryDelegationStore :=
  match s.grants.get? delegationId with
  | some (.scoped grant) => ⟨s.grants.set delegationId (.scoped (grant.revoke now))⟩
  | _ => ⟨s.grants.filterKeys (· ≠ delegationId)⟩

def authorize (context : AuthorizationContext) (action : Action) (tool : ResolvedToolVersion)
    (now : Instant) (s : InMemoryDelegationStore) : Except Exc Bool :=
  match context.delegationId with
  | none => .ok (context.roles.contains "platform_admin")
  | some delegationId =>
    match s.grants.get? delegationId with
    | some (.scoped grant) => do
      let tenantId ← Uuid.parse context.tenantId
      let principalId ← Uuid.parse context.principalId
      return grant.authorizes tenantId principalId tool.toolName action.resourceScope
        context.purpose now
    | some (.fixture toolName resourcePrefix) =>
      .ok (toolName = tool.toolName && startsWith action.resourceScope resourcePrefix)
    | none => .ok false

end InMemoryDelegationStore

/-! ## In PostgreSQL -/

/-- A row of `delegations`. -/
structure DelegationRow where
  id : String
  tenantId : String
  grantorPrincipalId : String
  delegatePrincipalId : String
  toolName : String
  resourcePrefix : String
  purpose : String
  expiresAt : Instant
  revokedAt : Option Instant := none
  createdAt : Instant

structure DelegationTables where
  tenants : List String
  delegations : List DelegationRow := []

/-- The grant's texts fit their columns. -/
def DelegationGrant.fits (g : DelegationGrant) : Bool :=
  g.toolName.length ≤ 300 && g.resourcePrefix.length ≤ 1000 && g.purpose.length ≤ 500

/-- The row `grant` inserts. -/
def DelegationGrant.row (g : DelegationGrant) : DelegationRow where
  id := g.delegationId.str
  tenantId := g.tenantId.str
  grantorPrincipalId := g.grantorPrincipalId.str
  delegatePrincipalId := g.delegatePrincipalId.str
  toolName := g.toolName
  resourcePrefix := g.resourcePrefix
  purpose := g.purpose
  expiresAt := g.expiresAt
  createdAt := g.createdAt

namespace PostgreSQLDelegationStore

abbrev Method (α : Type) := Tx DelegationTables Exc α

def grant (g : DelegationGrant) : Method Unit := do
  Tx.check (!g.fits) (.dataError "delegations")
  Tx.check (!(← Tx.read (·.tenants)).contains g.tenantId.str) (.integrityError "tenant_id")
  Tx.check ((← Tx.read (·.delegations)).any (·.id = g.delegationId.str)) (.integrityError "id")
  Tx.write fun t => { t with delegations := t.delegations ++ [g.row] }

/-- The rows `revoke` updates. -/
def revocable (tenantId delegationId : Uuid) (row : DelegationRow) : Bool :=
  row.tenantId = tenantId.str && row.id = delegationId.str && row.revokedAt.isNone

def revoked (tenantId delegationId : Uuid) (now : Instant) (row : DelegationRow) :
    DelegationRow :=
  if revocable tenantId delegationId row then { row with revokedAt := some now } else row

def revoke (tenantId delegationId : Uuid) (now : Instant) : Method Unit := do
  let rows ← Tx.read (·.delegations.filter (revocable tenantId delegationId))
  Tx.write fun t =>
    { t with delegations := t.delegations.map (revoked tenantId delegationId now) }
  Tx.check (rows.length ≠ 1) (.lookupError "active delegation was not found")

/-- The row lets the context's principal use the tool. -/
def permits (context : AuthorizationContext) (delegationId : String) (action : Action)
    (tool : ResolvedToolVersion) (now : Instant) (row : DelegationRow) : Bool :=
  row.tenantId = context.tenantId && row.id = delegationId &&
    row.delegatePrincipalId = context.principalId && row.toolName = tool.toolName &&
    like action.resourceScope (row.resourcePrefix ++ "%") = some true &&
    row.purpose = context.purpose && row.revokedAt.isNone && now < row.expiresAt

def authorize (context : AuthorizationContext) (action : Action) (tool : ResolvedToolVersion)
    (now : Instant) (t : DelegationTables) : Bool :=
  match context.delegationId with
  | none => context.roles.contains "platform_admin"
  | some delegationId => t.delegations.any (permits context delegationId action tool now)

end PostgreSQLDelegationStore

/-! ## The two beside each other -/

namespace Delegations

inductive Call where
  | grant (g : DelegationGrant)
  | revoke (tenantId delegationId : Uuid) (now : Instant)

structure Twin where
  tables : DelegationTables
  memory : InMemoryDelegationStore := {}

def run : Call → PostgreSQLDelegationStore.Method Unit
  | .grant g => PostgreSQLDelegationStore.grant g
  | .revoke tenantId delegationId now =>
    PostgreSQLDelegationStore.revoke tenantId delegationId now

def remember (s : InMemoryDelegationStore) : Call → InMemoryDelegationStore
  | .grant g => s.grantScoped g
  | .revoke _ delegationId now => s.revoke delegationId.str now

/-- The memory takes the calls the database took. -/
def step (s : Twin) (c : Call) : Twin :=
  match (run c).commit s.tables with
  | (.ok (), tables) => ⟨tables, remember s.memory c⟩
  | (.error _, tables) => ⟨tables, s.memory⟩

/-- Both stores answer alike every query of a delegation, for any tenant and principal. -/
def Agree (s : Twin) : Prop :=
  ∀ (tenantId principalId : Uuid) (context : AuthorizationContext) (action : Action)
    (tool : ResolvedToolVersion) (now : Instant), context.delegationId ≠ none →
    context.tenantId = tenantId.str → context.principalId = principalId.str →
    s.memory.authorize context action tool now =
      .ok (PostgreSQLDelegationStore.authorize context action tool now s.tables)

/-- A grant that the database takes is still in force, and its prefix is no pattern. -/
def Sheer (s : Twin) : Call → Prop
  | .grant g => ((PostgreSQLDelegationStore.grant g).commit s.tables).1 = .ok () →
    g.revokedAt = none ∧ likeLiteral g.resourcePrefix = true
  | .revoke .. => True

instance (s : Twin) : DecidablePred (Sheer s)
  | .grant g => inferInstanceAs (Decidable
      (((PostgreSQLDelegationStore.grant g).commit s.tables).1 = .ok () →
        g.revokedAt = none ∧ likeLiteral g.resourcePrefix = true))
  | .revoke .. => inferInstanceAs (Decidable True)

/-! ## What a call does -/

/-- A grant is refused, or its row is added under an id that no row has. -/
theorem grant_commit (g : DelegationGrant) (t : DelegationTables) :
    (∃ e, (PostgreSQLDelegationStore.grant g).commit t = (.error e, t)) ∨
      ((PostgreSQLDelegationStore.grant g).commit t =
          (.ok (), { t with delegations := t.delegations ++ [g.row] }) ∧
        ∀ row ∈ t.delegations, row.id ≠ g.delegationId.str) := by
  obtain refused | ⟨_, t', ran, done⟩ := Tx.commit_cases (PostgreSQLDelegationStore.grant g) t
  · exact .inl refused
  · right
    rw [done]
    simp only [PostgreSQLDelegationStore.grant, Tx.bind_ok, Tx.check_ok, Tx.read_ok,
      Tx.write_ok] at ran
    obtain ⟨_, _, ⟨_, rfl⟩, _, _, ⟨⟩, _, _, ⟨_, rfl⟩, _, _, ⟨⟩, _, _, ⟨unused, rfl⟩, rfl⟩ := ran
    refine ⟨rfl, fun row there same => ?_⟩
    rw [List.any_eq_false] at unused
    exact unused row there (decide_eq_true same)

/-- A revocation is refused, or it closes the one row it is about. -/
theorem revoke_commit (tenantId delegationId : Uuid) (now : Instant) (t : DelegationTables) :
    (∃ e, (PostgreSQLDelegationStore.revoke tenantId delegationId now).commit t =
        (.error e, t)) ∨
      ((PostgreSQLDelegationStore.revoke tenantId delegationId now).commit t =
          (.ok (), { t with delegations :=
            t.delegations.map (PostgreSQLDelegationStore.revoked tenantId delegationId now) }) ∧
        ∃ row ∈ t.delegations,
          PostgreSQLDelegationStore.revocable tenantId delegationId row = true) := by
  obtain refused | ⟨_, t', ran, done⟩ :=
    Tx.commit_cases (PostgreSQLDelegationStore.revoke tenantId delegationId now) t
  · exact .inl refused
  · right
    rw [done]
    simp only [PostgreSQLDelegationStore.revoke, Tx.bind_ok, Tx.check_ok, Tx.read_ok,
      Tx.write_ok] at ran
    obtain ⟨_, _, ⟨⟩, _, _, rfl, one, rfl⟩ := ran
    simp only [ne_eq, decide_not, Bool.not_eq_false', decide_eq_true_eq] at one
    obtain ⟨row, only⟩ := List.length_eq_one_iff.mp one
    have there := List.mem_filter.mp (only ▸ List.mem_singleton_self row)
    exact ⟨rfl, row, there.1, there.2⟩

/-! ## What the two stores share -/

/-- The row is the grant's, and the grant's prefix is no pattern. -/
structure Mirrors (row : DelegationRow) (g : DelegationGrant) : Prop where
  row_eq : row = { g.row with revokedAt := g.revokedAt }
  literal : likeLiteral g.resourcePrefix = true

/-- The memory holds the grant of each row, and nothing else. -/
structure Sound (s : Twin) : Prop where
  ids : (s.tables.delegations.map (·.id)).Nodup
  held : ∀ row ∈ s.tables.delegations,
    ∃ g, s.memory.grants.get? row.id = some (.scoped g) ∧ Mirrors row g
  known : ∀ id h, s.memory.grants.get? id = some h → ∃ row ∈ s.tables.delegations, row.id = id

theorem str_inj {u v : Uuid} : u.str = v.str ↔ u = v :=
  ⟨Uuid.str_injective, congrArg Uuid.str⟩

/-- A row permits what its grant authorizes. -/
theorem permits_eq {row : DelegationRow} {g : DelegationGrant} (mirrors : Mirrors row g)
    {tenantId principalId : Uuid} {context : AuthorizationContext}
    (tenant : context.tenantId = tenantId.str) (principal : context.principalId = principalId.str)
    (action : Action) (tool : ResolvedToolVersion) (now : Instant) :
    PostgreSQLDelegationStore.permits context row.id action tool now row =
      g.authorizes tenantId principalId tool.toolName action.resourceScope context.purpose
        now := by
  rw [mirrors.row_eq]
  simp only [PostgreSQLDelegationStore.permits, DelegationGrant.row, DelegationGrant.authorizes,
    like_prefix mirrors.literal, tenant, principal, str_inj]
  rw [Bool.eq_iff_iff]
  simp only [Bool.and_eq_true, decide_eq_true_eq, Option.some.injEq]
  grind

/-- Stores that share their grants answer alike. -/
theorem Sound.agree {s : Twin} (sound : Sound s) : Agree s := by
  intro tenantId principalId context action tool now asked tenant principal
  obtain ⟨id, named⟩ := Option.ne_none_iff_exists'.mp asked
  simp only [InMemoryDelegationStore.authorize, PostgreSQLDelegationStore.authorize, named]
  cases found : s.memory.grants.get? id with
  | none =>
    have absent : s.tables.delegations.any
        (PostgreSQLDelegationStore.permits context id action tool now) = false := by
      rw [List.any_eq_false]
      intro row there permitted
      simp only [PostgreSQLDelegationStore.permits, Bool.and_eq_true, decide_eq_true_eq]
        at permitted
      obtain ⟨g, held, -⟩ := sound.held row there
      rw [permitted.1.1.1.1.1.1.2, found] at held
      cases held
    rw [absent]
  | some h =>
    obtain ⟨row, there, rfl⟩ := sound.known id h found
    obtain ⟨g, held, mirrors⟩ := sound.held row there
    cases found.symm.trans held
    simp only [tenant, principal, Uuid.parse_str, bind, Except.bind, pure, Except.pure,
      ← permits_eq mirrors tenant principal]
    congr 1
    rw [Bool.eq_iff_iff, List.any_eq_true]
    constructor
    · intro permitted
      exact ⟨row, there, permitted⟩
    · rintro ⟨other, among, permitted⟩
      have same : other.id = row.id := by
        simp only [PostgreSQLDelegationStore.permits, Bool.and_eq_true, decide_eq_true_eq]
          at permitted
        exact permitted.1.1.1.1.1.1.2
      rwa [List.inj_on_of_nodup_map sound.ids among there same] at permitted

/-! ## One call -/

/-- A refused call changes neither store. -/
theorem step_refused {s : Twin} {c : Call} {e : Exc}
    (refused : (run c).commit s.tables = (.error e, s.tables)) : step s c = s := by
  simp only [step, refused]

theorem step_taken {s : Twin} {c : Call} {tables : DelegationTables}
    (taken : (run c).commit s.tables = (.ok (), tables)) :
    step s c = ⟨tables, remember s.memory c⟩ := by
  simp only [step, taken]

/-- A grant that was taken is held beside its row. -/
theorem sound_granted {s : Twin} (sound : Sound s) {g : DelegationGrant}
    (unused : ∀ row ∈ s.tables.delegations, row.id ≠ g.delegationId.str)
    (fresh : g.revokedAt = none) (literal : likeLiteral g.resourcePrefix = true) :
    Sound ⟨{ s.tables with delegations := s.tables.delegations ++ [g.row] },
      s.memory.grantScoped g⟩ := by
  refine ⟨?_, ?_, ?_⟩
  · rw [List.map_append, List.map_singleton, List.nodup_append]
    refine ⟨sound.ids, List.nodup_singleton _, ?_⟩
    intro a old b new
    obtain ⟨row, there, rfl⟩ := List.mem_map.mp old
    rw [List.mem_singleton.mp new]
    exact unused row there
  · intro row there
    obtain old | new := List.mem_append.mp there
    · obtain ⟨h, held, mirrors⟩ := sound.held row old
      exact ⟨h, (Dict.get?_set_ne _ _ (unused row old)).trans held, mirrors⟩
    · cases List.mem_singleton.mp new
      refine ⟨g, Dict.get?_set_self _ _ _, ?_, literal⟩
      rw [fresh]
      rfl
  · intro id h found
    simp only [InMemoryDelegationStore.grantScoped, Dict.get?_set] at found
    split at found
    · rename_i here
      exact ⟨g.row, List.mem_append_right _ (List.mem_singleton_self _), here.symm⟩
    · obtain ⟨row, there, named⟩ := sound.known id h found
      exact ⟨row, List.mem_append_left _ there, named⟩

@[simp] theorem revoked_id (tenantId delegationId : Uuid) (now : Instant) (row : DelegationRow) :
    (PostgreSQLDelegationStore.revoked tenantId delegationId now row).id = row.id := by
  unfold PostgreSQLDelegationStore.revoked
  split <;> rfl

/-- A revocation that was taken closes the grant beside its row. -/
theorem sound_revoked {s : Twin} (sound : Sound s) {tenantId delegationId : Uuid} (now : Instant)
    {target : DelegationRow} (there : target ∈ s.tables.delegations)
    (open_ : PostgreSQLDelegationStore.revocable tenantId delegationId target = true) :
    Sound ⟨{ s.tables with
        delegations := s.tables.delegations.map
          (PostgreSQLDelegationStore.revoked tenantId delegationId now) },
      s.memory.revoke delegationId.str now⟩ := by
  have named : target.id = delegationId.str := by
    simp only [PostgreSQLDelegationStore.revocable, Bool.and_eq_true, decide_eq_true_eq] at open_
    exact open_.1.2
  obtain ⟨g, held, mirrors⟩ := sound.held target there
  rw [named] at held
  have memory : s.memory.revoke delegationId.str now =
      ⟨s.memory.grants.set delegationId.str (.scoped (g.revoke now))⟩ := by
    simp only [InMemoryDelegationStore.revoke, held]
  rw [memory]
  refine ⟨?_, ?_, ?_⟩
  · simpa only [List.map_map, Function.comp_def, revoked_id] using sound.ids
  · intro row inside
    obtain ⟨before, among, rfl⟩ := List.mem_map.mp inside
    rw [revoked_id, Dict.get?_set]
    by_cases here : before.id = delegationId.str
    · cases List.inj_on_of_nodup_map sound.ids among there (here.trans named.symm)
      refine ⟨g.revoke now, if_pos here, ?_, mirrors.literal⟩
      rw [PostgreSQLDelegationStore.revoked, if_pos open_, mirrors.row_eq]
      rfl
    · have other : PostgreSQLDelegationStore.revocable tenantId delegationId before = false := by
        simp [PostgreSQLDelegationStore.revocable, here]
      obtain ⟨h, kept, same⟩ := sound.held before among
      refine ⟨h, (if_neg here).trans kept, ?_⟩
      rwa [PostgreSQLDelegationStore.revoked, other, if_neg Bool.false_ne_true]
  · intro id h found
    have known : ∃ row ∈ s.tables.delegations, row.id = id := by
      rw [Dict.get?_set] at found
      split at found
      · rename_i here
        exact ⟨target, there, named.trans here.symm⟩
      · exact sound.known id h found
    obtain ⟨row, among, rfl⟩ := known
    exact ⟨_, List.mem_map_of_mem among, revoked_id ..⟩

theorem sound_step {s : Twin} (sound : Sound s) {c : Call} (sheer : Sheer s c) :
    Sound (step s c) := by
  cases c with
  | grant g =>
    obtain ⟨e, refused⟩ | ⟨taken, unused⟩ := grant_commit g s.tables
    · rwa [step_refused (c := .grant g) refused]
    · rw [step_taken (c := .grant g) taken]
      obtain ⟨fresh, literal⟩ := sheer (congrArg Prod.fst taken)
      exact sound_granted sound unused fresh literal
  | revoke tenantId delegationId now =>
    obtain ⟨e, refused⟩ | ⟨taken, row, there, open_⟩ :=
      revoke_commit tenantId delegationId now s.tables
    · rwa [step_refused (c := .revoke tenantId delegationId now) refused]
    · rw [step_taken (c := .revoke tenantId delegationId now) taken]
      exact sound_revoked sound now there open_

/-! ## A grant asked about -/

/-- An Action on a resource. -/
def acting (resource : String) (shown : isBlank resource = false) : Action where
  toActionFields :=
    { Gateway.Sample.action.toActionFields with resourceScope := resource }
  valid := by
    have valid := Gateway.Sample.action.valid
    simp only [ActionFields.check, checks_cons, List.any_cons, Bool.or_eq_false_iff] at valid ⊢
    exact ⟨⟨valid.1.1, valid.1.2.1, valid.1.2.2.1, shown, valid.1.2.2.2.2⟩, valid.2⟩

/-- The grant's delegate asks for what it was granted. -/
def asking (g : DelegationGrant) : AuthorizationContext :=
  { Gateway.Sample.context with
    tenantId := g.tenantId.str
    principalId := g.delegatePrincipalId.str
    delegationId := some g.delegationId.str
    purpose := g.purpose }

def toolOf (g : DelegationGrant) : ResolvedToolVersion :=
  { Gateway.Sample.tool with toolName := g.toolName }

/-- The row of a grant permits each resource its pattern matches, for as long as it runs. -/
theorem permits_matching {g : DelegationGrant} {resource : String}
    (shown : isBlank resource = false)
    (matching : like resource (g.resourcePrefix ++ "%") = some true) :
    PostgreSQLDelegationStore.permits (asking g) g.delegationId.str (acting resource shown)
      (toolOf g) g.createdAt g.row = true := by
  simp [PostgreSQLDelegationStore.permits, DelegationGrant.row, asking, acting, toolOf, matching,
    g.created_before_expiry]

/-- If the stores agree once a grant is taken, it authorizes each resource its pattern
matches. -/
theorem authorizes_matching {tables : DelegationTables} {memory : InMemoryDelegationStore}
    {g : DelegationGrant} (there : g.row ∈ tables.delegations)
    (agree : Agree ⟨tables, memory.grantScoped g⟩) {resource : String}
    (shown : isBlank resource = false)
    (matching : like resource (g.resourcePrefix ++ "%") = some true) :
    g.revokedAt = none ∧ startsWith resource g.resourcePrefix = true := by
  have answer := agree g.tenantId g.delegatePrincipalId (asking g) (acting resource shown) (toolOf g)
    g.createdAt nofun rfl rfl
  have permitted : tables.delegations.any (PostgreSQLDelegationStore.permits (asking g)
      g.delegationId.str (acting resource shown) (toolOf g) g.createdAt) = true :=
    List.any_eq_true.mpr ⟨g.row, there, permits_matching shown matching⟩
  simp only [InMemoryDelegationStore.authorize, PostgreSQLDelegationStore.authorize, asking]
    at answer
  simp only [InMemoryDelegationStore.grantScoped, Dict.get?_set_self, Uuid.parse_str, bind,
    Except.bind, pure, Except.pure] at answer
  have authorized := (Except.ok.inj answer).trans permitted
  simp only [DelegationGrant.authorizes, Bool.and_eq_true, Option.isNone_iff_eq_none] at authorized
  exact ⟨authorized.1.1.1.1.1.1, authorized.1.2⟩

theorem agree_step {s : Twin} (sound : Sound s) (c : Call) : Agree (step s c) ↔ Sheer s c := by
  constructor
  · intro agree
    cases c with
    | revoke => trivial
    | grant g =>
      intro returned
      obtain ⟨e, refused⟩ | ⟨taken, -⟩ := grant_commit g s.tables
      · rw [refused] at returned
        cases returned
      · rw [step_taken (c := .grant g) taken] at agree
        have there : g.row ∈ s.tables.delegations ++ [g.row] :=
          List.mem_append_right _ (List.mem_singleton_self _)
        have literal : likeLiteral g.resourcePrefix = true := by
          by_contra special
          obtain ⟨text, shown, matching, apart⟩ := like_other (Bool.eq_false_iff.mpr special)
          rw [(authorizes_matching there agree shown matching).2] at apart
          cases apart
        have whole : startsWith g.resourcePrefix g.resourcePrefix = true := by
          simp [startsWith]
        exact ⟨(authorizes_matching there agree g.prefix_not_blank
          (( like_prefix literal _).trans (congrArg some whole))).1, literal⟩
  · intro sheer
    exact (sound_step sound sheer).agree

/-! ## Every history -/

/-- The stores answer every query of a delegation alike, after every call, exactly when each grant
that is stored is in force and has a prefix that is no pattern. -/
theorem authorized_along_iff (tenants : List String) (calls : List Call) :
    Along step (fun s c => Agree (step s c)) ⟨{ tenants }, {}⟩ calls ↔
      Along step Sheer ⟨{ tenants }, {}⟩ calls := by
  have legal : Along step (fun _ _ => True) ⟨{ tenants }, {}⟩ calls :=
    along_of_forall (fun _ _ => trivial) _ calls
  apply along_congr (fun s c (sound : Sound s) _ => agree_step sound c)
    (fun _ _ sound _ sheer => sound_step sound sheer) _ legal
  exact ⟨List.nodup_nil, nofun, nofun⟩

namespace Sample

/-- A delegation of the resources under `tenant_1/`. -/
def underscored : DelegationGrant where
  tenantId := 1
  grantorPrincipalId := 2
  delegatePrincipalId := 3
  toolName := "records"
  resourcePrefix := "tenant_1/"
  purpose := "support"
  expiresAt := 20
  delegationId := 4
  createdAt := 10
  valid := by decide

/-- The database lets the delegate act on `tenantX1/secret`, which has another prefix. -/
theorem underscore_matches_any :
    ¬ ∀ (tenants : List String) (calls : List Call),
      Along step (fun s c => Agree (step s c)) ⟨{ tenants }, {}⟩ calls := by
  intro all
  obtain ⟨agree, -⟩ := all [Uuid.str 1] [.grant underscored]
  have answer := agree 1 3 (asking underscored) (acting "tenantX1/secret" (by decide))
    (toolOf underscored) 15 nofun rfl rfl
  exact absurd answer (by decide +kernel)

end Sample

end Delegations

end Autonoesis
