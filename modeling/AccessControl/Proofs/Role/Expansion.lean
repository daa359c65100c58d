import AccessControl.Proofs.Graph.Reachability
import AccessControl.Proofs.Permission.Coverage
import AccessControl.Proofs.Sequences
import AccessControl.Role.Source
/-!
# What a subject may do by its roles

A role is live for a subject if a chain of parents leads to it from a role that a current binding
gives to the subject, and all roles on the chain before it exist and are active. The effective
permissions of a subject are those of the live roles that exist and are active themselves. Cycles
and ids without a role do no harm.
-/
namespace AccessControl

/-- The binding has no end, or its end is yet to come. -/
def Binding.IsCurrent (b : Binding) (now : Timestamp) : Prop :=
  ∀ ending ∈ b.expiresAt, now.instant < ending.instant

lemma Binding.isExpired_eq_false_iff {b : Binding} {now : Timestamp} :
    b.isExpired now = false ↔ b.IsCurrent now := by
  rw [isExpired, IsCurrent]
  cases b.expiresAt <;> simp

namespace RoleDirectory

variable (d : RoleDirectory)

/-- All roles and bindings can be read. -/
structure Readable : Prop where
  lookup : ∀ id, ∃ role, d.lookup id = .ok role
  bindings : ∀ kind subjectId, ∃ found, d.bindings kind subjectId = .ok found

/-- The subject has the binding. -/
def Binds (kind : SubjectKind) (subjectId : String) (b : Binding) : Prop :=
  ∃ found, d.bindings kind subjectId = .ok found ∧ b ∈ found

/-- The role of the first id exists, is active and inherits from the second. -/
def ActiveParent (id parent : String) : Prop :=
  ∃ r, d.role? id = some r ∧ r.status = .active ∧ parent ∈ r.inherits

/-- There is an active role of this id that has the permission among its own. -/
def Holds (id : String) (permission : String) : Prop :=
  ∃ r, d.role? id = some r ∧ r.status = .active ∧ permission ∈ r.permissions

/-- A chain of active roles leads from a current binding of the subject to one that has the
permission among its own. -/
def Grants (kind : SubjectKind) (subjectId : String) (now : Timestamp) (permission : String) :
    Prop :=
  ∃ b, d.Binds kind subjectId b ∧ b.IsCurrent now ∧
    ∃ id, Relation.ReflTransGen d.ActiveParent b.roleId id ∧ d.Holds id permission

variable {d}

lemma activeGraph_edge_iff {id parent : String} :
    d.activeGraph.Edge id parent ↔ d.ActiveParent id parent := by
  show parent ∈ ((d.role? id).map _).getD [] ↔ _
  rw [ActiveParent]
  cases d.role? id with
  | none => simp
  | some r =>
    by_cases hr : r.status = .active <;> simp [Role.isActive, hr]

lemma mem_reached_iff {roots : List String} {id : String} :
    id ∈ d.reached roots ↔ ∃ root ∈ roots, Relation.ReflTransGen d.ActiveParent root id := by
  have hedge : d.activeGraph.Edge = d.ActiveParent := by
    ext x y
    exact activeGraph_edge_iff
  rw [reached, Graph.mem_preorder_iff, ← hedge]
  rfl

lemma Readable.lookup_eq (hd : d.Readable) (id : String) : d.lookup id = .ok (d.role? id) := by
  obtain ⟨role, hrole⟩ := hd.lookup id
  rw [role?, hrole]

lemma Readable.contributors_eq (hd : d.Readable) (roots : List String) :
    d.contributors roots =
      .ok ((d.reached roots).filterMap fun id => (d.role? id).filter Role.isActive) := by
  have hall : (d.reached roots).mapM d.lookup = .ok ((d.reached roots).map d.role?) :=
    mapM_eq_ok_map fun id _ => hd.lookup_eq id
  simp only [contributors, hall, bind, Except.bind, pure, Except.pure, List.filterMap_map]
  rfl

lemma mem_contributors_permissions {roots : List String} {permission : String} :
    permission ∈ ((d.reached roots).filterMap fun id => (d.role? id).filter Role.isActive).flatMap
        Role.permissions ↔
      ∃ root ∈ roots, ∃ id, Relation.ReflTransGen d.ActiveParent root id ∧
        d.Holds id permission := by
  simp only [List.mem_flatMap, List.mem_filterMap, mem_reached_iff, Option.filter_eq_some_iff,
    Role.isActive, decide_eq_true_eq, Holds]
  constructor
  · rintro ⟨r, ⟨id, ⟨root, hroot, hchain⟩, hr, hactive⟩, hmem⟩
    exact ⟨root, hroot, id, hchain, r, hr, hactive, hmem⟩
  · rintro ⟨root, hroot, id, hchain, r, hr, hactive, hmem⟩
    exact ⟨r, ⟨id, ⟨root, hroot, hchain⟩, hr, hactive⟩, hmem⟩

/-- If everything can be read, the effective permissions are found, and they are those of the
active roles on chains that start at current bindings. -/
lemma Readable.effectivePermissions (hd : d.Readable) (tenant : String) (kind : SubjectKind)
    (subjectId : String) (now : Timestamp) :
    ∃ effective, d.effectivePermissions tenant kind subjectId now = .ok effective ∧
      ∀ permission, permission ∈ effective.permissions ↔
        d.Grants kind subjectId now permission := by
  obtain ⟨found, hfound⟩ := hd.bindings kind subjectId
  simp only [RoleDirectory.effectivePermissions, hfound, hd.contributors_eq, bind, Except.bind,
    pure, Except.pure]
  refine ⟨_, rfl, fun permission => ?_⟩
  rw [PermissionSet.mem_ofList, mem_contributors_permissions]
  constructor
  · rintro ⟨root, hroot, hchain⟩
    obtain ⟨b, hb, rfl⟩ := List.mem_map.1 hroot
    obtain ⟨hmem, hcurrent⟩ := List.mem_filter.1 hb
    refine ⟨b, ⟨found, hfound, hmem⟩, ?_, hchain⟩
    exact Binding.isExpired_eq_false_iff.1 (by simpa using hcurrent)
  · rintro ⟨b, ⟨bs, hbs, hmem⟩, hcurrent, hchain⟩
    rw [hfound] at hbs
    cases hbs
    refine ⟨b.roleId, List.mem_map.2 ⟨b, List.mem_filter.2 ⟨hmem, ?_⟩, rfl⟩, hchain⟩
    simpa using Binding.isExpired_eq_false_iff.2 hcurrent

end RoleDirectory

/-! ### What is kept of a tenant -/

namespace RoleSource

/-- No reading of roles or bindings fails. -/
def IsReadable : RoleSource → Prop
  | store _ _ => True
  | fixed f => f.lostRoles = [] ∧ f.bindingsLost = false

/-- The binding is kept for the tenant. -/
def HasBinding : RoleSource → String → Binding → Prop
  | store _ s, tenant, b => b ∈ (s.tenants.get tenant).bindings
  | fixed f, tenant, b => b ∈ f.bindings ∧ b.tenantId = tenant

/-- A chain of active roles of the tenant leads from a current binding of exactly this subject to
one that has a permission which covers the code. -/
def GrantsCode (source : RoleSource) (tenant : String) (subject : Subject) (now : Timestamp)
    (code : String) : Prop :=
  ∃ b, source.HasBinding tenant b ∧ b.subjectKind = subject.kind ∧ b.subjectId = subject.id ∧
    b.IsCurrent now ∧
      ∃ id, Relation.ReflTransGen (source.directory tenant).ActiveParent b.roleId id ∧
        ∃ pattern, (source.directory tenant).Holds id pattern ∧ Covers pattern code

variable {source : RoleSource} {tenant : String}

lemma IsReadable.readable (h : source.IsReadable) : (source.directory tenant).Readable := by
  cases source with
  | store hooks s => exact ⟨fun id => ⟨_, rfl⟩, fun kind subjectId => ⟨_, rfl⟩⟩
  | fixed f =>
    obtain ⟨hroles, hbindings⟩ := h
    constructor
    · intro id
      exact ⟨f.role? tenant id, if_neg (by simp [hroles])⟩
    · intro kind subjectId
      exact ⟨_, if_neg (by simp [hbindings])⟩

lemma binds_iff (h : source.IsReadable) {kind : SubjectKind} {subjectId : String} {b : Binding} :
    (source.directory tenant).Binds kind subjectId b ↔
      source.HasBinding tenant b ∧ b.subjectKind = kind ∧ b.subjectId = subjectId := by
  cases source with
  | store hooks s =>
    simp [RoleDirectory.Binds, directory, RoleStore.directory, RolePartition.directory, HasBinding,
      Binding.isOf]
  | fixed f =>
    simp [RoleDirectory.Binds, directory, FixedRoles.directory, HasBinding, h.2, Binding.isOf,
      and_assoc]

lemma grantsCode_iff (h : source.IsReadable) {subject : Subject} {now : Timestamp}
    {code : String} :
    source.GrantsCode tenant subject now code ↔
      ∃ pattern, (source.directory tenant).Grants subject.kind subject.id now pattern ∧
        Covers pattern code := by
  simp only [GrantsCode, RoleDirectory.Grants, binds_iff h]
  constructor
  · rintro ⟨b, hb, hkind, hid, hcurrent, id, hchain, pattern, hholds, hcovers⟩
    exact ⟨pattern, ⟨b, ⟨hb, hkind, hid⟩, hcurrent, id, hchain, hholds⟩, hcovers⟩
  · rintro ⟨pattern, ⟨b, ⟨hb, hkind, hid⟩, hcurrent, id, hchain, hholds⟩, hcovers⟩
    exact ⟨b, hb, hkind, hid, hcurrent, id, hchain, pattern, hholds, hcovers⟩

end RoleSource

end AccessControl
