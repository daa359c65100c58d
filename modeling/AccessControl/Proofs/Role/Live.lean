import AccessControl.Proofs.Graph.DepthFirst
import AccessControl.Proofs.Role.Expansion
/-!
# Live roles, in the order in which they are met

An id is live for a list of bindings if a current one of them gives it, or if an active role of a
live id inherits from it. The ids met by visiting the current bindings in their order, and below
each role its parents in their order, are the live ones, each once; the effective permissions of a
subject are gathered from the active roles among them, in that order.
-/
namespace AccessControl

instance (b : Binding) (now : Timestamp) : Decidable (b.IsCurrent now) :=
  decidable_of_iff (b.isExpired now = false) Binding.isExpired_eq_false_iff

namespace RoleDirectory

/-- The id is that of a role which a current binding gives, or from which an active role of a live
id inherits. -/
inductive Live (d : RoleDirectory) (bindings : List Binding) (now : Timestamp) : String → Prop
  | bound {b : Binding} (hb : b ∈ bindings) (hcurrent : b.IsCurrent now) :
      Live d bindings now b.roleId
  | inherited {id parent : String} (h : Live d bindings now id)
      (hparent : d.ActiveParent id parent) : Live d bindings now parent

/-- The ids of the roles that current bindings give, in the order of the bindings. -/
def currentRoleIds (bindings : List Binding) (now : Timestamp) : List String :=
  (bindings.filter fun b => b.IsCurrent now).map Binding.roleId

/-- The ids met by visiting the current bindings one after the other, and below each active role its
parents. -/
def liveOrder (d : RoleDirectory) (bindings : List Binding) (now : Timestamp) : List String :=
  d.activeGraph.depthFirst [] (currentRoleIds bindings now)

/-- The role of an id, if there is one and it is active. -/
def activeRole? (d : RoleDirectory) (id : String) : Option Role := (d.role? id).filter Role.isActive

variable {d : RoleDirectory} {bindings : List Binding} {now : Timestamp} {id : String}

lemma mem_currentRoleIds :
    id ∈ currentRoleIds bindings now ↔ ∃ b ∈ bindings, b.IsCurrent now ∧ b.roleId = id := by
  simp [currentRoleIds, and_assoc]

lemma live_iff :
    d.Live bindings now id ↔
      ∃ root ∈ currentRoleIds bindings now, Relation.ReflTransGen d.ActiveParent root id := by
  constructor
  · intro h
    induction h with
    | @bound b hb hcurrent =>
      exact ⟨b.roleId, mem_currentRoleIds.2 ⟨b, hb, hcurrent, rfl⟩, .refl⟩
    | inherited _ hparent ih =>
      obtain ⟨root, hroot, hchain⟩ := ih
      exact ⟨root, hroot, hchain.tail hparent⟩
  · rintro ⟨root, hroot, hchain⟩
    induction hchain with
    | refl =>
      obtain ⟨b, hb, hcurrent, rfl⟩ := mem_currentRoleIds.1 hroot
      exact .bound hb hcurrent
    | tail _ hparent ih => exact .inherited ih hparent

/-- The walk along the inheritance of active roles, as a recursion. -/
lemma reached_currentRoleIds :
    d.reached (currentRoleIds bindings now) = d.liveOrder bindings now :=
  d.activeGraph.preorder_eq_depthFirst _

lemma mem_liveOrder_iff : id ∈ d.liveOrder bindings now ↔ d.Live bindings now id := by
  rw [← reached_currentRoleIds, mem_reached_iff, live_iff]

lemma liveOrder_nodup : (d.liveOrder bindings now).Nodup := by
  rw [← reached_currentRoleIds]
  exact d.activeGraph.preorder_nodup _

/-! ### What the live roles grant -/

/-- The effective permissions are gathered from the active roles in the order in which they are
met. -/
lemma Readable.effectivePermissions_eq (hd : d.Readable) {tenant subjectId : String}
    {kind : SubjectKind} (hbindings : d.bindings kind subjectId = .ok bindings) :
    d.effectivePermissions tenant kind subjectId now = .ok {
      tenantId := tenant, subjectId, subjectKind := kind
      roles := ((d.liveOrder bindings now).filterMap d.activeRole?).map Role.name
      permissions :=
        .ofList (((d.liveOrder bindings now).filterMap d.activeRole?).flatMap Role.permissions)
      computedAt := now } := by
  have hroots : (bindings.filter fun b => !b.isExpired now).map Binding.roleId =
      currentRoleIds bindings now := by
    rw [currentRoleIds]
    congr 1
    refine List.filter_congr fun b _ => ?_
    simp [← Binding.isExpired_eq_false_iff]
  simp only [RoleDirectory.effectivePermissions, hbindings, hd.contributors_eq, bind, Except.bind,
    pure, Except.pure, hroots, reached_currentRoleIds]
  rfl

lemma mem_permissions_iff {permission : String} :
    permission ∈ ((d.liveOrder bindings now).filterMap d.activeRole?).flatMap Role.permissions ↔
      ∃ id, d.Live bindings now id ∧ d.Holds id permission := by
  rw [← reached_currentRoleIds]
  refine mem_contributors_permissions.trans ?_
  simp only [live_iff]
  constructor
  · rintro ⟨root, hroot, id, hchain, hholds⟩
    exact ⟨id, ⟨root, hroot, hchain⟩, hholds⟩
  · rintro ⟨id, ⟨root, hroot, hchain⟩, hholds⟩
    exact ⟨root, hroot, id, hchain, hholds⟩

/-- If the roles and the bindings of a subject can be read, its effective permissions are found.
They are those of the active roles with live ids, and the names of these roles are listed in the
order in which a recursive visit meets the live ids, each once: it takes the current bindings in
their order, and the parents of an active role in theirs, and passes over ids that are known. -/
theorem effectivePermissions_of_live_roles (hd : d.Readable) (tenant : String)
    (kind : SubjectKind) (subjectId : String) (now : Timestamp) :
    ∃ bindings effective, d.bindings kind subjectId = .ok bindings ∧
      d.effectivePermissions tenant kind subjectId now = .ok effective ∧
      (∀ permission, permission ∈ effective.permissions ↔
        ∃ id, d.Live bindings now id ∧ d.Holds id permission) ∧
      effective.roles = ((d.liveOrder bindings now).filterMap d.activeRole?).map Role.name ∧
      (d.liveOrder bindings now).Nodup ∧
      ∀ id, id ∈ d.liveOrder bindings now ↔ d.Live bindings now id := by
  obtain ⟨bindings, hbindings⟩ := hd.bindings kind subjectId
  refine ⟨bindings, _, hbindings, hd.effectivePermissions_eq hbindings, fun permission => ?_, rfl,
    liveOrder_nodup, fun id => mem_liveOrder_iff⟩
  rw [PermissionSet.mem_ofList, mem_permissions_iff]

/-! ### A cycle, a gap and an inactive role -/

/-- A role of a shop with its parents. -/
def shopRole (id : String) (status : RoleStatus) (inherits : List String) : Role where
  id
  tenantId := "shop"
  name := id ++ "s"
  kind := .custom
  status
  permissions := [id ++ ":act"]
  inherits
  createdAt := ⟨2024, 1, 1, 0, 0, 0⟩
  updatedAt := ⟨2024, 1, 1, 0, 0, 0⟩

/-- A binding of one subject of the shop. -/
def shopBinding (role : String) (expiresAt : Option Timestamp) : Binding :=
  ⟨role, "shop", role, .user, "ann", expiresAt, ⟨2024, 1, 1, 0, 0, 0⟩⟩

/-- Clerks and managers inherit from each other, managers also from a role that does not exist and
from auditors, whose role is not active and inherits from owners. -/
def shop : FixedRoles where
  roles := [shopRole "clerk" .active ["guest", "manager"],
    shopRole "manager" .active ["gone", "auditor", "clerk", "guest"],
    shopRole "auditor" .inactive ["owner"], shopRole "owner" .active [],
    shopRole "guest" .active []]
  bindings := [shopBinding "owner" (some ⟨2024, 1, 2, 0, 0, 0⟩), shopBinding "clerk" none,
    shopBinding "guest" none]

theorem shop_live_roles :
    (shop.directory "shop").Readable ∧
      ∃ effective, (shop.directory "shop").effectivePermissions "shop" .user "ann"
          ⟨2024, 1, 2, 0, 0, 0⟩ = .ok effective ∧
        effective.roles = ["clerks", "guests", "managers"] := by
  have hread : ((RoleSource.fixed shop).directory "shop").Readable :=
    RoleSource.IsReadable.readable ⟨rfl, rfl⟩
  obtain ⟨bindings, effective, hbindings, heffective, -, hroles, -⟩ :=
    effectivePermissions_of_live_roles hread "shop" .user "ann" ⟨2024, 1, 2, 0, 0, 0⟩
  have hcurrent : currentRoleIds bindings ⟨2024, 1, 2, 0, 0, 0⟩ = ["clerk", "guest"] := by
    cases hbindings
    rfl
  have horder : ((RoleSource.fixed shop).directory "shop").liveOrder bindings
      ⟨2024, 1, 2, 0, 0, 0⟩ = ["clerk", "guest", "manager", "gone", "auditor"] := by
    rw [liveOrder, hcurrent]
    cbv
  refine ⟨hread, effective, heffective, hroles.trans ?_⟩
  rw [horder]
  rfl

end RoleDirectory

end AccessControl
