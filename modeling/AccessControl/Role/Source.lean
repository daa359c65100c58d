import AccessControl.Role.Expansion
import AccessControl.Role.Store
/-!
# Where roles come from

Roles and bindings are either kept in a role store and can be changed, or they are fixed lists that
can only be read. Of a fixed list, single roles and all bindings may be out of reach.
-/
namespace AccessControl

/-- Roles and bindings that cannot be changed. -/
structure FixedRoles where
  roles : List Role := []
  bindings : List Binding := []
  /-- The ids of roles that cannot be read. -/
  lostRoles : List String := []
  /-- Whether bindings can be read. -/
  bindingsLost : Bool := false

namespace FixedRoles

/-- The first role of an id in a tenant. -/
def role? (f : FixedRoles) (tenant id : String) : Option Role :=
  f.roles.find? fun r => r.tenantId = tenant && r.id = id

/-- What is read of a tenant. -/
def directory (f : FixedRoles) (tenant : String) : RoleDirectory where
  ids := f.lostRoles ++ f.roles.map Role.id
  lookup id :=
    if id ∈ f.lostRoles then .error (.storeUnavailable ("role " ++ id)) else .ok (f.role? tenant id)
  lookup_eq_none id h := by
    have h := not_or.1 (mt List.mem_append.2 h)
    have hnone : f.role? tenant id = none := by
      rw [role?, List.find?_eq_none]
      intro r hr hid
      simp only [Bool.and_eq_true, decide_eq_true_eq] at hid
      exact h.2 (List.mem_map.2 ⟨r, hr, hid.2⟩)
    simp [h.1, hnone]
  list filter := .ok (f.roles.filter fun r => r.tenantId = tenant && filter.accepts r)
  bindings kind subjectId :=
    if f.bindingsLost then .error (.storeUnavailable "bindings")
    else .ok (f.bindings.filter fun b => b.tenantId = tenant && b.isOf kind subjectId)

end FixedRoles

/-- Where roles and bindings come from. -/
inductive RoleSource where
  /-- A store, with the hooks that run around changes. -/
  | store (hooks : Lifecycle Role) (store : RoleStore)
  | fixed (roles : FixedRoles)

namespace RoleSource

/-- What is read of a tenant. -/
def directory : RoleSource → String → RoleDirectory
  | store _ s, tenant => s.directory tenant
  | fixed f, tenant => f.directory tenant

/-- Change a store; nothing else can be changed. -/
def change {α : Type} (source : RoleSource)
    (step : Lifecycle Role → RoleStore → Except AccessError α × RoleStore) :
    Except AccessError α × RoleSource :=
  match source with
  | store hooks s =>
    let (answer, s) := step hooks s
    (answer, store hooks s)
  | fixed f => (.error (.internal "read-only store"), fixed f)

end RoleSource

end AccessControl
