import AccessControl.Role.Directory
/-!
# Effective permissions

The roles of a subject are those of its unexpired bindings and all that active ones among them
inherit from, directly or not. The walk takes the bindings and the parents of a role in their
order, and each role once. A role that is missing or not active contributes nothing, neither do its
parents.
-/
namespace AccessControl

namespace RoleDirectory

variable (d : RoleDirectory)

/-- The graph from active roles to the roles they inherit from. -/
def activeGraph : Graph := d.graph fun r => if r.isActive then r.inherits else []

/-- The ids of the roles that are met from these ids, active or not. -/
def reached (roots : List String) : List String := d.activeGraph.preorder roots

/-- The active roles among those met from these ids; the first that cannot be read is the error. -/
def contributors (roots : List String) : Except AccessError (List Role) := do
  let found ← (d.reached roots).mapM d.lookup
  return found.filterMap fun role? => role?.filter Role.isActive

/-- What a subject may do by its roles. -/
def effectivePermissions (tenantId : String) (kind : SubjectKind) (subjectId : String)
    (now : Timestamp) : Except AccessError EffectivePermissions := do
  let bindings ← d.bindings kind subjectId
  let roots := (bindings.filter fun b => !b.isExpired now).map Binding.roleId
  let roles ← d.contributors roots
  return {
    tenantId, subjectId
    subjectKind := kind
    roles := roles.map Role.name
    permissions := .ofList (roles.flatMap Role.permissions)
    computedAt := now }

end RoleDirectory

end AccessControl
