import AccessControl.Role.Source
/-!
# Hooks and fixed roles as documents

A hook on roles can be written down in JSON as the list of what it does to a role, one action after
the other. The roles that an action makes parents of a role are written by names; what ids these
names stand for is given from outside, except that a role can always be named by a word for itself.

Fixed roles and bindings can be written down too. A document of them may leave out the tenant and
the subject; what these then are is given from outside as well.
-/
namespace AccessControl

/-- What a hook does to a role. -/
inductive RoleAction where
  /-- Let nothing pass. -/
  | halt (reason : String)
  /-- Let no role pass that is provided with the platform. -/
  | haltIfSystem (reason : String)
  /-- Let no role of this name pass. -/
  | haltIfName (name : String)
  | setId (id : String)
  | setTenant (tenantId : String)
  | setName (name : String)
  | setKind (kind : RoleKind)
  | setStatus (status : RoleStatus)
  | addPermission (permission : String)
  | setPermissions (permissions : List String)
  /-- Inherit from these roles only, which are given by names. -/
  | setInherits (names : List String)

namespace RoleAction

/-- The action that a document describes. -/
def ofJson? (j : Json) : Option RoleAction :=
  match j with
  | .obj [("halt", .str reason)] => some (halt reason)
  | .obj [("halt_if_system", .str reason)] => some (haltIfSystem reason)
  | .obj [("halt_if_name", .str name)] => some (haltIfName name)
  | .obj [("set_id", .str id)] => some (setId id)
  | .obj [("set_tenant", .str tenantId)] => some (setTenant tenantId)
  | .obj [("set_name", .str name)] => some (setName name)
  | .obj [("set_type", kind)] => (RoleKind.decode? kind).map setKind
  | .obj [("set_status", status)] => (RoleStatus.decode? status).map setStatus
  | .obj [("add_permission", .str permission)] => some (addPermission permission)
  | .obj [("set_permissions", permissions)] => permissions.strings?.map setPermissions
  | .obj [("set_inherits", names)] => names.strings?.map setInherits
  | _ => none

/-- The word by which an action names the role that it acts on. -/
def itself : String := "$self"

/-- Do an action; `idOf` is what the names of roles stand for. -/
def run (idOf : String → String) (action : RoleAction) (r : Role) : Outcome Role :=
  match action with
  | halt reason => .halt reason
  | haltIfSystem reason => if r.kind = .system then .halt reason else .proceed r
  | haltIfName name =>
    if r.name = name then .halt ("name " ++ name ++ " is reserved") else .proceed r
  | setId id => .proceed { r with id }
  | setTenant tenantId => .proceed { r with tenantId }
  | setName name => .proceed { r with name }
  | setKind kind => .proceed { r with kind }
  | setStatus status => .proceed { r with status }
  | addPermission permission => .proceed { r with permissions := r.permissions ++ [permission] }
  | setPermissions permissions => .proceed { r with permissions }
  | setInherits names =>
    .proceed { r with inherits := names.map fun name => if name = itself then r.id else idOf name }

end RoleAction

/-- A hook on roles: when it runs, what it is called and what it does. -/
structure RoleHook where
  stage : Stage
  name : String
  actions : List RoleAction

namespace RoleHook

/-- The hook that a document describes. -/
def ofJson? (j : Json) : Option RoleHook := do
  return {
    stage := ← j.member? "stage" fun stage => stage.str?.bind Stage.ofLabel?
    name := ← j.member? "name" Json.str?
    actions := ← j.member? "do" (Json.list? RoleAction.ofJson?) }

/-- The hook at its stage: it does its actions until one of them halts. -/
def entry (idOf : String → String) (h : RoleHook) : Stage × Hook Role :=
  (h.stage, {
    name := h.name
    run := fun r =>
      h.actions.foldl (fun outcome action => outcome.andThen (action.run idOf)) (.proceed r) })

end RoleHook

/-- What documents of fixed roles and bindings leave out. -/
structure UsualFields where
  tenantId : String
  subjectId : String
  createdAt : Timestamp

namespace FixedRoles

/-- The role that a document describes. -/
def roleOf? (usual : UsualFields) (j : Json) : Option Role := do
  let id ← j.member? "id" Json.str?
  return {
    id
    tenantId := (← j.optional? "tenant" Json.str?).getD usual.tenantId
    name := (← j.optional? "name" Json.str?).getD id
    kind := .custom
    status := (← j.optional? "status" RoleStatus.decode?).getD .active
    permissions := ← j.items? "permissions" Json.str?
    inherits := ← j.items? "inherits" Json.str?
    createdAt := usual.createdAt
    updatedAt := usual.createdAt }

/-- The binding that a document describes; its id tells its position. -/
def bindingOf? (usual : UsualFields) (position : Nat) (j : Json) : Option Binding := do
  return {
    id := "b" ++ toString position
    tenantId := (← j.optional? "tenant" Json.str?).getD usual.tenantId
    roleId := ← j.member? "role" Json.str?
    subjectKind := (← j.optional? "type" SubjectKind.decode?).getD .user
    subjectId := (← j.optional? "subject" Json.str?).getD usual.subjectId
    expiresAt := ← j.optional? "expires_at" Timestamp.decode?
    createdAt := usual.createdAt }

/-- The fixed roles that a document describes. -/
def ofJson? (usual : UsualFields) (j : Json) : Option FixedRoles := do
  return {
    roles := ← j.items? "roles" (roleOf? usual)
    bindings := ← (← j.items? "bindings" some).zipIdx.mapM fun (b, i) => bindingOf? usual i b
    lostRoles := ← j.items? "fail_roles" Json.str?
    bindingsLost := (← j.optional? "fail_bindings" Json.bool?).getD false }

end FixedRoles

end AccessControl
