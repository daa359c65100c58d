import AccessControl.Permission.Set
import AccessControl.Request
import AccessControl.Time.Timestamp
/-!
# Roles and bindings

A role belongs to a tenant, grants codes and patterns, and inherits from other roles by their ids. A
binding gives a role to a subject, for ever or up to some instant. What all its bindings give to a
subject, inherited roles included, are its effective permissions.
-/
namespace AccessControl

/-- Where a role comes from. -/
inductive RoleKind where
  /-- Provided with the platform. -/
  | system
  | custom
  | template
  deriving DecidableEq, Repr

namespace RoleKind

/-- The label of a kind. -/
def label : RoleKind → String
  | system => "system"
  | custom => "custom"
  | template => "template"

/-- The kind with a label. -/
def ofLabel? (s : String) : Option RoleKind :=
  [system, custom, template].find? fun k => k.label = s

/-- The kind that a wire form holds. -/
def decode? : Json → Option RoleKind := Json.label? ofLabel?

end RoleKind

/-- Whether a role grants anything at present. -/
inductive RoleStatus where
  | active | inactive | archived
  deriving DecidableEq, Repr

namespace RoleStatus

/-- The label of a status. -/
def label : RoleStatus → String
  | active => "active"
  | inactive => "inactive"
  | archived => "archived"

/-- The status with a label. -/
def ofLabel? (s : String) : Option RoleStatus :=
  [active, inactive, archived].find? fun t => t.label = s

/-- The status that a wire form holds. -/
def decode? : Json → Option RoleStatus := Json.label? ofLabel?

end RoleStatus

/-- A role of a tenant. -/
structure Role where
  id : String
  tenantId : String
  name : String
  kind : RoleKind
  status : RoleStatus
  /-- The codes and patterns that the role grants. -/
  permissions : List String
  /-- The ids of the roles whose permissions it grants too. -/
  inherits : List String
  createdAt : Timestamp
  updatedAt : Timestamp
  deriving DecidableEq

namespace Role

/-- Only active roles grant anything. -/
def isActive (r : Role) : Bool := r.status = .active

/-- The wire form of a role. -/
def toJson (r : Role) : Json :=
  .object [("id", .str r.id), ("tenant_id", .str r.tenantId), ("name", .str r.name),
    ("type", .str r.kind.label), ("status", .str r.status.label),
    ("permissions", .strings r.permissions), ("inherits", .strings r.inherits),
    ("created_at", r.createdAt.toJson), ("updated_at", r.updatedAt.toJson)]

/-- The role that a wire form holds. -/
def decode? (j : Json) : Option Role := do
  let member ← j.record? ["id", "tenant_id", "name", "type", "status", "permissions", "inherits",
    "created_at", "updated_at"] false
  return {
    id := ← Json.required (member "id") Json.str?
    tenantId := ← Json.required (member "tenant_id") Json.str?
    name := ← Json.required (member "name") Json.str?
    kind := ← Json.required (member "type") RoleKind.decode?
    status := ← Json.required (member "status") RoleStatus.decode?
    permissions := ← Json.required (member "permissions") Json.strings?
    inherits := ← Json.required (member "inherits") Json.strings?
    createdAt := ← Json.required (member "created_at") Timestamp.decode?
    updatedAt := ← Json.required (member "updated_at") Timestamp.decode? }

end Role

/-- A role that is to be created. -/
structure NewRole where
  tenantId : String
  name : String
  kind : RoleKind := .custom
  permissions : List String := []
  inherits : List String := []
  deriving DecidableEq

namespace NewRole

/-- The wire form of a role that is to be created. -/
def toJson (r : NewRole) : Json :=
  .object [("tenant_id", .str r.tenantId), ("name", .str r.name), ("type", .str r.kind.label),
    ("permissions", .strings r.permissions), ("inherits", .strings r.inherits)]

/-- The role to be created that a wire form holds. -/
def decode? (j : Json) : Option NewRole := do
  let member ← j.record? ["tenant_id", "name", "type", "permissions", "inherits"] false
  return {
    tenantId := ← Json.required (member "tenant_id") Json.str?
    name := ← Json.required (member "name") Json.str?
    kind := ← Json.given (member "type") RoleKind.decode? .custom
    permissions := ← Json.given (member "permissions") Json.strings? []
    inherits := ← Json.given (member "inherits") Json.strings? [] }

end NewRole

/-- A change to a role. Its name and kind cannot be changed. -/
structure RolePatch where
  status : Option RoleStatus := none
  permissions : Option (List String) := none
  inherits : Option (List String) := none
  deriving DecidableEq

namespace RolePatch

/-- The role with what the patch gives in place of what it had. -/
def apply (p : RolePatch) (r : Role) : Role :=
  { r with
    status := p.status.getD r.status
    permissions := p.permissions.getD r.permissions
    inherits := p.inherits.getD r.inherits }

/-- The wire form of a patch; what it does not change is left out. -/
def toJson (p : RolePatch) : Json :=
  .object
    ((p.status.map fun s => ("status", Json.str s.label)).toList ++
      (p.permissions.map fun ps => ("permissions", Json.strings ps)).toList ++
      (p.inherits.map fun ids => ("inherits", Json.strings ids)).toList)

/-- The patch that a wire form holds. -/
def decode? (j : Json) : Option RolePatch := do
  let member ← j.record? ["status", "permissions", "inherits"] false
  return {
    status := ← Json.given (member "status") (Json.nullable? RoleStatus.decode?) none
    permissions := ← Json.given (member "permissions") (Json.nullable? Json.strings?) none
    inherits := ← Json.given (member "inherits") (Json.nullable? Json.strings?) none }

end RolePatch

/-- Which roles a listing is to show. -/
structure RoleFilter where
  status : Option RoleStatus := none
  kind : Option RoleKind := none

/-- Whether a listing is to show the role. -/
def RoleFilter.accepts (f : RoleFilter) (r : Role) : Bool :=
  f.status.all (· = r.status) && f.kind.all (· = r.kind)

/-- A role given to a subject. -/
structure Binding where
  id : String
  tenantId : String
  roleId : String
  subjectKind : SubjectKind
  subjectId : String
  /-- When the subject loses the role. -/
  expiresAt : Option Timestamp
  createdAt : Timestamp
  deriving DecidableEq

namespace Binding

/-- A binding counts up to, and not at, the instant of its end. -/
def isExpired (b : Binding) (now : Timestamp) : Bool :=
  b.expiresAt.any fun at' => at'.instant ≤ now.instant

/-- Whether the binding gives a role to this subject. -/
def isOf (b : Binding) (kind : SubjectKind) (subjectId : String) : Bool :=
  b.subjectKind = kind && b.subjectId = subjectId

/-- The wire form of a binding. -/
def toJson (b : Binding) : Json :=
  .object [("id", .str b.id), ("tenant_id", .str b.tenantId), ("role_id", .str b.roleId),
    ("subject_type", .str b.subjectKind.label), ("subject_id", .str b.subjectId),
    ("expires_at", .ofOption Timestamp.toJson b.expiresAt), ("created_at", b.createdAt.toJson)]

/-- The binding that a wire form holds. -/
def decode? (j : Json) : Option Binding := do
  let member ← j.record? ["id", "tenant_id", "role_id", "subject_type", "subject_id",
    "expires_at", "created_at"] false
  return {
    id := ← Json.required (member "id") Json.str?
    tenantId := ← Json.required (member "tenant_id") Json.str?
    roleId := ← Json.required (member "role_id") Json.str?
    subjectKind := ← Json.required (member "subject_type") SubjectKind.decode?
    subjectId := ← Json.required (member "subject_id") Json.str?
    expiresAt := ← Json.given (member "expires_at") (Json.nullable? Timestamp.decode?) none
    createdAt := ← Json.required (member "created_at") Timestamp.decode? }

end Binding

/-- A binding that is to be made. -/
structure NewBinding where
  tenantId : String
  roleId : String
  subjectKind : SubjectKind
  subjectId : String
  expiresAt : Option Timestamp := none

/-- What a subject may do by its roles. -/
structure EffectivePermissions where
  tenantId : String
  subjectId : String
  subjectKind : SubjectKind
  /-- The names of the active roles that contributed, in the order in which they were met. -/
  roles : List String
  permissions : PermissionSet
  /-- When the permissions were put together. -/
  computedAt : Timestamp
  deriving DecidableEq

namespace EffectivePermissions

/-- No permissions. -/
def none (tenantId : String) (kind : SubjectKind) (subjectId : String) (now : Timestamp) :
    EffectivePermissions :=
  { tenantId, subjectId, subjectKind := kind, roles := [], permissions := .empty,
    computedAt := now }

/-- The entry that grants a code. -/
def grantFor (e : EffectivePermissions) (code : String) : Option String :=
  e.permissions.grantFor code

/-- The wire form of effective permissions. -/
def toJson (e : EffectivePermissions) : Json :=
  .object [("tenant_id", .str e.tenantId), ("subject_id", .str e.subjectId),
    ("subject_type", .str e.subjectKind.label), ("roles", .strings e.roles),
    ("permissions", .strings e.permissions.toList), ("computed_at", e.computedAt.toJson)]

/-- The effective permissions that a wire form holds. -/
def decode? (j : Json) : Option EffectivePermissions := do
  let member ← j.record? ["tenant_id", "subject_id", "subject_type", "roles", "permissions",
    "computed_at"] false
  return {
    tenantId := ← Json.required (member "tenant_id") Json.str?
    subjectId := ← Json.required (member "subject_id") Json.str?
    subjectKind := ← Json.required (member "subject_type") SubjectKind.decode?
    roles := ← Json.required (member "roles") Json.strings?
    permissions := .ofList (← Json.required (member "permissions") Json.strings?)
    computedAt := ← Json.required (member "computed_at") Timestamp.decode? }

end EffectivePermissions

end AccessControl
