import AccessControl.Json.Shape
/-!
# Requests

A request says on whose behalf something is asked: the tenant, the subject, and attributes of the
resource or the surroundings that policies and row scopes refer to. Everything a request needs but
the ids and the kind of subject may be left out of its wire form.
-/
namespace AccessControl

/-- What a subject is. -/
inductive SubjectKind where
  | user
  | service
  /-- An internal caller; it passes every check. -/
  | system
  | anonymous
  deriving DecidableEq, Repr

namespace SubjectKind

/-- The label of a kind. -/
def label : SubjectKind → String
  | user => "user"
  | service => "service"
  | system => "system"
  | anonymous => "anonymous"

/-- The kind with a label. -/
def ofLabel? (s : String) : Option SubjectKind :=
  [user, service, system, anonymous].find? fun k => k.label = s

/-- The kind that a wire form holds. -/
def decode? : Json → Option SubjectKind := Json.label? ofLabel?

end SubjectKind

/-- Who makes a request. -/
structure Subject where
  id : String
  kind : SubjectKind
  /-- The roles that the identity layer asserts. -/
  roles : List String := []
  /-- Codes that are granted without a role. -/
  directPermissions : List String := []
  /-- Further data about the subject. -/
  metadata : Entries Json := []

namespace Subject

/-- The subject of a request that names nobody. -/
def unknown : Subject := { id := "anonymous", kind := .anonymous }

/-- Whether the subject is an internal caller. -/
def isSystem (s : Subject) : Bool := s.kind = .system

/-- The subject with one more datum. -/
def withMetadata (s : Subject) (key : String) (value : Json) : Subject :=
  { s with metadata := Entries.insert key value s.metadata }

/-- The wire form of a subject. -/
def toJson (s : Subject) : Json :=
  .object [("id", .str s.id), ("type", .str s.kind.label), ("roles", .strings s.roles),
    ("direct_permissions", .strings s.directPermissions), ("metadata", .obj s.metadata)]

/-- The subject that a wire form holds. -/
def decode? (j : Json) : Option Subject := do
  let member ← j.record? ["id", "type", "roles", "direct_permissions", "metadata"] false
  return {
    id := ← Json.required (member "id") Json.str?
    kind := ← Json.required (member "type") SubjectKind.decode?
    roles := ← Json.given (member "roles") Json.strings? []
    directPermissions := ← Json.given (member "direct_permissions") Json.strings? []
    metadata := ← Json.given (member "metadata") Json.members? [] }

end Subject

/-- Whether a tenant is in use. -/
inductive TenantStatus where
  | active | suspended | deleted
  deriving DecidableEq, Repr

namespace TenantStatus

/-- The label of a status. -/
def label : TenantStatus → String
  | active => "active"
  | suspended => "suspended"
  | deleted => "deleted"

/-- The status with a label. -/
def ofLabel? (s : String) : Option TenantStatus :=
  [active, suspended, deleted].find? fun t => t.label = s

end TenantStatus

/-- The owner of the data that a request is about. No tenant is related to another. -/
structure Tenant where
  id : String
  status : TenantStatus := .active

namespace Tenant

/-- The wire form of a tenant. -/
def toJson (t : Tenant) : Json := .object [("id", .str t.id), ("status", .str t.status.label)]

/-- The tenant that a wire form holds. -/
def decode? (j : Json) : Option Tenant := do
  let member ← j.record? ["id", "status"] false
  return {
    id := ← Json.required (member "id") Json.str?
    status := ← Json.given (member "status") (Json.label? TenantStatus.ofLabel?) .active }

end Tenant

/-- On whose behalf something is asked. -/
structure Request where
  tenant : Tenant := { id := "" }
  subject : Subject := .unknown
  /-- Data about the resource or the surroundings. -/
  attributes : Entries Json := []

namespace Request

/-- The attribute of a name. -/
def attribute? (r : Request) (name : String) : Option Json := r.attributes.get? name

/-- The request with one more attribute. -/
def withAttribute (r : Request) (name : String) (value : Json) : Request :=
  { r with attributes := Entries.insert name value r.attributes }

/-- The wire form of a request. -/
def toJson (r : Request) : Json :=
  .object [("tenant", r.tenant.toJson), ("subject", r.subject.toJson),
    ("attributes", .obj r.attributes)]

/-- The request that a wire form holds. -/
def decode? (j : Json) : Option Request := do
  let member ← j.record? ["tenant", "subject", "attributes"] false
  return {
    tenant := ← Json.required (member "tenant") Tenant.decode?
    subject := ← Json.required (member "subject") Subject.decode?
    attributes := ← Json.given (member "attributes") Json.members? [] }

end Request

end AccessControl
