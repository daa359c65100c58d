import AccessControl.Cache.TtlLru
import AccessControl.Role.Basic
/-!
# The cache of effective permissions

What has been found out about the permissions of a subject is kept for some time, under the tenant,
the kind of the subject and its id together. Whatever the ids contain, two subjects never share an
entry. What could not be found out is not kept.
-/
namespace AccessControl

/-- A subject of a tenant. -/
structure PermissionKey where
  tenantId : String
  subjectKind : SubjectKind
  subjectId : String
  deriving DecidableEq, Repr

/-- The text of a subject of a tenant. -/
def PermissionKey.text (k : PermissionKey) : String :=
  "permissions:" ++ k.tenantId ++ ":" ++ k.subjectKind.label ++ ":" ++ k.subjectId

/-- Finds out what a subject may do. -/
abbrev PermissionLoader := PermissionKey → Except AccessError EffectivePermissions

/-- What has been found out about subjects. -/
abbrev PermissionCache := TtlLru PermissionKey EffectivePermissions

namespace PermissionCache

/-- What is kept about a subject, or else what the loader finds out, which is then kept. -/
def getOrLoad (load : PermissionLoader) (c : PermissionCache) (key : PermissionKey)
    (ttl : Option Duration) (now : Duration) :
    Except AccessError EffectivePermissions × PermissionCache :=
  match c.get key now with
  | (some found, c) => (.ok found, c)
  | (none, c) =>
    match load key with
    | .error e => (.error e, c)
    | .ok loaded => (.ok loaded, c.set key loaded ttl now)

/-- Forget a subject, whatever kind it is of; the answer is how many entries there were. -/
def invalidateSubject (c : PermissionCache) (tenantId subjectId : String) :
    Nat × PermissionCache :=
  c.removeWhere fun key => key.tenantId = tenantId && key.subjectId = subjectId

/-- Forget all subjects of a tenant; the answer is how many entries there were. -/
def invalidateTenant (c : PermissionCache) (tenantId : String) : Nat × PermissionCache :=
  c.removeWhere fun key => key.tenantId = tenantId

end PermissionCache

end AccessControl
