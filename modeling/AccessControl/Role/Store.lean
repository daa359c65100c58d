import AccessControl.Hook
import AccessControl.Role.Inheritance
import AccessControl.Tenancy
/-!
# The role store

Roles and bindings of all tenants, in memory. Within a tenant the names of roles are unique and a
subject is bound to a role at most once; a role is removed together with its bindings; name and kind
of a role stay as they were when it was created.

Hooks run around changes to roles. What runs before a change may refuse it, or adjust the role's
status, grants and parents; the adjusted role is checked again. What runs after a change sees a role
that is stored already: it may adjust the answer and nothing else.

A change that fails leaves the store as it was.
-/
namespace AccessControl

/-- The roles and bindings of one tenant. -/
structure RolePartition where
  /-- The roles by their ids. -/
  roles : Entries Role := []
  /-- The bindings in the order in which they were made. -/
  bindings : List Binding := []

namespace RolePartition

instance : Inhabited RolePartition := ⟨{}⟩

/-- The role of an id. -/
def role? (p : RolePartition) (id : String) : Option Role := p.roles.get? id

/-- The partition as a directory. -/
def directory (p : RolePartition) : RoleDirectory where
  ids := p.roles.map Prod.fst
  lookup id := .ok (p.role? id)
  lookup_eq_none id h := by rw [role?, Entries.get?_eq_none h]
  list filter := .ok
    (((p.roles.map Prod.snd).filter filter.accepts).mergeSort fun a b => decide (a.name ≤ b.name))
  bindings kind subjectId := .ok (p.bindings.filter fun b => b.isOf kind subjectId)

/-- The graph from roles to their parents. -/
def inheritance (p : RolePartition) : Graph := p.directory.graph Role.inherits

/-- The partition with a role stored under its id. -/
def store (p : RolePartition) (r : Role) : RolePartition :=
  { p with roles := Entries.insert r.id r p.roles }

/-- The partition without a role and its bindings. -/
def remove (p : RolePartition) (id : String) : RolePartition where
  roles := Entries.erase id p.roles
  bindings := p.bindings.filter fun b => b.roleId ≠ id

end RolePartition

/-- The error that there is no role of an id. -/
def noRole (id : String) : AccessError := .notFound "role" id

/-- The error that there is no binding of an id. -/
def noBinding (id : String) : AccessError := .notFound "binding" id

/-- What hooks make of a role before an operation; they cannot change what a role is known by. -/
def runBefore (hooks : Lifecycle Role) (operation : Operation) (r : Role) :
    Except AccessError Role :=
  match hooks.run ⟨.before, operation⟩ r with
  | .proceed changed =>
    .ok { changed with id := r.id, tenantId := r.tenantId, name := r.name, kind := r.kind }
  | .halt reason => .error (.permissionDenied (Permission.encode "role" operation.label) reason)

/-- What hooks make of a role after an operation; they cannot refuse what has been done. -/
def runAfter (hooks : Lifecycle Role) (operation : Operation) (r : Role) : Role :=
  match hooks.run ⟨.after, operation⟩ r with
  | .proceed changed => changed
  | .halt _ => r

namespace RolePartition

/-- The role to be stored for a new one, with its id. -/
def accept (hooks : Lifecycle Role) (id : String) (now : Timestamp) (new : NewRole)
    (p : RolePartition) : Except AccessError Role := do
  checkPatterns new.permissions
  if p.roles.any fun entry => entry.2.name = new.name then
    throw (.conflict
      ("role '" ++ new.name ++ "' already exists in tenant '" ++ new.tenantId ++ "'"))
  let r ← runBefore hooks .create {
    id, tenantId := new.tenantId, name := new.name, kind := new.kind, status := .active,
    permissions := new.permissions, inherits := new.inherits, createdAt := now, updatedAt := now }
  checkPatterns r.permissions
  return r

/-- The role to be stored for a changed one. -/
def amend (hooks : Lifecycle Role) (now : Timestamp) (id : String) (patch : RolePatch)
    (p : RolePartition) : Except AccessError Role :=
  match p.role? id with
  | none => throw (noRole id)
  | some current => do
    let r ← runBefore hooks .update { patch.apply current with updatedAt := now }
    checkPatterns r.permissions
    if createsCycle p.inheritance id r.inherits then throw (.circularInheritance id)
    return r

/-- The role to be removed. -/
def release (hooks : Lifecycle Role) (id : String) (p : RolePartition) : Except AccessError Role :=
  match p.role? id with
  | none => throw (noRole id)
  | some current => runBefore hooks .delete current

/-- The binding to be stored for a new one, with its id. -/
def attach (id : String) (now : Timestamp) (new : NewBinding) (p : RolePartition) :
    Except AccessError Binding := do
  if (p.role? new.roleId).isNone then throw (noRole new.roleId)
  if p.bindings.any fun b => b.isOf new.subjectKind new.subjectId && b.roleId = new.roleId then
    throw (.conflict (new.subjectKind.label ++ " '" ++ new.subjectId ++
      "' is already bound to role '" ++ new.roleId ++ "'"))
  return {
    id, tenantId := new.tenantId, roleId := new.roleId, subjectKind := new.subjectKind,
    subjectId := new.subjectId, expiresAt := new.expiresAt, createdAt := now }

end RolePartition

/-- The roles and bindings of all tenants. -/
structure RoleStore where
  tenants : PerTenant RolePartition := {}

namespace RoleStore

instance : Inhabited RoleStore := ⟨{}⟩

/-- What is read of a tenant. -/
def directory (s : RoleStore) (tenant : String) : RoleDirectory := (s.tenants.get tenant).directory

/-- The store with a changed partition. -/
def modify (s : RoleStore) (tenant : String) (change : RolePartition → RolePartition) : RoleStore :=
  ⟨s.tenants.set tenant (change (s.tenants.get tenant))⟩

/-- Create a role with a given id. -/
def create (hooks : Lifecycle Role) (id : String) (now : Timestamp) (new : NewRole)
    (s : RoleStore) : Except AccessError Role × RoleStore :=
  match (s.tenants.get new.tenantId).accept hooks id now new with
  | .error e => (.error e, s)
  | .ok r => (.ok (runAfter hooks .create r), s.modify new.tenantId (·.store r))

/-- Change a role. -/
def update (hooks : Lifecycle Role) (now : Timestamp) (tenant id : String) (patch : RolePatch)
    (s : RoleStore) : Except AccessError Role × RoleStore :=
  match (s.tenants.get tenant).amend hooks now id patch with
  | .error e => (.error e, s)
  | .ok r => (.ok (runAfter hooks .update r), s.modify tenant (·.store r))

/-- Remove a role and its bindings. -/
def delete (hooks : Lifecycle Role) (tenant id : String) (s : RoleStore) :
    Except AccessError Unit × RoleStore :=
  match (s.tenants.get tenant).release hooks id with
  | .error e => (.error e, s)
  | .ok _ => (.ok (), s.modify tenant (·.remove id))

/-- Bind a subject to a role, with a given id for the binding. -/
def bind (id : String) (now : Timestamp) (new : NewBinding) (s : RoleStore) :
    Except AccessError Binding × RoleStore :=
  match (s.tenants.get new.tenantId).attach id now new with
  | .error e => (.error e, s)
  | .ok b =>
    (.ok b, s.modify new.tenantId fun p => { p with bindings := p.bindings ++ [b] })

/-- Remove a binding. -/
def unbind (tenant id : String) (s : RoleStore) : Except AccessError Unit × RoleStore :=
  if (s.tenants.get tenant).bindings.any fun b => b.id = id then
    (.ok (), s.modify tenant fun p =>
      { p with bindings := p.bindings.filter fun b => b.id ≠ id })
  else (.error (noBinding id), s)

end RoleStore

end AccessControl
