import AccessControl.Graph.Preorder
import AccessControl.Role.Basic
/-!
# Directories of roles

A directory is what is read of the roles and bindings of one tenant: each role by its id, all roles
that a filter accepts, and the bindings of a subject. Reading may fail. A directory knows finitely
many ids, and that is what makes every walk along the inheritance of its roles end.
-/
namespace AccessControl

/-- What is read of the roles and bindings of one tenant. -/
structure RoleDirectory where
  /-- The ids for which a look-up finds a role or fails. -/
  ids : List String
  /-- The role of an id. -/
  lookup : String → Except AccessError (Option Role)
  /-- There is no role for any other id. -/
  lookup_eq_none : ∀ id, id ∉ ids → lookup id = .ok none
  /-- The roles that a filter accepts. -/
  list : RoleFilter → Except AccessError (List Role)
  /-- The bindings of a subject, expired ones included. -/
  bindings : SubjectKind → String → Except AccessError (List Binding)

namespace RoleDirectory

variable (d : RoleDirectory)

/-- The role of an id, if it can be read. -/
def role? (id : String) : Option Role :=
  match d.lookup id with
  | .ok role => role
  | .error _ => none

theorem role?_eq_none {id : String} (h : id ∉ d.ids) : d.role? id = none := by
  simp [role?, d.lookup_eq_none id h]

/-- The graph in which the successors of an id are found from its role. -/
def graph (successors : Role → List String) : Graph where
  nodes := d.ids
  next id := ((d.role? id).map successors).getD []
  next_eq_nil id h := by simp [d.role?_eq_none h]

end RoleDirectory

end AccessControl
