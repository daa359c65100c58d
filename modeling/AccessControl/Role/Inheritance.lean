import AccessControl.Role.Directory
/-!
# Inheritance

A role would inherit from itself when it can be reached from its parents, its own old parents left
aside. `createsCycle` decides that on a graph. `RoleDirectory.isCircular` decides it while reading
roles one by one, the last parent first, and fails when it comes to a role that cannot be read
before it has found a cycle.
-/
namespace AccessControl

/-- Whether a role with these parents could be reached from itself. -/
def createsCycle (g : Graph) (role : String) (parents : List String) : Bool :=
  (g.preorder parents).contains role

namespace RoleDirectory

variable (d : RoleDirectory)

/-- Look for a role among ids that are read one by one. -/
def readUntil (role : String) : List String → Except AccessError Bool
  | [] => .ok false
  | id :: ids =>
    if id = role then .ok true
    else
      match d.lookup id with
      | .error e => .error e
      | .ok _ => readUntil role ids

/-- Whether a role with these parents could be reached from itself. -/
def isCircular (role : String) (parents : List String) : Except AccessError Bool :=
  d.readUntil role ((d.graph fun r => r.inherits.reverse).preorder parents.reverse)

end RoleDirectory

end AccessControl
