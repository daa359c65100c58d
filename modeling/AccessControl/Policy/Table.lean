import AccessControl.Policy.Compiled
import AccessControl.Tenancy
/-!
# The table of compiled policies

The compiled policies of a tenant are kept until they are invalidated. Reading and compiling them
takes a while in which they may be invalidated; what has been read then is used, but not kept. To
notice it, each tenant has a generation that grows with every invalidation, and the table has an
epoch that grows when everything is forgotten, the generations included. A reading starts with a
ticket of both numbers, and its result is kept only if both are still the same.
-/
namespace AccessControl

/-- What is kept for one tenant. -/
structure PolicySlot where
  /-- How often the policies of the tenant have been invalidated in this epoch. The number has no
  greatest value; in a run of fewer than `2 ^ 64` steps it is that of a counter of 64 bits. -/
  generation : Nat := 0
  /-- The compiled policies, unless they have yet to be read. -/
  policies : Option (List CompiledPolicy) := none

instance : Inhabited PolicySlot := ⟨{}⟩

/-- The compiled policies of all tenants. -/
structure PolicyTable where
  /-- How often everything has been forgotten; without a greatest value, as generations are. -/
  epoch : Nat := 0
  slots : PerTenant PolicySlot := {}

/-- What was current when a reading of policies started. -/
structure PolicyTicket where
  tenant : String
  epoch : Nat
  generation : Nat
  deriving DecidableEq, Repr

/-- What the table says about a tenant. -/
inductive PolicyLookup where
  | known (policies : List CompiledPolicy)
  /-- The policies have to be read. -/
  | unread (ticket : PolicyTicket)

namespace PolicyTable

/-- Look the policies of a tenant up. -/
def lookup (t : PolicyTable) (tenant : String) : PolicyLookup :=
  let slot := t.slots.get tenant
  match slot.policies with
  | some policies => .known policies
  | none => .unread { tenant, epoch := t.epoch, generation := slot.generation }

/-- Whether nothing has been invalidated since the reading of the ticket started. -/
def isCurrent (t : PolicyTable) (ticket : PolicyTicket) : Bool :=
  (t.slots.get ticket.tenant).generation = ticket.generation && t.epoch = ticket.epoch

/-- Keep the result of a reading, if it is still current. -/
def publish (t : PolicyTable) (ticket : PolicyTicket) (policies : List CompiledPolicy) :
    PolicyTable :=
  if t.isCurrent ticket then
    let slot := { t.slots.get ticket.tenant with policies := some policies }
    { t with slots := t.slots.set ticket.tenant slot }
  else t

/-- End a reading: compile what was read, and keep it if it is still current. An error in reading or
compiling leaves the table as it is. -/
def finish (t : PolicyTable) (ticket : PolicyTicket)
    (definitions : Except AccessError (List PolicyDefinition)) :
    Except AccessError (List CompiledPolicy) × PolicyTable :=
  match definitions.bind PolicyDefinition.compileAll with
  | .error e => (.error e, t)
  | .ok policies => (.ok policies, t.publish ticket policies)

/-- Forget the policies of a tenant. -/
def invalidate (t : PolicyTable) (tenant : String) : PolicyTable :=
  let slot : PolicySlot := { generation := (t.slots.get tenant).generation + 1 }
  { t with slots := t.slots.set tenant slot }

/-- Forget the policies of all tenants. -/
def clear (t : PolicyTable) : PolicyTable := { epoch := t.epoch + 1, slots := {} }

end PolicyTable

end AccessControl
