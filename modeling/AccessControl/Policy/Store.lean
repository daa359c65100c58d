import AccessControl.Policy.Compiled
import AccessControl.Tenancy
/-!
# The policy store

The policy definitions of all tenants, in memory. The store counts how often it is read, and it can
be made unavailable.
-/
namespace AccessControl

/-- The policy definitions of all tenants. -/
structure PolicyStore where
  tenants : PerTenant (List PolicyDefinition) := {}
  /-- Whether the store can be read. -/
  isAvailable : Bool := true
  /-- How often the store has been read, or a reading has failed. -/
  reads : Nat := 0

namespace PolicyStore

/-- Put definitions in the place of those of a tenant. -/
def put (s : PolicyStore) (tenant : String) (definitions : List PolicyDefinition) : PolicyStore :=
  { s with tenants := s.tenants.set tenant definitions }

/-- Add a definition to those of a tenant. -/
def add (s : PolicyStore) (tenant : String) (definition : PolicyDefinition) : PolicyStore :=
  s.put tenant (s.tenants.get tenant ++ [definition])

/-- Read the definitions of a tenant. -/
def read (s : PolicyStore) (tenant : String) :
    Except AccessError (List PolicyDefinition) × PolicyStore :=
  (if s.isAvailable then .ok (s.tenants.get tenant)
    else .error (.storeUnavailable "policy store down"),
    { s with reads := s.reads + 1 })

end PolicyStore

end AccessControl
