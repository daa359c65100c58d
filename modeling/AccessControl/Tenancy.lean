import AccessControl.Entries
/-!
# Values per tenant

`PerTenant α` keeps a value of type `α` for every tenant. A tenant for which none has been put has
the default value, so that a tenant never heard of and one whose data is empty are the same.
Putting a value for one tenant leaves all others as they are.
-/
namespace AccessControl

/-- A value for every tenant. -/
structure PerTenant (α : Type) where
  /-- The values that have been put. -/
  entries : Entries α := []

namespace PerTenant

variable {α : Type} [Inhabited α]

instance : Inhabited (PerTenant α) := ⟨{}⟩

/-- The value of a tenant. -/
def get (p : PerTenant α) (tenant : String) : α := (p.entries.get? tenant).getD default

/-- Put a value for a tenant. -/
def set (p : PerTenant α) (tenant : String) (value : α) : PerTenant α :=
  ⟨Entries.insert tenant value p.entries⟩

@[simp] theorem get_set_self (p : PerTenant α) (tenant : String) (value : α) :
    (p.set tenant value).get tenant = value := by simp [get, set]

theorem get_set_of_ne (p : PerTenant α) {tenant other : String} (hne : other ≠ tenant)
    (value : α) : (p.set tenant value).get other = p.get other := by
  simp [get, set, Entries.get?_insert_of_ne hne]

@[simp] theorem get_empty (tenant : String) : ({} : PerTenant α).get tenant = default := rfl

end PerTenant

end AccessControl
