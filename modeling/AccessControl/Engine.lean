import AccessControl.Checker
import AccessControl.Policy.Store
import AccessControl.Role.Source
import AccessControl.Service
import AccessControl.Settings
/-!
# The engine

The engine is the service together with all that it works on: the roles, the store of policies if
there is one, the hierarchy if there is one, and two clocks. The wall clock says which bindings
have expired, and the cache clock which cached permissions have. It also records which conditions
of policies have been evaluated.
-/
namespace AccessControl

/-- The service and what it works on. -/
structure Engine where
  settings : Settings
  service : Service
  roles : RoleSource
  policies : Option PolicyStore
  hierarchy : Option HierarchyResolver
  /-- The time by which bindings expire. -/
  wallClock : Timestamp
  /-- The time by which cached permissions expire. -/
  cacheClock : Duration := 0
  /-- The names of the conditions evaluated so far. -/
  evaluated : List String := []

namespace Engine

/-- An engine that has not been asked anything. -/
def build (settings : Settings) (roles : Option RoleSource) (policies : Option PolicyStore)
    (hierarchy : Option HierarchyResolver) (wallClock : Timestamp) : Except EngineError Engine := do
  let capacity ← settings.check
  match roles with
  | none => throw (.invalidSettings "a role store is required")
  | some roles =>
    return {
      settings, roles, policies, hierarchy, wallClock
      service := .new capacity settings.defaultTtl policies.isSome }

/-! ## Checks -/

/-- Finds out from the roles what a subject may do at present. -/
def loader (e : Engine) : PermissionLoader := fun key =>
  (e.roles.directory key.tenantId).effectivePermissions key.tenantId key.subjectKind key.subjectId
    e.wallClock

/-- The engine with the outcome of a check recorded, and its result. -/
def record (e : Engine) (outcome : CheckOutcome) : Except AccessError CheckResult × Engine :=
  (outcome.result, { e with evaluated := e.evaluated ++ outcome.evaluated.map Condition.name })

/-- Read the policies of a tenant. A reading that succeeds has found them as they were before
whatever happens meanwhile. -/
def readPolicies (meanwhile : Engine → Engine) (tenant : String) (e : Engine) :
    Except AccessError (List PolicyDefinition) × Engine :=
  match e.policies with
  | none => (.ok [], e)
  | some store =>
    let (definitions, store) := store.read tenant
    let e := { e with policies := some store }
    match definitions with
    | .ok definitions => (.ok definitions, meanwhile e)
    | .error error => (.error error, e)

/-- Decide a check; other things may happen while policies are being read. -/
def checkAmid (meanwhile : Engine → Engine) : Checker Engine := fun ctx e =>
  match e.service.begin e.loader e.cacheClock ctx with
  | (.decided outcome, service) => record { e with service } outcome
  | (.reading pending, service) =>
    let (definitions, e) := readPolicies meanwhile ctx.request.tenant.id { e with service }
    let (outcome, service) := e.service.finish pending definitions
    record { e with service } outcome

/-- Decide a check while nothing else happens. -/
def check : Checker Engine := checkAmid id

/-! ## Scopes -/

/-- Resolve and combine scopes for a request. -/
def resolveScopes (e : Engine) (definitions : List ScopeDefinition) (r : Request)
    (mode : Option CombineMode) : Except AccessError CombinedScope :=
  AccessControl.resolveScopes e.hierarchy definitions r
    (mode.getD e.settings.scopes.defaultCombineMode)

/-! ## Changes -/

/-- Change the roles and bindings. -/
def changeRoles {α : Type} (e : Engine)
    (step : Lifecycle Role → RoleStore → Except AccessError α × RoleStore) :
    Except AccessError α × Engine :=
  let (answer, roles) := e.roles.change step
  (answer, { e with roles })

/-- Change the store of policies, if there is one. -/
def changePolicies (e : Engine) (step : PolicyStore → PolicyStore) : Engine :=
  { e with policies := e.policies.map step }

/-- Forget the policies of a tenant. -/
def invalidatePolicies (e : Engine) (tenant : String) : Engine :=
  { e with service := e.service.invalidatePolicies tenant }

/-- Forget what has been found out about a subject. -/
def invalidateSubject (e : Engine) (tenant subject : String) : Nat × Engine :=
  let (count, service) := e.service.invalidateSubject tenant subject
  (count, { e with service })

/-- Forget what has been found out about the subjects of a tenant. -/
def invalidateTenant (e : Engine) (tenant : String) : Nat × Engine :=
  let (count, service) := e.service.invalidateTenant tenant
  (count, { e with service })

/-- Forget everything that has been found out. -/
def clearCache (e : Engine) : Engine := { e with service := e.service.clear }

/-- Let time pass for what is cached. -/
def advance (e : Engine) (d : Duration) : Engine := { e with cacheClock := e.cacheClock + d }

end Engine

end AccessControl
