import AccessControl.Cache.Permissions
import AccessControl.Check
import AccessControl.Policy.Table
import AccessControl.Policy.Verdict
/-!
# The service that decides checks

The code of a check has to be concrete. An internal caller passes, and so does a subject to which
the code, or everything, is granted directly. For all others the effective permissions of the
subject are looked at, and then the policies of the tenant: a policy rule that decides overrules
the permissions.

Effective permissions and compiled policies are kept. Where policies have to be read, a check is
interrupted: `Service.begin` goes as far as it can, and `Service.finish` goes on with what was read.
Between the two the service may have changed.
-/
namespace AccessControl

/-- What the service keeps. -/
structure Service where
  /-- What has been found out about subjects. -/
  cache : PermissionCache
  /-- The compiled policies, if there is a store of policies at all. -/
  policies : Option PolicyTable

/-- An answer before policies have been asked: whether the check passes, and why. -/
abbrev Outlook := Bool × DecisionReason

/-- The answer to a check, and the conditions that were evaluated to find it. -/
structure CheckOutcome where
  result : Except AccessError CheckResult
  evaluated : List Condition := []

/-- A check that waits for policies to be read. -/
structure PendingCheck where
  context : CheckContext
  outlook : Outlook
  ticket : PolicyTicket

/-- How far a check has come. -/
inductive CheckProgress where
  | decided (outcome : CheckOutcome)
  | reading (pending : PendingCheck)

namespace CheckContext

/-- The key under which the permissions of the subject are kept. -/
def permissionKey (ctx : CheckContext) : PermissionKey where
  tenantId := ctx.request.tenant.id
  subjectKind := ctx.request.subject.kind
  subjectId := ctx.request.subject.id

/-- Whether the code, or everything, is granted to the subject directly. -/
def isGrantedDirectly (ctx : CheckContext) : Bool :=
  ctx.request.subject.directPermissions.any fun p => p = ctx.permission || p = wildcard

/-- The answer to the check. -/
def answer (ctx : CheckContext) (outlook : Outlook) : CheckOutcome where
  result := .ok { allowed := outlook.1, permission := ctx.permission, reason := outlook.2 }

/-- What the permissions of the subject say. -/
def outlook (ctx : CheckContext) (effective : EffectivePermissions) : Outlook :=
  match effective.grantFor ctx.permission with
  | some grant => (true, .granted grant)
  | none => (false, .notGranted)

/-- What policies make of an answer. -/
def judge (ctx : CheckContext) (outlook : Outlook) (policies : List CompiledPolicy) :
    CheckOutcome :=
  let verdict := evaluate ctx.permission ctx policies
  let outlook :=
    match verdict.decision.decidedBy with
    | some (policy, rule) =>
      (verdict.decision.effect.isAllow, .policy policy rule verdict.decision.effect)
    | none => outlook
  { ctx.answer outlook with evaluated := verdict.evaluated }

end CheckContext

namespace Service

/-- A service that keeps nothing yet. -/
def new (capacity : Capacity) (ttl : Duration) (hasPolicies : Bool) : Service where
  cache := { capacity, defaultTtl := ttl }
  policies := if hasPolicies then some {} else none

/-- Go as far with a check as can be gone without reading policies. -/
def begin (load : PermissionLoader) (now : Duration) (ctx : CheckContext) (s : Service) :
    CheckProgress × Service :=
  match Permission.parseConcrete ctx.permission with
  | .error e => (.decided { result := .error e }, s)
  | .ok _ =>
    if ctx.request.subject.isSystem then (.decided (ctx.answer (true, .system)), s)
    else if ctx.isGrantedDirectly then (.decided (ctx.answer (true, .directPermission)), s)
    else
      match PermissionCache.getOrLoad load s.cache ctx.permissionKey none now with
      | (.error e, cache) => (.decided { result := .error e }, { s with cache })
      | (.ok effective, cache) =>
        let s := { s with cache }
        let outlook := ctx.outlook effective
        match s.policies with
        | none => (.decided (ctx.answer outlook), s)
        | some table =>
          match table.lookup ctx.request.tenant.id with
          | .known policies => (.decided (ctx.judge outlook policies), s)
          | .unread ticket => (.reading { context := ctx, outlook, ticket }, s)

/-- Go on with a check when the policies of its tenant have been read. -/
def finish (pending : PendingCheck) (definitions : Except AccessError (List PolicyDefinition))
    (s : Service) : CheckOutcome × Service :=
  match s.policies with
  | none => (pending.context.answer pending.outlook, s)
  | some table =>
    match table.finish pending.ticket definitions with
    | (.error e, table) => ({ result := .error e }, { s with policies := some table })
    | (.ok policies, table) =>
      (pending.context.judge pending.outlook policies, { s with policies := some table })

/-- Decide a check while nothing else happens. -/
def check (load : PermissionLoader) (read : String → Except AccessError (List PolicyDefinition))
    (now : Duration) (ctx : CheckContext) (s : Service) : CheckOutcome × Service :=
  match s.begin load now ctx with
  | (.decided outcome, s) => (outcome, s)
  | (.reading pending, s) => s.finish pending (read ctx.request.tenant.id)

/-- Forget what has been found out about a subject. -/
def invalidateSubject (s : Service) (tenant subject : String) : Nat × Service :=
  let (count, cache) := PermissionCache.invalidateSubject s.cache tenant subject
  (count, { s with cache })

/-- Forget what has been found out about the subjects of a tenant. -/
def invalidateTenant (s : Service) (tenant : String) : Nat × Service :=
  let (count, cache) := PermissionCache.invalidateTenant s.cache tenant
  (count, { s with cache })

/-- Forget the policies of a tenant. -/
def invalidatePolicies (s : Service) (tenant : String) : Service :=
  { s with policies := s.policies.map fun table => table.invalidate tenant }

/-- Forget everything. -/
def clear (s : Service) : Service :=
  { cache := s.cache.clear, policies := s.policies.map PolicyTable.clear }

end Service

end AccessControl
