import AccessControl.Proofs.Engine.Calls
/-!
# How old the permissions are that a check uses

In the life of an engine calls are made, batches of checks among them, and its roles may become any
others at any time. Whatever happens, the permissions that a check takes its subject to have are
exactly what the roles said about this subject at some earlier moment: no longer ago than
permissions are kept, and not before the subject was last forgotten. What could not be found out is
not kept.

Each of these is one step, and a check finds out about its subject and keeps what it has found in
the same step. A change of the roles, or an invalidation, that arrives while one load is awaited is
left out: such a load goes by the roles from before it, and its result is kept after it. Readings of
policies are split into their beginning and their end, with anything in between (`PolicyTraffic`).
-/
namespace AccessControl

/-- Something that happens in the life of an engine. -/
inductive Happening where
  | call (c : Call)
  | checkMany (ctxs : List CheckContext)
  /-- The roles and bindings become any others, or can be read no longer. -/
  | become (roles : RoleSource)

namespace Happening

/-- The engine after it has happened. -/
def apply : Happening → Engine → Engine
  | call c, e => (c.perform e).2
  | checkMany ctxs, e => (Checker.many Engine.check ctxs e).2
  | become roles, e => { e with roles }

/-- What is kept of the permissions of a subject is forgotten. -/
def Forgets (key : PermissionKey) : Happening → Prop
  | call c => c.Forgets key
  | _ => False

end Happening

namespace Engine

/-- The engine after all this has happened. -/
def live (past : List Happening) (e : Engine) : Engine := past.foldl (fun e x => x.apply e) e

lemma live_concat (past : List Happening) (x : Happening) (e : Engine) :
    e.live (past ++ [x]) = x.apply (e.live past) := by
  simp [live]

/-- The checks of a batch that are made, each with the engine that decides it; none is made after
one that fails. -/
def checksOf : List CheckContext → Engine → List (CheckContext × Engine)
  | [], _ => []
  | ctx :: rest, e =>
    (ctx, e) ::
      match e.check ctx with
      | (.error _, _) => []
      | (.ok _, e') => checksOf rest e'

end Engine

/-- The checks that are made when it happens, each with the engine that decides it. -/
def Happening.checks : Happening → Engine → List (CheckContext × Engine)
  | call (.check ctx), e => [(ctx, e)]
  | checkMany ctxs, e => e.checksOf ctxs
  | _, _ => []

namespace Engine

variable {e e' : Engine} {key : PermissionKey} {entry : CacheEntry EffectivePermissions}
  {past : List Happening} {x : Happening} {ctx : CheckContext}

/-! ### Where kept permissions come from -/

lemma apply_defaultTtl (x : Happening) (e : Engine) :
    (x.apply e).service.cache.defaultTtl = e.service.cache.defaultTtl := by
  cases x with
  | call c => exact c.perform_defaultTtl e
  | checkMany ctxs => exact (e.each_afterChecks ctxs).defaultTtl
  | become roles => rfl

lemma live_defaultTtl (past : List Happening) (e : Engine) :
    (e.live past).service.cache.defaultTtl = e.service.cache.defaultTtl := by
  induction past using List.reverseRecOn with
  | nil => rfl
  | append_singleton past x ih => rw [live_concat, apply_defaultTtl, ih]

lemma apply_entry (h : (x.apply e).service.cache.find? key = some entry) :
    ¬x.Forgets key ∧ (e.service.cache.find? key = some entry ∨ e.Loads key entry) := by
  cases x with
  | call c => exact Call.perform_entry h
  | checkMany ctxs => exact ⟨not_false, (e.each_afterChecks ctxs).entry key entry h⟩
  | become roles => exact ⟨not_false, Or.inl h⟩

/-- What is kept of a subject is what the roles said about it at some moment since which it has not
been forgotten. -/
lemma exists_moment_of_entry (he : e.service.cache.entries = [])
    (h : (e.live past).service.cache.find? key = some entry) :
    ∃ before after, past = before ++ after ∧ (e.live before).Loads key entry ∧
      ∀ y ∈ after, ¬y.Forgets key := by
  induction past using List.reverseRecOn with
  | nil =>
    have hnone : e.service.cache.find? key = none := by rw [TtlLru.find?, he]; rfl
    cases hnone.symm.trans h
  | append_singleton past x ih =>
    rw [live_concat] at h
    obtain ⟨hforgets, hfound | hloads⟩ := apply_entry h
    · obtain ⟨before, after, rfl, hloads, hafter⟩ := ih hfound
      refine ⟨before, after ++ [x], List.append_assoc _ _ _, hloads, fun y hy => ?_⟩
      rcases List.mem_append.1 hy with hy | hy
      · exact hafter y hy
      · rw [List.mem_singleton.1 hy]
        exact hforgets
    · refine ⟨past, [x], rfl, hloads, fun y hy => ?_⟩
      rw [List.mem_singleton.1 hy]
      exact hforgets

/-! ### What a check uses -/

/-- When a subject cannot be found out about, nothing is left of it after the check that counts. -/
lemma value?_check_of_error {fault : AccessError} (h : e.permissionsOf key = .error fault)
    (ctx : CheckContext) {now : Duration} (hnow : e.cacheClock ≤ now) :
    (e.check ctx).2.service.cache.value? key now = none := by
  obtain ⟨hload, hvalue⟩ := permissionsOf_eq_error h
  rw [Option.eq_none_iff_forall_ne_some]
  intro v hv
  obtain ⟨entry, hfound, hcounts, -⟩ := TtlLru.value?_eq_some_iff.1 hv
  rcases (e.check_afterChecks ctx).entry key entry hfound with hfound | hloads
  · have hsome := TtlLru.value?_eq_some_iff.2 ⟨entry, hfound, le_trans hnow hcounts, rfl⟩
    cases hvalue.symm.trans hsome
  · cases hload.symm.trans hloads.value

/-- Every check of a batch is decided by the engine after the checks before it. -/
lemma afterChecks_of_mem_checksOf {ctxs : List CheckContext} (h : (ctx, e') ∈ e.checksOf ctxs) :
    e'.AfterChecks e := by
  induction ctxs generalizing e with
  | nil => cases h
  | cons first rest ih =>
    rw [checksOf] at h
    rcases List.mem_cons.1 h with h | h
    · cases h
      exact .refl _
    · have hfirst := e.check_afterChecks first
      rcases hcheck : e.check first with ⟨fault | r, e₁⟩ <;> rw [hcheck] at h hfirst
      · cases h
      · exact (ih h).trans hfirst

lemma afterChecks_of_mem_checks (h : (ctx, e') ∈ x.checks e) : e'.AfterChecks e := by
  cases x with
  | call c =>
    cases c with
    | check ctx' =>
      cases List.mem_singleton.1 h
      exact .refl _
    | _ => cases h
  | checkMany ctxs => exact afterChecks_of_mem_checksOf h
  | become roles => cases h

lemma loader_subject {effective : EffectivePermissions} (h : e.loader key = .ok effective) :
    effective.tenantId = key.tenantId ∧ effective.subjectKind = key.subjectKind ∧
      effective.subjectId = key.subjectId := by
  obtain ⟨bindings, -, h⟩ := bind_eq_ok_iff.1 h
  obtain ⟨roles, -, h⟩ := bind_eq_ok_iff.1 h
  cases h
  exact ⟨rfl, rfl, rfl⟩

/-- What an engine after checks takes a subject to have is what the roles said at a moment no longer
ago than permissions are kept, and since which the subject has not been forgotten. -/
lemma exists_moment_of_permissionsOf (he : e.service.cache.entries = [])
    (hchecks : e'.AfterChecks (e.live past)) {effective : EffectivePermissions}
    (h : e'.permissionsOf key = .ok effective) :
    ∃ before after, past = before ++ after ∧ (e.live before).loader key = .ok effective ∧
      (∀ y ∈ after, ¬y.Forgets key) ∧
        e'.cacheClock ≤ (e.live before).cacheClock + e.service.cache.defaultTtl := by
  have hentry : ∃ entry,
      ((e.live past).service.cache.find? key = some entry ∨ (e.live past).Loads key entry) ∧
        e'.cacheClock ≤ entry.expiresAt ∧ entry.value = effective := by
    rcases permissionsOf_eq_ok h with ⟨entry, hfound, hcounts, hvalue⟩ | hload
    · exact ⟨entry, hchecks.entry key entry hfound, hcounts, hvalue⟩
    · -- What the roles say now might be kept for no time at all.
      refine ⟨⟨effective, e'.cacheClock, e'.cacheClock⟩, Or.inr ⟨?_, ?_⟩, le_rfl, rfl⟩
      · rw [← hchecks.loader, hload]
      · rw [hchecks.cacheClock]
        exact Nat.le_add_right _ _
  obtain ⟨entry, horigin, hcounts, rfl⟩ := hentry
  obtain ⟨before, after, hpast, hloads, hafter⟩ : ∃ before after, past = before ++ after ∧
      (e.live before).Loads key entry ∧ ∀ y ∈ after, ¬y.Forgets key := by
    rcases horigin with hfound | hloads
    · exact exists_moment_of_entry he hfound
    · exact ⟨past, [], (List.append_nil past).symm, hloads, nofun⟩
  refine ⟨before, after, hpast, hloads.value, hafter, le_trans hcounts ?_⟩
  rw [← live_defaultTtl before e]
  exact hloads.expiresAt

/-- Whatever has happened, a check goes by permissions that the roles gave to exactly its subject at
a moment no longer ago than permissions are kept, and since which the subject has not been
forgotten. If it is an error that it goes by, the roles cannot be read now, and nothing is kept that
a later check could use. -/
theorem permissions_from_recent_moment (he : e.KeepsNothing)
    (hasked : (ctx, e') ∈ x.checks (e.live past)) :
    (e'.check ctx).1 = ctx.resultFrom (e'.permissionsOf ctx.permissionKey)
        (e'.policiesOf ctx.request.tenant.id) ∧
      (∀ fault, e'.permissionsOf ctx.permissionKey = .error fault →
        (e.live past).loader ctx.permissionKey = .error fault ∧
          ∀ now, e'.cacheClock ≤ now →
            (e'.check ctx).2.service.cache.value? ctx.permissionKey now = none) ∧
      ∀ effective, e'.permissionsOf ctx.permissionKey = .ok effective →
        effective.tenantId = ctx.request.tenant.id ∧
        effective.subjectKind = ctx.request.subject.kind ∧
        effective.subjectId = ctx.request.subject.id ∧
        ∃ before after, past = before ++ after ∧
          (e.live before).loader ctx.permissionKey = .ok effective ∧
          (∀ y ∈ after, ¬y.Forgets ctx.permissionKey) ∧
          e'.cacheClock ≤ (e.live before).cacheClock + e.service.cache.defaultTtl := by
  have hchecks := afterChecks_of_mem_checks hasked
  refine ⟨(check_spec e' ctx).1, fun fault hfault => ⟨?_, ?_⟩, fun effective heffective => ?_⟩
  · rw [← hchecks.loader]
    exact (permissionsOf_eq_error hfault).1
  · exact fun now => value?_check_of_error hfault ctx
  · obtain ⟨before, after, hpast, hload, hafter, hclock⟩ :=
      exists_moment_of_permissionsOf he.permissions hchecks heffective
    obtain ⟨htenant, hkind, hsubject⟩ := loader_subject hload
    exact ⟨htenant, hkind, hsubject, before, after, hpast, hload, hafter, hclock⟩

/-! An engine that keeps permissions for two seconds. A clerk may read orders for one second. -/

def midnight : Timestamp := ⟨2024, 1, 1, 0, 0, 0⟩

def oneSecondLater : Timestamp := ⟨2024, 1, 1, 1, 0, 0⟩

def clerkRole : Role where
  id := "clerk"
  tenantId := "t"
  name := "clerk"
  kind := .custom
  status := .active
  permissions := ["order:read"]
  inherits := []
  createdAt := midnight
  updatedAt := midnight

def clerkEngine : Engine where
  settings := {}
  service := .new ⟨1, Nat.one_pos⟩ (.ofSeconds 2) false
  roles := .fixed {
    roles := [clerkRole]
    bindings := [⟨"x", "t", "clerk", .user, "u", some oneSecondLater, midnight⟩] }
  policies := none
  hierarchy := none
  wallClock := midnight

def readByClerk : CheckContext where
  request := { tenant := { id := "t" }, subject := { id := "u", kind := .user } }
  resource := "order"
  action := "read"

def clerkPermissions : EffectivePermissions where
  tenantId := "t"
  subjectId := "u"
  subjectKind := .user
  roles := ["clerk"]
  permissions := .ofList ["order:read"]
  computedAt := midnight

lemma clerkEngine_keepsNothing : clerkEngine.KeepsNothing := ⟨rfl, nofun, nofun⟩

lemma clerkEngine_loader :
    clerkEngine.loader readByClerk.permissionKey = .ok clerkPermissions := by
  have hreached : (clerkEngine.roles.directory "t").reached ["clerk"] = ["clerk"] := by
    simp [RoleDirectory.reached, Graph.preorder, Graph.walk, RoleDirectory.activeGraph,
      RoleDirectory.graph, RoleDirectory.role?, RoleSource.directory, FixedRoles.directory,
      FixedRoles.role?, clerkEngine, clerkRole]
  have hcontributors : (clerkEngine.roles.directory "t").contributors ["clerk"] =
      .ok [clerkRole] := by
    rw [RoleDirectory.contributors, hreached]
    rfl
  show (clerkEngine.roles.directory "t").effectivePermissions "t" .user "u" midnight = _
  unfold RoleDirectory.effectivePermissions
  show ((clerkEngine.roles.directory "t").contributors ["clerk"] >>= _) = _
  rw [hcontributors]
  rfl

lemma clerkEngine_check_entries :
    (clerkEngine.check readByClerk).2.service.cache.entries =
      [(readByClerk.permissionKey, .ofValue clerkPermissions 0 (.ofSeconds 2))] := by
  have hcode : Permission.parseConcrete readByClerk.permission = .ok ⟨"order", "read"⟩ := rfl
  have hsystem : readByClerk.request.subject.isSystem = false := rfl
  have hdirect : readByClerk.isGrantedDirectly = false := rfl
  unfold check checkAmid Service.begin PermissionCache.getOrLoad
  simp only [hcode, hsystem, hdirect, if_false, Bool.false_eq_true, clerkEngine_loader]
  rfl

/-- For two seconds after a first check the clerk is taken to have the same permissions. -/
lemma clerkEngine_permissionsOf {e : Engine}
    (hcache : e.service.cache = (clerkEngine.check readByClerk).2.service.cache)
    (hclock : e.cacheClock ≤ .ofSeconds 2) :
    e.permissionsOf readByClerk.permissionKey = .ok clerkPermissions := by
  have hvalue : e.service.cache.value? readByClerk.permissionKey e.cacheClock =
      some clerkPermissions := by
    refine TtlLru.value?_eq_some_iff.2
      ⟨.ofValue clerkPermissions 0 (.ofSeconds 2), ?_, le_trans hclock ?_, rfl⟩
    · rw [hcache, TtlLru.find?, clerkEngine_check_entries]
      rfl
    · decide
  rw [permissionsOf_eq, hvalue]

/-- After a first check the bindings are lost, and two seconds pass. -/
def bindingsLostAfterCheck : List Happening :=
  [.call (.check readByClerk), .become (.fixed { bindingsLost := true }),
    .call (.wait (.ofSeconds 2) oneSecondLater)]

theorem permissions_used_after_bindings_lost :
    clerkEngine.KeepsNothing ∧
      (readByClerk, clerkEngine.live bindingsLostAfterCheck) ∈
        (Happening.call (.check readByClerk)).checks (clerkEngine.live bindingsLostAfterCheck) ∧
      (∃ fault, (clerkEngine.live bindingsLostAfterCheck).loader readByClerk.permissionKey =
        .error fault) ∧
      (clerkEngine.live bindingsLostAfterCheck).permissionsOf readByClerk.permissionKey =
        .ok clerkPermissions ∧
      ∃ before after, bindingsLostAfterCheck = before ++ after ∧
        (clerkEngine.live before).loader readByClerk.permissionKey = .ok clerkPermissions := by
  have hasked : (readByClerk, clerkEngine.live bindingsLostAfterCheck) ∈
      (Happening.call (.check readByClerk)).checks (clerkEngine.live bindingsLostAfterCheck) :=
    List.mem_singleton.2 rfl
  have hkept : (clerkEngine.live bindingsLostAfterCheck).permissionsOf readByClerk.permissionKey =
      .ok clerkPermissions := by
    refine clerkEngine_permissionsOf rfl ?_
    have hclock := (clerkEngine.check_afterChecks readByClerk).cacheClock
    show (clerkEngine.check readByClerk).2.cacheClock + _ ≤ _
    rw [hclock]
    decide
  obtain ⟨-, -, hmoment⟩ := permissions_from_recent_moment clerkEngine_keepsNothing hasked
  obtain ⟨-, -, -, before, after, hpast, hload, -⟩ := hmoment clerkPermissions hkept
  exact ⟨clerkEngine_keepsNothing, hasked, ⟨_, rfl⟩, hkept, before, after, hpast, hload⟩

end Engine

end AccessControl
