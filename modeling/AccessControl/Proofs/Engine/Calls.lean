import AccessControl.Proofs.Engine.Answer
import AccessControl.Proofs.Role.Changes
/-!
# An engine in use

A call asks one thing of an engine for one tenant, or lets everything be forgotten, or lets time
pass. What calls leave alone is said here once. Checks change nothing but what is kept, and what is
kept of a subject after a call was kept before it, or is what the roles said when the call was made.
A call that forgets a subject leaves nothing kept of it.
-/
namespace AccessControl

/-! ### Calls -/

/-- A question about the roles and bindings of a tenant. -/
inductive RoleQuery where
  | role (id : String)
  | roles (filter : RoleFilter)
  | bindings (kind : SubjectKind) (subjectId : String)

/-- What somebody gets to see of a call. -/
inductive Answer where
  | check (result : Except AccessError CheckResult)
  | change (result : Except AccessError RoleAnswer)
  | role (found : Except AccessError (Option Role))
  | roles (found : Except AccessError (List Role))
  | bindings (found : Except AccessError (List Binding))

/-- The answer to a question about roles and bindings. -/
def RoleQuery.answer (d : RoleDirectory) : RoleQuery → Answer
  | role id => .role (d.lookup id)
  | roles filter => .roles (d.list filter)
  | bindings kind subjectId => .bindings (d.bindings kind subjectId)

/-- Something that is asked of an engine. -/
inductive Call where
  | check (ctx : CheckContext)
  | change (c : RoleChange)
  | query (tenant : String) (q : RoleQuery)
  | putPolicies (tenant : String) (definitions : List PolicyDefinition)
  | addPolicy (tenant : String) (definition : PolicyDefinition)
  | invalidateSubject (tenant subject : String)
  | invalidateTenant (tenant : String)
  | invalidatePolicies (tenant : String)
  | clearCache
  /-- Time passes for what is cached, and then it is some time by the wall clock. -/
  | wait (d : Duration) (wallClock : Timestamp)

namespace Call

/-- What is seen of the call, if anything, and the engine after it. -/
def perform : Call → Engine → Option Answer × Engine
  | check ctx, e =>
    let (result, e) := e.check ctx
    (some (.check result), e)
  | change c, e =>
    let (result, e) := e.changeRoles fun hooks s => c.ask hooks s
    (some (.change result), e)
  | query tenant q, e => (some (q.answer (e.roles.directory tenant)), e)
  | putPolicies tenant definitions, e =>
    (none, e.changePolicies fun store => store.put tenant definitions)
  | addPolicy tenant definition, e =>
    (none, e.changePolicies fun store => store.add tenant definition)
  | invalidateSubject tenant subject, e => (none, (e.invalidateSubject tenant subject).2)
  | invalidateTenant tenant, e => (none, (e.invalidateTenant tenant).2)
  | invalidatePolicies tenant, e => (none, e.invalidatePolicies tenant)
  | clearCache, e => (none, e.clearCache)
  | wait d wallClock, e => (none, { e.advance d with wallClock })

/-- The call lets what is kept of the permissions of a subject be forgotten. -/
def Forgets (key : PermissionKey) : Call → Prop
  | invalidateSubject tenant subject => key.tenantId = tenant ∧ key.subjectId = subject
  | invalidateTenant tenant => key.tenantId = tenant
  | clearCache => True
  | _ => False

end Call

/-! ### Checks -/

namespace PermissionCache

variable {load : PermissionLoader} {c : PermissionCache} {key other : PermissionKey}
  {ttl : Option Duration} {now : Duration}

/-- The subject is looked up, and what the loader may have said about it is then set. -/
lemma getOrLoad_snd (load : PermissionLoader) (c : PermissionCache) (key : PermissionKey)
    (ttl : Option Duration) (now : Duration) :
    (getOrLoad load c key ttl now).2 = (c.get key now).2 ∨
      ∃ loaded, load key = .ok loaded ∧
        (getOrLoad load c key ttl now).2 = (c.get key now).2.set key loaded ttl now := by
  unfold getOrLoad
  rcases c.get key now with ⟨_ | found, c'⟩
  · cases hload : load key with
    | error fault => exact Or.inl rfl
    | ok loaded => exact Or.inr ⟨loaded, rfl, rfl⟩
  · exact Or.inl rfl

lemma defaultTtl_getOrLoad : (getOrLoad load c key ttl now).2.defaultTtl = c.defaultTtl := by
  rcases getOrLoad_snd load c key ttl now with h | ⟨loaded, -, h⟩
  · rw [h, TtlLru.defaultTtl_get]
  · rw [h, TtlLru.defaultTtl_set, TtlLru.defaultTtl_get]

/-- What is kept of a subject was kept before, or is what the loader says. -/
lemma find?_getOrLoad {entry : CacheEntry EffectivePermissions}
    (hfound : (getOrLoad load c key ttl now).2.find? other = some entry) :
    c.find? other = some entry ∨
      load other = .ok entry.value ∧
        entry = .ofValue entry.value now (ttl.getD c.defaultTtl) := by
  rcases getOrLoad_snd load c key ttl now with h | ⟨loaded, hload, h⟩
  · rw [h] at hfound
    exact Or.inl (TtlLru.find?_get_eq_some hfound)
  · rw [h] at hfound
    by_cases hother : other = key
    · subst hother
      rw [TtlLru.find?_set_self, TtlLru.defaultTtl_get] at hfound
      cases hfound
      exact Or.inr ⟨hload, rfl⟩
    · -- What is kept of another subject is the same, or was given up.
      rcases (c.get key now).2.find?_set_of_ne hother loaded ttl now with hsame | hnone
      · exact Or.inl (TtlLru.find?_get_eq_some (hsame.symm.trans hfound))
      · cases hnone.symm.trans hfound

lemma find?_invalidateSubject {tenant subject : String} {entry : CacheEntry EffectivePermissions}
    (h : (invalidateSubject c tenant subject).2.find? key = some entry) :
    ¬(key.tenantId = tenant ∧ key.subjectId = subject) ∧ c.find? key = some entry := by
  rw [invalidateSubject, TtlLru.find?_removeWhere] at h
  split at h
  · cases h
  · rename_i htest
    exact ⟨by simpa using htest, h⟩

lemma find?_invalidateTenant {tenant : String} {entry : CacheEntry EffectivePermissions}
    (h : (invalidateTenant c tenant).2.find? key = some entry) :
    key.tenantId ≠ tenant ∧ c.find? key = some entry := by
  rw [invalidateTenant, TtlLru.find?_removeWhere] at h
  split at h
  · cases h
  · rename_i htest
    exact ⟨by simpa using htest, h⟩

end PermissionCache

namespace Service

variable (load : PermissionLoader) (now : Duration) (ctx : CheckContext) (s : Service)

/-- A check may find out about its subject, and until policies are read it changes nothing else. -/
lemma begin_snd :
    (s.begin load now ctx).2 = s ∨
      (s.begin load now ctx).2 =
        { s with
          cache := (PermissionCache.getOrLoad load s.cache ctx.permissionKey none now).2 } := by
  unfold «begin»
  cases Permission.parseConcrete ctx.permission with
  | error fault => exact Or.inl rfl
  | ok p =>
    by_cases hsystem : ctx.request.subject.isSystem = true
    · exact Or.inl (by simp [hsystem])
    by_cases hdirect : ctx.isGrantedDirectly = true
    · exact Or.inl (by simp [hsystem, hdirect])
    right
    simp only [hsystem, hdirect, if_false, Bool.false_eq_true]
    rcases PermissionCache.getOrLoad load s.cache ctx.permissionKey none now with
      ⟨fault | effective, cache⟩
    · rfl
    · cases s.policies with
      | none => rfl
      | some table =>
        dsimp only
        cases table.lookup ctx.request.tenant.id <;> rfl

lemma begin_snd_cache :
    (s.begin load now ctx).2.cache = s.cache ∨
      (s.begin load now ctx).2.cache =
        (PermissionCache.getOrLoad load s.cache ctx.permissionKey none now).2 := by
  rcases s.begin_snd load now ctx with h | h
  · exact Or.inl (congrArg Service.cache h)
  · exact Or.inr (congrArg Service.cache h)

/-- When policies have been read, what is kept of subjects stays as it is. -/
lemma finish_snd_cache (pending : PendingCheck)
    (definitions : Except AccessError (List PolicyDefinition)) :
    (s.finish pending definitions).2.cache = s.cache := by
  unfold finish
  split
  · rfl
  · split <;> rfl

lemma finish_snd_policies (pending : PendingCheck)
    (definitions : Except AccessError (List PolicyDefinition)) :
    (s.finish pending definitions).2.policies.isSome = s.policies.isSome := by
  unfold finish
  cases htable : s.policies with
  | none => rw [htable]
  | some table =>
    dsimp only
    split <;> rfl

end Service

/-- A store of policies apart from how often it has been read. -/
def PolicyStore.unread (s : PolicyStore) : PolicyStore := { s with reads := 0 }

namespace Engine

/-- The entry may be kept of the subject from now on: it holds what the roles say. -/
structure Loads (e : Engine) (key : PermissionKey) (entry : CacheEntry EffectivePermissions) :
    Prop where
  value : e.loader key = .ok entry.value
  expiresAt : entry.expiresAt ≤ e.cacheClock + e.service.cache.defaultTtl

/-- The first engine is the second after checks and nothing else. -/
structure AfterChecks (e' e : Engine) : Prop where
  roles : e'.roles = e.roles
  policies : e'.policies.map PolicyStore.unread = e.policies.map PolicyStore.unread
  wallClock : e'.wallClock = e.wallClock
  cacheClock : e'.cacheClock = e.cacheClock
  defaultTtl : e'.service.cache.defaultTtl = e.service.cache.defaultTtl
  table : e'.service.policies.isSome = e.service.policies.isSome
  entry : ∀ key entry, e'.service.cache.find? key = some entry →
    e.service.cache.find? key = some entry ∨ e.Loads key entry

variable {e e' e'' : Engine} {key : PermissionKey} {entry : CacheEntry EffectivePermissions}

lemma loader_congr (hroles : e'.roles = e.roles) (hclock : e'.wallClock = e.wallClock) :
    e'.loader = e.loader := by
  unfold loader
  rw [hroles, hclock]

namespace AfterChecks

lemma refl (e : Engine) : e.AfterChecks e := ⟨rfl, rfl, rfl, rfl, rfl, rfl, fun _ _ => Or.inl⟩

lemma loader (h : e'.AfterChecks e) : e'.loader = e.loader := loader_congr h.roles h.wallClock

lemma loads (h : e'.AfterChecks e) (hloads : e'.Loads key entry) : e.Loads key entry where
  value := by rw [← h.loader, hloads.value]
  expiresAt := by rw [← h.cacheClock, ← h.defaultTtl]; exact hloads.expiresAt

lemma trans (h' : e''.AfterChecks e') (h : e'.AfterChecks e) : e''.AfterChecks e where
  roles := h'.roles.trans h.roles
  policies := h'.policies.trans h.policies
  wallClock := h'.wallClock.trans h.wallClock
  cacheClock := h'.cacheClock.trans h.cacheClock
  defaultTtl := h'.defaultTtl.trans h.defaultTtl
  table := h'.table.trans h.table
  entry key entry hfound := by
    rcases h'.entry key entry hfound with hfound | hloads
    · exact h.entry key entry hfound
    · exact Or.inr (h.loads hloads)

end AfterChecks

/-- A service that differs from that of an engine by what may have been found out about one subject
is that of the engine after checks. -/
lemma afterChecks_of_cache {service : Service} {policies : Option PolicyStore}
    {evaluated : List String} (key : PermissionKey)
    (hcache : service.cache = e.service.cache ∨
      service.cache =
        (PermissionCache.getOrLoad e.loader e.service.cache key none e.cacheClock).2)
    (htable : service.policies.isSome = e.service.policies.isSome)
    (hpolicies : policies.map PolicyStore.unread = e.policies.map PolicyStore.unread) :
    ({ e with service, policies, evaluated } : Engine).AfterChecks e where
  roles := rfl
  policies := hpolicies
  wallClock := rfl
  cacheClock := rfl
  defaultTtl := by
    rcases hcache with h | h
    · exact congrArg TtlLru.defaultTtl h
    · exact (congrArg TtlLru.defaultTtl h).trans PermissionCache.defaultTtl_getOrLoad
  table := htable
  entry other entry hfound := by
    replace hfound : service.cache.find? other = some entry := hfound
    rcases hcache with h | h
    · rw [h] at hfound
      exact Or.inl hfound
    · rw [h] at hfound
      refine (PermissionCache.find?_getOrLoad hfound).imp_right fun ⟨hvalue, hentry⟩ => ⟨hvalue, ?_⟩
      rw [hentry]
      exact Nat.add_le_add_left (Nat.min_le_left _ _) _

lemma check_afterChecks (e : Engine) (ctx : CheckContext) : (e.check ctx).2.AfterChecks e := by
  have hcache := e.service.begin_snd_cache e.loader e.cacheClock ctx
  have htable : (e.service.begin e.loader e.cacheClock ctx).2.policies.isSome =
      e.service.policies.isSome := by
    rcases e.service.begin_snd e.loader e.cacheClock ctx with h | h <;> rw [h]
  unfold check checkAmid
  rcases hstart : e.service.begin e.loader e.cacheClock ctx with ⟨outcome | pending, service⟩ <;>
    rw [hstart] at hcache htable
  · exact afterChecks_of_cache ctx.permissionKey hcache htable rfl
  · -- What is kept of subjects has been settled before policies are read.
    simp only [readPolicies_id, record]
    refine afterChecks_of_cache ctx.permissionKey ?_ ?_ ?_
    · rw [Service.finish_snd_cache]
      exact hcache
    · rw [Service.finish_snd_policies]
      exact htable
    · cases e.policies <;> rfl

/-- What is kept of subjects after a check is what the check began with, and what it found out. -/
lemma check_snd_cache (e : Engine) (ctx : CheckContext) :
    (e.check ctx).2.service.cache = (e.service.begin e.loader e.cacheClock ctx).2.cache := by
  unfold check checkAmid
  rcases e.service.begin e.loader e.cacheClock ctx with ⟨outcome | pending, service⟩
  · rfl
  · simp only [readPolicies_id, record]
    exact Service.finish_snd_cache _ _ _

lemma each_afterChecks (e : Engine) (ctxs : List CheckContext) :
    (Checker.each check ctxs e).2.AfterChecks e :=
  each_of_step AfterChecks .refl AfterChecks.trans (fun ctx e => e.check_afterChecks ctx) ctxs e

lemma permissionsOf_eq (e : Engine) (key : PermissionKey) :
    e.permissionsOf key =
      match e.service.cache.value? key e.cacheClock with
      | some found => .ok found
      | none => e.loader key :=
  PermissionCache.getOrLoad_fst _ _ _ _ _

/-- The permissions that are used are kept and still count, or are what the roles say now. -/
lemma permissionsOf_eq_ok {effective : EffectivePermissions}
    (h : e.permissionsOf key = .ok effective) :
    (∃ entry, e.service.cache.find? key = some entry ∧ e.cacheClock ≤ entry.expiresAt ∧
      entry.value = effective) ∨ e.loader key = .ok effective := by
  rw [permissionsOf_eq] at h
  cases hvalue : e.service.cache.value? key e.cacheClock with
  | none =>
    rw [hvalue] at h
    exact Or.inr h
  | some found =>
    rw [hvalue] at h
    cases h
    exact Or.inl (TtlLru.value?_eq_some_iff.1 hvalue)

lemma permissionsOf_eq_error {fault : AccessError} (h : e.permissionsOf key = .error fault) :
    e.loader key = .error fault ∧ e.service.cache.value? key e.cacheClock = none := by
  rw [permissionsOf_eq] at h
  cases hvalue : e.service.cache.value? key e.cacheClock with
  | none =>
    rw [hvalue] at h
    exact ⟨h, rfl⟩
  | some found =>
    rw [hvalue] at h
    cases h

end Engine

/-! ### What calls leave alone -/

namespace Call

open Engine

variable {c : Call} {e : Engine} {key : PermissionKey} {entry : CacheEntry EffectivePermissions}

lemma perform_defaultTtl (c : Call) (e : Engine) :
    (c.perform e).2.service.cache.defaultTtl = e.service.cache.defaultTtl := by
  cases c with
  | check ctx => exact (e.check_afterChecks ctx).defaultTtl
  | _ => rfl

/-- What is kept of a subject after a call was kept before and has not been forgotten, or is what
the roles said when the call was made. -/
lemma perform_entry (h : (c.perform e).2.service.cache.find? key = some entry) :
    ¬c.Forgets key ∧ (e.service.cache.find? key = some entry ∨ e.Loads key entry) := by
  cases c with
  | check ctx => exact ⟨not_false, (e.check_afterChecks ctx).entry key entry h⟩
  | invalidateSubject tenant subject =>
    obtain ⟨hother, hfound⟩ := PermissionCache.find?_invalidateSubject h
    exact ⟨hother, Or.inl hfound⟩
  | invalidateTenant tenant =>
    obtain ⟨hother, hfound⟩ := PermissionCache.find?_invalidateTenant h
    exact ⟨hother, Or.inl hfound⟩
  | clearCache => cases h
  | _ => exact ⟨not_false, Or.inl h⟩

end Call

end AccessControl
