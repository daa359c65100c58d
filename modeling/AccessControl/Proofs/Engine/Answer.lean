import AccessControl.Engine
import AccessControl.Proofs.Cache.TtlLru
import AccessControl.Proofs.Sequences
/-!
# What the answer to a check depends on

The answer to a check depends on three things only: on the check, on what the engine takes to be the
permissions of the subject, and on what it takes to be the policies of the tenant. What is kept is
taken; where nothing is kept, what is stored.

A check changes what is kept. It never changes what the engine takes to be the policies of any
tenant. Of a subject whose kept permissions were given up for those of another, the engine takes
from then on what its roles say. So the answers of an engine change only if it kept something that
had become wrong. One that has just been built keeps nothing wrong, and checks alone do not change
that (`Engine.settled_through_checks`).
-/
namespace AccessControl

/-! ### Kept permissions -/

namespace PermissionCache

variable (load : PermissionLoader) (c : PermissionCache) (now : Duration)

lemma getOrLoad_fst (key : PermissionKey) (ttl : Option Duration) :
    (getOrLoad load c key ttl now).1 =
      match c.value? key now with
      | some found => .ok found
      | none => load key := by
  have hvalue : c.value? key now = (c.get key now).1 := rfl
  rw [hvalue]
  unfold getOrLoad
  rcases c.get key now with ⟨found | found, c'⟩
  · cases load key <;> rfl
  · rfl

/-- Finding out about one subject changes what is found about others only where something that was
kept is given up. -/
lemma getOrLoad_getOrLoad (key other : PermissionKey) (ttl : Option Duration) :
    (getOrLoad load (getOrLoad load c key ttl now).2 other ttl now).1 =
        (getOrLoad load c other ttl now).1 ∨
      other ≠ key ∧
        (getOrLoad load (getOrLoad load c key ttl now).2 other ttl now).1 = load other := by
  have hget := c.value?_get key other now
  have hvalue : c.value? key now = (c.get key now).1 := rfl
  simp only [getOrLoad_fst]
  unfold getOrLoad
  rcases hc : c.get key now with ⟨found | found, c'⟩
  · rw [hc] at hget hvalue
    cases hload : load key with
    | error e =>
      left
      simp only [hget]
    | ok loaded =>
      -- What was read is kept, and for that the entry of another key may have been given up.
      by_cases hother : other = key
      · subst hother
        left
        simp only [TtlLru.value?_set_self, hvalue, hload]
      · rcases c'.value?_set_of_ne hother loaded ttl now with h | h
        · left
          simp only [h, hget]
        · refine Or.inr ⟨hother, ?_⟩
          simp only [h]
  · rw [hc] at hget
    left
    simp only [hget]

end PermissionCache

/-! ### The result of a check -/

namespace CheckContext

variable (ctx : CheckContext)

/-- The result of a check, given the permissions of the subject and the policies of the tenant. -/
def resultFrom (permissions : Except AccessError EffectivePermissions)
    (policies : Except AccessError (List CompiledPolicy)) : Except AccessError CheckResult := do
  let _ ← Permission.parseConcrete ctx.permission
  if ctx.request.subject.isSystem then (ctx.answer (true, .system)).result
  else if ctx.isGrantedDirectly then (ctx.answer (true, .directPermission)).result
  else
    let effective ← permissions
    let compiled ← policies
    (ctx.judge (ctx.outlook effective) compiled).result

/-- A check that has an answer has it from the kind of the subject, from what is granted directly,
or from the permissions and the policies, which were then found. -/
lemma resultFrom_cases {permissions : Except AccessError EffectivePermissions}
    {policies : Except AccessError (List CompiledPolicy)} {result : CheckResult}
    (h : ctx.resultFrom permissions policies = .ok result) :
    (ctx.answer (true, .system)).result = .ok result ∨
      (ctx.answer (true, .directPermission)).result = .ok result ∨
      ∃ effective compiled, permissions = .ok effective ∧ policies = .ok compiled ∧
        (ctx.judge (ctx.outlook effective) compiled).result = .ok result := by
  unfold resultFrom at h
  obtain ⟨p, -, h⟩ := bind_eq_ok_iff.1 h
  split at h
  · exact Or.inl h
  split at h
  · exact Or.inr (Or.inl h)
  obtain ⟨effective, heffective, h⟩ := bind_eq_ok_iff.1 h
  obtain ⟨compiled, hcompiled, h⟩ := bind_eq_ok_iff.1 h
  exact Or.inr (Or.inr ⟨effective, compiled, heffective, hcompiled, h⟩)

/-- Only the permissions themselves matter, not when they were put together or from which roles. -/
lemma resultFrom_congr {found found' : Except AccessError EffectivePermissions}
    (h : found.map EffectivePermissions.permissions = found'.map EffectivePermissions.permissions)
    (policies : Except AccessError (List CompiledPolicy)) :
    ctx.resultFrom found policies = ctx.resultFrom found' policies := by
  cases found with
  | error e =>
    cases found' with
    | error e' => cases h; rfl
    | ok b => cases h
  | ok a =>
    cases found' with
    | error e' => cases h
    | ok b =>
      have hsame : a.permissions = b.permissions := by simpa [Except.map] using h
      have houtlook : ctx.outlook a = ctx.outlook b := by
        simp only [outlook, EffectivePermissions.grantFor, hsame]
      simp only [resultFrom, bind, Except.bind, houtlook]

end CheckContext

namespace Engine

variable (e : Engine) (ctx : CheckContext)

/-- What the engine takes to be the permissions of a subject. -/
def permissionsOf (key : PermissionKey) : Except AccessError EffectivePermissions :=
  (PermissionCache.getOrLoad e.loader e.service.cache key none e.cacheClock).1

/-- The definitions of a tenant that can be read. -/
def definitionsOf (tenant : String) : Except AccessError (List PolicyDefinition) :=
  match e.policies with
  | none => .ok []
  | some store => (store.read tenant).1

/-- What the engine takes to be the policies of a tenant. -/
def policiesOf (tenant : String) : Except AccessError (List CompiledPolicy) :=
  match e.service.policies with
  | none => .ok []
  | some table =>
    match table.lookup tenant with
    | .known policies => .ok policies
    | .unread _ => (e.definitionsOf tenant).bind PolicyDefinition.compileAll

/-! ### The answer to a check -/

/-- What can be read does not depend on what is kept. -/
lemma definitionsOf_withService (service : Service) (tenant : String) :
    ({ e with service } : Engine).definitionsOf tenant = e.definitionsOf tenant := rfl

lemma readPolicies_id (tenant : String) :
    readPolicies id tenant e =
      (e.definitionsOf tenant,
        { e with policies := e.policies.map fun store => (store.read tenant).2 }) := by
  obtain ⟨settings, service, roles, policies, hierarchy, wallClock, cacheClock, evaluated⟩ := e
  cases policies with
  | none => rfl
  | some store =>
    cases havailable : store.isAvailable <;>
      simp [readPolicies, definitionsOf, PolicyStore.read, havailable]

lemma judge_nil (outlook : Outlook) : ctx.judge outlook [] = ctx.answer outlook := rfl

/-! ### The engine after a check -/

/-- The first engine takes the same policies as the second, and the same permissions or what the
roles say, which is the same for both. -/
structure Follows (e' e : Engine) : Prop where
  loader : e'.loader = e.loader
  policiesOf : ∀ tenant, e'.policiesOf tenant = e.policiesOf tenant
  permissionsOf : ∀ key,
    e'.permissionsOf key = e.permissionsOf key ∨ e'.permissionsOf key = e.loader key

variable {e ctx} {e' e'' : Engine}

lemma Follows.refl (e : Engine) : e.Follows e := ⟨rfl, fun _ => rfl, fun _ => Or.inl rfl⟩

lemma Follows.trans (h' : e''.Follows e') (h : e'.Follows e) : e''.Follows e where
  loader := h'.loader.trans h.loader
  policiesOf tenant := (h'.policiesOf tenant).trans (h.policiesOf tenant)
  permissionsOf key := by
    rcases h'.permissionsOf key with h' | h'
    · rw [h']
      exact h.permissionsOf key
    · rw [h', h.loader]
      exact Or.inr rfl

lemma follows_withCache (key : PermissionKey) {result : Except AccessError EffectivePermissions}
    {cache : PermissionCache}
    (h : PermissionCache.getOrLoad e.loader e.service.cache key none e.cacheClock =
      (result, cache)) : ({ e with service := { e.service with cache } } : Engine).Follows e where
  loader := rfl
  policiesOf _ := rfl
  permissionsOf other := by
    have hother := PermissionCache.getOrLoad_getOrLoad e.loader e.service.cache e.cacheClock key
      other none
    rw [h] at hother
    exact hother.imp_right And.right

lemma lookup_finish {table : PolicyTable} {tenant : String} {ticket : PolicyTicket}
    (hticket : table.lookup tenant = .unread ticket)
    (definitions : Except AccessError (List PolicyDefinition)) (other : String) :
    (table.finish ticket definitions).2.lookup other = table.lookup other ∨
      other = tenant ∧ ∃ policies, definitions.bind PolicyDefinition.compileAll = .ok policies ∧
        (table.finish ticket definitions).2.lookup other = .known policies := by
  have htenant : ticket.tenant = tenant := by
    unfold PolicyTable.lookup at hticket
    dsimp only at hticket
    split at hticket <;> cases hticket
    rfl
  unfold PolicyTable.finish
  cases definitions.bind PolicyDefinition.compileAll with
  | error fault => exact Or.inl rfl
  | ok policies =>
    simp only [PolicyTable.publish]
    split
    · by_cases hother : other = tenant
      · right
        subst hother htenant
        exact ⟨rfl, policies, rfl, by simp [PolicyTable.lookup]⟩
      · left
        rw [← htenant] at hother
        simp [PolicyTable.lookup, PerTenant.get_set_of_ne _ hother]
    · exact Or.inl rfl

lemma follows_finish {table : PolicyTable} {tenant : String} {ticket : PolicyTicket}
    (htable : e.service.policies = some table) (hticket : table.lookup tenant = .unread ticket) :
    ({ e with
        policies := e.policies.map fun store => (store.read tenant).2
        service := { e.service with
          policies := some (table.finish ticket (e.definitionsOf tenant)).2 } } : Engine).Follows
      e where
  loader := rfl
  permissionsOf _ := Or.inl rfl
  policiesOf other := by
    have hread : ({ e with
        policies := e.policies.map fun store => (store.read tenant).2
        service := { e.service with
          policies := some (table.finish ticket (e.definitionsOf tenant)).2 } } :
            Engine).definitionsOf other = e.definitionsOf other := by
      unfold definitionsOf
      cases e.policies <;> rfl
    simp only [Engine.policiesOf, htable, hread]
    rcases lookup_finish hticket (e.definitionsOf tenant) other with h | ⟨rfl, policies, hok, h⟩
    · rw [h]
    · simp only [h, hticket, hok]

lemma follows_record (outcome : CheckOutcome) : (record e outcome).2.Follows e :=
  ⟨rfl, fun _ => rfl, fun _ => Or.inl rfl⟩

/-- The answer to a check depends on nothing else, and what is taken after it is what was taken
before or what the roles say. -/
lemma check_spec (e : Engine) (ctx : CheckContext) :
    (e.check ctx).1 =
        ctx.resultFrom (e.permissionsOf ctx.permissionKey) (e.policiesOf ctx.request.tenant.id) ∧
      (e.check ctx).2.Follows e := by
  unfold check checkAmid Service.begin CheckContext.resultFrom
  cases Permission.parseConcrete ctx.permission with
  | error fault => exact ⟨rfl, follows_record _⟩
  | ok p =>
    by_cases hsystem : ctx.request.subject.isSystem = true
    · simp only [hsystem, if_true]
      exact ⟨rfl, follows_record _⟩
    by_cases hdirect : ctx.isGrantedDirectly = true
    · simp only [hsystem, hdirect, if_true, if_false, Bool.false_eq_true]
      exact ⟨rfl, follows_record _⟩
    have hpermissions : e.permissionsOf ctx.permissionKey =
      (PermissionCache.getOrLoad e.loader e.service.cache ctx.permissionKey none e.cacheClock).1 :=
      rfl
    simp only [hsystem, hdirect, bind, Except.bind, Bool.false_eq_true, if_false, hpermissions]
    rcases hload : PermissionCache.getOrLoad e.loader e.service.cache ctx.permissionKey none
      e.cacheClock with ⟨fault | effective, cache⟩
    · exact ⟨rfl, (follows_record _).trans (follows_withCache _ hload)⟩
    have hcache := follows_withCache _ hload
    -- Of the engine only the cache of permissions has changed so far.
    cases htable : e.service.policies with
    | none =>
      simp only [htable] at hcache
      refine ⟨?_, (follows_record _).trans hcache⟩
      simp [policiesOf, htable, judge_nil, record]
    | some table =>
      simp only [htable] at hcache
      cases hlookup : table.lookup ctx.request.tenant.id with
      | known policies =>
        simp only [policiesOf, htable, hlookup]
        exact ⟨rfl, (follows_record _).trans hcache⟩
      | unread ticket =>
        -- The policies have to be read, and are kept if they can be compiled.
        have hfinish := (follows_finish (e := { e with service := { e.service with cache } })
          htable hlookup).trans (follows_withCache _ hload)
        simp only [policiesOf, readPolicies_id, htable, hlookup, Service.finish,
          PolicyTable.finish, definitionsOf_withService] at hfinish ⊢
        cases hcompile : (e.definitionsOf ctx.request.tenant.id).bind
          PolicyDefinition.compileAll with
        | error fault =>
          simp only [hcompile] at hfinish
          exact ⟨rfl, (follows_record _).trans hfinish⟩
        | ok policies =>
          simp only [hcompile] at hfinish
          exact ⟨rfl, (follows_record _).trans hfinish⟩

/-! ### The engine after checks that are made one after the other -/

/-- What holds of the state after any one check, and goes on from check to check, holds of the state
after some. -/
lemma each_of_step {σ : Type} {check : Checker σ} (After : σ → σ → Prop)
    (hrefl : ∀ s, After s s) (htrans : ∀ {s s' s''}, After s'' s' → After s' s → After s'' s)
    (hstep : ∀ ctx s, After (check ctx s).2 s) (ctxs : List CheckContext) (s : σ) :
    After (Checker.each check ctxs s).2 s := by
  induction ctxs generalizing s with
  | nil => exact hrefl s
  | cons ctx rest ih =>
    have hfirst := hstep ctx s
    unfold Checker.each
    rcases hcheck : check ctx s with ⟨fault | r, s'⟩ <;> rw [hcheck] at hfirst
    · exact hfirst
    · have hrest := htrans (ih s') hfirst
      dsimp only
      split <;> rename_i heach <;> rw [heach] at hrest <;> exact hrest

lemma follows_many (e : Engine) (ctxs : List CheckContext) :
    (Checker.many check ctxs e).2.Follows e :=
  each_of_step Follows .refl Follows.trans (fun ctx e => (check_spec e ctx).2) ctxs e

/-! ### Engines that keep nothing wrong -/

/-- What is kept of the permissions of subjects is what their roles say. -/
def Settled (e : Engine) : Prop :=
  ∀ key, (e.permissionsOf key).map EffectivePermissions.permissions =
    (e.loader key).map EffectivePermissions.permissions

lemma Follows.settled (h : e'.Follows e) (he : e.Settled) : e'.Settled := by
  intro key
  rw [h.loader]
  rcases h.permissionsOf key with h | h
  · rw [h, he key]
  · rw [h]

/-- Where nothing wrong is kept, checks do not change the answers to other checks. -/
lemma Follows.check_fst (h : e'.Follows e) (he : e.Settled) (ctx : CheckContext) :
    (e'.check ctx).1 = (e.check ctx).1 := by
  rw [(check_spec e' ctx).1, (check_spec e ctx).1, h.policiesOf]
  refine ctx.resultFrom_congr ?_ _
  rcases h.permissionsOf ctx.permissionKey with h | h
  · rw [h]
  · rw [h, he]

/-- Nothing has been found out yet. -/
structure KeepsNothing (e : Engine) : Prop where
  permissions : e.service.cache.entries = []
  policies : ∀ table ∈ e.service.policies, ∀ tenant, (table.slots.get tenant).policies = none
  /-- There is a table of policies if there is a store of them. -/
  hasTable : e.policies.isSome → e.service.policies.isSome

lemma KeepsNothing.permissionsOf (he : e.KeepsNothing) (key : PermissionKey) :
    e.permissionsOf key = e.loader key := by
  rw [Engine.permissionsOf, PermissionCache.getOrLoad_fst, TtlLru.value?_eq, TtlLru.find?,
    he.permissions]
  rfl

lemma KeepsNothing.settled (he : e.KeepsNothing) : e.Settled := by
  intro key
  rw [he.permissionsOf]

/-- Policies that have yet to be read are what is stored. -/
lemma policiesOf_of_unread {tenant : String}
    (hunread : ∀ table ∈ e.service.policies, (table.slots.get tenant).policies = none)
    (htable : e.policies.isSome → e.service.policies.isSome) :
    e.policiesOf tenant = (e.definitionsOf tenant).bind PolicyDefinition.compileAll := by
  unfold Engine.policiesOf
  cases hservice : e.service.policies with
  | none =>
    have hnone : e.policies = none := by
      rw [hservice] at htable
      simpa using htable
    have hcompile : PolicyDefinition.compileAll [] = .ok [] := by
      simp [PolicyDefinition.compileAll, Except.map, pure, Except.pure]
    simp only [definitionsOf, hnone, Except.bind, hcompile]
  | some table =>
    simp only [PolicyTable.lookup, hunread table hservice]

lemma KeepsNothing.policiesOf (he : e.KeepsNothing) (tenant : String) :
    e.policiesOf tenant = (e.definitionsOf tenant).bind PolicyDefinition.compileAll :=
  policiesOf_of_unread (fun table htable => he.policies table htable tenant) he.hasTable

lemma keepsNothing_of_build {settings : Settings} {roles : Option RoleSource}
    {policies : Option PolicyStore} {hierarchy : Option HierarchyResolver} {now : Timestamp}
    (h : build settings roles policies hierarchy now = .ok e) : e.KeepsNothing := by
  unfold build at h
  cases hcapacity : settings.check with
  | error fault => simp [hcapacity, bind, Except.bind] at h
  | ok capacity =>
    cases roles with
    | none => simp [hcapacity, bind, Except.bind, throw, throwThe, MonadExceptOf.throw] at h
    | some roles =>
      simp only [hcapacity, bind, Except.bind, pure, Except.pure, Except.ok.injEq] at h
      subst h
      refine ⟨rfl, ?_, ?_⟩
      · intro table htable tenant
        cases policies <;> simp [Service.new] at htable
        subst htable
        rfl
      · cases policies <;> simp [Service.new]

/-- An engine that has just been built keeps nothing wrong, and goes on so through any checks. -/
theorem settled_through_checks {settings : Settings} {roles : Option RoleSource}
    {policies : Option PolicyStore} {hierarchy : Option HierarchyResolver} {now : Timestamp}
    (h : build settings roles policies hierarchy now = .ok e) (ctxs : List CheckContext) :
    (Checker.many check ctxs e).2.Settled := by
  have hbuilt := (keepsNothing_of_build h).settled
  exact (e.follows_many ctxs).settled hbuilt

end Engine

end AccessControl
