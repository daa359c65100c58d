import AccessControl.Proofs.Engine.Calls
import AccessControl.Proofs.Role.Expansion
/-!
# One tenant of an engine

What is stored of a tenant is changed by its own changes alone, and in the same way whatever else is
stored. What is kept of it may be given up at any time on account of others, but as long as nothing
outdated is kept, a call that changes nothing of the tenant leaves it so. Then what a tenant gets to
see of a call depends on what is stored of it and on the time.
-/
namespace AccessControl

/-! ### What is stored of one tenant -/

/-- The store with what it has of one tenant only. -/
def RoleStore.only (tenant : String) (s : RoleStore) : RoleStore :=
  modify {} tenant fun _ => s.tenants.get tenant

/-- The source with what it has of one tenant only; fixed lists stay as they are. -/
def RoleSource.only (tenant : String) : RoleSource → RoleSource
  | store hooks s => store hooks (s.only tenant)
  | fixed f => fixed f

/-- The store with what it has of one tenant only, and not yet read. -/
def PolicyStore.only (tenant : String) (s : PolicyStore) : PolicyStore where
  tenants := PerTenant.set {} tenant (s.tenants.get tenant)
  isAvailable := s.isAvailable

namespace RoleChange

variable {hooks : Lifecycle Role} {s s' : RoleStore} {tenant : String}

/-- The answer to a change, and what it makes of its tenant, depend on what is stored of this tenant
only. -/
lemma ask_congr (hooks : Lifecycle Role) {c : RoleChange}
    (h : s'.tenants.get c.tenant = s.tenants.get c.tenant) :
    (c.ask hooks s').1 = (c.ask hooks s).1 ∧
      (c.ask hooks s').2.tenants.get c.tenant = (c.ask hooks s).2.tenants.get c.tenant := by
  cases c <;>
    simp only [RoleChange.tenant] at h <;>
    simp only [ask, RoleAnswer.ofOutcome, RoleStore.create, RoleStore.update, RoleStore.delete,
      RoleStore.bind, RoleStore.unbind, RoleStore.modify, RoleChange.tenant, h] <;>
    split <;> simp [h]

lemma ask_of_ne {c : RoleChange} (htenant : tenant ≠ c.tenant) (s : RoleStore) :
    (c.ask hooks s).2.tenants.get tenant = s.tenants.get tenant := by
  rw [ask_snd]
  rcases c.apply_spec hooks s with h | ⟨p, -, h⟩
  · rw [h]
  · rw [h, RoleStore.modify, PerTenant.get_set_of_ne _ htenant]

end RoleChange

namespace RoleSource

variable {tenant : String} {source source' : RoleSource}

lemma directory_only (tenant : String) (source : RoleSource) :
    (source.only tenant).directory tenant = source.directory tenant := by
  cases source with
  | store hooks s => simp [only, directory, RoleStore.directory, RoleStore.only, RoleStore.modify]
  | fixed f => rfl

lemma directory_congr (h : source'.only tenant = source.only tenant) :
    source'.directory tenant = source.directory tenant := by
  rw [← directory_only, h, directory_only]

lemma only_store_iff {hooks hooks' : Lifecycle Role} {s s' : RoleStore} :
    (store hooks' s').only tenant = (store hooks s).only tenant ↔
      hooks' = hooks ∧ s'.tenants.get tenant = s.tenants.get tenant := by
  simp only [only, RoleStore.only, RoleStore.modify, store.injEq, RoleStore.mk.injEq]
  refine and_congr_right fun _ => ⟨fun h => ?_, fun h => by rw [h]⟩
  have hget := congrArg (PerTenant.get · tenant) h
  simpa using hget

/-- The answer to a change of a tenant, and what it makes of the tenant, depend on what is stored of
it only. -/
lemma change_congr {c : RoleChange} (h : source'.only c.tenant = source.only c.tenant) :
    (source'.change fun hooks s => c.ask hooks s).1 =
        (source.change fun hooks s => c.ask hooks s).1 ∧
      (source'.change fun hooks s => c.ask hooks s).2.only c.tenant =
        (source.change fun hooks s => c.ask hooks s).2.only c.tenant := by
  cases source with
  | store hooks s =>
    cases source' with
    | store hooks' s' =>
      obtain ⟨rfl, hget⟩ := only_store_iff.1 h
      obtain ⟨hanswer, hafter⟩ := RoleChange.ask_congr hooks' hget
      exact ⟨hanswer, only_store_iff.2 ⟨rfl, hafter⟩⟩
    | fixed f' => cases h
  | fixed f =>
    cases source' with
    | store hooks' s' => cases h
    | fixed f' =>
      cases h
      exact ⟨rfl, rfl⟩

lemma only_change_of_ne {c : RoleChange} (htenant : tenant ≠ c.tenant) (source : RoleSource) :
    (source.change fun hooks s => c.ask hooks s).2.only tenant = source.only tenant := by
  cases source with
  | store hooks s => exact only_store_iff.2 ⟨rfl, RoleChange.ask_of_ne htenant s⟩
  | fixed f => rfl

end RoleSource

namespace PolicyStore

variable {tenant other : String} {s s' : PolicyStore}

lemma only_eq_iff :
    s'.only tenant = s.only tenant ↔
      s'.tenants.get tenant = s.tenants.get tenant ∧ s'.isAvailable = s.isAvailable := by
  simp only [only, PolicyStore.mk.injEq, and_true]
  refine and_congr_left fun _ => ⟨fun h => ?_, fun h => by rw [h]⟩
  have hget := congrArg (PerTenant.get · tenant) h
  simpa using hget

lemma read_only (tenant : String) (s : PolicyStore) :
    ((s.only tenant).read tenant).1 = (s.read tenant).1 := by
  simp [only, read]

lemma only_put_congr (h : s'.only tenant = s.only tenant) (definitions : List PolicyDefinition) :
    (s'.put tenant definitions).only tenant = (s.put tenant definitions).only tenant :=
  only_eq_iff.2 ⟨by simp [put], (only_eq_iff.1 h).2⟩

lemma only_add_congr (h : s'.only tenant = s.only tenant) (definition : PolicyDefinition) :
    (s'.add tenant definition).only tenant = (s.add tenant definition).only tenant := by
  rw [add, add, (only_eq_iff.1 h).1]
  exact only_put_congr h _

lemma only_put_of_ne (hne : tenant ≠ other) (definitions : List PolicyDefinition)
    (s : PolicyStore) : (s.put other definitions).only tenant = s.only tenant :=
  only_eq_iff.2 ⟨PerTenant.get_set_of_ne _ hne _, rfl⟩

end PolicyStore

/-! ### Calls and what is stored -/

namespace Call

/-- The tenant that a call is addressed to, if it is one. -/
def tenant? : Call → Option String
  | check ctx => some ctx.request.tenant.id
  | change c => some c.tenant
  | query tenant _ => some tenant
  | putPolicies tenant _ => some tenant
  | addPolicy tenant _ => some tenant
  | invalidateSubject tenant _ => some tenant
  | invalidateTenant tenant => some tenant
  | invalidatePolicies tenant => some tenant
  | clearCache => none
  | wait _ _ => none

/-- What is left when everything is deleted that is addressed to other tenants or to all of them:
the calls of the tenant, and time. -/
def concerns (tenant : String) : Call → Bool
  | wait _ _ => true
  | c => c.tenant? = some tenant

/-- The call may change what is stored of the tenant. -/
def Writes (tenant : String) : Call → Prop
  | change c => tenant = c.tenant
  | putPolicies other _ => tenant = other
  | addPolicy other _ => tenant = other
  | _ => False

/-- No binding of the tenant ends by the call. -/
def EndsNoBinding (tenant : String) (e : Engine) : Call → Prop
  | wait _ wallClock => ∀ kind subjectId b,
      (e.roles.directory tenant).Binds kind subjectId b →
        b.isExpired wallClock = b.isExpired e.wallClock
  | _ => True

lemma concerns_of_tenant? {tenant : String} {c : Call} (h : c.tenant? = some tenant) :
    c.concerns tenant = true := by
  cases c with
  | wait d wallClock => rfl
  | _ => exact decide_eq_true h

lemma Writes.tenant?_eq {tenant : String} {c : Call} (h : c.Writes tenant) :
    c.tenant? = some tenant := by
  cases c with
  | change c => exact congrArg some h.symm
  | putPolicies other definitions => exact congrArg some h.symm
  | addPolicy other definition => exact congrArg some h.symm
  | _ => exact h.elim

end Call

namespace Engine

/-- The two engines store the same of the tenant. -/
structure StoresLike (tenant : String) (e' e : Engine) : Prop where
  roles : e'.roles.only tenant = e.roles.only tenant
  policies : e'.policies.map (PolicyStore.only tenant) = e.policies.map (PolicyStore.only tenant)

variable {e e' e'' : Engine} {tenant : String} {c : Call}

namespace StoresLike

lemma refl (tenant : String) (e : Engine) : e.StoresLike tenant e := ⟨rfl, rfl⟩

lemma symm (h : e'.StoresLike tenant e) : e.StoresLike tenant e' :=
  ⟨h.roles.symm, h.policies.symm⟩

lemma trans (h' : e''.StoresLike tenant e') (h : e'.StoresLike tenant e) :
    e''.StoresLike tenant e :=
  ⟨h'.roles.trans h.roles, h'.policies.trans h.policies⟩

lemma directory (h : e'.StoresLike tenant e) :
    e'.roles.directory tenant = e.roles.directory tenant :=
  RoleSource.directory_congr h.roles

lemma definitionsOf (h : e'.StoresLike tenant e) :
    e'.definitionsOf tenant = e.definitionsOf tenant := by
  have honly : ∀ e : Engine, e.definitionsOf tenant =
      (e.policies.map (PolicyStore.only tenant)).elim (.ok []) fun s => (s.read tenant).1 := by
    intro e
    unfold Engine.definitionsOf
    cases e.policies with
    | none => rfl
    | some store => exact (store.read_only tenant).symm
  rw [honly, honly, h.policies]

lemma changePolicies (h : e'.StoresLike tenant e) {step : PolicyStore → PolicyStore}
    (hstep : ∀ s' s : PolicyStore, s'.only tenant = s.only tenant →
      (step s').only tenant = (step s).only tenant) :
    (e'.changePolicies step).StoresLike tenant (e.changePolicies step) where
  roles := h.roles
  policies := by
    have hpolicies := h.policies
    simp only [Engine.changePolicies]
    cases hstore : e.policies <;> cases hstore' : e'.policies <;>
      simp only [hstore, hstore', Option.map_none, Option.map_some, reduceCtorEq,
        Option.some.injEq] at hpolicies ⊢
    exact hstep _ _ hpolicies

end StoresLike

lemma storesLike_changePolicies {step : PolicyStore → PolicyStore}
    (hstep : ∀ s : PolicyStore, (step s).only tenant = s.only tenant) (e : Engine) :
    (e.changePolicies step).StoresLike tenant e where
  roles := rfl
  policies := by
    simp only [changePolicies, Option.map_map]
    exact congrArg (e.policies.map ·) (funext hstep)

/-- What is stored of a tenant is changed by its own changes only. -/
lemma storesLike_perform_of_not_writes (h : ¬c.Writes tenant) (e : Engine) :
    (c.perform e).2.StoresLike tenant e := by
  cases c with
  | check ctx =>
    have hchecks := e.check_afterChecks ctx
    refine ⟨congrArg (RoleSource.only tenant) hchecks.roles, ?_⟩
    have hunread := congrArg (Option.map (PolicyStore.only tenant)) hchecks.policies
    simp only [Option.map_map] at hunread
    exact hunread
  | change c => exact ⟨RoleSource.only_change_of_ne h e.roles, rfl⟩
  | putPolicies other definitions =>
    exact storesLike_changePolicies (PolicyStore.only_put_of_ne h definitions) e
  | addPolicy other definition =>
    exact storesLike_changePolicies (fun s => PolicyStore.only_put_of_ne h _ s) e
  | _ => exact ⟨rfl, rfl⟩

/-- A call makes the same of what is stored of a tenant, whatever else is stored. -/
lemma StoresLike.perform (h : e'.StoresLike tenant e) (c : Call) :
    (c.perform e').2.StoresLike tenant (c.perform e).2 := by
  by_cases hwrites : c.Writes tenant
  · cases c with
    | change c =>
      cases hwrites
      exact ⟨(RoleSource.change_congr h.roles).2, h.policies⟩
    | putPolicies other definitions =>
      cases hwrites
      exact h.changePolicies fun s' s hs => PolicyStore.only_put_congr hs definitions
    | addPolicy other definition =>
      cases hwrites
      exact h.changePolicies fun s' s hs => PolicyStore.only_add_congr hs definition
    | _ => exact hwrites.elim
  · exact ((storesLike_perform_of_not_writes hwrites e').trans h).trans
      (storesLike_perform_of_not_writes hwrites e).symm

/-! ### What is kept of one tenant -/

/-- What is kept of the permissions of the tenant's subjects is what their roles say. -/
def KeepsCurrentPermissions (tenant : String) (e : Engine) : Prop :=
  ∀ key entry, key.tenantId = tenant → e.service.cache.find? key = some entry →
    (e.loader key).map EffectivePermissions.permissions = .ok entry.value.permissions

/-- What is taken to be the policies of the tenant is what is stored. -/
def KeepsCurrentPolicies (tenant : String) (e : Engine) : Prop :=
  e.policiesOf tenant = (e.definitionsOf tenant).bind PolicyDefinition.compileAll

/-- Nothing outdated is kept of the tenant. -/
structure KeepsCurrent (tenant : String) (e : Engine) : Prop where
  permissions : e.KeepsCurrentPermissions tenant
  policies : e.KeepsCurrentPolicies tenant

/-- There is a table of compiled policies if there is a store of policies. -/
def HasTable (e : Engine) : Prop := e.policies.isSome → e.service.policies.isSome

lemma HasTable.congr (h : e.HasTable) (hpolicies : e'.policies.isSome = e.policies.isSome)
    (htable : e'.service.policies.isSome = e.service.policies.isSome) : e'.HasTable := by
  rw [HasTable, hpolicies, htable]
  exact h

lemma HasTable.perform (h : e.HasTable) (c : Call) : (c.perform e).2.HasTable := by
  cases c with
  | check ctx =>
    have hchecks := e.check_afterChecks ctx
    have hpolicies := congrArg Option.isSome hchecks.policies
    rw [Option.isSome_map, Option.isSome_map] at hpolicies
    exact h.congr hpolicies hchecks.table
  | putPolicies other definitions => exact h.congr Option.isSome_map rfl
  | addPolicy other definition => exact h.congr Option.isSome_map rfl
  | invalidatePolicies other => exact h.congr rfl Option.isSome_map
  | clearCache => exact h.congr rfl Option.isSome_map
  | _ => exact h

/-- What the roles say about a subject stays the same if none of its bindings ends. -/
lemma map_permissions_loader {key : PermissionKey} (h : e'.StoresLike key.tenantId e)
    (hends : ∀ b, (e.roles.directory key.tenantId).Binds key.subjectKind key.subjectId b →
      b.isExpired e'.wallClock = b.isExpired e.wallClock) :
    (e'.loader key).map EffectivePermissions.permissions =
      (e.loader key).map EffectivePermissions.permissions := by
  unfold loader RoleDirectory.effectivePermissions
  rw [h.directory]
  cases hbindings : (e.roles.directory key.tenantId).bindings key.subjectKind key.subjectId with
  | error fault => simp only [bind, Except.bind]
  | ok found =>
    have hcurrent : (found.filter fun b => !b.isExpired e'.wallClock) =
        found.filter fun b => !b.isExpired e.wallClock :=
      List.filter_congr fun b hb => congrArg not (hends b ⟨found, hbindings, hb⟩)
    simp only [bind, Except.bind, hcurrent]
    cases (e.roles.directory key.tenantId).contributors
      ((found.filter fun b => !b.isExpired e.wallClock).map Binding.roleId) <;> rfl

lemma perform_wallClock (c : Call) (e : Engine) :
    (c.perform e).2.wallClock =
      match c with
      | .wait _ wallClock => wallClock
      | _ => e.wallClock := by
  cases c with
  | check ctx => exact (e.check_afterChecks ctx).wallClock
  | _ => rfl

lemma map_permissions_loader_perform {key : PermissionKey}
    (h : (c.perform e).2.StoresLike key.tenantId e) (hends : c.EndsNoBinding key.tenantId e) :
    ((c.perform e).2.loader key).map EffectivePermissions.permissions =
      (e.loader key).map EffectivePermissions.permissions := by
  refine map_permissions_loader h fun b hb => ?_
  cases c with
  | wait d wallClock => exact hends _ _ b hb
  | _ => rw [perform_wallClock]

lemma KeepsCurrentPermissions.perform (he : e.KeepsCurrentPermissions tenant)
    (h : (c.perform e).2.StoresLike tenant e) (hends : c.EndsNoBinding tenant e) :
    (c.perform e).2.KeepsCurrentPermissions tenant := by
  rintro key entry rfl hfound
  rw [map_permissions_loader_perform h hends]
  obtain ⟨-, hkept | hloads⟩ := Call.perform_entry hfound
  · exact he key entry rfl hkept
  · rw [hloads.value]
    rfl

lemma keepsCurrentPermissions_invalidateTenant (tenant : String) (e : Engine) :
    ((Call.invalidateTenant tenant).perform e).2.KeepsCurrentPermissions tenant := by
  intro key entry htenant hfound
  obtain ⟨hforgets, -⟩ := Call.perform_entry hfound
  exact absurd htenant hforgets

lemma policiesOf_congr (hservice : e'.service.policies = e.service.policies)
    (hdefinitions : e'.definitionsOf tenant = e.definitionsOf tenant) :
    e'.policiesOf tenant = e.policiesOf tenant := by
  unfold policiesOf
  rw [hservice, hdefinitions]

lemma keepsCurrentPolicies_invalidatePolicies (htable : e.HasTable) (tenant : String) :
    ((Call.invalidatePolicies tenant).perform e).2.KeepsCurrentPolicies tenant := by
  refine policiesOf_of_unread ?_ (htable.perform _)
  intro table hinvalidated
  obtain ⟨before, -, rfl⟩ := Option.map_eq_some_iff.1 hinvalidated
  simp [PolicyTable.invalidate]

lemma keepsCurrentPolicies_clearCache (htable : e.HasTable) (tenant : String) :
    (Call.clearCache.perform e).2.KeepsCurrentPolicies tenant := by
  refine policiesOf_of_unread ?_ (htable.perform _)
  intro table hcleared
  obtain ⟨before, -, rfl⟩ := Option.map_eq_some_iff.1 hcleared
  rfl

/-- Forgetting the policies of one tenant leaves those of another alone. -/
lemma policiesOf_invalidatePolicies_of_ne {other : String} (hne : tenant ≠ other) (e : Engine) :
    ((Call.invalidatePolicies other).perform e).2.policiesOf tenant = e.policiesOf tenant := by
  have hdefinitions : ((Call.invalidatePolicies other).perform e).2.definitionsOf tenant =
      e.definitionsOf tenant := rfl
  have hservice : ((Call.invalidatePolicies other).perform e).2.service.policies =
      e.service.policies.map (·.invalidate other) := rfl
  unfold policiesOf
  rw [hdefinitions, hservice]
  cases e.service.policies with
  | none => rfl
  | some table =>
    simp only [Option.map_some, PolicyTable.lookup, PolicyTable.invalidate,
      PerTenant.get_set_of_ne _ hne]

lemma KeepsCurrentPolicies.perform (he : e.KeepsCurrentPolicies tenant) (htable : e.HasTable)
    (h : (c.perform e).2.StoresLike tenant e) : (c.perform e).2.KeepsCurrentPolicies tenant := by
  -- Where the table stays as it is, or what counts in it, so do the policies.
  have hsame : (c.perform e).2.policiesOf tenant = e.policiesOf tenant →
      (c.perform e).2.KeepsCurrentPolicies tenant := by
    intro hpolicies
    rw [KeepsCurrentPolicies, hpolicies, h.definitionsOf]
    exact he
  cases c with
  | check ctx => exact hsame ((check_spec e ctx).2.policiesOf tenant)
  | invalidatePolicies other =>
    by_cases hne : tenant = other
    · rw [hne]
      exact keepsCurrentPolicies_invalidatePolicies htable other
    · exact hsame (policiesOf_invalidatePolicies_of_ne hne e)
  | clearCache => exact keepsCurrentPolicies_clearCache htable tenant
  | _ => exact hsame (policiesOf_congr rfl h.definitionsOf)

lemma KeepsCurrentPermissions.map_permissionsOf (he : e.KeepsCurrentPermissions tenant)
    {key : PermissionKey} (htenant : key.tenantId = tenant) :
    (e.permissionsOf key).map EffectivePermissions.permissions =
      (e.loader key).map EffectivePermissions.permissions := by
  rw [permissionsOf_eq]
  cases hvalue : e.service.cache.value? key e.cacheClock with
  | none => rfl
  | some found =>
    obtain ⟨entry, hfound, -, rfl⟩ := TtlLru.value?_eq_some_iff.1 hvalue
    exact (he key entry htenant hfound).symm

/-! ### What a tenant gets to see of a call -/

/-- The answer to what is no check depends on what is stored of its tenant. -/
lemma perform_fst_of_storesLike (h : e'.StoresLike tenant e) (htenant : c.tenant? = some tenant)
    (hcheck : ∀ ctx, c ≠ .check ctx) : (c.perform e').1 = (c.perform e).1 := by
  cases c with
  | check ctx => exact absurd rfl (hcheck ctx)
  | change c =>
    cases htenant
    exact congrArg (some ∘ Answer.change) (RoleSource.change_congr h.roles).1
  | query other q =>
    cases htenant
    exact congrArg (fun d => some (q.answer d)) h.directory
  | _ => rfl

/-- The answer to a check depends on what is stored of its tenant and on the time, if nothing
outdated is kept of it. -/
lemma check_fst_of_storesLike {ctx : CheckContext} (h : e'.StoresLike ctx.request.tenant.id e)
    (hclock : e'.wallClock = e.wallClock) (he : e.KeepsCurrent ctx.request.tenant.id)
    (he' : e'.KeepsCurrent ctx.request.tenant.id) : (e'.check ctx).1 = (e.check ctx).1 := by
  have hpolicies : e'.policiesOf ctx.request.tenant.id = e.policiesOf ctx.request.tenant.id := by
    rw [he'.policies, he.policies, h.definitionsOf]
  rw [(check_spec e' ctx).1, (check_spec e ctx).1, hpolicies]
  refine ctx.resultFrom_congr ?_ _
  rw [he'.permissions.map_permissionsOf rfl, he.permissions.map_permissionsOf rfl]
  exact map_permissions_loader h fun b _ => by rw [hclock]

end Engine

end AccessControl
