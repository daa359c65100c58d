import AccessControl.Proofs.Check.Meaning
import AccessControl.Proofs.Engine.Staleness
/-!
# Bindings that end while permissions are kept

As long as roles and bindings stay as they are, what is granted to a subject only becomes less, when
bindings end. Kept permissions do not become less. A check goes by what was granted when the roles
were last asked about its subject, which is no longer ago than permissions are kept, and by what is
granted now exactly if nothing has lapsed since. So a binding may count for some time after its end.
-/
namespace AccessControl

namespace RoleDirectory

variable {d : RoleDirectory} {kind : SubjectKind} {subjectId : String} {t now : Timestamp}
  {permission : String}

/-- What is granted now was granted before. -/
lemma Grants.of_le (h : d.Grants kind subjectId now permission) (ht : t.instant ≤ now.instant) :
    d.Grants kind subjectId t permission := by
  obtain ⟨b, hb, hcurrent, hchain⟩ := h
  exact ⟨b, hb, fun ending hending => lt_of_le_of_lt ht (hcurrent ending hending), hchain⟩

end RoleDirectory

namespace CheckContext

/-- What a check gives as the grant of its code is among the permissions that it goes by. -/
lemma mem_of_resultFrom_granted {ctx : CheckContext}
    {permissions : Except AccessError EffectivePermissions}
    {policies : Except AccessError (List CompiledPolicy)} {result : CheckResult} {grant : String}
    (h : ctx.resultFrom permissions policies = .ok result)
    (hreason : result.reason = .granted grant) :
    ∃ effective, permissions = .ok effective ∧ grant ∈ effective.permissions ∧
      Covers grant ctx.permission := by
  obtain h | h | ⟨effective, compiled, heffective, -, h⟩ := ctx.resultFrom_cases h
  · cases h
    cases hreason
  · cases h
    cases hreason
  cases h
  refine ⟨effective, heffective, ?_⟩
  -- No rule has decided, for the reason would be that rule.
  dsimp only [judge, answer] at hreason
  split at hreason
  · cases hreason
  · rw [outlook] at hreason
    split at hreason
    · rename_i hgrant
      cases hreason
      exact covers_of_firstCovering hgrant
    · cases hreason

end CheckContext

/-! ### Time passes -/

/-- A check, a batch of checks, or some time that passes by both clocks alike. -/
def Happening.IsQuiet (e : Engine) : Happening → Prop
  | call (.check _) => True
  | checkMany _ => True
  | call (.wait d wallClock) => wallClock.instant = e.wallClock.instant + d
  | _ => False

namespace Engine

/-- Nothing happens but checks, and time passes by both clocks alike. -/
def Undisturbed (e : Engine) : List Happening → Prop
  | [] => True
  | x :: rest => x.IsQuiet e ∧ (x.apply e).Undisturbed rest

/-- The first engine is the second at the same time or later: the roles are the same, and both
clocks have gone on alike. -/
structure GoesOn (e' e : Engine) : Prop where
  roles : e'.roles = e.roles
  cacheClock : e.cacheClock ≤ e'.cacheClock
  wallClock :
    e'.wallClock.instant - (e'.cacheClock : Int) = e.wallClock.instant - (e.cacheClock : Int)

/-- The roles, at a time, grant the permission to the subject. -/
def GrantsAt (e : Engine) (t : Timestamp) (key : PermissionKey) (permission : String) : Prop :=
  (e.roles.directory key.tenantId).Grants key.subjectKind key.subjectId t permission

/-- The roles grant the permission to the subject at the first time, and at the second no more. -/
def Lapses (e : Engine) (t now : Timestamp) (key : PermissionKey) (permission : String) : Prop :=
  e.GrantsAt t key permission ∧ ¬e.GrantsAt now key permission

variable {e e' e'' : Engine} {past : List Happening} {x : Happening} {ctx : CheckContext}
  {key : PermissionKey}

lemma undisturbed_append {before after : List Happening} :
    e.Undisturbed (before ++ after) ↔
      e.Undisturbed before ∧ (e.live before).Undisturbed after := by
  induction before generalizing e with
  | nil => exact by simp [Undisturbed, live]
  | cons x before ih => exact (and_congr_right fun _ => ih).trans and_assoc.symm

namespace GoesOn

lemma refl (e : Engine) : e.GoesOn e := ⟨rfl, le_rfl, rfl⟩

lemma trans (h' : e''.GoesOn e') (h : e'.GoesOn e) : e''.GoesOn e where
  roles := h'.roles.trans h.roles
  cacheClock := le_trans h.cacheClock h'.cacheClock
  wallClock := h'.wallClock.trans h.wallClock

lemma of_afterChecks (h : e'.AfterChecks e) : e'.GoesOn e where
  roles := h.roles
  cacheClock := h.cacheClock.ge
  wallClock := by rw [h.wallClock, h.cacheClock]

lemma instant_le (h : e'.GoesOn e) : e.wallClock.instant ≤ e'.wallClock.instant := by
  have hcache := Int.ofNat_le.2 h.cacheClock
  have hwall := h.wallClock
  omega

end GoesOn

lemma goesOn_apply (h : x.IsQuiet e) : (x.apply e).GoesOn e := by
  cases x with
  | call c =>
    cases c with
    | check ctx => exact .of_afterChecks (e.check_afterChecks ctx)
    | wait d wallClock =>
      refine ⟨rfl, Nat.le_add_right _ _, ?_⟩
      have hclock : wallClock.instant = e.wallClock.instant + d := h
      show wallClock.instant - ((e.cacheClock + d : Nat) : Int) = _
      omega
    | _ => exact h.elim
  | checkMany ctxs => exact .of_afterChecks (e.each_afterChecks ctxs)
  | become roles => exact h.elim

lemma goesOn_live (h : e.Undisturbed past) : (e.live past).GoesOn e := by
  induction past generalizing e with
  | nil => exact .refl e
  | cons x rest ih => exact (ih h.2).trans (goesOn_apply h.1)

lemma live_check_wait (e : Engine) (ctx : CheckContext) (d : Duration) (wallClock : Timestamp) :
    e.live [.call (.check ctx), .call (.wait d wallClock)] =
      ((Call.wait d wallClock).perform (e.check ctx).2).2 := rfl

lemma policiesOf_wait (e : Engine) (d : Duration) (wallClock : Timestamp) (tenant : String) :
    ((Call.wait d wallClock).perform e).2.policiesOf tenant = e.policiesOf tenant := rfl

lemma cache_wait (e : Engine) (d : Duration) (wallClock : Timestamp) :
    ((Call.wait d wallClock).perform e).2.service.cache = e.service.cache := rfl

lemma cacheClock_wait (e : Engine) (d : Duration) (wallClock : Timestamp) :
    ((Call.wait d wallClock).perform e).2.cacheClock = e.cacheClock + d := rfl

/-! ### What a check uses, and what is granted -/

lemma GrantsAt.of_le {t now : Timestamp} {permission : String} (h : e.GrantsAt now key permission)
    (ht : t.instant ≤ now.instant) : e.GrantsAt t key permission :=
  RoleDirectory.Grants.of_le h ht

lemma loader_grants (hroles : e.roles.IsReadable) (h : e'.roles = e.roles) (key : PermissionKey) :
    ∃ effective, e'.loader key = .ok effective ∧
      ∀ permission, permission ∈ effective.permissions ↔
        e.GrantsAt e'.wallClock key permission := by
  have hspec := loader_spec (e := e') (by rw [h]; exact hroles) key
  rw [h] at hspec
  exact hspec

/-- While roles and bindings stay as they are, a check goes by the permissions that were granted at
some moment no longer ago than permissions are kept. They include those that are granted now, and
are the same exactly if none of them has lapsed since. What the check gives as the permission that
grants its code was granted at that moment. -/
theorem permissions_current_iff_none_lapsed (he : e.KeepsNothing) (hroles : e.roles.IsReadable)
    (hpast : e.Undisturbed past) (hasked : (ctx, e') ∈ x.checks (e.live past)) :
    ∃ before after used current, past = before ++ after ∧
      e'.permissionsOf ctx.permissionKey = .ok used ∧
      e'.loader ctx.permissionKey = .ok current ∧
      e'.wallClock.instant ≤ (e.live before).wallClock.instant + e.service.cache.defaultTtl ∧
      (∀ permission, permission ∈ used.permissions ↔
        e.GrantsAt (e.live before).wallClock ctx.permissionKey permission) ∧
      (∀ permission ∈ current.permissions, permission ∈ used.permissions) ∧
      ((∀ permission, permission ∈ used.permissions ↔ permission ∈ current.permissions) ↔
        ∀ permission,
          ¬e.Lapses (e.live before).wallClock e'.wallClock ctx.permissionKey permission) ∧
      ∀ result grant, (e'.check ctx).1 = .ok result → result.reason = .granted grant →
        e.GrantsAt (e.live before).wallClock ctx.permissionKey grant ∧
          Covers grant ctx.permission := by
  have hchecks := afterChecks_of_mem_checks hasked
  have hnow := (GoesOn.of_afterChecks hchecks).trans (goesOn_live hpast)
  obtain ⟨current, hcurrent, hgranted⟩ := loader_grants hroles hnow.roles ctx.permissionKey
  obtain ⟨used, hused⟩ : ∃ used, e'.permissionsOf ctx.permissionKey = .ok used := by
    cases hused : e'.permissionsOf ctx.permissionKey with
    | error fault => cases (permissionsOf_eq_error hused).1.symm.trans hcurrent
    | ok used => exact ⟨used, rfl⟩
  obtain ⟨before, after, rfl, hload, -, hclock⟩ :=
    exists_moment_of_permissionsOf he.permissions hchecks hused
  obtain ⟨hbefore, hafter⟩ := undisturbed_append.1 hpast
  have hthen := goesOn_live hbefore
  have hsince : e'.GoesOn (e.live before) := by
    refine (GoesOn.of_afterChecks hchecks).trans ?_
    rw [live, List.foldl_append]
    exact goesOn_live hafter
  have hmem : ∀ permission, permission ∈ used.permissions ↔
      e.GrantsAt (e.live before).wallClock ctx.permissionKey permission := by
    obtain ⟨loaded, hloaded, hmem⟩ := loader_grants hroles hthen.roles ctx.permissionKey
    cases hload.symm.trans hloaded
    exact hmem
  refine ⟨before, after, used, current, rfl, hused, hcurrent, ?_, hmem, ?_, ?_, ?_⟩
  · have hwall := hsince.wallClock
    have hkept := Int.ofNat_le.2 hclock
    rw [Int.natCast_add] at hkept
    omega
  · intro permission hpermission
    rw [hmem]
    exact ((hgranted permission).1 hpermission).of_le hsince.instant_le
  · refine forall_congr' fun permission => ?_
    rw [hmem, hgranted, Lapses, not_and_not_right]
    exact ⟨Iff.mp, fun h => ⟨h, fun hnow => hnow.of_le hsince.instant_le⟩⟩
  · intro result grant hresult hreason
    rw [(check_spec e' ctx).1, hused] at hresult
    obtain ⟨effective, heffective, hgrant, hcovers⟩ :=
      CheckContext.mem_of_resultFrom_granted hresult hreason
    cases heffective
    exact ⟨(hmem grant).1 hgrant, hcovers⟩

/-- After a first check a second passes, which is the time for which the clerk has the role. -/
def bindingEndsAfterCheck : List Happening :=
  [.call (.check readByClerk), .call (.wait (.ofSeconds 1) oneSecondLater)]

lemma undisturbed_bindingEndsAfterCheck : clerkEngine.Undisturbed bindingEndsAfterCheck := by
  refine ⟨trivial, ?_, trivial⟩
  show _ = (clerkEngine.check readByClerk).2.wallClock.instant + _
  rw [(clerkEngine.check_afterChecks readByClerk).wallClock]
  decide

lemma not_grantsAt_oneSecondLater (permission : String) :
    ¬clerkEngine.GrantsAt oneSecondLater readByClerk.permissionKey permission := by
  have hreadable : clerkEngine.roles.IsReadable := ⟨rfl, rfl⟩
  rintro ⟨b, hb, hcurrent, -⟩
  obtain ⟨hmem, -, -⟩ := (RoleSource.binds_iff hreadable).1 hb
  obtain rfl := List.mem_singleton.1 hmem.1
  exact absurd (hcurrent oneSecondLater rfl) (lt_irrefl _)

lemma readByClerk_resultFrom :
    readByClerk.resultFrom (.ok clerkPermissions) (.ok []) =
      .ok { allowed := true, permission := "order:read", reason := .granted "order:read" } := by
  have hcode : Permission.parseConcrete readByClerk.permission = .ok ⟨"order", "read"⟩ := rfl
  have hsystem : readByClerk.request.subject.isSystem = false := rfl
  have hdirect : readByClerk.isGrantedDirectly = false := rfl
  have hgrant : readByClerk.outlook clerkPermissions = (true, .granted "order:read") := rfl
  simp only [CheckContext.resultFrom, hcode, hsystem, hdirect, hgrant, bind, Except.bind,
    Bool.false_eq_true, if_false, judge_nil]
  rfl

/-- For two seconds after a first check the clerk passes. -/
lemma check_of_kept {e : Engine}
    (hcache : e.service.cache = (clerkEngine.check readByClerk).2.service.cache)
    (hclock : e.cacheClock ≤ .ofSeconds 2) (hpolicies : e.policiesOf "t" = .ok []) :
    (e.check readByClerk).1 =
      .ok { allowed := true, permission := "order:read", reason := .granted "order:read" } := by
  have htenant : readByClerk.request.tenant.id = "t" := rfl
  rw [(check_spec e readByClerk).1, clerkEngine_permissionsOf hcache hclock, htenant, hpolicies,
    readByClerk_resultFrom]

lemma check_bindingEndsAfterCheck :
    ((clerkEngine.live bindingEndsAfterCheck).check readByClerk).1 =
      .ok { allowed := true, permission := "order:read", reason := .granted "order:read" } := by
  have hchecks := clerkEngine.check_afterChecks readByClerk
  have hpolicies : clerkEngine.policiesOf "t" = .ok [] := rfl
  rw [bindingEndsAfterCheck, live_check_wait]
  refine check_of_kept (cache_wait _ _ _) ?_ ?_
  · rw [cacheClock_wait, hchecks.cacheClock]
    decide
  · rw [policiesOf_wait, (check_spec clerkEngine readByClerk).2.policiesOf, hpolicies]

theorem granted_after_binding_ended :
    clerkEngine.KeepsNothing ∧ clerkEngine.roles.IsReadable ∧
      clerkEngine.Undisturbed bindingEndsAfterCheck ∧
      (readByClerk, clerkEngine.live bindingEndsAfterCheck) ∈
        (Happening.call (.check readByClerk)).checks (clerkEngine.live bindingEndsAfterCheck) ∧
      (∀ permission, ¬clerkEngine.GrantsAt (clerkEngine.live bindingEndsAfterCheck).wallClock
        readByClerk.permissionKey permission) ∧
      ((clerkEngine.live bindingEndsAfterCheck).check readByClerk).1 =
        .ok { allowed := true, permission := "order:read", reason := .granted "order:read" } ∧
      ∃ before after, bindingEndsAfterCheck = before ++ after ∧
        clerkEngine.GrantsAt (clerkEngine.live before).wallClock readByClerk.permissionKey
          "order:read" := by
  have hreadable : clerkEngine.roles.IsReadable := ⟨rfl, rfl⟩
  have hasked : (readByClerk, clerkEngine.live bindingEndsAfterCheck) ∈
      (Happening.call (.check readByClerk)).checks (clerkEngine.live bindingEndsAfterCheck) :=
    List.mem_cons_self
  obtain ⟨before, after, used, current, hpast, -, -, -, -, -, -, hgrant⟩ :=
    permissions_current_iff_none_lapsed clerkEngine_keepsNothing hreadable
      undisturbed_bindingEndsAfterCheck hasked
  have hthen := hgrant _ _ check_bindingEndsAfterCheck rfl
  exact ⟨clerkEngine_keepsNothing, hreadable, undisturbed_bindingEndsAfterCheck, hasked,
    not_grantsAt_oneSecondLater, check_bindingEndsAfterCheck, before, after, hpast, hthen.1⟩

end Engine

end AccessControl
