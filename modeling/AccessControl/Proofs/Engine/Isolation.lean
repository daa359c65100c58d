import AccessControl.Proofs.Engine.Staleness
import AccessControl.Proofs.Engine.Tenants
/-!
# Tenants do not notice each other

All tenants share one role store with its hooks, one store of policies, one cache with a bounded
number of places, and one table of compiled policies. Still, the calls of other tenants can be left
out of what is asked of an engine, and the answers to one tenant stay the same.

Each change of the tenant has to be followed by calls that let its permissions and its policies be
forgotten, before its next check, and none of its bindings may end. Then nothing outdated is kept
when a check is made, with the calls of others or without them.
-/
namespace AccessControl

namespace Engine

variable {e : Engine} {tenant : String} {c : Call}

/-! ### Runs -/

/-- The engine after the calls. -/
def use (calls : List Call) (e : Engine) : Engine := calls.foldl (fun e c => (c.perform e).2) e

/-- What the tenant gets to see of the calls. -/
def transcript (tenant : String) : List Call → Engine → List Answer
  | [], _ => []
  | c :: rest, e =>
    (if c.tenant? = some tenant then (c.perform e).1.toList else []) ++
      transcript tenant rest (c.perform e).2

/-- Each of the calls that changes what is stored of the tenant is followed by the given one. -/
def ChangesFollowedBy (tenant : String) (reset : Call) (past : List Call) (e : Engine) : Prop :=
  ∀ before c after, past = before ++ c :: after →
    (c.perform (e.use before)).2.StoresLike tenant (e.use before) ∨ reset ∈ after

/-- Before each check of the tenant all changes of what is stored of it have been followed by calls
that let its permissions and its policies be forgotten. -/
def Tidy (tenant : String) (calls : List Call) (e : Engine) : Prop :=
  ∀ before ctx after, calls = before ++ .check ctx :: after → ctx.request.tenant.id = tenant →
    e.ChangesFollowedBy tenant (.invalidateTenant tenant) before ∧
      e.ChangesFollowedBy tenant (.invalidatePolicies tenant) before

/-- No binding of the tenant ends while the calls are made. -/
def EndsNoBinding (tenant : String) (calls : List Call) (e : Engine) : Prop :=
  ∀ before c after, calls = before ++ c :: after → c.EndsNoBinding tenant (e.use before)

variable {past calls : List Call} {reset : Call}

lemma use_concat (past : List Call) (c : Call) (e : Engine) :
    e.use (past ++ [c]) = (c.perform (e.use past)).2 := by
  simp [use]

lemma HasTable.use (h : e.HasTable) (past : List Call) : (e.use past).HasTable := by
  induction past using List.reverseRecOn with
  | nil => exact h
  | append_singleton past c ih =>
    rw [use_concat]
    exact ih.perform c

lemma EndsNoBinding.of_append {rest : List Call}
    (h : e.EndsNoBinding tenant (past ++ rest)) : e.EndsNoBinding tenant past :=
  fun before c after hpast => h before c (after ++ rest) (by rw [hpast]; simp)

/-- With one more call, either this is the one that has to follow, or it changes nothing itself. -/
lemma ChangesFollowedBy.of_concat (h : e.ChangesFollowedBy tenant reset (past ++ [c])) :
    c = reset ∨ e.ChangesFollowedBy tenant reset past ∧
      (c.perform (e.use past)).2.StoresLike tenant (e.use past) := by
  by_cases hreset : c = reset
  · exact Or.inl hreset
  right
  constructor
  · intro before c' after hpast
    refine (h before c' (after ++ [c]) (by rw [hpast]; simp)).imp_right fun hmem => ?_
    rcases List.mem_append.1 hmem with hmem | hmem
    · exact hmem
    · exact absurd (List.mem_singleton.1 hmem).symm hreset
  · exact (h past c [] rfl).resolve_right List.not_mem_nil

lemma keepsCurrentPermissions_use (he : e.KeepsCurrentPermissions tenant)
    (hends : e.EndsNoBinding tenant past)
    (h : e.ChangesFollowedBy tenant (.invalidateTenant tenant) past) :
    (e.use past).KeepsCurrentPermissions tenant := by
  induction past using List.reverseRecOn with
  | nil => exact he
  | append_singleton past c ih =>
    rw [use_concat]
    rcases h.of_concat with rfl | ⟨hpast, hstores⟩
    · exact keepsCurrentPermissions_invalidateTenant tenant _
    · exact (ih hends.of_append hpast).perform hstores (hends past c [] rfl)

lemma keepsCurrentPolicies_use (he : e.KeepsCurrentPolicies tenant) (htable : e.HasTable)
    (h : e.ChangesFollowedBy tenant (.invalidatePolicies tenant) past) :
    (e.use past).KeepsCurrentPolicies tenant := by
  induction past using List.reverseRecOn with
  | nil => exact he
  | append_singleton past c ih =>
    rw [use_concat]
    rcases h.of_concat with rfl | ⟨hpast, hstores⟩
    · exact keepsCurrentPolicies_invalidatePolicies (htable.use past) tenant
    · exact (ih hpast).perform (htable.use past) hstores

/-! ### Without the calls of others -/

/-- What is left of the calls when everything is deleted that is addressed to other tenants or to
all of them. -/
abbrev callsOf (tenant : String) (calls : List Call) : List Call :=
  calls.filter (Call.concerns tenant)

/-- Calls of others change nothing of what is stored of a tenant, and not the time. -/
lemma perform_of_not_concerns (h : c.concerns tenant = false) (e : Engine) :
    (c.perform e).2.StoresLike tenant e ∧ (c.perform e).2.wallClock = e.wallClock := by
  constructor
  · refine storesLike_perform_of_not_writes (fun hwrites => ?_) e
    cases h.symm.trans (Call.concerns_of_tenant? hwrites.tenant?_eq)
  · rw [perform_wallClock]
    cases c with
    | wait d wallClock => cases h
    | _ => rfl

lemma use_callsOf (tenant : String) (past : List Call) (e : Engine) :
    (e.use (callsOf tenant past)).StoresLike tenant (e.use past) ∧
      (e.use (callsOf tenant past)).wallClock = (e.use past).wallClock := by
  induction past using List.reverseRecOn with
  | nil => exact ⟨.refl tenant _, rfl⟩
  | append_singleton past c ih =>
    obtain ⟨hstores, hclock⟩ := ih
    rw [callsOf, List.filter_append, use_concat]
    cases hc : c.concerns tenant with
    | true =>
      rw [List.filter_cons_of_pos hc, List.filter_nil, use_concat]
      refine ⟨hstores.perform c, ?_⟩
      rw [perform_wallClock, perform_wallClock, hclock]
    | false =>
      rw [List.filter_cons_of_neg (by simp [hc]), List.filter_nil, List.append_nil]
      obtain ⟨hstores', hclock'⟩ := perform_of_not_concerns hc (e.use past)
      exact ⟨hstores.trans hstores'.symm, hclock.trans hclock'.symm⟩

lemma ChangesFollowedBy.callsOf (h : e.ChangesFollowedBy tenant reset past)
    (hreset : reset.concerns tenant = true) :
    e.ChangesFollowedBy tenant reset (callsOf tenant past) := by
  intro before c after hleft
  obtain ⟨before', after', hpast, rfl, rfl, -⟩ := filter_eq_append_cons hleft
  obtain ⟨hstores, -⟩ := use_callsOf tenant before' e
  refine (h before' c after' hpast).imp (fun hsame => ?_) fun hmem => ?_
  · exact ((hstores.perform c).trans hsame).trans hstores.symm
  · exact List.mem_filter.2 ⟨hmem, hreset⟩

lemma EndsNoBinding.callsOf (h : e.EndsNoBinding tenant past) :
    e.EndsNoBinding tenant (callsOf tenant past) := by
  intro before c after hleft
  obtain ⟨before', after', hpast, rfl, rfl, -⟩ := filter_eq_append_cons hleft
  obtain ⟨hstores, hclock⟩ := use_callsOf tenant before' e
  have hends := h before' c after' hpast
  cases c with
  | wait d wallClock =>
    rw [Call.EndsNoBinding, hstores.directory, hclock]
    exact hends
  | _ => trivial

/-! ### What a tenant gets to see -/

lemma KeepsNothing.keepsCurrent_use (he : e.KeepsNothing) (hends : e.EndsNoBinding tenant past)
    (hpermissions : e.ChangesFollowedBy tenant (.invalidateTenant tenant) past)
    (hpolicies : e.ChangesFollowedBy tenant (.invalidatePolicies tenant) past) :
    (e.use past).KeepsCurrent tenant where
  permissions := by
    refine keepsCurrentPermissions_use (fun key entry _ hfound => ?_) hends hpermissions
    rw [TtlLru.find?, he.permissions] at hfound
    cases hfound
  policies := keepsCurrentPolicies_use (he.policiesOf tenant) he.hasTable hpolicies

/-- A call of the tenant is answered in the same way when the calls of others have been left out. -/
lemma perform_fst_callsOf {rest : List Call} (he : e.KeepsNothing) (htidy : e.Tidy tenant calls)
    (hends : e.EndsNoBinding tenant calls) (hcalls : calls = past ++ c :: rest)
    (htenant : c.tenant? = some tenant) :
    (c.perform (e.use (callsOf tenant past))).1 = (c.perform (e.use past)).1 := by
  obtain ⟨hstores, hclock⟩ := use_callsOf tenant past e
  by_cases hcheck : ∃ ctx, c = .check ctx
  · obtain ⟨ctx, rfl⟩ := hcheck
    cases htenant
    obtain ⟨hpermissions, hpolicies⟩ := htidy past ctx rest hcalls rfl
    rw [hcalls] at hends
    have hpast := hends.of_append
    have hleft := he.keepsCurrent_use hpast hpermissions hpolicies
    have hright := he.keepsCurrent_use hpast.callsOf
      (hpermissions.callsOf (Call.concerns_of_tenant? rfl))
      (hpolicies.callsOf (Call.concerns_of_tenant? rfl))
    exact congrArg (some ∘ Answer.check) (check_fst_of_storesLike hstores hclock hleft hright)
  · exact perform_fst_of_storesLike hstores htenant fun ctx hctx => hcheck ⟨ctx, hctx⟩

/-- Other tenants make no difference to what a tenant gets to see of an engine that kept nothing at
first. -/
theorem transcript_callsOf (he : e.KeepsNothing) (htidy : e.Tidy tenant calls)
    (hends : e.EndsNoBinding tenant calls) :
    transcript tenant (callsOf tenant calls) e = transcript tenant calls e := by
  -- Induction on the calls that are still to be made.
  suffices h : ∀ rest past, calls = past ++ rest →
      transcript tenant (callsOf tenant rest) (e.use (callsOf tenant past)) =
        transcript tenant rest (e.use past) from h calls [] rfl
  intro rest
  induction rest with
  | nil => exact fun past _ => rfl
  | cons c rest ih =>
    intro past hcalls
    have hrest := ih (past ++ [c]) (by rw [hcalls]; simp)
    rw [callsOf, callsOf, List.filter_append, use_concat] at hrest
    rw [callsOf, callsOf]
    cases hc : c.concerns tenant with
    | true =>
      rw [List.filter_cons_of_pos hc, List.filter_nil, use_concat] at hrest
      rw [List.filter_cons_of_pos hc, transcript, transcript, hrest]
      congr 1
      split
      · rename_i htenant
        rw [perform_fst_callsOf he htidy hends hcalls htenant]
      · rfl
    | false =>
      have hother : c.tenant? ≠ some tenant := fun htenant => by
        cases hc.symm.trans (Call.concerns_of_tenant? htenant)
      rw [List.filter_cons_of_neg (by simp [hc]), List.filter_nil, List.append_nil] at hrest
      rw [List.filter_cons_of_neg (by simp [hc]), transcript, if_neg hother, hrest]
      rfl

/-! One place in the cache for two tenants. A clerk of the one loses a role; meanwhile there are
checks for the other, and everything is forgotten. -/

/-- All changes are followed by a call after which there are none. -/
lemma changesFollowedBy_of_not_writes (front back : List Call)
    (h : ∀ c ∈ reset :: back, ¬c.Writes tenant) :
    e.ChangesFollowedBy tenant reset (front ++ reset :: back) := by
  intro before c after hpast
  by_cases hwrites : c.Writes tenant
  · right
    rcases append_cons_eq_append_cons hpast with
      ⟨rest, -, rfl⟩ | ⟨-, rfl, -⟩ | ⟨rest, -, hrest⟩
    · simp
    · exact absurd hwrites (h _ List.mem_cons_self)
    · exact absurd hwrites (h c (by rw [hrest]; simp))
  · exact Or.inl (storesLike_perform_of_not_writes hwrites _)

def sharedEngine : Engine where
  settings := {}
  service := .new ⟨1, Nat.one_pos⟩ (.ofSeconds 2) true
  roles := .store [] {
    tenants := PerTenant.set {} "t" {
      roles := [("clerk", clerkRole)]
      bindings := [⟨"x", "t", "clerk", .user, "u", none, midnight⟩] } }
  policies := some {}
  hierarchy := none
  wallClock := midnight

def readByOther : CheckContext where
  request := { tenant := { id := "o" }, subject := { id := "u", kind := .user } }
  resource := "order"
  action := "read"

def sharedCalls : List Call :=
  [.wait (.ofSeconds 1) oneSecondLater, .check readByClerk, .change (.unbind "t" "x"),
    .invalidateTenant "t", .invalidatePolicies "t", .check readByOther, .clearCache,
    .check readByClerk]

lemma sharedEngine_tidy : sharedEngine.Tidy "t" sharedCalls := by
  intro before ctx after hcalls htenant
  have hbefore : before = sharedCalls.take before.length := by
    rw [hcalls, List.take_left]
  have hcheck : sharedCalls[before.length]? = some (.check ctx) := by
    rw [hcalls, List.getElem?_append_right le_rfl, Nat.sub_self, List.getElem?_cons_zero]
  rw [hbefore]
  -- Of the calls, three are checks, and one of these is not of this tenant.
  match before.length, hcheck with
  | 1, _ =>
    have hwait : ∀ reset : Call, sharedEngine.ChangesFollowedBy "t" reset
        [.wait (.ofSeconds 1) oneSecondLater] := by
      intro reset before c after hpast
      have hmem : c ∈ [Call.wait (.ofSeconds 1) oneSecondLater] := by rw [hpast]; simp
      obtain rfl := List.mem_singleton.1 hmem
      exact Or.inl (storesLike_perform_of_not_writes id _)
    exact ⟨hwait _, hwait _⟩
  | 7, _ =>
    exact ⟨changesFollowedBy_of_not_writes [.wait (.ofSeconds 1) oneSecondLater,
        .check readByClerk, .change (.unbind "t" "x")]
        [.invalidatePolicies "t", .check readByOther, .clearCache] (by simp [Call.Writes]),
      changesFollowedBy_of_not_writes [.wait (.ofSeconds 1) oneSecondLater, .check readByClerk,
        .change (.unbind "t" "x"), .invalidateTenant "t"] [.check readByOther, .clearCache]
        (by simp [Call.Writes])⟩
  | 5, hcheck =>
    cases hcheck
    exact absurd htenant (by decide)
  | 0, hcheck | 2, hcheck | 3, hcheck | 4, hcheck | 6, hcheck | n + 8, hcheck => cases hcheck

lemma sharedEngine_endsNoBinding : sharedEngine.EndsNoBinding "t" sharedCalls := by
  intro before c after hcalls
  rw [sharedCalls] at hcalls
  cases before with
  | nil =>
    cases hcalls
    rintro kind subjectId b ⟨found, hfound, hb⟩
    cases hfound
    obtain rfl := List.mem_singleton.1 (List.mem_filter.1 hb).1
    rfl
  | cons first before =>
    -- Time passes only at first.
    rw [List.cons_append] at hcalls
    obtain ⟨-, htail⟩ := List.cons.inj hcalls
    have hmem : c ∈ before ++ c :: after := by simp
    rw [← htail] at hmem
    simp only [List.mem_cons, List.not_mem_nil, or_false] at hmem
    rcases hmem with rfl | rfl | rfl | rfl | rfl | rfl | rfl <;> trivial

theorem transcript_of_clerk_without_others :
    sharedEngine.KeepsNothing ∧ sharedEngine.Tidy "t" sharedCalls ∧
      sharedEngine.EndsNoBinding "t" sharedCalls ∧
      callsOf "t" sharedCalls = [.wait (.ofSeconds 1) oneSecondLater, .check readByClerk,
        .change (.unbind "t" "x"), .invalidateTenant "t", .invalidatePolicies "t",
        .check readByClerk] ∧
      transcript "t" (callsOf "t" sharedCalls) sharedEngine =
        transcript "t" sharedCalls sharedEngine := by
  have hkeeps : sharedEngine.KeepsNothing := by
    refine ⟨rfl, ?_, fun _ => rfl⟩
    intro table htable tenant
    cases htable
    rfl
  exact ⟨hkeeps, sharedEngine_tidy, sharedEngine_endsNoBinding, rfl,
    transcript_callsOf hkeeps sharedEngine_tidy sharedEngine_endsNoBinding⟩

end Engine

end AccessControl
