import AccessControl.Proofs.Check.Batch
import AccessControl.Proofs.Engine.Calls
import AccessControl.Proofs.Permission.NamedGrant
/-!
# Codes that are asked for together

Whether all and whether some of the codes are allowed to a request is what the single checks of the
codes say. The checks are made one after the other, and what each of them finds out may be kept and
make room by giving up something else. But what a check takes to be the permissions of its subject
the next check of the same request takes as well: it was kept before, or it is kept now, or it
cannot be found out. So every check of a request is answered as if it were the first, and a code
that is asked for twice gets the same answer twice.
-/
namespace AccessControl

/-! ### Codes that cannot be asked for -/

namespace Checker

variable {σ : Type} {check : Checker σ} {request : Request} {codes before after : List String}
  {code : String} {s : σ}

/-- The check of a concrete code for a request. -/
def contextOf (request : Request) (p : Permission) : CheckContext where
  request := request
  resource := p.resource
  action := p.action

lemma contexts_eq_mapM (request : Request) (codes : List String) :
    contexts request codes =
      codes.mapM fun code => (Permission.parseConcrete code).map (contextOf request) := by
  refine congrArg codes.mapM (funext fun code => ?_)
  cases Permission.parseConcrete code <;> rfl

lemma exists_context_iff :
    (∃ ctx, (Permission.parseConcrete code).map (contextOf request) = .ok ctx) ↔
      IsConcrete code := by
  rw [← Permission.exists_parseConcrete_iff]
  cases Permission.parseConcrete code <;> simp [Except.map]

lemma exists_contexts (h : ∀ code ∈ codes, IsConcrete code) :
    ∃ ctxs, contexts request codes = .ok ctxs := by
  rw [contexts_eq_mapM, exists_mapM_eq_ok_iff]
  exact fun code hcode => exists_context_iff.2 (h code hcode)

/-- A text that is no concrete code is reported before anything is asked. -/
lemma askAll_of_not_concrete (hbefore : ∀ c ∈ before, IsConcrete c) (hcode : ¬IsConcrete code) :
    ∃ reason, ∀ fact, askAll check fact request (before ++ code :: after) s =
      (.error (.invalidCode code reason), s) := by
  obtain ⟨reason, hreason⟩ : ∃ reason,
      Permission.parseConcrete code = .error (.invalidCode code reason) := by
    cases hparse : Permission.parseConcrete code with
    | ok p => exact absurd (Permission.exists_parseConcrete_iff.1 ⟨p, hparse⟩) hcode
    | error fault =>
      obtain ⟨reason, rfl⟩ := Permission.parseConcrete_eq_error hparse
      exact ⟨reason, rfl⟩
  have herror : contexts request (before ++ code :: after) = .error (.invalidCode code reason) := by
    rw [contexts_eq_mapM, mapM_eq_error_iff]
    exact ⟨before, code, after, rfl, fun c hc => exists_context_iff.2 (hbefore c hc),
      by rw [hreason]; rfl⟩
  exact ⟨reason, fun fact => by rw [askAll, herror]⟩

end Checker

namespace Engine

variable {e : Engine} {request : Request} {ctx other : CheckContext} {ctxs : List CheckContext}
  {codes : List String} {code : String} {r : CheckResult} {results : List CheckResult}

/-! ### Checks of one request -/

/-- What a check takes to be the permissions of its subject is taken again afterwards. -/
lemma permissionsOf_check (e : Engine) (ctx : CheckContext) :
    (e.check ctx).2.permissionsOf ctx.permissionKey = e.permissionsOf ctx.permissionKey := by
  have hafter := e.check_afterChecks ctx
  rw [permissionsOf, permissionsOf, hafter.loader, hafter.cacheClock, check_snd_cache]
  rcases e.service.begin_snd_cache e.loader e.cacheClock ctx with h | h
  · rw [h]
  · rw [h]
    exact (PermissionCache.getOrLoad_getOrLoad _ _ _ _ _ _).resolve_right fun hother =>
      hother.1 rfl

/-- A check does not change the answer to another check of its request. -/
lemma check_check_fst (h : other.request = ctx.request) :
    ((e.check ctx).2.check other).1 = (e.check other).1 := by
  have hkey : other.permissionKey = ctx.permissionKey := by
    rw [CheckContext.permissionKey, CheckContext.permissionKey, h]
  rw [(check_spec (e.check ctx).2 other).1, (check_spec e other).1,
    (check_spec e ctx).2.policiesOf, hkey, permissionsOf_check]

lemma oneByOne_of_request (h : ∀ ctx ∈ ctxs, ctx.request = request) :
    Checker.oneByOne check ctxs e = ctxs.map fun ctx => (e.check ctx).1 := by
  induction ctxs generalizing e with
  | nil => rfl
  | cons ctx rest ih =>
    obtain ⟨hctx, hrest⟩ := List.forall_mem_cons.1 h
    rw [Checker.oneByOne, List.map_cons, ih hrest]
    refine congrArg _ (List.map_congr_left fun other hother => check_check_fst ?_)
    rw [hrest other hother, hctx]

/-! ### Codes -/

/-- The answer to the check of a single code, or what is wrong with the code. -/
def answerTo (e : Engine) (request : Request) (code : String) : Except AccessError CheckResult :=
  (Permission.parseConcrete code).bind fun p => (e.check (Checker.contextOf request p)).1

/-- The check of the single code passes. -/
def Allows (e : Engine) (request : Request) (code : String) : Prop :=
  ∃ r, e.answerTo request code = .ok r ∧ r.allowed = true

lemma answerTo_eq_ok_iff :
    e.answerTo request code = .ok r ↔ ∃ p, Permission.parseConcrete code = .ok p ∧
      (e.check (Checker.contextOf request p)).1 = .ok r :=
  bind_eq_ok_iff

lemma isConcrete_of_answerTo (h : e.answerTo request code = .ok r) : IsConcrete code := by
  obtain ⟨p, hp, -⟩ := answerTo_eq_ok_iff.1 h
  exact Permission.exists_parseConcrete_iff.1 ⟨p, hp⟩

lemma permission_of_answerTo (h : e.answerTo request code = .ok r) : r.permission = code := by
  obtain ⟨p, hp, hr⟩ := answerTo_eq_ok_iff.1 h
  obtain ⟨htext, -⟩ := Permission.ofConcrete_eq_ok_iff.1 (Permission.parseConcrete_eq_ok_iff.1 hp)
  rw [permission_of_check hr, htext]
  rfl

/-- The checks of codes are checks of one request, and each is the check of its code. -/
lemma contexts_spec (h : Checker.contexts request codes = .ok ctxs) (e : Engine) :
    (∀ ctx ∈ ctxs, ctx.request = request) ∧
      ctxs.map (fun ctx => (e.check ctx).1) = codes.map (e.answerTo request) := by
  rw [Checker.contexts_eq_mapM, mapM_eq_ok_iff] at h
  induction h with
  | nil => exact ⟨nofun, rfl⟩
  | @cons code ctx codes ctxs hcode _ ih =>
    obtain ⟨p, hp, rfl⟩ := map_eq_ok_iff.1 hcode
    refine ⟨List.forall_mem_cons.2 ⟨rfl, ih.1⟩, ?_⟩
    rw [List.map_cons, List.map_cons, ih.2, answerTo, hp]
    rfl

/-- Codes are asked for together as they are singly, one after the other. -/
lemma askAll_fst (h : ∀ code ∈ codes, IsConcrete code) (fact : BatchResult → Bool) :
    (Checker.askAll check fact request codes e).1 =
      (codes.mapM (e.answerTo request)).map fun results => fact (.ofResults results) := by
  obtain ⟨ctxs, hctxs⟩ : ∃ ctxs, Checker.contexts request codes = .ok ctxs :=
    Checker.exists_contexts h
  obtain ⟨hrequest, hanswers⟩ := contexts_spec hctxs e
  have hmany : (Checker.many check ctxs e).1 =
      (codes.mapM (e.answerTo request)).map BatchResult.ofResults := by
    rw [Checker.many_fst, oneByOne_of_request hrequest, hanswers, List.mapM_map]
    rfl
  rw [Checker.askAll, hctxs]
  show (Checker.many check ctxs e).1.map fact = _
  rw [hmany]
  cases codes.mapM (e.answerTo request) <;> rfl

/-- A code that is asked for twice gets one answer, so that no answer is hidden. -/
lemma not_hides_of_answers (h : codes.mapM (e.answerTo request) = .ok results) (allowed : Bool) :
    ¬BatchResult.Hides results allowed := by
  refine BatchResult.not_hides_of_answered_alike (fun r hr r' hr' hsame => ?_) allowed
  obtain ⟨code, -, hcode⟩ := (mem_of_mapM_eq_ok h).1 hr
  obtain ⟨code', -, hcode'⟩ := (mem_of_mapM_eq_ok h).1 hr'
  rw [permission_of_answerTo hcode, permission_of_answerTo hcode'] at hsame
  rw [hsame, hcode'] at hcode
  exact (Except.ok.inj hcode).symm

lemma forall_allows_iff (h : codes.mapM (e.answerTo request) = .ok results) :
    (∀ code ∈ codes, e.Allows request code) ↔ ∀ r ∈ results, r.allowed = true := by
  constructor
  · intro hall r hr
    obtain ⟨code, hcode, hanswer⟩ := (mem_of_mapM_eq_ok h).1 hr
    obtain ⟨r', hanswer', hallowed⟩ := hall code hcode
    rw [hanswer] at hanswer'
    cases hanswer'
    exact hallowed
  · intro hall code hcode
    obtain ⟨r, hanswer⟩ := exists_of_mapM_eq_ok h hcode
    exact ⟨r, hanswer, hall r ((mem_of_mapM_eq_ok h).2 ⟨code, hcode, hanswer⟩)⟩

lemma exists_allows_iff (h : codes.mapM (e.answerTo request) = .ok results) :
    (∃ code ∈ codes, e.Allows request code) ↔ ∃ r ∈ results, r.allowed = true := by
  constructor
  · rintro ⟨code, hcode, r, hanswer, hallowed⟩
    exact ⟨r, (mem_of_mapM_eq_ok h).2 ⟨code, hcode, hanswer⟩, hallowed⟩
  · rintro ⟨r, hr, hallowed⟩
    obtain ⟨code, hcode, hanswer⟩ := (mem_of_mapM_eq_ok h).1 hr
    exact ⟨code, hcode, r, hanswer, hallowed⟩

/-- The first text that is no concrete code is reported, and nothing else happens. Where every
single check has an answer, all of the codes are said to be allowed if each of the checks passes,
and some of them if one of the checks does. Where a check fails, the first failure is reported. -/
theorem codes_asked_together_as_singly (e : Engine) (request : Request) (codes : List String) :
    (∀ before code after, codes = before ++ code :: after → (∀ c ∈ before, IsConcrete c) →
      ¬IsConcrete code → ∃ reason,
        Checker.hasAny check request codes e = (.error (.invalidCode code reason), e) ∧
        Checker.hasAll check request codes e = (.error (.invalidCode code reason), e)) ∧
    ((∀ code ∈ codes, ∃ r, e.answerTo request code = .ok r) →
      ∃ any all, (Checker.hasAny check request codes e).1 = .ok any ∧
        (Checker.hasAll check request codes e).1 = .ok all ∧
        (any = true ↔ ∃ code ∈ codes, e.Allows request code) ∧
        (all = true ↔ ∀ code ∈ codes, e.Allows request code)) ∧
    ∀ before code after fault, codes = before ++ code :: after → (∀ c ∈ codes, IsConcrete c) →
      (∀ c ∈ before, ∃ r, e.answerTo request c = .ok r) →
      e.answerTo request code = .error fault →
        (Checker.hasAny check request codes e).1 = .error fault ∧
        (Checker.hasAll check request codes e).1 = .error fault := by
  refine ⟨?_, ?_, ?_⟩
  · rintro before code after rfl hbefore hcode
    obtain ⟨reason, hreason⟩ := Checker.askAll_of_not_concrete hbefore hcode
    exact ⟨reason, hreason _, hreason _⟩
  · intro hanswered
    have hconcrete : ∀ code ∈ codes, IsConcrete code := fun code hcode =>
      (hanswered code hcode).elim fun _ => isConcrete_of_answerTo
    obtain ⟨results, hresults⟩ := exists_mapM_eq_ok_iff.2 hanswered
    refine ⟨_, _, (askAll_fst hconcrete _).trans (congrArg _ hresults),
      (askAll_fst hconcrete _).trans (congrArg _ hresults), ?_, ?_⟩
    · rw [exists_allows_iff hresults]
      exact BatchResult.anyAllowed_agrees_iff.2 (not_hides_of_answers hresults true)
    · rw [forall_allows_iff hresults]
      exact BatchResult.allAllowed_agrees_iff.2 (not_hides_of_answers hresults false)
  · intro before code after fault hcodes hconcrete hbefore hcode
    have herror : codes.mapM (e.answerTo request) = .error fault :=
      mapM_eq_error_iff.2 ⟨before, code, after, hcodes, hbefore, hcode⟩
    exact ⟨(askAll_fst hconcrete _).trans (congrArg _ herror),
      (askAll_fst hconcrete _).trans (congrArg _ herror)⟩

example (e : Engine) (request : Request) :
    (Checker.hasAny check request [] e).1 = .ok false ∧
      (Checker.hasAll check request [] e).1 = .ok true := ⟨rfl, rfl⟩

/-! A user without roles to whom one code is granted directly. -/

def listing : Request where
  tenant := { id := "t" }
  subject := { id := "u", kind := .user, directPermissions := ["order:list"] }

theorem listing_and_reading_twice :
    (Checker.hasAny check listing ["order:list", "order:read", "order:read"] rolelessEngine).1 =
        .ok true ∧
      (Checker.hasAll check listing ["order:list", "order:read", "order:read"] rolelessEngine).1 =
        .ok false ∧
      ∃ reason, Checker.hasAll check listing ["order:list", "order:*", "order"] rolelessEngine =
        (.error (.invalidCode "order:*" reason), rolelessEngine) := by
  have hlist : rolelessEngine.answerTo listing "order:list" =
      .ok ⟨true, "order:list", .directPermission, 0⟩ := rfl
  have hread : rolelessEngine.answerTo listing "order:read" =
      .ok ⟨false, "order:read", .notGranted, 0⟩ := by
    show (rolelessEngine.check (Checker.contextOf listing ⟨"order", "read"⟩)).1 = _
    rw [(check_spec _ _).1, permissionsOf_rolelessEngine]
    rfl
  have hdenied : ¬rolelessEngine.Allows listing "order:read" := by
    rintro ⟨r, hr, hallowed⟩
    rw [hread] at hr
    cases hr
    cases hallowed
  obtain ⟨any, all, hany, hall, hsome, hevery⟩ :=
    (codes_asked_together_as_singly rolelessEngine listing
      ["order:list", "order:read", "order:read"]).2.1 (by simp [hlist, hread])
  obtain ⟨reason, -, hpattern⟩ :=
    (codes_asked_together_as_singly rolelessEngine listing
      ["order:list", "order:*", "order"]).1 ["order:list"] "order:*" ["order"] rfl
      (by
        intro c hc
        rw [List.mem_singleton.1 hc]
        exact isConcrete_of_answerTo hlist)
      (by
        rw [← Permission.exists_parseConcrete_iff]
        rintro ⟨p, hp⟩
        cases hp)
  have hanyTrue : any = true := hsome.2 ⟨"order:list", by simp, _, hlist, rfl⟩
  have hallFalse : all = false := by
    rw [← Bool.not_eq_true, hevery]
    exact fun hallows => hdenied (hallows "order:read" (by simp))
  exact ⟨hanyTrue ▸ hany, hallFalse ▸ hall, reason, hpattern⟩

end Engine

end AccessControl
