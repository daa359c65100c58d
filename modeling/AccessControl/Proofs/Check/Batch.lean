import AccessControl.Proofs.Engine.Answer
import AccessControl.Proofs.Entries
import Mathlib.Data.Set.List
/-!
# What a batch of checks says

A batch asks its checks one after the other and keeps the answers by their codes, so that of several
answers to one code it keeps the last. What it says about all and about any of the answers it says
about those kept: an earlier answer to a code that is asked again does not count.

So a batch disagrees with its checks in two cases, and in no others. It says that all are allowed
although one is not, if each code is allowed by the last answer to it. It says that none is allowed
although one is, if each code is denied by the last answer to it. Neither can happen when no code is
asked twice.
-/
namespace AccessControl

/-! ### Checks one by one -/

namespace Checker

variable {σ : Type} (check : Checker σ)

/-- The answers to checks that are made one after the other, whatever they are. -/
def oneByOne : List CheckContext → σ → List (Except AccessError CheckResult)
  | [], _ => []
  | ctx :: rest, s => (check ctx s).1 :: oneByOne rest (check ctx s).2

/-- Checks that are made one after the other are answered together, or with the first error. -/
lemma each_fst (ctxs : List CheckContext) (s : σ) :
    (each check ctxs s).1 = (oneByOne check ctxs s).mapM id := by
  induction ctxs generalizing s with
  | nil => rfl
  | cons ctx rest ih =>
    rw [each, oneByOne, List.mapM_cons]
    rcases check ctx s with ⟨fault | r, s'⟩
    · rfl
    · rw [← ih]
      dsimp only
      rcases each check rest s' with ⟨fault | rs, s''⟩ <;> rfl

lemma many_fst (ctxs : List CheckContext) (s : σ) :
    (many check ctxs s).1 = ((oneByOne check ctxs s).mapM id).map BatchResult.ofResults := by
  rw [← each_fst]
  rfl

lemma many_of_oneByOne {ctxs : List CheckContext} {s : σ} {results : List CheckResult}
    (h : oneByOne check ctxs s = results.map .ok) :
    (many check ctxs s).1 = .ok (.ofResults results) := by
  have hresults : (oneByOne check ctxs s).mapM id = .ok results := by
    rw [h, mapM_eq_ok_iff, List.forall₂_map_left_iff, List.forall₂_same]
    exact fun _ _ => rfl
  rw [many_fst, hresults]
  rfl

end Checker

/-! ### The answers that are kept -/

namespace BatchResult

variable {results : List CheckResult} {r : CheckResult} {code : String}

/-- The answer is the last one to its code. -/
def IsLast (results : List CheckResult) (r : CheckResult) : Prop :=
  ∃ before after, results = before ++ r :: after ∧ ∀ later ∈ after, later.permission ≠ r.permission

/-- Some answer is of this kind, but none that is the last one to its code. -/
def Hides (results : List CheckResult) (allowed : Bool) : Prop :=
  (∃ r ∈ results, r.allowed = allowed) ∧ ∀ r, IsLast results r → r.allowed ≠ allowed

lemma IsLast.mem (h : IsLast results r) : r ∈ results := by
  obtain ⟨before, after, rfl, -⟩ := h
  simp

/-- To each code that is answered there is a last answer. -/
lemma exists_isLast (h : r ∈ results) :
    ∃ last, IsLast results last ∧ last.permission = r.permission := by
  induction results using List.reverseRecOn with
  | nil => cases h
  | append_singleton earlier x ih =>
    -- The answer that comes last is the last one to its code, and takes nothing from other codes.
    by_cases hx : x.permission = r.permission
    · exact ⟨x, ⟨earlier, [], rfl, by simp⟩, hx⟩
    · have hr : r ∈ earlier := by
        rcases List.mem_append.1 h with h | h
        · exact h
        · rw [List.mem_singleton.1 h] at hx
          exact absurd rfl hx
      obtain ⟨last, ⟨before, after, rfl, hafter⟩, hcode⟩ := ih hr
      refine ⟨last, ⟨before, after ++ [x], by simp, fun later hlater => ?_⟩, hcode⟩
      rcases List.mem_append.1 hlater with hlater | hlater
      · exact hafter later hlater
      · rw [List.mem_singleton.1 hlater, hcode]
        exact hx

lemma get?_ofResults :
    (ofResults results).results.get? code = some r ↔
      IsLast results r ∧ r.permission = code := by
  simp only [ofResults, Entries.get?_ofList, lastValue_eq_some_iff, List.map_eq_append_iff,
    List.map_eq_cons_iff]
  constructor
  · rintro ⟨-, -, ⟨before, -, rfl, -, last, after, rfl, hlast, rfl⟩, hafter⟩
    cases hlast
    refine ⟨⟨before, after, rfl, fun later hlater => ?_⟩, rfl⟩
    exact hafter (later.permission, later) (List.mem_map.2 ⟨later, hlater, rfl⟩)
  · rintro ⟨⟨before, after, rfl, hafter⟩, rfl⟩
    refine ⟨_, _, ⟨before, r :: after, rfl, rfl, r, after, rfl, rfl, rfl⟩, fun pair hpair => ?_⟩
    obtain ⟨later, hlater, rfl⟩ := List.mem_map.1 hpair
    exact hafter later hlater

lemma mem_ofResults {entry : String × CheckResult} :
    entry ∈ (ofResults results).results ↔
      IsLast results entry.2 ∧ entry.2.permission = entry.1 := by
  rw [← get?_ofResults]
  exact (Entries.ofList_sorted _).mem_iff

lemma allAllowed_iff :
    (ofResults results).allAllowed = true ↔ ∀ r, IsLast results r → r.allowed = true := by
  show (ofResults results).results.all _ = true ↔ _
  rw [List.all_eq_true]
  constructor
  · intro h r hr
    exact h (r.permission, r) (mem_ofResults.2 ⟨hr, rfl⟩)
  · intro h entry hentry
    exact h entry.2 (mem_ofResults.1 hentry).1

lemma anyAllowed_iff :
    (ofResults results).anyAllowed = true ↔ ∃ r, IsLast results r ∧ r.allowed = true := by
  show (ofResults results).results.any _ = true ↔ _
  rw [List.any_eq_true]
  constructor
  · rintro ⟨entry, hentry, hallowed⟩
    exact ⟨entry.2, (mem_ofResults.1 hentry).1, hallowed⟩
  · rintro ⟨r, hr, hallowed⟩
    exact ⟨(r.permission, r), mem_ofResults.2 ⟨hr, rfl⟩, hallowed⟩

/-- What is said about all answers is wrong exactly when a no is hidden. -/
lemma allAllowed_agrees_iff :
    ((ofResults results).allAllowed = true ↔ ∀ r ∈ results, r.allowed = true) ↔
      ¬Hides results false := by
  rw [allAllowed_iff, Hides]
  constructor
  · rintro h ⟨⟨r, hr, hdenied⟩, hlast⟩
    have hall := h.1 fun r hr => by simpa using hlast r hr
    rw [hall r hr] at hdenied
    cases hdenied
  · intro h
    -- If all last answers are yes, a no would be hidden.
    constructor
    · intro hlast r hr
      by_contra hdenied
      refine h ⟨⟨r, hr, by simpa using hdenied⟩, fun r hr => ?_⟩
      rw [hlast r hr]
      exact Bool.noConfusion
    · intro hall r hr
      exact hall r hr.mem

/-- What is said about any of the answers is wrong exactly when a yes is hidden. -/
lemma anyAllowed_agrees_iff :
    ((ofResults results).anyAllowed = true ↔ ∃ r ∈ results, r.allowed = true) ↔
      ¬Hides results true := by
  rw [anyAllowed_iff, Hides]
  constructor
  · rintro h ⟨hsome, hlast⟩
    obtain ⟨r, hr, hallowed⟩ := h.2 hsome
    exact hlast r hr hallowed
  · intro h
    constructor
    · rintro ⟨r, hr, hallowed⟩
      exact ⟨r, hr.mem, hallowed⟩
    · intro hsome
      by_contra hnone
      exact h ⟨hsome, fun r hr hallowed => hnone ⟨r, hr, hallowed⟩⟩

/-- When a code is given one answer only, nothing is hidden. -/
lemma not_hides_of_answered_alike
    (hsame : ∀ r ∈ results, ∀ r' ∈ results, r.permission = r'.permission → r = r')
    (allowed : Bool) : ¬Hides results allowed := by
  rintro ⟨⟨r, hr, hallowed⟩, hlast⟩
  obtain ⟨last, hlast', hcode⟩ := exists_isLast hr
  rw [← hsame last hlast'.mem r hr hcode] at hallowed
  exact hlast last hlast' hallowed

/-- When no code is answered twice, nothing is hidden. -/
lemma not_hides (hcodes : (results.map CheckResult.permission).Nodup) (allowed : Bool) :
    ¬Hides results allowed :=
  not_hides_of_answered_alike (fun _ hr _ hr' hcode => List.inj_on_of_nodup_map hcodes hr hr' hcode)
    allowed

end BatchResult

/-! ### Batches of an engine -/

namespace Engine

variable {e e' : Engine} {ctxs : List CheckContext} {results : List CheckResult}

lemma permission_of_check {ctx : CheckContext} {r : CheckResult} (h : (e.check ctx).1 = .ok r) :
    r.permission = ctx.permission := by
  rw [(check_spec e ctx).1] at h
  obtain h | h | ⟨_, _, -, -, h⟩ := ctx.resultFrom_cases h <;> cases h <;> rfl

/-- Every answer is an answer to the code that was asked. -/
lemma map_permission_of_oneByOne (h : Checker.oneByOne check ctxs e = results.map .ok) :
    results.map CheckResult.permission = ctxs.map CheckContext.permission := by
  induction ctxs generalizing e results with
  | nil =>
    rw [List.map_eq_nil_iff.1 h.symm]
    rfl
  | cons ctx rest ih =>
    obtain ⟨r, results, rfl, hr, hresults⟩ := List.map_eq_cons_iff.1 h.symm
    rw [List.map_cons, List.map_cons, permission_of_check hr.symm, ih hresults.symm]

/-- Where nothing wrong is kept, it makes no difference that checks are made one after the other. -/
lemma oneByOne_of_settled (h : e'.Follows e) (he : e.Settled) (ctxs : List CheckContext) :
    Checker.oneByOne check ctxs e' = ctxs.map fun ctx => (e.check ctx).1 := by
  induction ctxs generalizing e' with
  | nil => rfl
  | cons ctx rest ih =>
    rw [Checker.oneByOne, List.map_cons, h.check_fst he ctx, ih ((check_spec e' ctx).2.trans h)]

/-- While nothing but checks is asked of an engine that has been built, each check is answered as it
would have been at first, whatever was asked before it. -/
theorem oneByOne_of_build {settings : Settings} {roles : Option RoleSource}
    {policies : Option PolicyStore} {hierarchy : Option HierarchyResolver} {now : Timestamp}
    (h : build settings roles policies hierarchy now = .ok e) (earlier ctxs : List CheckContext) :
    Checker.oneByOne check ctxs (Checker.many check earlier e).2 =
      ctxs.map fun ctx => (e.check ctx).1 := by
  have hafter := settled_through_checks h earlier
  rw [oneByOne_of_settled (.refl _) hafter]
  have hbuilt := (keepsNothing_of_build h).settled
  exact List.map_congr_left fun ctx _ => (e.follows_many earlier).check_fst hbuilt ctx

/-- A batch of checks that all succeed is answered for every code. What it says about all and about
any of the answers goes by the last answer to each code, and agrees with the single checks exactly
when no answer that differs from it is hidden by later ones. -/
theorem checkMany_agrees_iff_not_hides (e : Engine) (ctxs : List CheckContext)
    (hsucceed : ∀ answer ∈ Checker.oneByOne check ctxs e, ∃ r, answer = .ok r) :
    ∃ (results : List CheckResult) (batch : BatchResult),
      Checker.oneByOne check ctxs e = results.map .ok ∧
      (e.Settled → Checker.oneByOne check ctxs e = ctxs.map fun ctx => (e.check ctx).1) ∧
      (Checker.many check ctxs e).1 = .ok batch ∧
      (∀ code, (∃ r, batch.results.get? code = some r) ↔ ∃ ctx ∈ ctxs, ctx.permission = code) ∧
      (batch.allAllowed = true ↔ ∀ r, BatchResult.IsLast results r → r.allowed = true) ∧
      (batch.anyAllowed = true ↔ ∃ r, BatchResult.IsLast results r ∧ r.allowed = true) ∧
      ((batch.allAllowed = true ↔ ∀ r ∈ results, r.allowed = true) ↔
        ¬BatchResult.Hides results false) ∧
      ((batch.anyAllowed = true ↔ ∃ r ∈ results, r.allowed = true) ↔
        ¬BatchResult.Hides results true) ∧
      ((ctxs.map CheckContext.permission).Nodup → ∀ allowed,
        ¬BatchResult.Hides results allowed) := by
  obtain ⟨results, hresults⟩ : Checker.oneByOne check ctxs e ∈ Set.range (List.map .ok) := by
    rw [Set.range_list_map]
    intro answer hanswer
    obtain ⟨r, rfl⟩ := hsucceed answer hanswer
    exact ⟨r, rfl⟩
  replace hresults := hresults.symm
  have hcodes := map_permission_of_oneByOne hresults
  refine ⟨results, .ofResults results, hresults, fun he => oneByOne_of_settled (.refl e) he ctxs,
    Checker.many_of_oneByOne check hresults, fun code => ?_, BatchResult.allAllowed_iff,
    BatchResult.anyAllowed_iff, BatchResult.allAllowed_agrees_iff,
    BatchResult.anyAllowed_agrees_iff, fun hnodup => BatchResult.not_hides (hcodes ▸ hnodup)⟩
  have hasked : (∃ ctx ∈ ctxs, ctx.permission = code) ↔ ∃ r ∈ results, r.permission = code := by
    rw [← List.mem_map, ← hcodes, List.mem_map]
  rw [hasked]
  constructor
  · rintro ⟨r, hr⟩
    obtain ⟨hlast, hcode⟩ := BatchResult.get?_ofResults.1 hr
    exact ⟨r, hlast.mem, hcode⟩
  · rintro ⟨r, hr, rfl⟩
    obtain ⟨last, hlast, hcode⟩ := BatchResult.exists_isLast hr
    exact ⟨last, BatchResult.get?_ofResults.2 ⟨hlast, hcode⟩⟩

/-! An engine without any roles. A user may not read orders, an internal caller may. -/

def rolelessEngine : Engine where
  settings := {}
  service := .new ⟨1, Nat.one_pos⟩ 0 false
  roles := .fixed {}
  policies := none
  hierarchy := none
  wallClock := ⟨2024, 1, 1, 0, 0, 0⟩

def readingBy (kind : SubjectKind) : CheckContext where
  request := { tenant := { id := "t" }, subject := { id := "u", kind } }
  resource := "order"
  action := "read"

lemma permissionsOf_rolelessEngine (key : PermissionKey) :
    rolelessEngine.permissionsOf key =
      .ok (.none key.tenantId key.subjectKind key.subjectId rolelessEngine.wallClock) := by
  have hkeeps : rolelessEngine.KeepsNothing := ⟨rfl, nofun, nofun⟩
  rw [hkeeps.permissionsOf]
  simp [loader, rolelessEngine, RoleSource.directory, FixedRoles.directory,
    RoleDirectory.effectivePermissions, RoleDirectory.contributors, RoleDirectory.reached,
    Graph.preorder, Graph.walk, bind, Except.bind, pure, Except.pure]
  rfl

theorem allAllowed_of_hidden_denial :
    ∃ batch : BatchResult,
      (Checker.many check [readingBy .user, readingBy .system] rolelessEngine).1 = .ok batch ∧
      batch.allAllowed = true ∧
      ∃ r, (rolelessEngine.check (readingBy .user)).1 = .ok r ∧ r.allowed = false := by
  let no : CheckResult := ⟨false, "order:read", .notGranted, 0⟩
  let yes : CheckResult := ⟨true, "order:read", .system, 0⟩
  have hdenied : (rolelessEngine.check (readingBy .user)).1 = .ok no := by
    rw [(check_spec _ _).1, permissionsOf_rolelessEngine]
    rfl
  have hallowed : ∀ e : Engine, (e.check (readingBy .system)).1 = .ok yes := fun _ => rfl
  have hanswers : Checker.oneByOne check [readingBy .user, readingBy .system] rolelessEngine =
      [.ok no, .ok yes] := by
    rw [Checker.oneByOne, Checker.oneByOne, hdenied, hallowed]
    rfl
  obtain ⟨results, batch, hresults, -, hbatch, -, hall, -⟩ :=
    checkMany_agrees_iff_not_hides rolelessEngine [readingBy .user, readingBy .system] (by
      rw [hanswers]
      simp)
  have hkept : results = [no, yes] := by
    rw [hanswers] at hresults
    exact List.map_injective_iff.2 (fun _ _ h => Except.ok.inj h) hresults.symm
  refine ⟨batch, hbatch, hall.2 ?_, no, hdenied, rfl⟩
  rintro r ⟨before, after, hsplit, hafter⟩
  rw [hkept] at hsplit
  rcases before with _ | ⟨first, _ | ⟨second, before⟩⟩
  · cases hsplit
    exact absurd rfl (hafter yes List.mem_cons_self)
  · cases hsplit
    rfl
  · simp at hsplit

end Engine

end AccessControl
