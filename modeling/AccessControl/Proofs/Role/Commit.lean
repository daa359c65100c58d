import AccessControl.Proofs.Graph.Reachability
import AccessControl.Proofs.Role.Representation
import Mathlib.Data.List.Induction
/-!
# What is refused and what is committed

A change of roles and bindings is refused for one of a few reasons (`RoleChange.Refused`), some of
which show only after hooks have run; then all tenants keep their roles and bindings. Else it is
committed, and only then do the hooks run that come after it. They see the role as it is stored
(`RoleChange.Answered`): what they make of it is answered, and nothing more comes of it. So hooks
with the same pipelines before operations lead to the same roles and bindings, however they go on
after operations (`Lifecycle.SameBefore`).
-/
namespace AccessControl

/-- The two have the same hooks before every operation. -/
def Lifecycle.SameBefore {α : Type} (l l' : Lifecycle α) : Prop :=
  ∀ operation, l.pipeline ⟨.before, operation⟩ = l'.pipeline ⟨.before, operation⟩

lemma runBefore_of_sameBefore {hooks hooks' : Lifecycle Role} (h : hooks'.SameBefore hooks) :
    runBefore hooks' = runBefore hooks := by
  funext operation r
  simp only [runBefore, Lifecycle.run, h operation]

lemma runBefore_eq_error {hooks : Lifecycle Role} {operation : Operation} {r : Role}
    {e : AccessError} (h : runBefore hooks operation r = .error e) :
    ∃ reason, hooks.run ⟨.before, operation⟩ r = .halt reason ∧
      e = .permissionDenied (Permission.encode "role" operation.label) reason := by
  unfold runBefore at h
  cases hrun : hooks.run ⟨.before, operation⟩ r with
  | proceed changed => simp [hrun] at h
  | halt reason =>
    simp only [hrun, Except.error.injEq] at h
    exact ⟨reason, rfl, h.symm⟩

/-- What is returned of a role that is stored: what the hooks after the operation let through, and
the role as it is stored when one of them halts. -/
inductive Returned (hooks : Lifecycle Role) (operation : Operation) (stored : Role) : Role → Prop
  | rewritten {r : Role} (h : hooks.run ⟨.after, operation⟩ stored = .proceed r) :
    Returned hooks operation stored r
  | halted {reason : String} (h : hooks.run ⟨.after, operation⟩ stored = .halt reason) :
    Returned hooks operation stored stored

lemma returned_runAfter (hooks : Lifecycle Role) (operation : Operation) (stored : Role) :
    Returned hooks operation stored (runAfter hooks operation stored) := by
  unfold runAfter
  cases hrun : hooks.run ⟨.after, operation⟩ stored with
  | proceed r => exact .rewritten hrun
  | halt reason => exact .halted hrun

namespace RoleChange

variable {hooks hooks' : Lifecycle Role} {p : RolePartition} {c : RoleChange} {s : RoleStore}
  {e : AccessError} {answer : RoleAnswer}

/-! ### Why a change is refused -/

/-- The role that has to be there for the change. -/
def needs : RoleChange → Option String
  | create .. => none
  | update _ _ id _ => some id
  | delete _ id => some id
  | bind _ _ new => some new.roleId
  | unbind .. => none

/-- The role that hooks see before the change, and the operation that they see it in. -/
def seen (p : RolePartition) : RoleChange → Option (Operation × Role)
  | create id now new => some (.create, RolePartition.draft id now new)
  | update now _ id patch =>
    (p.role? id).map fun current => (.update, { patch.apply current with updatedAt := now })
  | delete _ id => (p.role? id).map fun current => (.delete, current)
  | bind .. => none
  | unbind .. => none

/-- The change is refused with this error. -/
inductive Refused (hooks : Lifecycle Role) (p : RolePartition) : RoleChange → AccessError → Prop
  | missing {c id} (hneeds : c.needs = some id) (hnone : p.role? id = none) :
    Refused hooks p c (.notFound "role" id)
  | nameTaken {id now new entry} (hentry : entry ∈ p.roles) (hname : entry.2.name = new.name) :
    Refused hooks p (.create id now new)
      (.conflict ("role '" ++ new.name ++ "' already exists in tenant '" ++ new.tenantId ++ "'"))
  /-- A grant that was asked for may not stand in a list of grants. -/
  | invalidAsked {id now new pattern reason} (hpattern : pattern ∈ new.permissions)
    (hcheck : checkPattern pattern = .error (.invalidCode pattern reason)) :
    Refused hooks p (.create id now new) (.invalidCode pattern reason)
  | halted {c operation r reason} (hseen : c.seen p = some (operation, r))
    (hhalt : hooks.run ⟨.before, operation⟩ r = .halt reason) :
    Refused hooks p c (.permissionDenied (Permission.encode "role" operation.label) reason)
  /-- A grant of the role that is to be stored may not stand in a list of grants. -/
  | invalidGrant {c operation r r' pattern reason} (hseen : c.seen p = some (operation, r))
    (hstores : operation ≠ .delete) (hrun : runBefore hooks operation r = .ok r')
    (hpattern : pattern ∈ r'.permissions)
    (hcheck : checkPattern pattern = .error (.invalidCode pattern reason)) :
    Refused hooks p c (.invalidCode pattern reason)
  | circular {now tenant id patch operation r r'}
    (hseen : (update now tenant id patch).seen p = some (operation, r))
    (hrun : runBefore hooks operation r = .ok r')
    (hcycle : Relation.TransGen (p.inheritance.withNext id r'.inherits).Edge id id) :
    Refused hooks p (.update now tenant id patch) (.circularInheritance id)
  | boundTwice {id now new b} (hb : b ∈ p.bindings) (hkind : b.subjectKind = new.subjectKind)
    (hsubject : b.subjectId = new.subjectId) (hrole : b.roleId = new.roleId) :
    Refused hooks p (.bind id now new)
      (.conflict (new.subjectKind.label ++ " '" ++ new.subjectId ++
        "' is already bound to role '" ++ new.roleId ++ "'"))
  | notBound {tenant id} (hnone : ∀ b ∈ p.bindings, b.id ≠ id) :
    Refused hooks p (.unbind tenant id) (.notFound "binding" id)

lemma refused_of_accept {id : String} {now : Timestamp} {new : NewRole}
    (h : p.accept hooks id now new = .error e) : (create id now new).Refused hooks p e := by
  unfold RolePartition.accept at h
  rcases bind_eq_error_iff.1 h with hasked | ⟨_, -, h⟩
  · obtain ⟨pattern, hpattern, reason, rfl, hcheck⟩ := exists_invalid_of_checkPatterns hasked
    exact .invalidAsked hpattern hcheck
  split at h
  · rename_i hname
    cases h
    obtain ⟨entry, hentry, hname⟩ := List.any_eq_true.1 hname
    exact .nameTaken hentry (of_decide_eq_true hname)
  rcases bind_eq_error_iff.1 h with hbefore | ⟨r, hrun, h⟩
  · obtain ⟨reason, hhalt, rfl⟩ := runBefore_eq_error hbefore
    exact .halted rfl hhalt
  rcases bind_eq_error_iff.1 h with hgranted | ⟨_, -, h⟩
  · obtain ⟨pattern, hpattern, reason, rfl, hcheck⟩ := exists_invalid_of_checkPatterns hgranted
    exact .invalidGrant rfl nofun hrun hpattern hcheck
  · cases h

lemma refused_of_amend {now : Timestamp} {tenant id : String} {patch : RolePatch}
    (h : p.amend hooks now id patch = .error e) :
    (update now tenant id patch).Refused hooks p e := by
  unfold RolePartition.amend at h
  split at h
  · rename_i hnone
    cases h
    exact .missing rfl hnone
  rename_i current hcurrent
  have hseen : (update now tenant id patch).seen p =
      some (.update, { patch.apply current with updatedAt := now }) := by
    rw [seen, hcurrent, Option.map_some]
  rcases bind_eq_error_iff.1 h with hbefore | ⟨r, hrun, h⟩
  · obtain ⟨reason, hhalt, rfl⟩ := runBefore_eq_error hbefore
    exact .halted hseen hhalt
  rcases bind_eq_error_iff.1 h with hgranted | ⟨_, -, h⟩
  · obtain ⟨pattern, hpattern, reason, rfl, hcheck⟩ := exists_invalid_of_checkPatterns hgranted
    exact .invalidGrant hseen nofun hrun hpattern hcheck
  split at h
  · rename_i hcycle
    cases h
    exact .circular hseen hrun (Graph.createsCycle_iff.1 hcycle)
  · cases h

lemma refused_of_release {tenant id : String} (h : p.release hooks id = .error e) :
    (delete tenant id).Refused hooks p e := by
  unfold RolePartition.release at h
  split at h
  · rename_i hnone
    cases h
    exact .missing rfl hnone
  · rename_i current hcurrent
    obtain ⟨reason, hhalt, rfl⟩ := runBefore_eq_error h
    refine .halted ?_ hhalt
    rw [seen, hcurrent, Option.map_some]

lemma refused_of_attach {id : String} {now : Timestamp} {new : NewBinding}
    (h : p.attach id now new = .error e) : (bind id now new).Refused hooks p e := by
  unfold RolePartition.attach at h
  by_cases hnone : (p.role? new.roleId).isNone = true
  · rw [if_pos hnone] at h
    cases h
    exact .missing rfl (by simpa using hnone)
  rw [if_neg hnone] at h
  dsimp only at h
  split at h
  · rename_i hbound
    cases h
    obtain ⟨b, hb, hsame⟩ := List.any_eq_true.1 hbound
    simp only [Binding.isOf, Bool.and_eq_true, decide_eq_true_eq] at hsame
    obtain ⟨⟨hkind, hsubject⟩, hrole⟩ := hsame
    exact .boundTwice hb hkind hsubject hrole
  · cases h

/-! ### What is answered -/

/-- What is answered to a change that has left these roles and bindings. -/
inductive Answered (hooks : Lifecycle Role) (p : RolePartition) : RoleChange → RoleAnswer → Prop
  | create {id now new stored r} (hstored : p.role? id = some stored)
    (hreturned : Returned hooks .create stored r) : Answered hooks p (.create id now new) (.role r)
  | update {now tenant id patch stored r} (hstored : p.role? id = some stored)
    (hreturned : Returned hooks .update stored r) :
    Answered hooks p (.update now tenant id patch) (.role r)
  | delete {tenant id} (hgone : p.role? id = none) : Answered hooks p (.delete tenant id) .done
  | bind {id now new b} (hstored : b ∈ p.bindings) :
    Answered hooks p (.bind id now new) (.binding b)
  | unbind {tenant id} (hgone : ∀ b ∈ p.bindings, b.id ≠ id) :
    Answered hooks p (.unbind tenant id) .done

/-- A change is refused and leaves the store as it is; or it has its effect on its tenant, which
stands when the answer is given. -/
lemma ask_spec (hooks : Lifecycle Role) (s : RoleStore) (c : RoleChange)
    (hkeyed : (s.tenants.get c.tenant).Keyed) :
    (∃ e, c.Refused hooks (s.tenants.get c.tenant) e ∧ c.ask hooks s = (.error e, s)) ∨
      ∃ p answer, c.Effect hooks (s.tenants.get c.tenant) p ∧ c.Answered hooks p answer ∧
        c.ask hooks s = (.ok answer, s.modify c.tenant fun _ => p) := by
  cases c with
  | create id now new =>
    cases h : (s.tenants.get new.tenantId).accept hooks id now new with
    | error e =>
      refine Or.inl ⟨e, refused_of_accept h, ?_⟩
      rw [ask, RoleStore.create, h]
      rfl
    | ok r =>
      refine Or.inr ⟨_, .role (runAfter hooks .create r), .create h,
        .create ?_ (returned_runAfter hooks .create r), ?_⟩
      · rw [RolePartition.role?_store, if_pos (RolePartition.accept_id h).symm]
      · rw [ask, RoleStore.create, h]
        rfl
  | update now tenant id patch =>
    cases h : (s.tenants.get tenant).amend hooks now id patch with
    | error e =>
      refine Or.inl ⟨e, refused_of_amend h, ?_⟩
      rw [ask, RoleStore.update, h]
      rfl
    | ok r =>
      obtain ⟨current, hcurrent, hidentity⟩ := RolePartition.amend_identity h
      have hid : r.id = id := hidentity.id.trans (hkeyed id current hcurrent)
      refine Or.inr ⟨_, .role (runAfter hooks .update r), .update h,
        .update ?_ (returned_runAfter hooks .update r), ?_⟩
      · rw [RolePartition.role?_store, if_pos hid.symm]
      · rw [ask, RoleStore.update, h]
        rfl
  | delete tenant id =>
    cases h : (s.tenants.get tenant).release hooks id with
    | error e =>
      refine Or.inl ⟨e, refused_of_release h, ?_⟩
      rw [ask, RoleStore.delete, h]
      rfl
    | ok r =>
      refine Or.inr ⟨_, .done, .delete h, .delete ?_, ?_⟩
      · rw [RolePartition.role?_remove, if_pos rfl]
      · rw [ask, RoleStore.delete, h]
        rfl
  | bind id now new =>
    cases h : (s.tenants.get new.tenantId).attach id now new with
    | error e =>
      refine Or.inl ⟨e, refused_of_attach h, ?_⟩
      rw [ask, RoleStore.bind, h]
      rfl
    | ok b =>
      refine Or.inr ⟨_, .binding b, .bind h, .bind (by simp), ?_⟩
      rw [ask, RoleStore.bind, h]
      rfl
  | unbind tenant id =>
    by_cases h : ((s.tenants.get tenant).bindings.any fun b => b.id = id) = true
    · obtain ⟨b, hmem, hid⟩ := List.any_eq_true.1 h
      refine Or.inr ⟨_, .done, .unbind hmem (of_decide_eq_true hid), .unbind ?_, ?_⟩
      · intro b hb
        exact of_decide_eq_true (List.mem_filter.1 hb).2
      · rw [ask, RoleStore.unbind, if_pos h]
        rfl
    · refine Or.inl ⟨noBinding id, .notBound fun b hb hid => h ?_, ?_⟩
      · exact List.any_eq_true.2 ⟨b, hb, decide_eq_true hid⟩
      · rw [ask, RoleStore.unbind, if_neg h]
        rfl

/-! ### What hooks after an operation can do -/

/-- Hooks after operations have no part in what is stored, nor in what is refused. -/
lemma ask_of_sameBefore (h : hooks'.SameBefore hooks) (c : RoleChange) (s : RoleStore) :
    (c.ask hooks' s).2 = (c.ask hooks s).2 ∧
      ∀ e, (c.ask hooks' s).1 = .error e ↔ (c.ask hooks s).1 = .error e := by
  have hbefore := runBefore_of_sameBefore h
  cases c with
  | create id now new =>
    have haccept : (s.tenants.get new.tenantId).accept hooks' id now new =
        (s.tenants.get new.tenantId).accept hooks id now new := by
      unfold RolePartition.accept
      rw [hbefore]
    simp only [ask, RoleAnswer.ofOutcome, RoleStore.create, haccept, map_eq_error_iff]
    cases (s.tenants.get new.tenantId).accept hooks id now new <;> simp
  | update now tenant id patch =>
    have hamend : (s.tenants.get tenant).amend hooks' now id patch =
        (s.tenants.get tenant).amend hooks now id patch := by
      unfold RolePartition.amend
      rw [hbefore]
    simp only [ask, RoleAnswer.ofOutcome, RoleStore.update, hamend, map_eq_error_iff]
    cases (s.tenants.get tenant).amend hooks now id patch <;> simp
  | delete tenant id =>
    have hrelease : (s.tenants.get tenant).release hooks' id =
        (s.tenants.get tenant).release hooks id := by
      unfold RolePartition.release
      rw [hbefore]
    simp [ask, RoleStore.delete, hrelease]
  | bind id now new => exact ⟨rfl, fun _ => Iff.rfl⟩
  | unbind tenant id => exact ⟨rfl, fun _ => Iff.rfl⟩

end RoleChange

namespace RoleStore

variable {hooks hooks' : Lifecycle Role} {s : RoleStore}

lemma run_of_sameBefore (h : hooks'.SameBefore hooks) (changes : List RoleChange) (s : RoleStore) :
    run hooks' changes s = run hooks changes s := by
  induction changes using List.reverseRecOn with
  | nil => rfl
  | append_singleton changes c ih =>
    rw [run_concat, run_concat, ih, ← c.ask_snd, ← c.ask_snd]
    exact (c.ask_of_sameBefore h _).1

/-- The store holds what some changes have made of an empty one. -/
def Reachable (s : RoleStore) : Prop := ∃ hooks changes, s = run hooks changes {}

/-- Whatever has been asked of the store before, a change that ends with an error is refused for a
reason that shows in the roles and bindings of its tenant, in what is asked, or in what the hooks
before the operation say; and all tenants keep their roles and bindings. A change that ends without
an error has had its effect on its tenant. The role that is answered is the one that is stored, or
what the hooks after the operation have made of it. Other hooks after operations lead to the same
roles and bindings and to the same errors, now and in whatever is asked from now on. -/
theorem refused_unchanged_committed_before_after_hooks (h : s.Reachable) (hooks : Lifecycle Role)
    (c : RoleChange) :
    (∀ e, (c.ask hooks s).1 = .error e →
        c.Refused hooks (s.tenants.get c.tenant) e ∧
          ∀ tenant, (c.ask hooks s).2.tenants.get tenant = s.tenants.get tenant) ∧
      (∀ answer, (c.ask hooks s).1 = .ok answer →
        ∃ p, c.Effect hooks (s.tenants.get c.tenant) p ∧ c.Answered hooks p answer ∧
          (c.ask hooks s).2 = s.modify c.tenant fun _ => p) ∧
      ∀ hooks' : Lifecycle Role, hooks'.SameBefore hooks →
        (c.ask hooks' s).2 = (c.ask hooks s).2 ∧
          (∀ e, (c.ask hooks' s).1 = .error e ↔ (c.ask hooks s).1 = .error e) ∧
          ∀ changes, run hooks' changes s = run hooks changes s := by
  obtain ⟨past, changes, rfl⟩ := h
  have hkeyed := (wellFormed_run past changes c.tenant).keyed
  refine ⟨fun e he => ?_, fun answer hanswer => ?_, fun hooks' hsame => ?_⟩
  · rcases c.ask_spec hooks _ hkeyed with ⟨e', hrefused, hask⟩ | ⟨p, answer, -, -, hask⟩
    · rw [hask] at he ⊢
      cases he
      exact ⟨hrefused, fun _ => rfl⟩
    · rw [hask] at he
      cases he
  · rcases c.ask_spec hooks _ hkeyed with ⟨e, -, hask⟩ | ⟨p, answer', heffect, hanswered, hask⟩
    · rw [hask] at hanswer
      cases hanswer
    · rw [hask] at hanswer ⊢
      cases hanswer
      exact ⟨p, heffect, hanswered, rfl⟩
  · obtain ⟨hstored, herror⟩ := c.ask_of_sameBefore hsame (run past changes {})
    exact ⟨hstored, herror, fun _ => run_of_sameBefore hsame _ _⟩

/-- A hook that lets no role be removed. -/
def keepingHooks : Lifecycle Role := [(⟨.before, .delete⟩, ⟨"keep", fun _ => .halt "kept"⟩)]

/-- Further hooks, which show a new role under another name and halt when a role has been
changed. -/
def meddlingHooks : Lifecycle Role :=
  keepingHooks ++
    [(⟨.after, .create⟩, ⟨"rename", fun r => .proceed { r with name := "shown" }⟩),
      (⟨.after, .update⟩, ⟨"late", fun _ => .halt "too late"⟩)]

/-- The store with one role. -/
def meddledRole : RoleStore :=
  run meddlingHooks [.create "a" ⟨2024, 1, 1, 0, 0, 0⟩
    { tenantId := "t", name := "first", permissions := ["order:read"] }] {}

/-- The role is made inactive. -/
def meddledUpdate : RoleChange := .update ⟨2024, 1, 2, 0, 0, 0⟩ "t" "a" { status := some .inactive }

/-- The role when it is inactive. -/
def meddledInactive : Role where
  id := "a"
  tenantId := "t"
  name := "first"
  kind := .custom
  status := .inactive
  permissions := ["order:read"]
  inherits := []
  createdAt := ⟨2024, 1, 1, 0, 0, 0⟩
  updatedAt := ⟨2024, 1, 2, 0, 0, 0⟩

/-- The removal of the role is refused and leaves it there. When the role has been changed, the hook
that halts is too late. -/
theorem meddling_hooks_come_too_late :
    meddledRole.Reachable ∧
      ((RoleChange.delete "t" "a").ask meddlingHooks meddledRole).1 =
        .error (.permissionDenied "role:delete" "kept") ∧
      (∀ tenant, ((RoleChange.delete "t" "a").ask meddlingHooks meddledRole).2.tenants.get tenant =
        meddledRole.tenants.get tenant) ∧
      (meddledUpdate.ask meddlingHooks meddledRole).1 = .ok (.role meddledInactive) ∧
      ((meddledUpdate.ask meddlingHooks meddledRole).2.tenants.get "t").role? "a" =
        some meddledInactive ∧
      meddlingHooks.SameBefore keepingHooks ∧
      (meddledUpdate.ask meddlingHooks meddledRole).2 =
        (meddledUpdate.ask keepingHooks meddledRole).2 := by
  have hreachable : meddledRole.Reachable := ⟨meddlingHooks, _, rfl⟩
  have hrefused : ((RoleChange.delete "t" "a").ask meddlingHooks meddledRole).1 =
      .error (.permissionDenied "role:delete" "kept") := rfl
  -- From a role without parents nothing is walked to.
  have hcycle : createsCycle (meddledRole.tenants.get "t").inheritance "a" [] = false := by
    simp [createsCycle, Graph.preorder, Graph.walk]
  have hamend : (meddledRole.tenants.get "t").amend meddlingHooks ⟨2024, 1, 2, 0, 0, 0⟩ "a"
      { status := some .inactive } = .ok meddledInactive := by
    show (if createsCycle (meddledRole.tenants.get "t").inheritance "a" [] then _ else _) = _
    rw [hcycle]
    rfl
  have hchanged : (meddledUpdate.ask meddlingHooks meddledRole).1 =
      .ok (.role meddledInactive) := by
    simp only [meddledUpdate, RoleChange.ask, RoleStore.update, hamend]
    rfl
  have hbefore : meddlingHooks.SameBefore keepingHooks := by
    intro operation
    cases operation <;> rfl
  obtain ⟨herror, -, -⟩ :=
    refused_unchanged_committed_before_after_hooks hreachable meddlingHooks (.delete "t" "a")
  obtain ⟨-, hok, -⟩ :=
    refused_unchanged_committed_before_after_hooks hreachable meddlingHooks meddledUpdate
  obtain ⟨-, -, hsame⟩ :=
    refused_unchanged_committed_before_after_hooks hreachable keepingHooks meddledUpdate
  have hstored : ((meddledUpdate.ask meddlingHooks meddledRole).2.tenants.get "t").role? "a" =
      some meddledInactive := by
    obtain ⟨p, -, hanswered, hafter⟩ := hok _ hchanged
    rw [hafter, modify]
    show (((meddledRole.tenants.set "t" p).get "t").role? "a") = _
    rw [PerTenant.get_set_self]
    cases hanswered with
    | update hstored hreturned =>
      cases hreturned with
      | rewritten hproceeds => cases hproceeds
      | halted hhalts => exact hstored
  exact ⟨hreachable, hrefused, (herror _ hrefused).2, hchanged, hstored, hbefore,
    (hsame _ hbefore).1⟩

end RoleStore

end AccessControl
