import AccessControl.Proofs.Permission.Grammar
import AccessControl.Proofs.Role.Changes
/-!
# What the role store keeps to

Whatever is asked of the role store, and whatever its hooks return, the roles and bindings of every
tenant fit together: `RolePartition.WellFormed` says how. A role that is stored, be it a new one or
a changed one, is checked for its grants and keeps the id, the tenant, the name and the kind that it
had before the hooks; a new one has a name that no other has. Removing a role takes its bindings
away, and a binding is made only to a role that is there.

What a role is known by stays the same from its creation to its removal (`Role.SameIdentity`),
provided that the ids of new roles are new. A listing shows each role that its filter accepts once,
in the order of the names.
-/
namespace AccessControl

/-- The second role is known by the same id, tenant, name and kind as the first. -/
structure Role.SameIdentity (r r' : Role) : Prop where
  id : r'.id = r.id
  tenantId : r'.tenantId = r.tenantId
  name : r'.name = r.name
  kind : r'.kind = r.kind

lemma Role.SameIdentity.refl (r : Role) : r.SameIdentity r := ⟨rfl, rfl, rfl, rfl⟩

lemma Role.SameIdentity.trans {r r' r'' : Role} (h : r.SameIdentity r')
    (h' : r'.SameIdentity r'') : r.SameIdentity r'' :=
  ⟨h'.id.trans h.id, h'.tenantId.trans h.tenantId, h'.name.trans h.name, h'.kind.trans h.kind⟩

/-- Hooks that run before an operation do not change what a role is known by. -/
lemma sameIdentity_of_runBefore {hooks : Lifecycle Role} {operation : Operation} {r r' : Role}
    (h : runBefore hooks operation r = .ok r') : r.SameIdentity r' := by
  obtain ⟨changed, -, rfl⟩ := runBefore_eq_ok h
  exact ⟨rfl, rfl, rfl, rfl⟩

namespace Binding

/-- The two bindings give one role to one subject. -/
def SameGrant (b c : Binding) : Prop :=
  b.subjectKind = c.subjectKind ∧ b.subjectId = c.subjectId ∧ b.roleId = c.roleId

end Binding

namespace RolePartition

variable {p : RolePartition} {hooks : Lifecycle Role} {tenant id : String} {now : Timestamp}
  {r : Role}

/-- The roles and bindings of a tenant fit together. -/
structure WellFormed (p : RolePartition) (tenant : String) : Prop where
  /-- Each id has one entry at most. -/
  sorted : p.roles.Sorted
  keyed : p.Keyed
  role_tenant : ∀ id r, p.role? id = some r → r.tenantId = tenant
  names : ∀ id id' r r', p.role? id = some r → p.role? id' = some r' → r.name = r'.name → id = id'
  grants : ∀ id r, p.role? id = some r →
    ∀ pattern ∈ r.permissions, checkPattern pattern = .ok ()
  binding_tenant : ∀ b ∈ p.bindings, b.tenantId = tenant
  bound : ∀ b ∈ p.bindings, ∃ r, p.role? b.roleId = some r
  bound_once : p.bindings.Pairwise fun b c => ¬b.SameGrant c

lemma wellFormed_empty (tenant : String) : ({} : RolePartition).WellFormed tenant where
  sorted := List.Pairwise.nil
  keyed := nofun
  role_tenant := nofun
  names _ _ _ _ h := nomatch h
  grants := nofun
  binding_tenant := nofun
  bound := nofun
  bound_once := List.Pairwise.nil

/-! ### What is accepted -/

lemma attach_eq_ok {new : NewBinding} {b : Binding} (h : p.attach id now new = .ok b) :
    (∃ r, p.role? b.roleId = some r) ∧ b.tenantId = new.tenantId ∧
      ∀ c ∈ p.bindings, ¬c.SameGrant b := by
  unfold attach at h
  by_cases hrole : (p.role? new.roleId).isNone = true
  · rw [if_pos hrole] at h
    cases h
  rw [if_neg hrole] at h
  dsimp only at h
  split at h
  · cases h
  rename_i hnew
  cases h
  refine ⟨Option.ne_none_iff_exists'.1 (by simpa using hrole), rfl, fun c hc hsame => hnew ?_⟩
  obtain ⟨hkind, hsubject, hid⟩ := hsame
  exact List.any_eq_true.2 ⟨c, hc, by simp [Binding.isOf, hkind, hsubject, hid]⟩

/-- What is to be stored for a new role is known by what was asked for. -/
lemma accept_identity {new : NewRole} (h : p.accept hooks id now new = .ok r) :
    (draft id now new).SameIdentity r :=
  sameIdentity_of_runBefore (accept_eq_ok h).2.2.1

lemma amend_identity {patch : RolePatch} (h : p.amend hooks now id patch = .ok r) :
    ∃ current, p.role? id = some current ∧ current.SameIdentity r := by
  obtain ⟨current, hcurrent, hrun, -, -⟩ := amend_eq_ok h
  have hpatched := sameIdentity_of_runBefore hrun
  exact ⟨current, hcurrent, hpatched.id, hpatched.tenantId, hpatched.name, hpatched.kind⟩

/-! ### Roles and bindings that fit together stay so -/

/-- A role may be stored whose grants are valid and whose name is that of no role with another
id. -/
lemma WellFormed.store (hp : p.WellFormed tenant) (htenant : r.tenantId = tenant)
    (hname : ∀ id r', p.role? id = some r' → r'.name = r.name → id = r.id)
    (hgrants : ∀ pattern ∈ r.permissions, checkPattern pattern = .ok ()) :
    (p.store r).WellFormed tenant := by
  have hstored : ∀ id r', (p.store r).role? id = some r' →
      (id = r.id ∧ r' = r) ∨ p.role? id = some r' := by
    intro id r' h
    rw [role?_store] at h
    split at h
    · cases h
      exact Or.inl ⟨‹id = r.id›, rfl⟩
    · exact Or.inr h
  refine ⟨hp.sorted.insert r.id r, ?_, ?_, ?_, ?_, hp.binding_tenant, ?_, hp.bound_once⟩
  · intro id r' h
    rcases hstored id r' h with ⟨rfl, rfl⟩ | h
    · rfl
    · exact hp.keyed id r' h
  · intro id r' h
    rcases hstored id r' h with ⟨-, rfl⟩ | h
    · exact htenant
    · exact hp.role_tenant id r' h
  · intro id id' r₁ r₂ h₁ h₂ hsame
    rcases hstored id r₁ h₁ with ⟨hid₁, hr₁⟩ | hold₁ <;>
      rcases hstored id' r₂ h₂ with ⟨hid₂, hr₂⟩ | hold₂
    · rw [hid₁, hid₂]
    · rw [hid₁, hname id' r₂ hold₂ (by rw [← hsame, hr₁])]
    · rw [hid₂, hname id r₁ hold₁ (by rw [hsame, hr₂])]
    · exact hp.names id id' r₁ r₂ hold₁ hold₂ hsame
  · intro id r' h
    rcases hstored id r' h with ⟨-, rfl⟩ | h
    · exact hgrants
    · exact hp.grants id r' h
  · intro b hb
    rw [role?_store]
    split
    · exact ⟨r, rfl⟩
    · exact hp.bound b hb

lemma WellFormed.remove (hp : p.WellFormed tenant) (id : String) :
    (p.remove id).WellFormed tenant := by
  have hleft : ∀ other r, (p.remove id).role? other = some r → p.role? other = some r := by
    intro other r h
    rw [role?_remove] at h
    split at h
    · cases h
    · exact h
  have hsub : (p.remove id).bindings.Sublist p.bindings := List.filter_sublist
  refine ⟨List.Pairwise.sublist List.filter_sublist hp.sorted, ?_, ?_, ?_, ?_, ?_, ?_,
    hp.bound_once.sublist hsub⟩
  · exact fun other r h => hp.keyed other r (hleft other r h)
  · exact fun other r h => hp.role_tenant other r (hleft other r h)
  · exact fun id₁ id₂ r₁ r₂ h₁ h₂ => hp.names id₁ id₂ r₁ r₂ (hleft id₁ r₁ h₁) (hleft id₂ r₂ h₂)
  · exact fun other r h => hp.grants other r (hleft other r h)
  · exact fun b hb => hp.binding_tenant b (hsub.subset hb)
  · -- The bindings that are left are to other roles.
    intro b hb
    obtain ⟨hb, hother⟩ := List.mem_filter.1 hb
    rw [role?_remove, if_neg (of_decide_eq_true hother)]
    exact hp.bound b hb

lemma WellFormed.bind (hp : p.WellFormed tenant) {b : Binding} (htenant : b.tenantId = tenant)
    (hrole : ∃ r, p.role? b.roleId = some r) (hnew : ∀ c ∈ p.bindings, ¬c.SameGrant b) :
    ({ p with bindings := p.bindings ++ [b] } : RolePartition).WellFormed tenant := by
  have hmem : ∀ c ∈ p.bindings ++ [b], c ∈ p.bindings ∨ c = b := by
    intro c hc
    rwa [List.mem_append, List.mem_singleton] at hc
  refine ⟨hp.sorted, hp.keyed, hp.role_tenant, hp.names, hp.grants, ?_, ?_, ?_⟩
  · intro c hc
    rcases hmem c hc with hc | rfl
    · exact hp.binding_tenant c hc
    · exact htenant
  · intro c hc
    rcases hmem c hc with hc | rfl
    · exact hp.bound c hc
    · exact hrole
  · refine List.pairwise_append.2 ⟨hp.bound_once, List.pairwise_singleton _ _, fun c hc d hd => ?_⟩
    rw [List.mem_singleton.1 hd]
    exact hnew c hc

lemma WellFormed.unbind (hp : p.WellFormed tenant) (id : String) :
    ({ p with bindings := p.bindings.filter fun b => b.id ≠ id } :
      RolePartition).WellFormed tenant where
  sorted := hp.sorted
  keyed := hp.keyed
  role_tenant := hp.role_tenant
  names := hp.names
  grants := hp.grants
  binding_tenant b hb := hp.binding_tenant b (List.mem_filter.1 hb).1
  bound b hb := hp.bound b (List.mem_filter.1 hb).1
  bound_once := hp.bound_once.sublist List.filter_sublist

/-! ### Listings -/

lemma WellFormed.names_differ (hp : p.WellFormed tenant) :
    p.roles.Pairwise fun a b => a.2.name ≠ b.2.name := by
  refine List.Pairwise.imp_of_mem ?_ hp.sorted
  intro a b ha hb hlt hname
  have hkeys := hp.names a.1 b.1 a.2 b.2 (hp.sorted.mem_iff.1 ha) (hp.sorted.mem_iff.1 hb) hname
  rw [hkeys] at hlt
  exact String.lt_irrefl _ hlt

/-- A listing shows each role that its filter accepts once, in the order of the names. -/
lemma WellFormed.list (hp : p.WellFormed tenant) (filter : RoleFilter) :
    ∃ roles, p.directory.list filter = .ok roles ∧
      (roles.Pairwise fun a b => a.name < b.name) ∧
      ∀ r, r ∈ roles ↔ filter.accepts r = true ∧ ∃ id, p.role? id = some r := by
  refine ⟨_, rfl, ?_, ?_⟩
  · have hle : (((p.roles.map Prod.snd).filter filter.accepts).mergeSort
        fun a b => decide (a.name ≤ b.name)).Pairwise fun a b => decide (a.name ≤ b.name) = true :=
      List.pairwise_mergeSort
        (fun a b c hab hbc => by
          simp only [decide_eq_true_eq] at *
          exact String.le_trans hab hbc)
        (fun a b => by simpa using String.le_total a.name b.name) _
    have hne : ((p.roles.map Prod.snd).filter filter.accepts).Pairwise
        fun a b => a.name ≠ b.name := by
      refine List.Pairwise.sublist List.filter_sublist ?_
      rw [List.pairwise_map]
      exact hp.names_differ
    have hsorted := (List.mergeSort_perm _ fun a b : Role =>
      decide (a.name ≤ b.name)).symm.pairwise hne Ne.symm
    refine (hle.and hsorted).imp ?_
    rintro a b ⟨hab, hdiffer⟩
    have hnot : ¬b.name < a.name := String.not_lt.2 (of_decide_eq_true hab)
    exact Entries.lt_of_not_lt hnot hdiffer.symm
  · intro r
    rw [List.mem_mergeSort, List.mem_filter, List.mem_map, and_comm]
    refine and_congr_right fun _ => ⟨?_, ?_⟩
    · rintro ⟨entry, hentry, rfl⟩
      exact ⟨entry.1, hp.sorted.mem_iff.1 hentry⟩
    · rintro ⟨id, hid⟩
      exact ⟨(id, r), hp.sorted.mem_iff.2 hid, rfl⟩

end RolePartition

namespace RoleChange

variable {hooks : Lifecycle Role} {p p' : RolePartition} {c : RoleChange} {id : String} {r : Role}

lemma Effect.wellFormed (h : c.Effect hooks p p') (hp : p.WellFormed c.tenant) :
    p'.WellFormed c.tenant := by
  cases h with
  | @create id now new r h =>
    obtain ⟨-, hnew, -, hgrants⟩ := RolePartition.accept_eq_ok h
    have hidentity := RolePartition.accept_identity h
    refine hp.store hidentity.tenantId ?_ (checkPatterns_eq_ok_iff.1 hgrants)
    intro other r' hother hname
    refine absurd (hname.trans hidentity.name) (hnew (other, r') ?_)
    exact hp.sorted.mem_iff.2 hother
  | @update now tenant id patch r h =>
    obtain ⟨current, hcurrent, hidentity⟩ := RolePartition.amend_identity h
    obtain ⟨-, -, -, hgrants, -⟩ := RolePartition.amend_eq_ok h
    have hid : r.id = id := hidentity.id.trans (hp.keyed id current hcurrent)
    refine hp.store (hidentity.tenantId.trans (hp.role_tenant id current hcurrent)) ?_
      (checkPatterns_eq_ok_iff.1 hgrants)
    intro other r' hother hname
    rw [hid]
    exact hp.names other id r' current hother hcurrent (hname.trans hidentity.name)
  | delete h => exact hp.remove _
  | bind h =>
    obtain ⟨hrole, htenant, hnew⟩ := RolePartition.attach_eq_ok h
    exact hp.bind htenant hrole hnew
  | unbind hmem hid => exact hp.unbind _

/-- The id of a role that is to be created is the id of no role of its tenant. -/
def HasNewId (s : RoleStore) : RoleChange → Prop
  | create id _ new => (s.tenants.get new.tenantId).role? id = none
  | _ => True

/-- A role that is there stays and is known by the same, unless it is removed. -/
lemma Effect.keeps_identity (h : c.Effect hooks p p') (hkeyed : p.Keyed)
    (hnew : ∀ id now new, c = .create id now new → p.role? id = none) (hr : p.role? id = some r) :
    (∃ r', p'.role? id = some r' ∧ r.SameIdentity r') ∨
      c = .delete c.tenant id ∧ p'.role? id = none := by
  cases h with
  | @create newId now new created h =>
    have hid : created.id = newId := RolePartition.accept_id h
    have hne : id ≠ created.id := by
      rintro rfl
      rw [hid, hnew newId now new rfl] at hr
      cases hr
    exact Or.inl ⟨r, by rw [RolePartition.role?_store, if_neg hne, hr], .refl r⟩
  | @update now tenant other patch changed h =>
    obtain ⟨current, hcurrent, hidentity⟩ := RolePartition.amend_identity h
    have hid : changed.id = other := hidentity.id.trans (hkeyed other current hcurrent)
    rw [RolePartition.role?_store, hid]
    by_cases heq : id = other
    · subst heq
      cases hcurrent.symm.trans hr
      exact Or.inl ⟨changed, by rw [if_pos rfl], hidentity⟩
    · exact Or.inl ⟨r, by rw [if_neg heq, hr], .refl r⟩
  | @delete tenant other removed h =>
    rw [RolePartition.role?_remove]
    by_cases heq : id = other
    · subst heq
      exact Or.inr ⟨rfl, if_pos rfl⟩
    · exact Or.inl ⟨r, by rw [if_neg heq, hr], .refl r⟩
  | bind h => exact Or.inl ⟨r, hr, .refl r⟩
  | unbind hmem hid => exact Or.inl ⟨r, hr, .refl r⟩

end RoleChange

namespace RoleStore

variable {hooks : Lifecycle Role} {changes before after : List RoleChange} {tenant id : String}
  {r : Role}

/-- In every state of a run the roles and bindings of every tenant fit together. -/
lemma wellFormed_run (hooks : Lifecycle Role) (changes : List RoleChange) (tenant : String) :
    ((run hooks changes {}).tenants.get tenant).WellFormed tenant :=
  forall_run (P := fun tenant p => p.WellFormed tenant) RolePartition.wellFormed_empty
    (fun _ _ _ _ heffect hp => heffect.wellFormed hp) (List.prefix_refl changes) tenant

/-- A role that is there stays and is known by the same, until it is removed. -/
lemma identity_run
    (hnew : ∀ before c, before ++ [c] <+: changes → c.HasNewId (run hooks before {}))
    (hbefore : before ++ after <+: changes)
    (hr : ((run hooks before {}).tenants.get tenant).role? id = some r) :
    (∃ r', ((run hooks (before ++ after) {}).tenants.get tenant).role? id = some r' ∧
        r.SameIdentity r') ∨
      ∃ middle, middle ++ [.delete tenant id] <+: after ∧
        ((run hooks (before ++ middle ++ [.delete tenant id]) {}).tenants.get tenant).role? id =
          none := by
  induction after using List.reverseRecOn with
  | nil =>
    rw [List.append_nil]
    exact Or.inl ⟨r, hr, .refl r⟩
  | append_singleton after c ih =>
    rw [← List.append_assoc] at hbefore
    rcases ih ((List.prefix_append _ [c]).trans hbefore) with
      ⟨r', hr', hidentity⟩ | ⟨middle, hmiddle, hremoved⟩
    · rw [← List.append_assoc, run_concat]
      rcases c.get_apply hooks (run hooks (before ++ after) {}) tenant with hsame | ⟨rfl, heffect⟩
      · rw [hsame]
        exact Or.inl ⟨r', hr', hidentity⟩
      · have hkeyed := (wellFormed_run hooks (before ++ after) c.tenant).keyed
        have hfree : ∀ newId now new, c = .create newId now new →
            ((run hooks (before ++ after) {}).tenants.get c.tenant).role? newId = none := by
          rintro newId now new rfl
          exact hnew _ _ hbefore
        rcases heffect.keeps_identity hkeyed hfree hr' with
          ⟨r'', hr'', hsame⟩ | ⟨hdelete, hremoved⟩
        · exact Or.inl ⟨r'', hr'', hidentity.trans hsame⟩
        · rw [← hdelete]
          exact Or.inr ⟨after, List.prefix_refl _, by rwa [run_concat]⟩
    · exact Or.inr ⟨middle, hmiddle.trans (List.prefix_append _ _), hremoved⟩

/-- Whatever is asked of the store, with ids for new roles that are new, the roles and bindings of
every tenant fit together. A new role is stored under the id that it was given, and known by the
tenant, name and kind that were asked for; from then on it is there and known by the same until it
is removed. A listing shows exactly the roles that its filter accepts, by increasing names. -/
theorem wellFormed_and_identity_kept (hooks : Lifecycle Role) (changes : List RoleChange)
    (hnew : ∀ before c, before ++ [c] <+: changes → c.HasNewId (run hooks before {})) :
    (∀ tenant, ((run hooks changes {}).tenants.get tenant).WellFormed tenant) ∧
      (∀ before id now new r, before ++ [.create id now new] <+: changes →
        ((run hooks before {}).tenants.get new.tenantId).accept hooks id now new = .ok r →
          ((run hooks (before ++ [.create id now new]) {}).tenants.get new.tenantId).role? id =
              some r ∧
            (RolePartition.draft id now new).SameIdentity r) ∧
      (∀ before after tenant id r, before ++ after <+: changes →
        ((run hooks before {}).tenants.get tenant).role? id = some r →
          (∃ r', ((run hooks (before ++ after) {}).tenants.get tenant).role? id = some r' ∧
              r.SameIdentity r') ∨
            ∃ middle, middle ++ [.delete tenant id] <+: after ∧
              ((run hooks (before ++ middle ++ [.delete tenant id]) {}).tenants.get tenant).role?
                id = none) ∧
      ∀ tenant filter, ∃ roles, ((run hooks changes {}).directory tenant).list filter = .ok roles ∧
        (roles.Pairwise fun a b => a.name < b.name) ∧
        ∀ r, r ∈ roles ↔ filter.accepts r = true ∧
          ∃ id, ((run hooks changes {}).tenants.get tenant).role? id = some r := by
  refine ⟨wellFormed_run hooks changes, ?_, ?_, ?_⟩
  · intro before id now new r _ haccept
    have hid : r.id = id := RolePartition.accept_id haccept
    rw [run_concat, get_apply_create haccept, RolePartition.role?_store, if_pos hid.symm]
    exact ⟨rfl, RolePartition.accept_identity haccept⟩
  · intro before after tenant id r hbefore hr
    exact identity_run hnew hbefore hr
  · intro tenant filter
    exact (wellFormed_run hooks changes tenant).list filter

/-- A hook that tries to change all that a new role is known by. -/
def renamingHooks : Lifecycle Role :=
  [(⟨.before, .create⟩, ⟨"rename", fun r =>
    .proceed { r with id := "z", tenantId := "other", name := "second", kind := .system }⟩)]

/-- A role is created, bound to a user and made inactive. -/
def firstRoleChanges : List RoleChange :=
  [.create "a" ⟨2024, 1, 1, 0, 0, 0⟩
      { tenantId := "t", name := "first", permissions := ["order:read"] },
    .bind "x" ⟨2024, 1, 2, 0, 0, 0⟩
      { tenantId := "t", roleId := "a", subjectKind := .user, subjectId := "u" },
    .update ⟨2024, 1, 3, 0, 0, 0⟩ "t" "a" { status := some .inactive }]

theorem first_role_keeps_name :
    (∀ before c, before ++ [c] <+: firstRoleChanges → c.HasNewId (run renamingHooks before {})) ∧
      ((run renamingHooks firstRoleChanges {}).tenants.get "t").WellFormed "t" ∧
      ∃ r, ((run renamingHooks firstRoleChanges {}).tenants.get "t").role? "a" = some r ∧
        r.tenantId = "t" ∧ r.name = "first" ∧ r.kind = .custom := by
  have hnew : ∀ before c, before ++ [c] <+: firstRoleChanges →
      c.HasNewId (run renamingHooks before {}) := by
    rintro before c ⟨after, h⟩
    rcases before with _ | ⟨first, _ | ⟨second, _ | ⟨third, before⟩⟩⟩
    · cases h
      rfl
    · cases h
      trivial
    · cases h
      trivial
    · simp [firstRoleChanges] at h
  obtain ⟨hfits, hcreated, hkept, -⟩ :=
    wellFormed_and_identity_kept renamingHooks firstRoleChanges hnew
  obtain ⟨hstored, hasked⟩ := hcreated [] "a" _ _ _ (List.prefix_append [_] _) rfl
  rcases hkept [_] _ "t" "a" _ (List.prefix_refl _) hstored with
    ⟨r, hr, hsame⟩ | ⟨middle, hmiddle, -⟩
  · have hidentity := hasked.trans hsame
    exact ⟨hnew, hfits "t", r, hr, hidentity.tenantId, hidentity.name, hidentity.kind⟩
  · -- The role is not removed in this run.
    have hmem := hmiddle.subset (List.mem_append_right middle (List.mem_singleton_self _))
    simp at hmem

end RoleStore

end AccessControl
