import AccessControl.Proofs.Entries
import AccessControl.Role.Store
/-!
# Runs of the role store

A run is a list of changes that are asked of the role store one after the other. A change that is
refused leaves the store as it is. What one that is carried out makes of the roles and bindings of
its tenant is said once, by `RoleChange.Effect`; the other tenants keep theirs. So a property of the
roles and bindings of one tenant holds throughout a run if the effects of its changes preserve it.
-/
namespace AccessControl

/-! ### Hooks -/

lemma runBefore_eq_ok {hooks : Lifecycle Role} {operation : Operation} {r r' : Role}
    (h : runBefore hooks operation r = .ok r') :
    ∃ changed, hooks.run ⟨.before, operation⟩ r = .proceed changed ∧
      r' = { changed with id := r.id, tenantId := r.tenantId, name := r.name, kind := r.kind } := by
  unfold runBefore at h
  cases hrun : hooks.run ⟨.before, operation⟩ r with
  | halt reason => simp [hrun] at h
  | proceed changed =>
    simp only [hrun, Except.ok.injEq] at h
    exact ⟨changed, rfl, h.symm⟩

/-! ### The roles and bindings of one tenant -/

namespace RolePartition

variable {p : RolePartition} {hooks : Lifecycle Role} {id : String} {now : Timestamp} {r : Role}

lemma role?_store (p : RolePartition) (r : Role) (other : String) :
    (p.store r).role? other = if other = r.id then some r else p.role? other :=
  Entries.get?_insert r.id other r p.roles

lemma role?_remove (p : RolePartition) (id other : String) :
    (p.remove id).role? other = if other = id then none else p.role? other :=
  Entries.get?_erase id other p.roles

/-- Every role is stored under its own id. -/
def Keyed (p : RolePartition) : Prop := ∀ id r, p.role? id = some r → r.id = id

/-- The role that hooks see before it is created. -/
def draft (id : String) (now : Timestamp) (new : NewRole) : Role where
  id := id
  tenantId := new.tenantId
  name := new.name
  kind := new.kind
  status := .active
  permissions := new.permissions
  inherits := new.inherits
  createdAt := now
  updatedAt := now

lemma accept_eq_ok {new : NewRole} (h : p.accept hooks id now new = .ok r) :
    checkPatterns new.permissions = .ok () ∧ (∀ entry ∈ p.roles, entry.2.name ≠ new.name) ∧
      runBefore hooks .create (draft id now new) = .ok r ∧
        checkPatterns r.permissions = .ok () := by
  unfold accept at h
  obtain ⟨_, hasked, h⟩ := bind_eq_ok_iff.1 h
  split at h
  · cases h
  rename_i hname
  obtain ⟨-, -, h⟩ := bind_eq_ok_iff.1 h
  obtain ⟨r', hrun, h⟩ := bind_eq_ok_iff.1 h
  obtain ⟨_, hgranted, h⟩ := bind_eq_ok_iff.1 h
  cases h
  exact ⟨hasked, by simpa using hname, hrun, hgranted⟩

lemma accept_id {new : NewRole} (h : p.accept hooks id now new = .ok r) : r.id = id := by
  obtain ⟨changed, -, hr⟩ := runBefore_eq_ok (accept_eq_ok h).2.2.1
  rw [hr]
  rfl

lemma amend_eq_ok {patch : RolePatch} (h : p.amend hooks now id patch = .ok r) :
    ∃ current, p.role? id = some current ∧
      runBefore hooks .update { patch.apply current with updatedAt := now } = .ok r ∧
        checkPatterns r.permissions = .ok () ∧
          createsCycle p.inheritance id r.inherits = false := by
  unfold amend at h
  split at h
  · cases h
  rename_i current hcurrent
  obtain ⟨r', hrun, h⟩ := bind_eq_ok_iff.1 h
  obtain ⟨_, hgranted, h⟩ := bind_eq_ok_iff.1 h
  split at h
  · cases h
  rename_i hcycle
  cases h
  exact ⟨current, hcurrent, hrun, hgranted, by simpa using hcycle⟩

end RolePartition

/-! ### Changes -/

/-- A change that is asked of the role store, with the id and the time that it is given. -/
inductive RoleChange where
  | create (id : String) (now : Timestamp) (new : NewRole)
  | update (now : Timestamp) (tenant id : String) (patch : RolePatch)
  | delete (tenant id : String)
  | bind (id : String) (now : Timestamp) (new : NewBinding)
  | unbind (tenant id : String)

/-- What a change of roles and bindings gives back when it is carried out. -/
inductive RoleAnswer where
  | role (r : Role)
  | binding (b : Binding)
  | done

/-- The outcome of a change with its answer put in another form. -/
def RoleAnswer.ofOutcome {α : Type} (form : α → RoleAnswer)
    (outcome : Except AccessError α × RoleStore) : Except AccessError RoleAnswer × RoleStore :=
  (outcome.1.map form, outcome.2)

namespace RoleChange

/-- The tenant that the change is about. -/
def tenant : RoleChange → String
  | create _ _ new => new.tenantId
  | update _ tenant _ _ => tenant
  | delete tenant _ => tenant
  | bind _ _ new => new.tenantId
  | unbind tenant _ => tenant

/-- The store after the change has been asked. -/
def apply (hooks : Lifecycle Role) : RoleChange → RoleStore → RoleStore
  | create id now new, s => (s.create hooks id now new).2
  | update now tenant id patch, s => (s.update hooks now tenant id patch).2
  | delete tenant id, s => (s.delete hooks tenant id).2
  | bind id now new, s => (s.bind id now new).2
  | unbind tenant id, s => (s.unbind tenant id).2

/-- Ask a role store for a change. -/
def ask (hooks : Lifecycle Role) :
    RoleChange → RoleStore → Except AccessError RoleAnswer × RoleStore
  | create id now new, s => RoleAnswer.ofOutcome .role (s.create hooks id now new)
  | update now tenant id patch, s => RoleAnswer.ofOutcome .role (s.update hooks now tenant id patch)
  | delete tenant id, s => RoleAnswer.ofOutcome (fun _ => .done) (s.delete hooks tenant id)
  | bind id now new, s => RoleAnswer.ofOutcome .binding (s.bind id now new)
  | unbind tenant id, s => RoleAnswer.ofOutcome (fun _ => .done) (s.unbind tenant id)

lemma ask_snd (hooks : Lifecycle Role) (c : RoleChange) (s : RoleStore) :
    (c.ask hooks s).2 = c.apply hooks s := by
  cases c <;> rfl

/-- What a change that is carried out makes of the roles and bindings of its tenant. -/
inductive Effect (hooks : Lifecycle Role) (p : RolePartition) : RoleChange → RolePartition → Prop
  | create {id now new r} (h : p.accept hooks id now new = .ok r) :
    Effect hooks p (.create id now new) (p.store r)
  | update {now tenant id patch r} (h : p.amend hooks now id patch = .ok r) :
    Effect hooks p (.update now tenant id patch) (p.store r)
  | delete {tenant id r} (h : p.release hooks id = .ok r) :
    Effect hooks p (.delete tenant id) (p.remove id)
  | bind {id now new b} (h : p.attach id now new = .ok b) :
    Effect hooks p (.bind id now new) { p with bindings := p.bindings ++ [b] }
  | unbind {tenant id b} (hmem : b ∈ p.bindings) (hid : b.id = id) :
    Effect hooks p (.unbind tenant id)
      { p with bindings := p.bindings.filter fun b => b.id ≠ id }

variable {hooks : Lifecycle Role} {p p' : RolePartition} {c : RoleChange}

lemma Effect.keyed (h : c.Effect hooks p p') (hp : p.Keyed) : p'.Keyed := by
  have hstore : ∀ r, (p.store r).Keyed := by
    intro r id found hfound
    rw [RolePartition.role?_store] at hfound
    split at hfound
    · cases hfound
      exact Eq.symm ‹id = r.id›
    · exact hp id found hfound
  cases h with
  | create h => exact hstore _
  | update h => exact hstore _
  | delete h =>
    intro other found hfound
    rw [RolePartition.role?_remove] at hfound
    split at hfound
    · cases hfound
    · exact hp other found hfound
  | bind h => exact hp
  | unbind hmem hid => exact hp

/-- A change is refused and leaves everything as it is, or has its effect on its tenant. -/
lemma apply_spec (hooks : Lifecycle Role) (s : RoleStore) (c : RoleChange) :
    c.apply hooks s = s ∨
      ∃ p, c.Effect hooks (s.tenants.get c.tenant) p ∧
        c.apply hooks s = s.modify c.tenant fun _ => p := by
  cases c with
  | create id now new =>
    simp only [apply, RoleStore.create, tenant]
    split
    · exact Or.inl rfl
    · rename_i r h
      exact Or.inr ⟨_, .create h, rfl⟩
  | update now tenant id patch =>
    simp only [apply, RoleStore.update, RoleChange.tenant]
    split
    · exact Or.inl rfl
    · rename_i r h
      exact Or.inr ⟨_, .update h, rfl⟩
  | delete tenant id =>
    simp only [apply, RoleStore.delete, RoleChange.tenant]
    split
    · exact Or.inl rfl
    · rename_i r h
      exact Or.inr ⟨_, .delete h, rfl⟩
  | bind id now new =>
    simp only [apply, RoleStore.bind, tenant]
    split
    · exact Or.inl rfl
    · rename_i b h
      exact Or.inr ⟨_, .bind h, rfl⟩
  | unbind tenant id =>
    simp only [apply, RoleStore.unbind, RoleChange.tenant]
    split
    · rename_i h
      obtain ⟨b, hmem, hid⟩ := List.any_eq_true.1 h
      exact Or.inr ⟨_, .unbind hmem (of_decide_eq_true hid), rfl⟩
    · exact Or.inl rfl

/-- A tenant keeps its roles and bindings, or the change is about the tenant and has its effect. -/
lemma get_apply (hooks : Lifecycle Role) (s : RoleStore) (c : RoleChange) (tenant : String) :
    (c.apply hooks s).tenants.get tenant = s.tenants.get tenant ∨
      c.tenant = tenant ∧
        c.Effect hooks (s.tenants.get tenant) ((c.apply hooks s).tenants.get tenant) := by
  rcases c.apply_spec hooks s with h | ⟨p, heffect, h⟩
  · rw [h]
    exact Or.inl rfl
  · rw [h, RoleStore.modify]
    by_cases htenant : tenant = c.tenant
    · subst htenant
      rw [PerTenant.get_set_self]
      exact Or.inr ⟨rfl, heffect⟩
    · exact Or.inl (PerTenant.get_set_of_ne _ htenant _)

end RoleChange

namespace RoleStore

variable {hooks : Lifecycle Role}

lemma get_apply_create {s : RoleStore} {id : String} {now : Timestamp} {new : NewRole} {r : Role}
    (h : (s.tenants.get new.tenantId).accept hooks id now new = .ok r) :
    ((RoleChange.create id now new).apply hooks s).tenants.get new.tenantId =
      (s.tenants.get new.tenantId).store r := by
  rw [RoleChange.apply, create, h]
  exact PerTenant.get_set_self _ _ _

/-- The store after the changes of a list have been asked one after the other. -/
def run (hooks : Lifecycle Role) (changes : List RoleChange) (s : RoleStore) : RoleStore :=
  changes.foldl (fun s c => c.apply hooks s) s

lemma run_concat (changes : List RoleChange) (c : RoleChange) (s : RoleStore) :
    run hooks (changes ++ [c]) s = c.apply hooks (run hooks changes s) := by
  simp [run]

/-- What is true of every tenant at first, and preserved by the effect of every change of a run, is
true of every tenant throughout the run. -/
lemma forall_run {P : String → RolePartition → Prop} {changes : List RoleChange}
    (hempty : ∀ tenant, P tenant {})
    (hstep : ∀ before c p, before ++ [c] <+: changes →
      c.Effect hooks ((run hooks before {}).tenants.get c.tenant) p →
        P c.tenant ((run hooks before {}).tenants.get c.tenant) → P c.tenant p)
    {before : List RoleChange} (hbefore : before <+: changes) (tenant : String) :
    P tenant ((run hooks before {}).tenants.get tenant) := by
  induction before using List.reverseRecOn with
  | nil => exact hempty tenant
  | append_singleton before c ih =>
    have hall := ih ((List.prefix_append before [c]).trans hbefore)
    rw [run_concat]
    rcases c.get_apply hooks (run hooks before {}) tenant with h | ⟨rfl, heffect⟩
    · rw [h]
      exact hall
    · exact hstep before c _ hbefore heffect hall

end RoleStore

end AccessControl
