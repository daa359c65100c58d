import AccessControl.Proofs.Graph.Reachability
import AccessControl.Proofs.Role.Changes
/-!
# Cycles of inheritance

Removing a role takes edges away, changes to bindings leave them, and an update is refused when its
role could be reached from its new parents. What remains is the creation of a role. No role inherits
from an id that is new, so the only cycle that can arise is one of length one: the new role itself
among its parents. It is not there when the creation is asked, but hooks that run before a creation
know the new id and may put it there, and what they return is not looked through for cycles.

So throughout a run there is no cycle exactly when no creation stores a role that is its own parent.
-/
namespace AccessControl

lemma Graph.Acyclic.mono {g g' : Graph} (hg : g.Acyclic)
    (h : ∀ x y, g'.Edge x y → g.Edge x y) : g'.Acyclic := by
  intro x hx
  exact hg x (Relation.TransGen.mono h _ _ hx)

namespace RolePartition

variable {p : RolePartition} {r : Role} {x y id : String}

/-- No role has the id, and none inherits from it. -/
def Unused (p : RolePartition) (id : String) : Prop :=
  p.role? id = none ∧ ∀ other r, p.role? other = some r → id ∉ r.inherits

lemma inheritance_edge_iff :
    p.inheritance.Edge x y ↔ ∃ r, p.role? x = some r ∧ y ∈ r.inherits := by
  show y ∈ ((p.role? x).map Role.inherits).getD [] ↔ _
  cases p.role? x <;> simp

lemma acyclic_empty : ({} : RolePartition).inheritance.Acyclic := by
  intro x hx
  obtain ⟨y, hxy, -⟩ := Relation.TransGen.head'_iff.1 hx
  obtain ⟨r, hr, -⟩ := inheritance_edge_iff.1 hxy
  cases hr

lemma store_edge_iff :
    (p.store r).inheritance.Edge x y ↔ (p.inheritance.withNext r.id r.inherits).Edge x y := by
  by_cases hx : x = r.id
  · subst hx
    simp [Graph.withNext_edge_self, inheritance_edge_iff, role?_store]
  · rw [Graph.withNext_edge_of_ne hx, inheritance_edge_iff, inheritance_edge_iff, role?_store,
      if_neg hx]

lemma acyclic_store (hp : p.inheritance.Acyclic)
    (h : ¬Relation.TransGen (p.inheritance.withNext r.id r.inherits).Edge r.id r.id) :
    (p.store r).inheritance.Acyclic :=
  (hp.withNext h).mono fun _ _ => store_edge_iff.1

/-- A role with an id that nobody inherits from is on a cycle only if it is its own parent. -/
lemma not_transGen_of_unused (hunused : p.Unused r.id) (hself : r.id ∉ r.inherits) :
    ¬Relation.TransGen (p.inheritance.withNext r.id r.inherits).Edge r.id r.id := by
  intro h
  -- The last step of the cycle leads to the id, and only the role itself can have such a parent.
  obtain ⟨z, -, hz⟩ := Relation.TransGen.tail'_iff.1 h
  by_cases heq : z = r.id
  · rw [heq] at hz
    exact hself (Graph.withNext_edge_self.1 hz)
  · obtain ⟨other, hother, hmem⟩ := inheritance_edge_iff.1 ((Graph.withNext_edge_of_ne heq).1 hz)
    exact hunused.2 z other hother hmem

lemma acyclic_remove (hp : p.inheritance.Acyclic) (id : String) :
    (p.remove id).inheritance.Acyclic := by
  refine hp.mono fun x y hxy => ?_
  obtain ⟨r, hr, hy⟩ := inheritance_edge_iff.1 hxy
  rw [role?_remove] at hr
  split at hr
  · cases hr
  · exact inheritance_edge_iff.2 ⟨r, hr, hy⟩

end RolePartition

namespace RoleChange

variable {hooks : Lifecycle Role} {p p' : RolePartition} {c : RoleChange}

/-- Of all changes only a creation can bring a cycle about. -/
lemma Effect.acyclic (h : c.Effect hooks p p') (hkeyed : p.Keyed) (hp : p.inheritance.Acyclic)
    (hcreate : ∀ id now new r, c = .create id now new → p.accept hooks id now new = .ok r →
      p.Unused r.id ∧ r.id ∉ r.inherits) : p'.inheritance.Acyclic := by
  cases h with
  | create h =>
    obtain ⟨hunused, hself⟩ := hcreate _ _ _ _ rfl h
    exact RolePartition.acyclic_store hp (RolePartition.not_transGen_of_unused hunused hself)
  | @update now tenant id patch r h =>
    obtain ⟨current, hcurrent, hrun, -, hcycle⟩ := RolePartition.amend_eq_ok h
    obtain ⟨changed, -, hr⟩ := runBefore_eq_ok hrun
    have hid : r.id = id := by
      rw [hr]
      exact hkeyed id current hcurrent
    -- The test was made on the roles as they were, and answers for them as they are to be.
    refine RolePartition.acyclic_store hp fun hreach => ?_
    rw [hid, ← Graph.createsCycle_iff, hcycle] at hreach
    cases hreach
  | delete h => exact RolePartition.acyclic_remove hp _
  | bind h => exact hp
  | unbind hmem hid => exact hp

/-- The id of a role that is to be created is new: no role of any tenant has it or inherits from it,
and it is not among the parents that are asked for. -/
def Fresh (s : RoleStore) : RoleChange → Prop
  | create id _ new => (∀ tenant, (s.tenants.get tenant).Unused id) ∧ id ∉ new.inherits
  | _ => True

end RoleChange

namespace RoleStore

variable {hooks : Lifecycle Role} {changes : List RoleChange}

/-- No role of any tenant can be reached from itself along one or more steps of inheritance. -/
def Acyclic (s : RoleStore) : Prop := ∀ tenant, (s.tenants.get tenant).inheritance.Acyclic

lemma acyclic_of_no_own_parent
    (hfresh : ∀ before c, before ++ [c] <+: changes → c.Fresh (run hooks before {}))
    (hself : ∀ before id now new r, before ++ [.create id now new] <+: changes →
      ((run hooks before {}).tenants.get new.tenantId).accept hooks id now new = .ok r →
        id ∉ r.inherits) {before : List RoleChange} (hbefore : before <+: changes) :
    (run hooks before {}).Acyclic := by
  intro tenant
  -- That roles are stored under their own ids goes along, since an update is tested for its id.
  refine (forall_run (P := fun _ p => p.Keyed ∧ p.inheritance.Acyclic)
    (fun _ => ⟨nofun, RolePartition.acyclic_empty⟩) ?_ hbefore tenant).2
  rintro before c p hasked heffect ⟨hkeyed, hacyclic⟩
  refine ⟨heffect.keyed hkeyed, heffect.acyclic hkeyed hacyclic ?_⟩
  rintro id now new r rfl haccept
  rw [RolePartition.accept_id haccept]
  exact ⟨(hfresh before _ hasked).1 new.tenantId, hself before id now new r hasked haccept⟩

/-- Throughout a run in which the ids of new roles are new, no role inherits from itself, directly
or not, exactly when no creation stores a role with itself among its parents. Only hooks that run
before a creation can put it there. -/
theorem acyclic_iff_no_own_parent (hooks : Lifecycle Role) (changes : List RoleChange)
    (hfresh : ∀ before c, before ++ [c] <+: changes → c.Fresh (run hooks before {})) :
    ((∀ before, before <+: changes → (run hooks before {}).Acyclic) ↔
        ∀ before id now new r, before ++ [.create id now new] <+: changes →
          ((run hooks before {}).tenants.get new.tenantId).accept hooks id now new = .ok r →
            id ∉ r.inherits) ∧
      (hooks.pipeline ⟨.before, .create⟩ = [] →
        ∀ before, before <+: changes → (run hooks before {}).Acyclic) := by
  refine ⟨⟨?_, fun hself _ => acyclic_of_no_own_parent hfresh hself⟩, fun hhooks _ =>
    acyclic_of_no_own_parent hfresh ?_⟩
  · -- A role that is its own parent is a cycle as soon as it is stored.
    intro hacyclic before id now new r hasked haccept hself
    refine hacyclic _ hasked new.tenantId id (Relation.TransGen.single ?_)
    rw [run_concat, get_apply_create haccept, RolePartition.store_edge_iff,
      ← RolePartition.accept_id haccept, Graph.withNext_edge_self,
      RolePartition.accept_id haccept]
    exact hself
  · intro before id now new r hasked haccept
    obtain ⟨changed, hrun, hr⟩ := runBefore_eq_ok (RolePartition.accept_eq_ok haccept).2.2.1
    rw [Lifecycle.run, hhooks] at hrun
    cases hrun
    rw [hr]
    exact (hfresh before _ hasked).2

/-- A hook that makes every new role its own parent. -/
def ownParentHooks : Lifecycle Role :=
  [(⟨.before, .create⟩, ⟨"loop", fun r => .proceed { r with inherits := [r.id] }⟩)]

def createOne : RoleChange := .create "a" ⟨2024, 1, 1, 0, 0, 0⟩ { tenantId := "t", name := "first" }

theorem cyclic_by_own_parent_hook :
    (∀ before c, before ++ [c] <+: [createOne] → c.Fresh (run ownParentHooks before {})) ∧
      ¬∀ before, before <+: [createOne] → (run ownParentHooks before {}).Acyclic := by
  have hfresh : ∀ before c, before ++ [c] <+: [createOne] →
      c.Fresh (run ownParentHooks before {}) := by
    rintro before c ⟨after, h⟩
    rcases before with _ | ⟨first, before⟩
    · cases h
      exact ⟨fun _ => ⟨rfl, nofun⟩, nofun⟩
    · simp at h
  refine ⟨hfresh, fun hacyclic => ?_⟩
  obtain ⟨hiff, -⟩ := acyclic_iff_no_own_parent ownParentHooks [createOne] hfresh
  exact hiff.1 hacyclic [] "a" _ _ _ (List.prefix_refl _) rfl List.mem_cons_self

end RoleStore

end AccessControl
