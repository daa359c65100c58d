import AccessControl.Proofs.Role.Acyclic
/-!
# The tests for cycles of inheritance

A role that is to get other parents is tested in two ways: on a graph that is at hand as a whole,
and on a directory whose roles are read one by one, the last parent first. The second test reads no
further than the role itself, and it may fail where a role cannot be read. Where it does not fail,
its answer is that of the first test on the same roles; and it fails only with the error of a role
that can be reached from the new parents. What the first test tells is whether the role can be
reached from itself in the graph in which it has its new parents, and if it cannot, a graph without
cycles stays without.
-/
namespace AccessControl

namespace RoleDirectory

variable {d : RoleDirectory} {g : Graph} {role : String} {parents ids : List String}

/-- The roles of the directory can all be read, and their parents are their successors in the
graph. -/
structure HoldsGraph (d : RoleDirectory) (g : Graph) : Prop where
  lookup : ∀ id, ∃ role, d.lookup id = .ok role
  next : ∀ id, ((d.role? id).map Role.inherits).getD [] = g.next id

/-! ### Reading until the role is found -/

lemma eq_contains_of_readUntil {b : Bool} (h : d.readUntil role ids = .ok b) :
    b = ids.contains role := by
  induction ids with
  | nil =>
    cases h
    rfl
  | cons id ids ih =>
    rw [List.contains_cons]
    by_cases hid : id = role
    · rw [readUntil, if_pos hid] at h
      cases h
      simp [hid]
    · rw [readUntil, if_neg hid] at h
      split at h
      · cases h
      · rw [ih h, beq_eq_false_iff_ne.2 (Ne.symm hid), Bool.false_or]

lemma exists_unreadable_of_readUntil {e : AccessError} (h : d.readUntil role ids = .error e) :
    ∃ id ∈ ids, d.lookup id = .error e := by
  induction ids with
  | nil => cases h
  | cons id ids ih =>
    by_cases hid : id = role
    · rw [readUntil, if_pos hid] at h
      cases h
    · rw [readUntil, if_neg hid] at h
      split at h
      · rename_i hlookup
        cases h
        exact ⟨id, List.mem_cons_self, hlookup⟩
      · obtain ⟨other, hother, hlookup⟩ := ih h
        exact ⟨other, List.mem_cons_of_mem id hother, hlookup⟩

/-! ### The order in which roles are read -/

/-- Which edges there are does not depend on the order in which parents are taken. -/
lemma reverse_edge_iff {x y : String} :
    (d.graph fun r => r.inherits.reverse).Edge x y ↔ (d.graph Role.inherits).Edge x y := by
  show y ∈ ((d.role? x).map _).getD [] ↔ y ∈ ((d.role? x).map _).getD []
  cases d.role? x <;> simp

lemma mem_preorder_reverse {id : String} :
    id ∈ (d.graph fun r => r.inherits.reverse).preorder parents.reverse ↔
      id ∈ (d.graph Role.inherits).preorder parents := by
  have hedge : (d.graph fun r => r.inherits.reverse).Edge = (d.graph Role.inherits).Edge := by
    ext x y
    exact reverse_edge_iff
  simp only [Graph.mem_preorder_iff, Graph.Reaches, hedge, List.mem_reverse]

/-! ### The two tests -/

/-- An answer of the test that reads is the answer of the test on the graph of the roles that can be
read. -/
lemma isCircular_eq_ok {b : Bool} (h : d.isCircular role parents = .ok b) :
    b = createsCycle (d.graph Role.inherits) role parents := by
  rw [eq_contains_of_readUntil h, createsCycle, Bool.eq_iff_iff, List.contains_iff_mem,
    List.contains_iff_mem, mem_preorder_reverse]

/-- The test that reads fails only where a role that can be reached cannot be read. -/
lemma isCircular_eq_error {e : AccessError} (h : d.isCircular role parents = .error e) :
    ∃ id, (∃ parent ∈ parents, (d.graph Role.inherits).Reaches parent id) ∧
      d.lookup id = .error e := by
  obtain ⟨id, hid, hlookup⟩ := exists_unreadable_of_readUntil h
  exact ⟨id, (Graph.mem_preorder_iff _).1 (mem_preorder_reverse.1 hid), hlookup⟩

lemma HoldsGraph.isCircular_eq (h : d.HoldsGraph g) (role : String) (parents : List String) :
    d.isCircular role parents = .ok (createsCycle g role parents) := by
  have hedge : (d.graph Role.inherits).Edge = g.Edge := by
    ext x y
    show y ∈ ((d.role? x).map Role.inherits).getD [] ↔ y ∈ g.next x
    rw [h.next x]
  have hsame : createsCycle (d.graph Role.inherits) role parents =
      createsCycle g role parents := by
    rw [createsCycle, createsCycle, Bool.eq_iff_iff, List.contains_iff_mem, List.contains_iff_mem]
    simp only [Graph.mem_preorder_iff, Graph.Reaches, hedge]
  cases htest : d.isCircular role parents with
  | ok b => rw [isCircular_eq_ok htest, hsame]
  | error e =>
    -- Every role can be read, so reading cannot have failed.
    obtain ⟨id, -, herror⟩ := isCircular_eq_error htest
    obtain ⟨found, hfound⟩ := h.lookup id
    cases hfound.symm.trans herror

end RoleDirectory

/-- What is read of a tenant of the role store is what its graph of inheritance is made from. -/
lemma RolePartition.holdsGraph_inheritance (p : RolePartition) :
    p.directory.HoldsGraph p.inheritance where
  lookup id := ⟨p.role? id, rfl⟩
  next _ := rfl

/-- In every finite graph, with cycles or without, the test for cycles answers for every role and
every list of new parents, and it answers yes exactly when the role can be reached from itself,
along one or more edges, in the graph in which it has the new parents. If no role could be reached
from itself before and the test answers no, then no role can be reached from itself afterwards. A
directory that holds the same roles gives the same answer when its roles are read one by one. -/
theorem cycle_tests_exact (g : Graph) (role : String) (parents : List String) :
    (createsCycle g role parents = true ↔
        Relation.TransGen (g.withNext role parents).Edge role role) ∧
      (g.Acyclic → createsCycle g role parents = false → (g.withNext role parents).Acyclic) ∧
      ∀ d : RoleDirectory, d.HoldsGraph g →
        d.isCircular role parents = .ok (createsCycle g role parents) := by
  refine ⟨Graph.createsCycle_iff, fun hg htest => ?_, fun d hd => hd.isCircular_eq role parents⟩
  refine hg.withNext fun hreach => ?_
  rw [← Graph.createsCycle_iff, htest] at hreach
  cases hreach

/-! ### Clerks and their heads -/

/-- A role with these parents. -/
def clerkOrHead (id : String) (inherits : List String) : Role where
  id
  tenantId := "shop"
  name := id
  kind := .custom
  status := .active
  permissions := []
  inherits
  createdAt := ⟨2024, 1, 1, 0, 0, 0⟩
  updatedAt := ⟨2024, 1, 1, 0, 0, 0⟩

/-- Clerks inherit from a role that does not exist and from heads. -/
def clerksAndHeads : RolePartition :=
  (RolePartition.store {} (clerkOrHead "clerk" ["gone", "head"])).store (clerkOrHead "head" [])

theorem heads_not_under_clerks :
    ({} : RolePartition).inheritance.Acyclic ∧
      createsCycle ({} : RolePartition).inheritance "clerk" ["gone", "head"] = false ∧
      (({} : RolePartition).inheritance.withNext "clerk" ["gone", "head"]).Acyclic ∧
      clerksAndHeads.directory.HoldsGraph clerksAndHeads.inheritance ∧
      clerksAndHeads.directory.isCircular "head" ["gone", "clerk"] = .ok true ∧
      Relation.TransGen (clerksAndHeads.inheritance.withNext "head" ["gone", "clerk"]).Edge
        "head" "head" := by
  have hnone : ∀ id, ({} : RolePartition).inheritance.next id = [] := fun _ => rfl
  have hfirst : createsCycle ({} : RolePartition).inheritance "clerk" ["gone", "head"] = false := by
    simp [createsCycle, Graph.preorder, Graph.walk, hnone]
  -- Heads would inherit from clerks, and clerks inherit from heads.
  have hclerk : clerksAndHeads.inheritance.Edge "clerk" "head" :=
    List.mem_cons_of_mem "gone" List.mem_cons_self
  have hpath : Relation.TransGen
      (clerksAndHeads.inheritance.withNext "head" ["gone", "clerk"]).Edge "head" "head" :=
    .tail (.single (Graph.withNext_edge_self.2 (by decide)))
      ((Graph.withNext_edge_of_ne (by decide)).2 hclerk)
  have hholds := clerksAndHeads.holdsGraph_inheritance
  obtain ⟨-, hkept, -⟩ :=
    cycle_tests_exact ({} : RolePartition).inheritance "clerk" ["gone", "head"]
  obtain ⟨hcycle, -, hread⟩ :=
    cycle_tests_exact clerksAndHeads.inheritance "head" ["gone", "clerk"]
  have hanswer := hread clerksAndHeads.directory hholds
  rw [hcycle.2 hpath] at hanswer
  exact ⟨RolePartition.acyclic_empty, hfirst, hkept RolePartition.acyclic_empty hfirst, hholds,
    hanswer, hpath⟩

end AccessControl
