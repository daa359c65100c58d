import AccessControl.Role.Inheritance
import Mathlib.Logic.Relation
import Mathlib.Tactic.Lemma
/-!
# Reachability in a finite graph

A walk lists what can be reached from its roots along the edges of the graph, and lists each node
once. Whether a node could be reached from itself if it had other successors is decided by a walk
from these successors in the graph as it is: the old successors of the node do not matter, because
a path that comes back to the node can be cut where it meets the node for the first time.

* `Graph.mem_preorder_iff`: what a walk lists is what can be reached;
* `Graph.createsCycle_iff`: the test for cycles speaks of the graph with the new successors;
* `Graph.Acyclic.withNext`: a graph without cycles that passes the test stays without cycles.
-/
namespace AccessControl

namespace Graph

variable (g : Graph)

/-- There is an edge from the first node to the second. -/
def Edge (x y : String) : Prop := y ∈ g.next x

/-- The second node can be reached from the first. -/
def Reaches (x y : String) : Prop := Relation.ReflTransGen g.Edge x y

/-- No node can be reached from itself along one or more edges. -/
def Acyclic : Prop := ∀ x, ¬Relation.TransGen g.Edge x x

/-! ### What a walk lists -/

lemma not_mem_of_mem_walk {seen waiting : List String} {x : String}
    (h : x ∈ g.walk seen waiting) : x ∉ seen := by
  fun_induction g.walk seen waiting with
  | case1 seen => cases h
  | case2 seen y waiting hy ih => exact ih h
  | case3 seen y waiting hy ih =>
    rcases List.mem_cons.1 h with rfl | h
    · exact hy
    · exact fun hmem => ih h (List.mem_cons_of_mem y hmem)

lemma walk_nodup (seen waiting : List String) : (g.walk seen waiting).Nodup := by
  fun_induction g.walk seen waiting with
  | case1 seen => exact List.nodup_nil
  | case2 seen y waiting hy ih => exact ih
  | case3 seen y waiting hy ih =>
    refine List.nodup_cons.2 ⟨fun hmem => ?_, ih⟩
    exact g.not_mem_of_mem_walk hmem List.mem_cons_self

lemma mem_walk_of_mem {seen waiting : List String} {x : String} (hx : x ∈ waiting) :
    x ∈ seen ∨ x ∈ g.walk seen waiting := by
  fun_induction g.walk seen waiting with
  | case1 seen => cases hx
  | case2 seen y waiting hy ih =>
    rcases List.mem_cons.1 hx with rfl | hx
    · exact Or.inl hy
    · exact ih hx
  | case3 seen y waiting hy ih =>
    rcases List.mem_cons.1 hx with rfl | hx
    · exact Or.inr List.mem_cons_self
    · rcases ih (List.mem_append_right _ hx) with h | h
      · rcases List.mem_cons.1 h with rfl | h
        · exact Or.inr List.mem_cons_self
        · exact Or.inl h
      · exact Or.inr (List.mem_cons_of_mem y h)

/-- The walk goes along every edge that leaves a node it lists. -/
lemma mem_walk_of_edge {seen waiting : List String} {x y : String}
    (hx : x ∈ g.walk seen waiting) (hxy : g.Edge x y) :
    y ∈ seen ∨ y ∈ g.walk seen waiting := by
  fun_induction g.walk seen waiting with
  | case1 seen => cases hx
  | case2 seen z waiting hz ih => exact ih hx
  | case3 seen z waiting hz ih =>
    have hsplit : y ∈ z :: seen ∨ y ∈ g.walk (z :: seen) (g.next z ++ waiting) := by
      rcases List.mem_cons.1 hx with rfl | hx
      · exact g.mem_walk_of_mem (List.mem_append_left _ hxy)
      · exact ih hx
    rcases hsplit with h | h
    · rcases List.mem_cons.1 h with rfl | h
      · exact Or.inr List.mem_cons_self
      · exact Or.inl h
    · exact Or.inr (List.mem_cons_of_mem z h)

lemma exists_reaches_of_mem_walk {seen waiting : List String} {x : String}
    (hx : x ∈ g.walk seen waiting) : ∃ r ∈ waiting, g.Reaches r x := by
  fun_induction g.walk seen waiting with
  | case1 seen => cases hx
  | case2 seen y waiting hy ih =>
    obtain ⟨r, hr, hrx⟩ := ih hx
    exact ⟨r, List.mem_cons_of_mem y hr, hrx⟩
  | case3 seen y waiting hy ih =>
    rcases List.mem_cons.1 hx with rfl | hx
    · exact ⟨x, List.mem_cons_self, Relation.ReflTransGen.refl⟩
    · obtain ⟨r, hr, hrx⟩ := ih hx
      rcases List.mem_append.1 hr with hr | hr
      · exact ⟨y, List.mem_cons_self, Relation.ReflTransGen.head hr hrx⟩
      · exact ⟨r, List.mem_cons_of_mem y hr, hrx⟩

/-- What a walk lists is what can be reached from its roots. -/
lemma mem_preorder_iff {roots : List String} {x : String} :
    x ∈ g.preorder roots ↔ ∃ r ∈ roots, g.Reaches r x := by
  constructor
  · exact g.exists_reaches_of_mem_walk
  · rintro ⟨r, hr, hrx⟩
    -- The list holds the roots and is closed under edges, so it holds the end of every path.
    induction hrx with
    | refl => exact (g.mem_walk_of_mem hr).resolve_left (List.not_mem_nil)
    | tail _ hyz ih => exact (g.mem_walk_of_edge ih hyz).resolve_left (List.not_mem_nil)

lemma preorder_nodup (roots : List String) : (g.preorder roots).Nodup := g.walk_nodup [] roots

/-! ### Other successors for one node -/

/-- The graph in which a node has other successors. -/
def withNext (x : String) (successors : List String) : Graph where
  nodes := x :: g.nodes
  next y := if y = x then successors else g.next y
  next_eq_nil y hy := by
    have hyx : y ≠ x := fun h => hy (h ▸ List.mem_cons_self)
    rw [if_neg hyx, g.next_eq_nil y fun h => hy (List.mem_cons_of_mem x h)]

variable {g} {x : String} {successors : List String}

lemma withNext_edge_self {y : String} : (g.withNext x successors).Edge x y ↔ y ∈ successors := by
  simp [Edge, withNext]

lemma withNext_edge_of_ne {y z : String} (hy : y ≠ x) :
    (g.withNext x successors).Edge y z ↔ g.Edge y z := by
  simp [Edge, withNext, hy]

/-- Either graph has the paths of the other that end where they meet the node for the first time. -/
lemma reaches_withNext_iff {y : String} :
    (g.withNext x successors).Reaches y x ↔ g.Reaches y x := by
  -- At the node itself the path has ended, and everywhere else the graphs have the same edges.
  constructor
  · intro h
    induction h using Relation.ReflTransGen.head_induction_on with
    | refl => exact Relation.ReflTransGen.refl
    | @head y z hyz _ ih =>
      by_cases hy : y = x
      · exact hy ▸ Relation.ReflTransGen.refl
      · exact Relation.ReflTransGen.head ((withNext_edge_of_ne hy).1 hyz) ih
  · intro h
    induction h using Relation.ReflTransGen.head_induction_on with
    | refl => exact Relation.ReflTransGen.refl
    | @head y z hyz _ ih =>
      by_cases hy : y = x
      · exact hy ▸ Relation.ReflTransGen.refl
      · exact Relation.ReflTransGen.head ((withNext_edge_of_ne hy).2 hyz) ih

/-- The test for cycles tells whether the node could be reached from itself if it had these
successors. -/
lemma createsCycle_iff :
    createsCycle g x successors = true ↔ Relation.TransGen (g.withNext x successors).Edge x x := by
  rw [createsCycle, List.contains_iff_mem, mem_preorder_iff, Relation.TransGen.head'_iff]
  constructor
  · rintro ⟨r, hr, hrx⟩
    exact ⟨r, withNext_edge_self.2 hr, reaches_withNext_iff.2 hrx⟩
  · rintro ⟨r, hr, hrx⟩
    exact ⟨r, withNext_edge_self.1 hr, reaches_withNext_iff.1 hrx⟩

/-- A path in the graph with other successors is one in the graph as it was, or it meets the
node. -/
lemma transGen_of_withNext {y z : String}
    (h : Relation.TransGen (g.withNext x successors).Edge y z) :
    Relation.TransGen g.Edge y z ∨
      (g.withNext x successors).Reaches y x ∧
        Relation.TransGen (g.withNext x successors).Edge x z := by
  induction h using Relation.TransGen.head_induction_on with
  | @single y hyz =>
    by_cases hy : y = x
    · subst hy
      exact Or.inr ⟨Relation.ReflTransGen.refl, Relation.TransGen.single hyz⟩
    · exact Or.inl (Relation.TransGen.single ((withNext_edge_of_ne hy).1 hyz))
  | @head y w hyw hwz ih =>
    by_cases hy : y = x
    · subst hy
      exact Or.inr ⟨Relation.ReflTransGen.refl, Relation.TransGen.head hyw hwz⟩
    · rcases ih with h | ⟨h, hxz⟩
      · exact Or.inl (Relation.TransGen.head ((withNext_edge_of_ne hy).1 hyw) h)
      · exact Or.inr ⟨Relation.ReflTransGen.head hyw h, hxz⟩

/-- If no node could be reached from itself, and the one with other successors cannot either, then
no node can. -/
lemma Acyclic.withNext (hg : g.Acyclic)
    (hx : ¬Relation.TransGen (g.withNext x successors).Edge x x) :
    (g.withNext x successors).Acyclic := by
  intro y hy
  rcases transGen_of_withNext hy with h | ⟨hyx, hxy⟩
  · exact hg y h
  · exact hx (hxy.trans_left hyx)

end Graph

end AccessControl
