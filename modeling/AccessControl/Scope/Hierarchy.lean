import AccessControl.Error
import AccessControl.Graph.Preorder
/-!
# Hierarchies

A hierarchy says which ids stand below an id. `Hierarchy` is one given by its edges from parent to
child; any function may stand in its place as a `HierarchyResolver`, which may fail.
-/
namespace AccessControl

/-- Finds an id and the ids below it. -/
abbrev HierarchyResolver := String → Except AccessError (List String)

/-- A hierarchy that is given by its edges, each from a parent to a child. -/
structure Hierarchy where
  edges : List (String × String)

namespace Hierarchy

/-- The children of an id, in the order of the edges. -/
def children (h : Hierarchy) (parent : String) : List String :=
  (h.edges.filter fun edge => edge.1 = parent).map Prod.snd

/-- The graph from parents to children. -/
def graph (h : Hierarchy) : Graph where
  nodes := h.edges.map Prod.fst
  next := h.children
  next_eq_nil x hx := by
    have : h.edges.filter (fun edge => edge.1 = x) = [] := by
      rw [List.filter_eq_nil_iff]
      intro edge hedge heq
      exact hx (List.mem_map.2 ⟨edge, hedge, by simpa using heq⟩)
    simp [children, this]

/-- An id and all ids below it, each once and before those below it. -/
def descendants (h : Hierarchy) (root : String) : List String := h.graph.preorder [root]

/-- The hierarchy as a resolver, which never fails. -/
def resolver (h : Hierarchy) : HierarchyResolver := fun root => .ok (h.descendants root)

end Hierarchy

end AccessControl
