import AccessControl.Entries
/-!
# Walks through a finite graph

The nodes of a graph are texts, and each has a list of successors; only finitely many nodes have
any. `Graph.preorder` lists what can be reached from a list of roots, each node once and before the
nodes that are met through it, in the order in which roots and successors are listed.

The walk keeps a stack of nodes that wait. It ends because every node taken from the stack is either
known already, or has no successors, or is one of the finitely many nodes that had not been met.
-/
namespace AccessControl

/-- A graph with finitely many edges. -/
structure Graph where
  /-- The nodes that may have successors. -/
  nodes : List String
  /-- The successors of a node. -/
  next : String → List String
  /-- No other node has successors. -/
  next_eq_nil : ∀ x, x ∉ nodes → next x = []

namespace Graph

variable (g : Graph)

/-- The number of nodes with successors that have not been met. -/
def unmet (seen : List String) : Nat := (g.nodes.filter fun x => x ∉ seen).length

private theorem length_filter_cons_le (x : String) (seen : List String) :
    ∀ nodes : List String,
      (nodes.filter fun y => y ∉ x :: seen).length ≤ (nodes.filter fun y => y ∉ seen).length
  | [] => by simp
  | y :: ys => by
    have ih := length_filter_cons_le x seen ys
    by_cases hy : y ∈ seen <;> by_cases hyx : y = x <;> grind

private theorem length_filter_cons_lt {x : String} {seen : List String} (hx : x ∉ seen) :
    ∀ {nodes : List String}, x ∈ nodes →
      (nodes.filter fun y => y ∉ x :: seen).length < (nodes.filter fun y => y ∉ seen).length
  | [], h => by cases h
  | y :: ys, h => by
    have hle := length_filter_cons_le x seen ys
    by_cases hyx : y = x
    · grind
    · have hys : x ∈ ys := by simpa [Ne.symm hyx] using h
      have ih := length_filter_cons_lt hx hys
      by_cases hy : y ∈ seen <;> grind

theorem unmet_cons_lt {x : String} {seen : List String} (hx : x ∉ seen) (hmem : x ∈ g.nodes) :
    g.unmet (x :: seen) < g.unmet seen := length_filter_cons_lt hx hmem

theorem unmet_cons_of_not_mem {x : String} (seen : List String) (hmem : x ∉ g.nodes) :
    g.unmet (x :: seen) = g.unmet seen := by
  unfold unmet
  congr 1
  refine List.filter_congr fun y hy => ?_
  have hyx : y ≠ x := fun h => hmem (h ▸ hy)
  simp [hyx]

/-- The nodes that a walk meets when these nodes wait and those of `seen` are known. -/
def walk (seen : List String) : List String → List String
  | [] => []
  | x :: waiting =>
    if x ∈ seen then walk seen waiting
    else x :: walk (x :: seen) (g.next x ++ waiting)
termination_by waiting => (g.unmet seen, waiting.length)
decreasing_by
  · exact Prod.Lex.right _ (by simp)
  · rename_i hseen
    by_cases hmem : x ∈ g.nodes
    · exact Prod.Lex.left _ _ (g.unmet_cons_lt hseen hmem)
    · rw [g.unmet_cons_of_not_mem seen hmem, g.next_eq_nil x hmem]
      exact Prod.Lex.right _ (by simp)

/-- The graph with these lists of successors; other nodes have none. -/
def ofEntries (entries : Entries (List String)) : Graph where
  nodes := entries.map Prod.fst
  next x := (entries.get? x).getD []
  next_eq_nil x hx := by rw [Entries.get?_eq_none hx, Option.getD_none]

/-- What can be reached from the roots, each node once, in the order in which a walk meets them. -/
def preorder (roots : List String) : List String := g.walk [] roots

end Graph

end AccessControl
