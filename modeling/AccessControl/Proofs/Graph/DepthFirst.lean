import AccessControl.Proofs.Graph.Reachability
/-!
# The walk as a recursion

A walk keeps one list of nodes that wait, and puts the successors of a node in front of it. The
recursive traversal visits the successors of a node before it goes on to the next sibling, and hands
the nodes it has met on from each visit to the next. Both list the same nodes in the same order
(`Graph.preorder_eq_depthFirst`): what waits behind the successors of a node is only looked at when
these and all that is met through them are known.
-/
namespace AccessControl

namespace Graph

variable (g : Graph)

lemma unmet_append_le (more seen : List String) : g.unmet (more ++ seen) ≤ g.unmet seen := by
  rw [unmet, unmet, ← List.countP_eq_length_filter, ← List.countP_eq_length_filter]
  refine List.countP_mono_left fun x _ hx => ?_
  have hnot : x ∉ more ∧ x ∉ seen := by simpa using hx
  simpa using hnot.2

/-- The nodes that are met by visiting these nodes one after the other, when those of `seen` are
known. A known node is passed over; any other is met, and then its successors are visited in the
same way before its siblings. -/
def depthFirst (seen : List String) : List String → List String
  | [] => []
  | x :: siblings =>
    if x ∈ seen then depthFirst seen siblings
    else
      let below := depthFirst (x :: seen) (g.next x)
      x :: (below ++ depthFirst (below ++ x :: seen) siblings)
termination_by nodes => (g.unmet seen, nodes.length)
decreasing_by
  · exact Prod.Lex.right _ (by simp)
  · rename_i hseen
    by_cases hmem : x ∈ g.nodes
    · exact Prod.Lex.left _ _ (g.unmet_cons_lt hseen hmem)
    · rw [g.unmet_cons_of_not_mem seen hmem, g.next_eq_nil x hmem]
      exact Prod.Lex.right _ (by simp)
  · rename_i hseen
    have hle : g.unmet (below ++ x :: seen) ≤ g.unmet seen := by
      rw [List.append_cons]
      exact g.unmet_append_le (below ++ [x]) seen
    rcases Nat.lt_or_eq_of_le hle with hlt | heq
    · exact Prod.Lex.left _ _ hlt
    · rw [heq]
      exact Prod.Lex.right _ (by simp)

/-- What a walk lists depends on which nodes are known, not on how they are listed. -/
lemma walk_congr {seen seen' : List String} (h : ∀ x, x ∈ seen ↔ x ∈ seen')
    (waiting : List String) : g.walk seen waiting = g.walk seen' waiting := by
  fun_induction g.walk seen waiting generalizing seen' with
  | case1 seen => rw [walk]
  | case2 seen x waiting hx ih =>
    rw [walk, if_pos ((h x).1 hx)]
    exact ih h
  | case3 seen x waiting hx ih =>
    have hmore : ∀ y, y ∈ x :: seen ↔ y ∈ x :: seen' := by
      intro y
      rw [List.mem_cons, List.mem_cons, h y]
    rw [walk, if_neg (mt (h x).2 hx), ih hmore]

/-- A walk lists what is met through the nodes that wait in front, and goes on with the others when
all of it is known. -/
lemma walk_append (seen front rest : List String) :
    g.walk seen (front ++ rest) =
      g.depthFirst seen front ++ g.walk (g.depthFirst seen front ++ seen) rest := by
  fun_induction g.depthFirst seen front generalizing rest with
  | case1 seen => rfl
  | case2 seen x siblings hx ih => rw [List.cons_append, walk, if_pos hx, ih]
  | case3 seen x siblings hx below ihbelow ihsiblings =>
    rw [List.cons_append, walk, if_neg hx, ihbelow, ihsiblings]
    -- The nodes met so far are the same in both cases, in another order.
    have hsame : ∀ y, y ∈ g.depthFirst (below ++ x :: seen) siblings ++ (below ++ x :: seen) ↔
        y ∈ x :: (below ++ g.depthFirst (below ++ x :: seen) siblings) ++ seen := by
      intro y
      simp only [List.mem_append, List.mem_cons]
      grind
    show x :: (below ++ _) = _
    rw [g.walk_congr hsame]
    simp

lemma preorder_eq_depthFirst (roots : List String) : g.preorder roots = g.depthFirst [] roots := by
  have h := g.walk_append [] roots []
  rwa [List.append_nil, walk.eq_1, List.append_nil] at h

end Graph

end AccessControl
