import AccessControl.Proofs.Graph.DepthFirst
import AccessControl.Proofs.Scope.Resolution
import Mathlib.Logic.Function.Iterate
/-!
# The ids at and below a root

A hierarchy is any list of edges: ids may stand below themselves, an edge may be repeated, and an id
may have several parents. The list of what stands at or below a root is described in three ways.

* It holds the ids to which a path of edges leads from the root, each once
  (`Hierarchy.mem_descendants_iff`, `Hierarchy.descendants_nodup`).
* Its order is that of a recursive visit, which reads the edges of a parent in their order and goes
  below a child before it reads on (`Hierarchy.Visits`).
* It is what is found in rounds that each take one of the ids that wait (`Hierarchy.round`). The ids
  that wait may become more in a round, but together with the edges whose parent has not been met
  they become one less (`Hierarchy.work_round`), so the rounds come to an end.
-/
namespace AccessControl

namespace Hierarchy

/-- The id is the root, or edges lead from the root to it. -/
def AtOrBelow (h : Hierarchy) (root id : String) : Prop :=
  Relation.ReflTransGen (fun parent child => (parent, child) ∈ h.edges) root id

/-- The ids that are met below a parent when some ids are known and these edges are still to be
read. An edge from another parent is passed over, and so is a child that is known. Any other child
is met, and then all below it, before the edges after it are read. -/
inductive Visits (h : Hierarchy) :
    (known : List String) → (parent : String) → (edges : List (String × String)) →
      (met : List String) → Prop
  | done {known : List String} {parent : String} : Visits h known parent [] []
  | other {known met : List String} {parent parent' child : String}
    {edges : List (String × String)} (hother : parent' ≠ parent)
    (hrest : Visits h known parent edges met) :
    Visits h known parent ((parent', child) :: edges) met
  | known {known met : List String} {parent child : String} {edges : List (String × String)}
    (hknown : child ∈ known) (hrest : Visits h known parent edges met) :
    Visits h known parent ((parent, child) :: edges) met
  | new {known below met : List String} {parent child : String} {edges : List (String × String)}
    (hnew : child ∉ known) (hbelow : Visits h (child :: known) child h.edges below)
    (hrest : Visits h (below ++ child :: known) parent edges met) :
    Visits h known parent ((parent, child) :: edges) (child :: (below ++ met))

/-- The ids that have been met, in this order, and those that wait. -/
structure Search where
  met : List String
  waiting : List String

/-- One round takes the id that waits in front. It is passed over if it has been met; otherwise it
is met, and its children wait in front of the others. Nothing changes when no id waits. -/
def round (h : Hierarchy) (s : Search) : Search :=
  match s.waiting with
  | [] => s
  | id :: waiting =>
    if id ∈ s.met then ⟨s.met, waiting⟩ else ⟨s.met ++ [id], h.children id ++ waiting⟩

/-- The number of ids that wait and of edges whose parent has not been met. -/
def work (h : Hierarchy) (s : Search) : Nat :=
  s.waiting.length + h.edges.countP fun edge => edge.1 ∉ s.met

variable {h : Hierarchy} {root parent child id : String} {known met waiting siblings : List String}
  {edges : List (String × String)} {s : Search}

/-! ### What is listed -/

lemma graph_edge_iff : h.graph.Edge parent child ↔ (parent, child) ∈ h.edges := by
  simp [Graph.Edge, graph, children]

lemma mem_descendants_iff : id ∈ h.descendants root ↔ h.AtOrBelow root id := by
  have hedge : h.graph.Edge = fun parent child => (parent, child) ∈ h.edges := by
    ext parent child
    exact graph_edge_iff
  rw [descendants, Graph.mem_preorder_iff, AtOrBelow, ← hedge]
  simp [Graph.Reaches]

lemma descendants_nodup : (h.descendants root).Nodup := h.graph.preorder_nodup [root]

/-- The root stands first, and then what is met below it. -/
lemma descendants_eq_cons :
    h.descendants root = root :: h.graph.depthFirst [root] (h.children root) := by
  rw [descendants, Graph.preorder_eq_depthFirst, Graph.depthFirst, if_neg List.not_mem_nil]
  show root :: (_ ++ h.graph.depthFirst _ []) = _
  rw [Graph.depthFirst, List.append_nil]
  rfl

/-! ### The order -/

/-- Edges from other parents do not matter to a visit. -/
lemma Visits.skip {others : List (String × String)} (hothers : ∀ edge ∈ others, edge.1 ≠ parent)
    (hrest : h.Visits known parent edges met) : h.Visits known parent (others ++ edges) met := by
  induction others with
  | nil => exact hrest
  | cons edge others ih =>
    rw [List.forall_mem_cons] at hothers
    exact .other hothers.1 (ih hothers.2)

lemma forall_ne_of_children_eq_nil (hnil : children ⟨edges⟩ parent = []) :
    ∀ edge ∈ edges, edge.1 ≠ parent := by
  intro edge hedge heq
  have hmem : edge.2 ∈ children ⟨edges⟩ parent :=
    List.mem_map_of_mem (List.mem_filter.2 ⟨hedge, decide_eq_true heq⟩)
  rw [hnil] at hmem
  cases hmem

/-- The first child comes from the first edge of its parent, and its siblings from the edges after
that. -/
lemma exists_split_of_children_eq_cons (hcons : children ⟨edges⟩ parent = child :: siblings) :
    ∃ others rest, edges = others ++ (parent, child) :: rest ∧
      (∀ edge ∈ others, edge.1 ≠ parent) ∧ children ⟨rest⟩ parent = siblings := by
  obtain ⟨⟨parent', child'⟩, kept, hkept, rfl, rfl⟩ := List.map_eq_cons_iff.1 hcons
  obtain ⟨others, rest, rfl, hothers, hparent, rfl⟩ := List.filter_eq_cons_iff.1 hkept
  obtain rfl : parent' = parent := of_decide_eq_true hparent
  exact ⟨others, rest, rfl, fun edge hedge => by simpa using hothers edge hedge, rfl⟩

/-- The depth-first traversal of the children in a list of edges is a visit that reads these
edges. -/
lemma visits_depthFirst (h : Hierarchy) (known nodes : List String) :
    ∀ {parent : String} {edges : List (String × String)}, children ⟨edges⟩ parent = nodes →
      h.Visits known parent edges (h.graph.depthFirst known nodes) := by
  -- By recursion of the traversal: only the edges to the nodes in it count, and below a new child
  -- all edges of the hierarchy are read from the start.
  fun_induction h.graph.depthFirst known nodes with
  | case1 known =>
    intro parent edges hnil
    have hskip : h.Visits known parent (edges ++ []) [] :=
      .skip (forall_ne_of_children_eq_nil hnil) .done
    rwa [List.append_nil] at hskip
  | case2 known child siblings hknown ih =>
    intro parent edges hcons
    obtain ⟨others, rest, rfl, hothers, hrest⟩ := exists_split_of_children_eq_cons hcons
    exact .skip hothers (.known hknown (ih hrest))
  | @case3 known child siblings hnew below ihbelow ihsiblings =>
    intro parent edges hcons
    obtain ⟨others, rest, rfl, hothers, hrest⟩ := exists_split_of_children_eq_cons hcons
    exact .skip hothers (.new hnew (ihbelow rfl) (ihsiblings hrest))

/-- The edges determine what a visit meets. -/
lemma Visits.unique {met' : List String} (hmet : h.Visits known parent edges met)
    (hmet' : h.Visits known parent edges met') : met = met' := by
  induction hmet generalizing met' with
  | done =>
    cases hmet'
    rfl
  | other hother _ ih =>
    cases hmet' with
    | other _ hrest => exact ih hrest
    | known => exact absurd rfl hother
    | new => exact absurd rfl hother
  | known hknown _ ih =>
    cases hmet' with
    | other hother => exact absurd rfl hother
    | known _ hrest => exact ih hrest
    | new hnew => exact absurd hknown hnew
  | new hnew _ _ ihbelow ihrest =>
    cases hmet' with
    | other hother => exact absurd rfl hother
    | known hknown => exact absurd hknown hnew
    | new _ hbelow hrest =>
      obtain rfl := ihbelow hbelow
      rw [ihrest hrest]

lemma visits_iff : h.Visits known parent h.edges met ↔
    met = h.graph.depthFirst known (h.children parent) :=
  ⟨fun hmet => hmet.unique (visits_depthFirst h known _ rfl),
    fun heq => heq ▸ visits_depthFirst h known _ rfl⟩

/-! ### The rounds -/

lemma round_of_mem (hid : id ∈ met) : h.round ⟨met, id :: waiting⟩ = ⟨met, waiting⟩ := if_pos hid

lemma round_of_not_mem (hid : id ∉ met) :
    h.round ⟨met, id :: waiting⟩ = ⟨met ++ [id], h.children id ++ waiting⟩ := if_neg hid

lemma work_mk : h.work ⟨met, waiting⟩ =
    waiting.length + h.edges.countP fun edge => edge.1 ∉ met := rfl

/-- Among the edges whose parent has not been met are those to the children of an id that is new. -/
lemma countP_unmet (hid : id ∉ met) :
    (h.edges.countP fun edge => edge.1 ∉ met) =
      (h.edges.countP fun edge => edge.1 ∉ met ++ [id]) + (h.children id).length := by
  rw [children, List.length_map, ← List.countP_eq_length_filter]
  induction h.edges with
  | nil => rfl
  | cons edge edges ih => grind

/-- A round with something to do makes the work one less. -/
lemma work_round (hwaiting : s.waiting ≠ []) : h.work (h.round s) + 1 = h.work s := by
  obtain ⟨met, _ | ⟨id, waiting⟩⟩ := s
  · exact absurd rfl hwaiting
  · by_cases hid : id ∈ met
    · rw [round_of_mem hid, work_mk, work_mk, List.length_cons]
      omega
    · rw [round_of_not_mem hid, work_mk, work_mk, countP_unmet hid, List.length_append,
        List.length_cons]
      omega

/-- What has been met and what a walk from there still meets stay the same in each round. -/
lemma walk_round :
    (h.round s).met ++ h.graph.walk (h.round s).met (h.round s).waiting =
      s.met ++ h.graph.walk s.met s.waiting := by
  obtain ⟨met, _ | ⟨id, waiting⟩⟩ := s
  · rfl
  · by_cases hid : id ∈ met
    · rw [round_of_mem hid, Graph.walk, if_pos hid]
    · -- The walk puts what it has met in front of what is known, a round puts it behind.
      have hsame : ∀ x, x ∈ met ++ [id] ↔ x ∈ id :: met := by
        intro x
        simp [or_comm]
      rw [round_of_not_mem hid, Graph.walk, if_neg hid, h.graph.walk_congr hsame,
        List.append_assoc]
      rfl

lemma iterate_round_of_eq_nil (hwaiting : s.waiting = []) (n : ℕ) :
    h.round^[n] s = ⟨s.met ++ h.graph.walk s.met s.waiting, []⟩ := by
  obtain ⟨met, waiting⟩ := s
  cases hwaiting
  rw [Function.iterate_fixed rfl, Graph.walk.eq_1, List.append_nil]

/-- With as many rounds as there is work, all that can be met has been met and no id waits. -/
lemma iterate_round {n : ℕ} (hn : h.work s ≤ n) :
    h.round^[n] s = ⟨s.met ++ h.graph.walk s.met s.waiting, []⟩ := by
  induction n generalizing s with
  | zero =>
    have hwaiting : s.waiting.length = 0 := Nat.eq_zero_of_add_eq_zero_right (Nat.le_zero.1 hn)
    exact iterate_round_of_eq_nil (List.length_eq_zero_iff.1 hwaiting) 0
  | succ n ih =>
    -- Edges that cannot be reached are work that is never done, so the search may be over early.
    by_cases hwaiting : s.waiting = []
    · exact iterate_round_of_eq_nil hwaiting (n + 1)
    · have hstep := work_round (h := h) hwaiting
      rw [Function.iterate_succ_apply, ih (by omega), walk_round]

/-- At first the root waits and no edge has been read. -/
lemma iterate_round_root {n : ℕ} (hn : h.edges.length < n) :
    h.round^[n] ⟨[], [root]⟩ = ⟨h.descendants root, []⟩ := by
  refine iterate_round ?_
  have hopen : (h.edges.countP fun edge => edge.1 ∉ ([] : List String)) ≤ h.edges.length :=
    List.countP_le_length
  rw [work_mk, List.length_singleton]
  omega

/-! ### The filter -/

lemma withRoot_descendants : withRoot root (h.descendants root) = h.descendants root :=
  if_pos (mem_descendants_iff.2 .refl)

/-- For every list of edges and every root, whether or not an edge mentions it, the search ends: it
is over after one round more than there are edges. The list it has found starts with the root, holds
each id at or below the root once and no other, and has the order of a visit, of which there is only
one: it reads the edges of a parent in their order and passes over ids that are known. A condition
that asks for the root or what is below it becomes the filter that the field is one of the ids in
the list. -/
theorem descendants_in_order_of_visit (h : Hierarchy) (root : String) :
    (∀ n, h.edges.length < n → h.round^[n] ⟨[], [root]⟩ = ⟨h.descendants root, []⟩) ∧
      (∃ below, h.descendants root = root :: below ∧
        ∀ met, h.Visits [root] root h.edges met ↔ met = below) ∧
      (h.descendants root).Nodup ∧
      (∀ id, id ∈ h.descendants root ↔ h.AtOrBelow root id) ∧
      ∀ (scope field : String) (source : ValueSource) (value : ScopeValue) (r : Request),
        source.Yields r value → value.IsRoot root →
          ScopeCondition.resolve (some h.resolver) scope ⟨field, .hierarchy, source⟩ r =
            .ok (.oneOf field ((h.descendants root).map .str)) := by
  refine ⟨fun n => iterate_round_root, ⟨_, descendants_eq_cons, fun met => visits_iff⟩,
    descendants_nodup, fun id => mem_descendants_iff, ?_⟩
  intro scope field source value r hvalue hroot
  rw [ScopeCondition.resolve_hierarchy_of_root hvalue hroot, resolver, Except.map,
    withRoot_descendants]

/-- Dan stands above Ann, who stands above him; Cid stands below himself, below Ann and below Bob;
one edge is given twice. -/
def staff : Hierarchy :=
  ⟨[("ann", "bob"), ("ann", "cid"), ("bob", "dan"), ("dan", "ann"), ("cid", "cid"),
    ("ann", "bob"), ("cid", "dan"), ("bob", "cid")]⟩

theorem staff_below_ann :
    let r : Request := { tenant := { id := "acme" }, subject := { id := "ann", kind := .user } }
    staff.edges.length < 9 ∧ staff.round^[9] ⟨[], ["ann"]⟩ = ⟨["ann", "bob", "dan", "cid"], []⟩ ∧
      (ValueSource.context .subjectId).Yields r (.str "ann") ∧
      (ScopeValue.str "ann").IsRoot "ann" ∧
      ScopeCondition.resolve (some staff.resolver) "below"
          ⟨"owner_id", .hierarchy, .context .subjectId⟩ r =
        .ok (.oneOf "owner_id" [.str "ann", .str "bob", .str "dan", .str "cid"]) := by
  intro r
  have hlist : staff.descendants "ann" = ["ann", "bob", "dan", "cid"] := by cbv
  obtain ⟨hrounds, -, -, -, hfilter⟩ := descendants_in_order_of_visit staff "ann"
  rw [hlist] at hrounds hfilter
  have hsource : (ValueSource.context .subjectId).Yields r (.str "ann") := .context rfl
  exact ⟨by decide, hrounds 9 (by decide), hsource, .str "ann",
    hfilter "below" "owner_id" _ _ r hsource (.str "ann")⟩

/-- Nobody stands below somebody whom no edge mentions. -/
example : staff.descendants "eve" = ["eve"] := by cbv

end Hierarchy

end AccessControl
