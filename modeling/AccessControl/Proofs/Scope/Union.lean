import AccessControl.Proofs.Scope.Resolution
/-!
# Scopes joined by *or*

A row passes scopes that are joined by *or* if it passes one of their filters, or if they have none.
The filters of two lists of combinable scopes together are those of the one and those of the other.
So the rows that are shown are those that the one or the other shows, as long as both have filters
or neither has. A list without filters counts for nothing beside one with filters: then only what
the latter shows is shown.
-/
namespace AccessControl

namespace CombinedScope

/-- Whether scopes that are joined by *or* show a row, given which filters hold for the row. -/
def Shows (s : CombinedScope) (holds : ScopeFilter → Prop) : Prop :=
  s.isUnrestricted = true ∨ ∃ f ∈ s.filters, holds f

variable {s a b : CombinedScope} {holds : ScopeFilter → Prop}

lemma isUnrestricted_iff : s.isUnrestricted = true ↔ ∀ f, f ∉ s.filters := by
  rw [isUnrestricted, List.isEmpty_iff, List.eq_nil_iff_forall_not_mem]

lemma shows_iff_of_restricted (h : s.isUnrestricted ≠ true) :
    s.Shows holds ↔ ∃ f ∈ s.filters, holds f :=
  or_iff_right h

/-- The filters of the first are those of the two others together. -/
def IsUnion (s a b : CombinedScope) : Prop := ∀ f, f ∈ s.filters ↔ f ∈ a.filters ∨ f ∈ b.filters

namespace IsUnion

lemma symm (h : s.IsUnion a b) : s.IsUnion b a := fun f => (h f).trans or_comm

lemma isUnrestricted_iff (h : s.IsUnion a b) :
    s.isUnrestricted = true ↔ a.isUnrestricted = true ∧ b.isUnrestricted = true := by
  simp only [CombinedScope.isUnrestricted_iff, h _, not_or, forall_and]

/-- Beside scopes with filters, scopes without filters count for nothing. -/
lemma shows_iff_right (h : s.IsUnion a b) (ha : a.isUnrestricted = true)
    (hb : b.isUnrestricted ≠ true) : s.Shows holds ↔ b.Shows holds := by
  have hs : s.isUnrestricted ≠ true := fun hs => hb (h.isUnrestricted_iff.1 hs).2
  have hnone := CombinedScope.isUnrestricted_iff.1 ha
  rw [shows_iff_of_restricted hs, shows_iff_of_restricted hb]
  simp only [h _, hnone, false_or]

lemma shows_iff (h : s.IsUnion a b) (hab : a.isUnrestricted = b.isUnrestricted) :
    s.Shows holds ↔ a.Shows holds ∨ b.Shows holds := by
  by_cases hb : b.isUnrestricted = true
  · have ha : a.isUnrestricted = true := hab.trans hb
    exact iff_of_true (Or.inl (h.isUnrestricted_iff.2 ⟨ha, hb⟩)) (Or.inl (Or.inl ha))
  · have ha : a.isUnrestricted ≠ true := hab ▸ hb
    have hs : s.isUnrestricted ≠ true := fun hs => hb (h.isUnrestricted_iff.1 hs).2
    rw [shows_iff_of_restricted hs, shows_iff_of_restricted ha, shows_iff_of_restricted hb]
    simp only [h _, or_and_right, exists_or]

/-- Scopes that have filters show no fewer rows with other scopes beside them. -/
lemma shows_of_left (h : s.IsUnion a b) (ha : a.isUnrestricted ≠ true) (hshows : a.Shows holds) :
    s.Shows holds := by
  obtain ⟨f, hf, hholds⟩ := (shows_iff_of_restricted ha).1 hshows
  exact Or.inr ⟨f, (h f).2 (Or.inl hf), hholds⟩

end IsUnion

end CombinedScope

variable {hierarchy : Option HierarchyResolver} {r : Request} {mode : CombineMode}
  {first second : List ScopeDefinition} {a b s : CombinedScope}

lemma exists_resolveScopes_append (ha : resolveScopes hierarchy first r mode = .ok a)
    (hb : resolveScopes hierarchy second r mode = .ok b) :
    ∃ s, resolveScopes hierarchy (first ++ second) r mode = .ok s := by
  have hfirst := exists_mapM_eq_ok_iff.1 (exists_resolveScopes_iff.1 ⟨a, ha⟩)
  have hsecond := exists_mapM_eq_ok_iff.1 (exists_resolveScopes_iff.1 ⟨b, hb⟩)
  rw [exists_resolveScopes_iff, exists_mapM_eq_ok_iff]
  intro x hx
  rw [declaredConditions, List.flatMap_append, List.mem_append] at hx
  exact hx.elim (hfirst x) (hsecond x)

lemma isUnion_of_resolveScopes
    (hcombinable : ∀ d ∈ first ++ second, d.combinable = true) (hmode : mode ≠ .priority)
    (ha : resolveScopes hierarchy first r mode = .ok a)
    (hb : resolveScopes hierarchy second r mode = .ok b)
    (hs : resolveScopes hierarchy (first ++ second) r mode = .ok s) : s.IsUnion a b := by
  obtain ⟨hfirst, hsecond⟩ := List.forall_mem_append.1 hcombinable
  intro f
  rw [mem_filters_iff hcombinable hmode hs, mem_filters_iff hfirst hmode ha,
    mem_filters_iff hsecond hmode hb]
  simp only [List.mem_append, or_and_right, exists_or]

/-- Combinable scopes joined by *or* show what two parts of them show that both have filters, or
both have none. Where only one part has filters, the other counts for nothing. What a part with
filters shows is not hidden by more scopes. -/
theorem resolveScopes_or_shows_union (hierarchy : Option HierarchyResolver) (r : Request)
    (first second : List ScopeDefinition) (a b : CombinedScope)
    (hcombinable : ∀ d ∈ first ++ second, d.combinable = true)
    (ha : resolveScopes hierarchy first r .or = .ok a)
    (hb : resolveScopes hierarchy second r .or = .ok b) :
    ∃ s, resolveScopes hierarchy (first ++ second) r .or = .ok s ∧
      (s.isUnrestricted = true ↔ a.isUnrestricted = true ∧ b.isUnrestricted = true) ∧
      ∀ holds : ScopeFilter → Prop,
        (a.isUnrestricted = b.isUnrestricted →
          (s.Shows holds ↔ a.Shows holds ∨ b.Shows holds)) ∧
        (a.isUnrestricted = true → b.isUnrestricted ≠ true →
          (s.Shows holds ↔ b.Shows holds)) ∧
        (b.isUnrestricted = true → a.isUnrestricted ≠ true →
          (s.Shows holds ↔ a.Shows holds)) ∧
        (a.isUnrestricted ≠ true → a.Shows holds → s.Shows holds) := by
  obtain ⟨s, hs⟩ := exists_resolveScopes_append ha hb
  have hunion := isUnion_of_resolveScopes hcombinable (by decide) ha hb hs
  exact ⟨s, hs, hunion.isUnrestricted_iff, fun holds => ⟨hunion.shows_iff, hunion.shows_iff_right,
    hunion.symm.shows_iff_right, hunion.shows_of_left⟩⟩

/-- The rows of the tenant, or those of the subject. -/
theorem tenant_or_own_shows :
    let r : Request := { tenant := { id := "t1" }, subject := { id := "u1", kind := .user } }
    ∃ s, resolveScopes none
        ([{ id := "tenant", kind := .tenant }] ++ [.ownedBySelf "own" "owner_id"]) r .or = .ok s ∧
      ∀ holds : ScopeFilter → Prop, s.Shows holds ↔
        holds (.equal "tenant_id" (.str "t1")) ∨ holds (.equal "owner_id" (.str "u1")) := by
  intro r
  have hunion := resolveScopes_or_shows_union none r [{ id := "tenant", kind := .tenant }]
    [.ownedBySelf "own" "owner_id"] ⟨.or, [.equal "tenant_id" (.str "t1")]⟩
    ⟨.or, [.equal "owner_id" (.str "u1")]⟩ (by decide) (by cbv) (by cbv)
  obtain ⟨s, hs, -, hshows⟩ := hunion
  refine ⟨s, hs, fun holds => ?_⟩
  rw [(hshows holds).1 rfl]
  simp [CombinedScope.Shows, CombinedScope.isUnrestricted]

/-- The union of all rows and the rows of one owner is not all rows: beside the scope of the owner,
the scope of all rows, which has no filter, counts for nothing. -/
theorem own_scope_hides_rows :
    ¬∀ (hierarchy : Option HierarchyResolver) (r : Request) (first second : List ScopeDefinition)
        (a b s : CombinedScope), first ≠ [] → second ≠ [] →
      (∀ d ∈ first ++ second, d.combinable = true) →
      resolveScopes hierarchy first r .or = .ok a →
      resolveScopes hierarchy second r .or = .ok b →
      resolveScopes hierarchy (first ++ second) r .or = .ok s →
      ∀ holds : ScopeFilter → Prop, s.Shows holds ↔ a.Shows holds ∨ b.Shows holds := by
  intro h
  have hall := h none { tenant := { id := "t1" }, subject := { id := "u1", kind := .user } }
    [{ id := "all", kind := .all }] [.ownedBySelf "own" "owner_id"] ⟨.or, []⟩
    ⟨.or, [.equal "owner_id" (.str "u1")]⟩ ⟨.or, [.equal "owner_id" (.str "u1")]⟩
    (List.cons_ne_nil _ _) (List.cons_ne_nil _ _) (by decide) (by cbv) (by cbv) (by cbv)
  -- The row belongs to another owner.
  have hother := (hall fun f => f = .equal "owner_id" (.str "u2")).2 (Or.inl (Or.inl rfl))
  rcases hother with hunrestricted | ⟨f, hf, hu2⟩
  · cases hunrestricted
  · rw [List.mem_singleton.1 hf] at hu2
    exact absurd hu2 (by decide)

end AccessControl
