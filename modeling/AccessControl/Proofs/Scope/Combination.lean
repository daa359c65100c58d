import AccessControl.Proofs.Sequences
import AccessControl.Scope.Combination
import Mathlib.Data.List.Permutation
/-!
# Which scopes count

How scopes are combined depends on their priorities and on whether they are combinable. If some are
not, one of these prevails: the one of the greatest priority, and of several with this priority the
first. Its filters are the result, whatever the mode is, and whatever other scopes stand beside it
that are combinable or of lower priority. If all are combinable, their filters are taken in the
order of the priorities, and in the order of the list where priorities are equal. So the order of
the list matters only for scopes with equal priorities.
-/
namespace AccessControl

namespace ResolvedScope

/-- The number by which a scope is ordered. -/
def priority (s : ResolvedScope) : Int := s.definition.priority

/-- The scope stands in the place of all others. -/
def IsExclusive (s : ResolvedScope) : Prop := s.definition.combinable = false

/-- The scope is an exclusive one of the list. Those listed before it are of lower priority, and
those after it of no higher. -/
def Prevails (s : ResolvedScope) (scopes : List ResolvedScope) : Prop :=
  ∃ before after, scopes = before ++ s :: after ∧ s.IsExclusive ∧
    (∀ t ∈ before, t.IsExclusive → t.priority < s.priority) ∧
      ∀ t ∈ after, t.IsExclusive → t.priority ≤ s.priority

/-- Beside the first scope, an exclusive one, the second does not count: it is combinable or of
lower priority. -/
def Overrules (s t : ResolvedScope) : Prop := ¬t.IsExclusive ∨ t.priority < s.priority

lemma isExclusive_iff {s : ResolvedScope} :
    (!s.definition.combinable) = true ↔ s.IsExclusive := by
  rw [Bool.not_eq_true', IsExclusive]

end ResolvedScope

/-! ### Members added and removed -/

/-- One list becomes the other when some members of a kind are removed and others added, at any
places. -/
inductive DiffersBy {α : Type} (kind : α → Prop) : List α → List α → Prop
  | nil : DiffersBy kind [] []
  | kept {xs ys : List α} (x : α) (h : DiffersBy kind xs ys) : DiffersBy kind (x :: xs) (x :: ys)
  | removed {xs ys : List α} {x : α} (hx : kind x) (h : DiffersBy kind xs ys) :
      DiffersBy kind (x :: xs) ys
  | added {xs ys : List α} {y : α} (hy : kind y) (h : DiffersBy kind xs ys) :
      DiffersBy kind xs (y :: ys)

namespace DiffersBy

variable {α : Type} {kind : α → Prop} {xs ys : List α}

lemma refl (xs : List α) : DiffersBy kind xs xs := by
  induction xs with
  | nil => exact .nil
  | cons x xs ih => exact .kept x ih

lemma mem_or (h : DiffersBy kind xs ys) {y : α} (hy : y ∈ ys) : y ∈ xs ∨ kind y := by
  induction h with
  | nil => cases hy
  | kept x _ ih =>
    rcases List.mem_cons.1 hy with rfl | hy
    · exact Or.inl List.mem_cons_self
    · exact (ih hy).imp_left (List.mem_cons_of_mem x)
  | removed _ _ ih => exact (ih hy).imp_left (List.mem_cons_of_mem _)
  | added hkind _ ih =>
    rcases List.mem_cons.1 hy with rfl | hy
    · exact Or.inr hkind
    · exact ih hy

/-- A member of another kind stays, between what the parts before and after it have become. -/
lemma exists_append_cons {before after : List α} {a : α} (ha : ¬kind a)
    (h : DiffersBy kind xs ys) (hxs : xs = before ++ a :: after) :
    ∃ before' after', ys = before' ++ a :: after' ∧ DiffersBy kind before before' ∧
      DiffersBy kind after after' := by
  induction h generalizing before with
  | nil => simp at hxs
  | @kept xs ys x h ih =>
    rcases List.cons_eq_append_iff.1 hxs with ⟨rfl, hcons⟩ | ⟨rest, rfl, hrest⟩
    · cases hcons
      exact ⟨[], ys, rfl, .nil, h⟩
    · obtain ⟨before', after', rfl, hbefore, hafter⟩ := ih hrest
      exact ⟨x :: before', after', rfl, .kept x hbefore, hafter⟩
  | @removed xs ys x hx h ih =>
    rcases List.cons_eq_append_iff.1 hxs with ⟨rfl, hcons⟩ | ⟨rest, rfl, hrest⟩
    · cases hcons
      exact absurd hx ha
    · obtain ⟨before', after', rfl, hbefore, hafter⟩ := ih hrest
      exact ⟨before', after', rfl, .removed hx hbefore, hafter⟩
  | @added xs ys y hy h ih =>
    obtain ⟨before', after', rfl, hbefore, hafter⟩ := ih hxs
    exact ⟨y :: before', after', rfl, .added hy hbefore, hafter⟩

end DiffersBy

/-! ### The order of scopes -/

variable {scopes scopes' : List ResolvedScope} {s : ResolvedScope} {mode : CombineMode}

lemma byPriority_eq (scopes : List ResolvedScope) :
    byPriority scopes = (byScore ResolvedScope.priority scopes).map Prod.fst := by
  have hfirst : byPriority (scopes.zipIdx.map Prod.fst) =
      (byScore ResolvedScope.priority scopes).map Prod.fst :=
    mergeSort_map_zipIdx ResolvedScope.priority scopes fun _ _ => rfl
  rwa [List.zipIdx_map_fst] at hfirst

/-- Scopes whose priorities all differ may be listed in any order. -/
lemma combine_of_perm (hne : scopes.Pairwise fun s t => s.priority ≠ t.priority)
    (hperm : scopes'.Perm scopes) (mode : CombineMode) :
    combine scopes' mode = combine scopes mode := by
  have hordered : byPriority scopes' = byPriority scopes := by
    rw [byPriority_eq, byPriority_eq, byScore_map_fst_of_perm _ hperm hne]
  simp only [combine, hordered]

/-! ### Exclusive scopes -/

namespace ResolvedScope

/-- Of exclusive scopes one prevails. -/
lemma exists_prevails (h : ∃ s ∈ scopes, s.IsExclusive) :
    ∃ s : ResolvedScope, s.Prevails scopes := by
  induction scopes using List.reverseRecOn with
  | nil => simp at h
  | append_singleton scopes last ih =>
    by_cases hearlier : ∃ s ∈ scopes, s.IsExclusive
    · obtain ⟨s, before, after, rfl, hs, hbefore, hafter⟩ := ih hearlier
      by_cases hlast : last.IsExclusive ∧ s.priority < last.priority
      · -- The last scope is above the one that has prevailed so far, and so above all.
        refine ⟨last, before ++ s :: after, [], by simp, hlast.1, fun t ht hexclusive => ?_, nofun⟩
        rcases List.mem_append.1 ht with ht | ht
        · exact lt_trans (hbefore t ht hexclusive) hlast.2
        · rcases List.mem_cons.1 ht with rfl | ht
          · exact hlast.2
          · exact lt_of_le_of_lt (hafter t ht hexclusive) hlast.2
      · refine ⟨s, before, after ++ [last], by simp, hs, hbefore, fun t ht hexclusive => ?_⟩
        rcases List.mem_append.1 ht with ht | ht
        · exact hafter t ht hexclusive
        · rw [List.mem_singleton.1 ht] at hexclusive ⊢
          exact not_lt.1 (not_and.1 hlast hexclusive)
    · obtain ⟨s, hs, hexclusive⟩ := h
      rcases List.mem_append.1 hs with hs | hs
      · exact absurd ⟨s, hs, hexclusive⟩ hearlier
      · rw [List.mem_singleton.1 hs] at hexclusive
        exact ⟨last, scopes, [], rfl, hexclusive, fun t ht ht' => absurd ⟨t, ht, ht'⟩ hearlier,
          nofun⟩

/-- The filters of the scope that prevails are all there is, in every mode. -/
lemma Prevails.combine_eq (h : s.Prevails scopes) (mode : CombineMode) :
    combine scopes mode = s.filters := by
  obtain ⟨before, after, rfl, hs, hbefore, hafter⟩ := h
  have hfound : (byScore priority (before ++ s :: after)).find?
      (fun x => !x.1.definition.combinable) = some (s, before.length) := by
    refine find?_eq_some_of_first (byScore_pairwise _ _) (fun a b hab hba => ?_)
      ((mem_byScore _).2 (by simp)) (isExclusive_iff.2 hs) ?_
    · omega
    · rintro ⟨t, place⟩ ht hexclusive
      replace ht := (mem_byScore _).1 ht
      have ht' : t.IsExclusive := isExclusive_iff.1 hexclusive
      -- Either it is listed earlier, or it is the scope itself, or it is listed later.
      rcases Nat.lt_trichotomy place before.length with hplace | rfl | hplace
      · rw [List.getElem?_append_left hplace] at ht
        exact Or.inr (Or.inl (hbefore t (List.mem_of_getElem? ht) ht'))
      · rw [List.getElem?_append_right le_rfl, Nat.sub_self, List.getElem?_cons_zero] at ht
        exact Or.inl (by rw [Option.some.inj ht])
      · obtain ⟨k, rfl⟩ := Nat.exists_eq_add_of_lt hplace
        rw [Nat.add_assoc, List.getElem?_append_right (Nat.le_add_right _ _),
          Nat.add_sub_cancel_left, List.getElem?_cons_succ] at ht
        rcases (hafter t (List.mem_of_getElem? ht) ht').lt_or_eq with hlt | heq
        · exact Or.inr (Or.inl hlt)
        · exact Or.inr (Or.inr ⟨heq, hplace⟩)
  have hfirst : (byPriority (before ++ s :: after)).find? (fun s => !s.definition.combinable) =
      some s := by
    rw [byPriority_eq, List.find?_map]
    exact congrArg (Option.map Prod.fst) hfound
  simp only [combine, hfirst]

/-- A scope that prevails does so whatever scopes that give way to it are added or removed. -/
lemma Prevails.of_differsBy (h : s.Prevails scopes)
    (hdiffers : DiffersBy s.Overrules scopes scopes') : s.Prevails scopes' := by
  obtain ⟨before, after, hscopes, hs, hbefore, hafter⟩ := h
  have hstays : ¬s.Overrules s := not_or.2 ⟨not_not.2 hs, lt_irrefl _⟩
  obtain ⟨before', after', rfl, hbefore', hafter'⟩ := hdiffers.exists_append_cons hstays hscopes
  refine ⟨before', after', rfl, hs, fun t ht hexclusive => ?_, fun t ht hexclusive => ?_⟩
  · rcases hbefore'.mem_or ht with ht | hcombinable | hlower
    · exact hbefore t ht hexclusive
    · exact absurd hexclusive hcombinable
    · exact hlower
  · rcases hafter'.mem_or ht with ht | hcombinable | hlower
    · exact hafter t ht hexclusive
    · exact absurd hexclusive hcombinable
    · exact le_of_lt hlower

end ResolvedScope

/-! ### Combinable scopes -/

section Combinable

variable (hcombinable : ∀ s ∈ scopes, ¬s.IsExclusive)

include hcombinable

lemma find?_exclusive_byPriority :
    (byPriority scopes).find? (fun s => !s.definition.combinable) = none := by
  rw [List.find?_eq_none]
  intro s hs hexclusive
  exact hcombinable s (List.mem_mergeSort.1 hs) (ResolvedScope.isExclusive_iff.1 hexclusive)

lemma combine_eq_flatMap (hmode : mode ≠ .priority) :
    combine scopes mode = (byPriority scopes).flatMap ResolvedScope.filters := by
  simp only [combine, find?_exclusive_byPriority hcombinable]
  cases mode with
  | and | or => rfl
  | priority => exact absurd rfl hmode

/-- No filter of a combinable scope is lost or taken twice, if scopes are not taken by priority. -/
lemma combine_of_combinable (hmode : mode ≠ .priority) :
    combine scopes mode =
      (byScore ResolvedScope.priority scopes).flatMap fun s => s.1.filters := by
  rw [combine_eq_flatMap hcombinable hmode, byPriority_eq, List.flatMap_map]

lemma combine_priority :
    combine scopes .priority =
      (((byScore ResolvedScope.priority scopes).find? fun s => !s.1.filters.isEmpty).map
        fun s => s.1.filters).getD [] := by
  simp only [combine, find?_exclusive_byPriority hcombinable]
  rw [byPriority_eq, List.find?_map, Option.map_map]
  rfl

/-- By priority the filters of the first scope that has any are taken. -/
lemma combine_priority_of_first {before after : List (ResolvedScope × Nat)}
    {s : ResolvedScope × Nat}
    (horder : byScore ResolvedScope.priority scopes = before ++ s :: after)
    (hbefore : ∀ t ∈ before, t.1.filters = []) (hs : s.1.filters ≠ []) :
    combine scopes .priority = s.1.filters := by
  have hfound : (byScore ResolvedScope.priority scopes).find? (fun s => !s.1.filters.isEmpty) =
      some s := by
    rw [List.find?_eq_some_iff_append]
    refine ⟨by simpa using hs, before, after, horder, fun t ht => ?_⟩
    simp [hbefore t ht]
  rw [combine_priority hcombinable, hfound]
  rfl

lemma combine_priority_of_forall (h : ∀ s ∈ scopes, s.filters = []) :
    combine scopes .priority = [] := by
  have hnone : (byScore ResolvedScope.priority scopes).find? (fun s => !s.1.filters.isEmpty) =
      none := by
    rw [List.find?_eq_none]
    intro s hs
    simp [h s.1 (List.mem_of_getElem? ((mem_byScore _).1 hs))]
  rw [combine_priority hcombinable, hnone]
  rfl

end Combinable

/-- Of exclusive scopes one prevails. Where one prevails, its filters are the result in every mode,
and so they are when scopes that it overrules are added or removed. Where all scopes are combinable,
the modes *and* and *or* give the filters of all of them, by descending priority and in the order of
the list where priorities are equal, and the mode *priority* gives those of the first scope in this
order that has any. Scopes whose priorities all differ may be listed in any order. -/
theorem combine_by_priority_and_exclusivity (scopes : List ResolvedScope) :
    ((∃ s ∈ scopes, s.IsExclusive) → ∃ s : ResolvedScope, s.Prevails scopes) ∧
      (∀ s : ResolvedScope, s.Prevails scopes → ∀ mode, combine scopes mode = s.filters ∧
        ∀ scopes', DiffersBy s.Overrules scopes scopes' → combine scopes' mode = s.filters) ∧
      ((∀ s ∈ scopes, ¬s.IsExclusive) →
        ∃ order, InScoreOrder ResolvedScope.priority scopes order ∧
          combine scopes .and = order.flatMap (fun s => s.1.filters) ∧
          combine scopes .or = order.flatMap (fun s => s.1.filters) ∧
          (∀ before s after, order = before ++ s :: after → (∀ t ∈ before, t.1.filters = []) →
            s.1.filters ≠ [] → combine scopes .priority = s.1.filters) ∧
          ((∀ s ∈ scopes, s.filters = []) → combine scopes .priority = [])) ∧
      ((scopes.Pairwise fun s t => s.priority ≠ t.priority) →
        ∀ scopes', scopes'.Perm scopes → ∀ mode,
          combine scopes' mode = combine scopes mode) := by
  refine ⟨ResolvedScope.exists_prevails, fun s hs mode => ⟨hs.combine_eq mode, ?_⟩, ?_, ?_⟩
  · exact fun scopes' hdiffers => (hs.of_differsBy hdiffers).combine_eq mode
  · intro hcombinable
    exact ⟨_, byScore_inScoreOrder _ scopes, combine_of_combinable hcombinable (by decide),
      combine_of_combinable hcombinable (by decide),
      fun _ _ _ horder => combine_priority_of_first hcombinable horder,
      combine_priority_of_forall hcombinable⟩
  · exact fun hne scopes' hperm => combine_of_perm hne hperm

/-- A scope with a priority and filters. -/
def customScope (priority : Int) (combinable : Bool) (filters : List ScopeFilter) :
    ResolvedScope where
  definition := { id := "custom", kind := .custom, priority, combinable }
  filters := filters

/-- An exclusive scope without filters stands in the place of one listed after it with the same
priority, and of a combinable one of higher priority. A combinable scope without filters leaves the
first place to the next scope, in whatever order the two are listed. -/
theorem exclusive_scope_without_filters_prevails :
    let everything := customScope 5 false []
    let own := customScope 5 false [.equal "owner_id" (.str "u1")]
    let team := customScope 8 true [.equal "team_id" (.str "t1")]
    let unit := customScope 9 true []
    everything.Prevails [everything, own] ∧
      DiffersBy everything.Overrules [everything, own] [team, everything, own] ∧
      combine [team, everything, own] .and = [] ∧
      ([unit, team].Pairwise fun s t => s.priority ≠ t.priority) ∧
      combine [unit, team] .priority = [.equal "team_id" (.str "t1")] ∧
      combine [team, unit] .priority = [.equal "team_id" (.str "t1")] := by
  intro everything own team unit
  have hprevails : everything.Prevails [everything, own] :=
    ⟨[], [own], rfl, rfl, nofun, fun t ht _ => by rw [List.mem_singleton.1 ht]; decide⟩
  have hteam : everything.Overrules team := Or.inl (by unfold ResolvedScope.IsExclusive; decide)
  have hdiffers : DiffersBy everything.Overrules [everything, own] [team, everything, own] :=
    .added hteam (.refl _)
  have hne : [unit, team].Pairwise fun s t => s.priority ≠ t.priority :=
    List.pairwise_pair.2 (by decide)
  have hfirst : combine [unit, team] .priority = [.equal "team_id" (.str "t1")] := by cbv
  obtain ⟨-, hexclusive, -, -⟩ := combine_by_priority_and_exclusivity [everything, own]
  obtain ⟨-, -, -, hperm⟩ := combine_by_priority_and_exclusivity [unit, team]
  have hswapped := hperm hne [team, unit] (List.Perm.swap _ _ _) .priority
  exact ⟨hprevails, hdiffers, (hexclusive everything hprevails .and).2 _ hdiffers, hne, hfirst,
    hswapped.trans hfirst⟩

end AccessControl
