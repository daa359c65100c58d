import AccessControl.Proofs.Scope.Key
/-!
# Filters without repetitions

Since the key of a filter stands for its field, its operator and its value together, taking filters
with one key together loses none: what is left are the filters that are equal to none before them,
in their order. Whether filters contradict each other is a question about which filters there are,
not about how often, so it has the same answer for what is left.
-/
namespace AccessControl

namespace ScopeFilter

variable {f g : ScopeFilter} {fs : List ScopeFilter}

/-- The filters that are equal to none before them, in the order of the list. -/
def firstOccurrences (fs : List ScopeFilter) : List ScopeFilter :=
  (fs.zipIdx.filter fun place => place.1 ∉ fs.take place.2).map Prod.fst

/-- The key stands for the three parts of a filter together. -/
lemma key_eq_iff :
    f.key = g.key ↔ f.field = g.field ∧ f.operator = g.operator ∧ f.value = g.value := by
  constructor
  · intro h
    obtain rfl : f = g := key_inj h
    exact ⟨rfl, rfl, rfl⟩
  · rintro ⟨hfield, hoperator, hvalue⟩
    rw [key, key, hfield, hoperator, hvalue]

/-- The first filter is left, and of what is left of the rest what is equal to it is removed. -/
lemma deduplicate_cons : deduplicate (f :: fs) = f :: (deduplicate fs).filter (· ≠ f) := by
  have hkey : ∀ g : ScopeFilter, decide (g.key ≠ f.key) = decide (g ≠ f) := by
    intro g
    have hiff : g.key = f.key ↔ g = f := ⟨key_inj, congrArg key⟩
    simp only [ne_eq, hiff]
  rw [deduplicate]
  simp only [hkey]

/-! ### One more filter at the end -/

lemma deduplicate_concat :
    deduplicate (fs ++ [f]) = if f ∈ fs then deduplicate fs else deduplicate fs ++ [f] := by
  induction fs with
  | nil => rfl
  | cons g fs ih =>
    rw [List.cons_append, deduplicate_cons, deduplicate_cons, ih]
    by_cases hfs : f ∈ fs
    · simp [hfs]
    · by_cases hfg : f = g
      · subst hfg
        simp [hfs]
      · simp [hfs, hfg]

lemma firstOccurrences_concat :
    firstOccurrences (fs ++ [f]) =
      if f ∈ fs then firstOccurrences fs else firstOccurrences fs ++ [f] := by
  have hbefore : ∀ place ∈ fs.zipIdx, (fs ++ [f]).take place.2 = fs.take place.2 := by
    intro place hplace
    have hlt : place.2 < fs.length := by
      have hget := List.mem_zipIdx_iff_getElem?.1 hplace
      exact (List.getElem?_eq_some_iff.1 hget).1
    exact List.take_append_of_le_length (Nat.le_of_lt hlt)
  have hsame : (fs.zipIdx.filter fun place => place.1 ∉ (fs ++ [f]).take place.2) =
      fs.zipIdx.filter fun place => place.1 ∉ fs.take place.2 := by
    refine List.filter_congr fun place hplace => ?_
    rw [hbefore place hplace]
  have hzip : (fs ++ [f]).zipIdx = fs.zipIdx ++ [(f, fs.length)] := by
    simp [List.zipIdx_append]
  rw [firstOccurrences, hzip, List.filter_append, hsame, List.map_append]
  by_cases hf : f ∈ fs
  · simp [firstOccurrences, hf]
  · simp [firstOccurrences, hf]

lemma deduplicate_eq_firstOccurrences (fs : List ScopeFilter) :
    deduplicate fs = firstOccurrences fs := by
  induction fs using List.reverseRecOn with
  | nil => rfl
  | append_singleton fs f ih => rw [deduplicate_concat, firstOccurrences_concat, ih]

/-! ### What is left -/

lemma deduplicate_nodup (fs : List ScopeFilter) : (deduplicate fs).Nodup := by
  induction fs with
  | nil => exact List.nodup_nil
  | cons f fs ih =>
    rw [deduplicate_cons, List.nodup_cons]
    exact ⟨by simp, ih.filter _⟩

/-- Where no filter is repeated all are left. -/
lemma deduplicate_of_nodup (h : fs.Nodup) : deduplicate fs = fs := by
  induction fs with
  | nil => rfl
  | cons f fs ih =>
    obtain ⟨hf, hfs⟩ := List.nodup_cons.1 h
    rw [deduplicate_cons, ih hfs, List.filter_eq_self.2]
    intro g hg
    simpa using ne_of_mem_of_not_mem hg hf

/-- Filters contradict each other when one field is to be equal to a value and different from it. -/
lemma hasConflict_iff :
    hasConflict fs = true ↔
      ∃ f ∈ fs, ∃ g ∈ fs, f.operator = .equal ∧ g.operator = .unequal ∧
        g.field = f.field ∧ g.value = f.value := by
  simp only [hasConflict, List.any_eq_true, Bool.and_eq_true, decide_eq_true_eq, and_assoc]
  constructor
  · rintro ⟨f, hf, hequal, g, hg, hrest⟩
    exact ⟨f, hf, g, hg, hequal, hrest⟩
  · rintro ⟨f, hf, g, hg, hequal, hrest⟩
    exact ⟨f, hf, hequal, g, hg, hrest⟩

lemma hasConflict_deduplicate (fs : List ScopeFilter) :
    hasConflict (deduplicate fs) = hasConflict fs := by
  rw [← Bool.coe_iff_coe, hasConflict_iff, hasConflict_iff]
  simp only [mem_deduplicate]

/-- Two filters have one key exactly when they have the same field, operator and value, whatever
characters the field and the value hold. So removing filters by their keys leaves the first of all
that are equal, in the order of the list; doing it again changes nothing; and whether the filters
contradict each other is not changed by it. -/
theorem keys_identify_filters :
    (∀ f g : ScopeFilter, f.key = g.key ↔
        f.field = g.field ∧ f.operator = g.operator ∧ f.value = g.value) ∧
      ∀ fs : List ScopeFilter,
        deduplicate fs = firstOccurrences fs ∧
          deduplicate (deduplicate fs) = deduplicate fs ∧
            hasConflict (deduplicate fs) = hasConflict fs := by
  refine ⟨fun f g => key_eq_iff, fun fs => ⟨deduplicate_eq_firstOccurrences fs, ?_, ?_⟩⟩
  · exact deduplicate_of_nodup (deduplicate_nodup fs)
  · exact hasConflict_deduplicate fs

/-- A field may hold what looks like the rest of a key. -/
example : deduplicate [equal "a|eq|1" (.int 2), equal "a" (.int 1), equal "a|eq|1" (.int 2)] =
    [equal "a|eq|1" (.int 2), equal "a" (.int 1)] := by decide

end ScopeFilter

end AccessControl
