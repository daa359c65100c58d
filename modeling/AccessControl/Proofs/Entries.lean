import AccessControl.Entries
import AccessControl.Proofs.Sequences
/-!
# What is found among entries

Entries in key order hold a value under a key exactly when a look-up finds it. Entries that are put
in one after the other are in key order, and of the values put in under a key the last one is found.
-/
namespace AccessControl

namespace Entries

variable {β : Type} {entries : Entries β} {key other : String} {value : β}

lemma lt_of_not_lt {x y : String} (hlt : ¬x < y) (hne : x ≠ y) : y < x := by
  rcases String.le_total x y with h | h
  · exact absurd (String.le_antisymm h (String.not_lt.1 hlt)) hne
  · exact Decidable.byContradiction fun hn => hne (String.le_antisymm (String.not_lt.1 hn) h)

lemma get?_cons (entry : String × β) (rest : Entries β) :
    get? (entry :: rest) key = if key = entry.1 then some entry.2 else get? rest key := by
  rw [get?, List.lookup_cons]
  by_cases h : key = entry.1
  · simp [h]
  · simp [h, beq_eq_false_iff_ne.2 h, get?]

lemma get?_insert (key other : String) (value : β) (entries : Entries β) :
    (insert key value entries).get? other =
      if other = key then some value else entries.get? other := by
  by_cases h : other = key
  · rw [h, if_pos rfl, get?_insert_self]
  · rw [if_neg h, get?_insert_of_ne h]

lemma get?_erase (key other : String) (entries : Entries β) :
    (erase key entries).get? other = if other = key then none else entries.get? other := by
  induction entries with
  | nil => simp [erase, get?]
  | cons entry rest ih =>
    rw [erase] at ih ⊢
    by_cases hentry : entry.1 = key
    · rw [List.filter_cons_of_neg (by simp [hentry]), ih, get?_cons, hentry]
      by_cases h : other = key <;> simp [h]
    · rw [List.filter_cons_of_pos (by simp [hentry]), get?_cons, get?_cons, ih]
      by_cases h : other = key
      · simp [h, Ne.symm hentry]
      · simp [h]

/-! ### Key order -/

lemma mem_insert {entry : String × β} (h : entry ∈ insert key value entries) :
    entry = (key, value) ∨ entry ∈ entries := by
  induction entries with
  | nil => exact Or.inl (List.mem_singleton.1 h)
  | cons first rest ih =>
    simp only [insert] at h
    split at h
    · exact List.mem_cons.1 h
    · split at h
      · exact (List.mem_cons.1 h).imp_right fun h => List.mem_cons_of_mem _ h
      · rcases List.mem_cons.1 h with rfl | h
        · exact Or.inr List.mem_cons_self
        · exact (ih h).imp_right fun h => List.mem_cons_of_mem _ h

lemma Sorted.insert (h : Sorted entries) (key : String) (value : β) :
    Sorted (insert key value entries) := by
  induction entries with
  | nil => exact List.pairwise_singleton _ _
  | cons first rest ih =>
    obtain ⟨hfirst, hrest⟩ := List.pairwise_cons.1 h
    simp only [Entries.insert]
    split
    · rename_i hlt
      refine List.pairwise_cons.2 ⟨fun entry hentry => ?_, h⟩
      rcases List.mem_cons.1 hentry with rfl | hentry
      · exact hlt
      · exact String.lt_trans hlt (hfirst entry hentry)
    · split
      · rename_i heq
        subst heq
        exact List.pairwise_cons.2 ⟨hfirst, hrest⟩
      · rename_i hlt hne
        refine List.pairwise_cons.2 ⟨fun entry hentry => ?_, ih hrest⟩
        rcases mem_insert hentry with rfl | hentry
        · exact lt_of_not_lt hlt hne
        · exact hfirst entry hentry

lemma Sorted.mem_iff (h : Sorted entries) :
    (key, value) ∈ entries ↔ entries.get? key = some value := by
  induction entries with
  | nil => simp [get?]
  | cons first rest ih =>
    obtain ⟨hfirst, hrest⟩ := List.pairwise_cons.1 h
    rw [List.mem_cons, ih hrest, get?_cons]
    by_cases hkey : key = first.1
    · -- The first key is not among the others, which are greater.
      have hnone : Entries.get? rest key = none := by
        refine get?_eq_none fun hmem => ?_
        obtain ⟨entry, hentry, heq⟩ := List.mem_map.1 hmem
        have hlt := hfirst entry hentry
        rw [heq, hkey] at hlt
        exact String.lt_irrefl _ hlt
      rw [if_pos hkey, hnone]
      obtain ⟨k, v⟩ := first
      subst hkey
      simp [eq_comm]
    · rw [if_neg hkey]
      refine or_iff_right fun heq => hkey ?_
      rw [← heq]

/-! ### Entries put in one after the other -/

lemma ofList_concat (pairs : List (String × β)) (pair : String × β) :
    ofList (pairs ++ [pair]) = insert pair.1 pair.2 (ofList pairs) := by
  simp [ofList]

lemma ofList_sorted (pairs : List (String × β)) : Sorted (ofList pairs) := by
  induction pairs using List.reverseRecOn with
  | nil => exact List.Pairwise.nil
  | append_singleton pairs pair ih =>
    rw [ofList_concat]
    exact ih.insert pair.1 pair.2

/-- Under a key the last value is found that was put in under it. -/
lemma get?_ofList (pairs : List (String × β)) (key : String) :
    (ofList pairs).get? key = lastValue key pairs := by
  induction pairs using List.reverseRecOn with
  | nil => rfl
  | append_singleton pairs pair ih => rw [ofList_concat, get?_insert, lastValue_concat, ih]

end Entries

end AccessControl
