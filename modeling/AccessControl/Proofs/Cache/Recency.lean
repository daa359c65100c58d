import AccessControl.Proofs.Cache.TtlLru
import Mathlib.Data.List.Basic
import Mathlib.Data.List.Nodup
/-!
# The order of the keys of a bounded cache

The keys of a cache stand in one list, and every operation moves a key to its front or takes keys
out of it. Only setting a key that has no entry can take out another: when the cache is full the
last key of the list goes (`TtlLru.length_lost_set`). The number of entries does not pass the
capacity if it did not before.
-/
namespace AccessControl

namespace TtlLru

variable {K V : Type} [DecidableEq K]

/-- The keys that have entries, the one used last first. -/
def keys (c : TtlLru K V) : List K := c.entries.map Prod.fst

variable (c : TtlLru K V) (key : K) (value : V) (ttl : Option Duration) (now : Duration)

omit [DecidableEq K] in
lemma size_eq_length_keys : c.size = c.keys.length := by
  rw [size, keys, List.length_map]

lemma find?_eq_none_iff : c.find? key = none ↔ key ∉ c.keys := by
  rw [find?, List.lookup_eq_none_iff, keys, List.mem_map]
  constructor
  · rintro h ⟨entry, hentry, rfl⟩
    simpa using h entry hentry
  · intro h entry hentry
    have hne : entry.1 ≠ key := fun heq => h ⟨entry, hentry, heq⟩
    simpa using hne.symm

variable {c key} in
lemma mem_keys_of_find? {e : CacheEntry V} (h : c.find? key = some e) : key ∈ c.keys := by
  by_contra hnot
  rw [(c.find?_eq_none_iff key).2 hnot] at h
  cases h

variable {c key now} in
/-- What a look-up finds has an entry. -/
lemma exists_find?_of_getEntry (h : (c.getEntry key now).1.isSome) : ∃ e, c.find? key = some e := by
  rw [getEntry_fst] at h
  obtain ⟨e, he⟩ := Option.isSome_iff_exists.1 h
  exact ⟨e, (Option.filter_eq_some_iff.1 he).1⟩

lemma map_fst_without (entries : List (K × CacheEntry V)) :
    (without key entries).map Prod.fst = (entries.map Prod.fst).filter (· ≠ key) := by
  rw [without, List.filter_map]
  rfl

/-- Where a key has no entry, the entries under other keys are all there are. -/
lemma filter_keys_of_find?_eq_none (h : c.find? key = none) :
    c.keys.filter (· ≠ key) = c.keys := by
  rw [find?_eq_none_iff] at h
  rw [List.filter_eq_self]
  intro k hk
  have hne : k ≠ key := fun heq => h (heq ▸ hk)
  simpa using hne

/-! ### The keys after an operation -/

/-- A look-up moves a key to the front, or removes it. -/
lemma keys_getEntry :
    (c.getEntry key now).2.keys =
      if (c.getEntry key now).1.isSome then key :: c.keys.filter (· ≠ key)
      else c.keys.filter (· ≠ key) := by
  unfold getEntry
  cases hfound : c.find? key with
  | none => simpa [keys] using (c.filter_keys_of_find?_eq_none key hfound).symm
  | some e =>
    have hothers := map_fst_without key c.entries
    cases hexp : e.isExpired now <;> simp [keys, hexp, hothers]

/-- Setting a key puts it in front. It takes the place of the last one if there is no room. -/
lemma keys_set :
    (c.set key value ttl now).keys =
      key :: if c.find? key = none ∧ c.capacity.val ≤ c.size then
          c.keys.take (c.capacity.val - 1)
        else c.keys.filter (· ≠ key) := by
  unfold set
  dsimp only
  cases hfound : c.find? key with
  | some e => simp [keys, map_fst_without]
  | none =>
    have hothers := c.filter_keys_of_find?_eq_none key hfound
    by_cases hroom : c.entries.length < c.capacity.val
    · have hnot : ¬c.capacity.val ≤ c.size := Nat.not_le.2 hroom
      rw [hothers]
      simp [keys, hroom, hnot]
    · have hfull : c.capacity.val ≤ c.size := Nat.le_of_not_lt hroom
      simp [keys, hroom, hfull, List.map_take]

lemma keys_remove : (c.remove key).2.keys = c.keys.filter (· ≠ key) :=
  map_fst_without key c.entries

omit [DecidableEq K] in
lemma keys_removeWhere (test : K → Bool) :
    (c.removeWhere test).2.keys = c.keys.filter fun k => !test k := by
  rw [keys, removeWhere, keys, List.filter_map]
  rfl

/-! ### The number of entries -/

variable {c key} in
/-- A key that has an entry is one more than the others. -/
lemma length_others_lt (h : key ∈ c.keys) : (c.keys.filter (· ≠ key)).length < c.keys.length :=
  List.length_filter_lt_length_iff_exists.2 ⟨key, h, by simp⟩

lemma size_getEntry_le : (c.getEntry key now).2.size ≤ c.size := by
  rw [size_eq_length_keys, size_eq_length_keys, keys_getEntry]
  split
  · rename_i hhit
    obtain ⟨e, he⟩ := exists_find?_of_getEntry hhit
    rw [List.length_cons]
    exact length_others_lt (mem_keys_of_find? he)
  · exact List.length_filter_le _ _

lemma size_set_le (hsize : c.size ≤ c.capacity.val) :
    (c.set key value ttl now).size ≤ c.capacity.val := by
  have hpos : 0 < c.capacity.val := c.capacity.property
  have hothers : (c.keys.filter (· ≠ key)).length ≤ c.keys.length := List.length_filter_le _ _
  rw [size_eq_length_keys, keys_set, List.length_cons]
  split
  · rw [List.length_take]
    omega
  · rename_i hroom
    rw [size_eq_length_keys] at hroom hsize
    by_cases hmem : key ∈ c.keys
    · have hlt := length_others_lt hmem
      omega
    · have habsent := (c.find?_eq_none_iff key).2 hmem
      have hlt : ¬c.capacity.val ≤ c.keys.length := fun hle => hroom ⟨habsent, hle⟩
      omega

omit ttl now value c in
/-- Without a front part and a new member, the back part of a list is left. -/
lemma filter_not_mem_front {front back : List K} (hnodup : (front ++ back).Nodup)
    (hkey : key ∉ front ++ back) : (front ++ back).filter (· ∉ key :: front) = back := by
  obtain ⟨-, -, hdisjoint⟩ := List.nodup_append.1 hnodup
  have hfront : front.filter (· ∉ key :: front) = [] := by
    rw [List.filter_eq_nil_iff]
    intro k hk
    simp [hk]
  have hback : back.filter (· ∉ key :: front) = back := by
    rw [List.filter_eq_self]
    intro k hk
    have hne : k ≠ key := fun heq => hkey (heq ▸ List.mem_append_right _ hk)
    have hnot : k ∉ front := fun hmem => hdisjoint k hmem k hk rfl
    simp [hne, hnot]
  rw [List.filter_append, hfront, hback, List.nil_append]

/-- Setting a key takes away the entry of one other key if the key has none and the cache is full,
and takes nothing away otherwise. -/
lemma length_lost_set (hnodup : c.keys.Nodup) (hsize : c.size ≤ c.capacity.val) :
    (c.keys.filter (· ∉ (c.set key value ttl now).keys)).length =
      if c.find? key = none ∧ c.size = c.capacity.val then 1 else 0 := by
  have hpos : 0 < c.capacity.val := c.capacity.property
  have hfull : c.size = c.capacity.val ↔ c.capacity.val ≤ c.size := by omega
  rw [keys_set]
  simp only [hfull]
  split
  · rename_i hover
    obtain ⟨habsent, hle⟩ := hover
    rw [find?_eq_none_iff] at habsent
    rw [size_eq_length_keys] at hle hsize
    have hsplit := List.take_append_drop (c.capacity.val - 1) c.keys
    have hlost : c.keys.filter (· ∉ key :: c.keys.take (c.capacity.val - 1)) =
        c.keys.drop (c.capacity.val - 1) := by
      have hparts := filter_not_mem_front key (hsplit.symm ▸ hnodup) (hsplit.symm ▸ habsent)
      rwa [hsplit] at hparts
    rw [hlost, List.length_drop]
    omega
  · have hkept : c.keys.filter (· ∉ key :: c.keys.filter (· ≠ key)) = [] := by
      rw [List.filter_eq_nil_iff]
      intro k hk
      by_cases hkey : k = key
      · simp [hkey]
      · simp [hkey, hk]
    rw [hkept, List.length_nil]

/-! ### What is counted -/

@[simp] lemma capacity_getEntry : (c.getEntry key now).2.capacity = c.capacity := by
  unfold getEntry
  split
  · rfl
  · split <;> rfl

@[simp] lemma capacity_set : (c.set key value ttl now).capacity = c.capacity := by
  unfold set
  dsimp only
  split
  · rfl
  · split <;> rfl

lemma hits_add_misses_getEntry :
    (c.getEntry key now).2.hits + (c.getEntry key now).2.misses = c.hits + c.misses + 1 := by
  unfold getEntry
  split
  · exact (Nat.add_assoc _ _ _).symm
  · split
    · exact (Nat.add_assoc _ _ _).symm
    · exact Nat.add_right_comm _ _ _

lemma evictions_getEntry : (c.getEntry key now).2.evictions = c.evictions := by
  unfold getEntry
  split
  · rfl
  · split <;> rfl

lemma hits_add_misses_set :
    (c.set key value ttl now).hits + (c.set key value ttl now).misses = c.hits + c.misses := by
  unfold set
  dsimp only
  split
  · rfl
  · split <;> rfl

/-- Every entry that is taken away to make room is counted, and nothing else. -/
lemma evictions_set (hnodup : c.keys.Nodup) (hsize : c.size ≤ c.capacity.val) :
    (c.set key value ttl now).evictions =
      c.evictions + (c.keys.filter (· ∉ (c.set key value ttl now).keys)).length := by
  rw [c.length_lost_set key value ttl now hnodup hsize]
  unfold set
  dsimp only
  cases hfound : c.find? key with
  | some e => simp
  | none =>
    by_cases hroom : c.entries.length < c.capacity.val
    · have hne : c.size ≠ c.capacity.val := Nat.ne_of_lt hroom
      simp [hroom, hne]
    · have heq : c.size = c.capacity.val := Nat.le_antisymm hsize (Nat.le_of_not_lt hroom)
      simp [hroom, heq]

end TtlLru

end AccessControl
