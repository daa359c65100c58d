import AccessControl.Cache.TtlLru
import Mathlib.Tactic.Lemma
/-!
# What a bounded cache holds

What can be found under a key after an operation, in terms of what could be found before. Looking a
key up loses at most an entry that counts no longer; setting a key may lose the entry of one other
key, and leaves the rest as they were; removing keys leaves no entry of theirs, and the others
alone. All this holds of any list of entries.
-/
namespace AccessControl

namespace TtlLru

variable {K V : Type} [DecidableEq K] {key other : K}

/-- The value that a look-up of the key would give. -/
def value? (c : TtlLru K V) (key : K) (now : Duration) : Option V := (c.get key now).1

/-! ### Entries under other keys -/

lemma lookup_without_self (entries : List (K × CacheEntry V)) :
    (without key entries).lookup key = none := by
  rw [List.lookup_eq_none_iff]
  intro entry hentry
  have hne : entry.1 ≠ key := by simpa using (List.mem_filter.1 hentry).2
  simpa using hne.symm

lemma lookup_without_of_ne (hne : other ≠ key) (entries : List (K × CacheEntry V)) :
    (without key entries).lookup other = entries.lookup other := by
  induction entries with
  | nil => rfl
  | cons entry rest ih =>
    obtain ⟨k, e⟩ := entry
    by_cases hk : k = key
    · subst hk
      have hbeq : (other == k) = false := by simpa using hne
      simpa [without, List.lookup_cons, hbeq] using ih
    · simp only [without, ne_eq, decide_not] at ih
      simp [without, hk, List.lookup_cons, ih]

/-- What is found among the first entries is found among all. -/
lemma lookup_take (n : Nat) (entries : List (K × CacheEntry V)) :
    (entries.take n).lookup key = entries.lookup key ∨ (entries.take n).lookup key = none := by
  cases htake : (entries.take n).lookup key with
  | none => exact Or.inr rfl
  | some e =>
    left
    rw [← List.take_append_drop n entries, List.lookup_append, htake, Option.some_or]

/-! ### Looking a key up -/

lemma getEntry_fst (c : TtlLru K V) (key : K) (now : Duration) :
    (c.getEntry key now).1 = (c.find? key).filter fun e => !e.isExpired now := by
  unfold getEntry
  cases c.find? key with
  | none => rfl
  | some e => cases h : e.isExpired now <;> simp [h, Option.filter_some]

lemma value?_eq (c : TtlLru K V) (key : K) (now : Duration) :
    c.value? key now =
      ((c.find? key).filter fun e => !e.isExpired now).map CacheEntry.value := by
  rw [value?, get, ← getEntry_fst]

/-- A look-up gives the value of an entry that still counts. -/
lemma value?_eq_some_iff {c : TtlLru K V} {now : Duration} {v : V} :
    c.value? key now = some v ↔
      ∃ e, c.find? key = some e ∧ now ≤ e.expiresAt ∧ e.value = v := by
  rw [value?_eq, Option.map_eq_some_iff]
  simp only [Option.filter_eq_some_iff, CacheEntry.isExpired, Bool.not_eq_true',
    decide_eq_false_iff_not, Nat.not_lt, and_assoc]

/-- A look-up gives up the entry of its key when that counts no longer, and no other entry. -/
lemma find?_getEntry (c : TtlLru K V) (key other : K) (now : Duration) :
    (c.getEntry key now).2.find? other =
      if other = key then (c.find? key).filter fun e => !e.isExpired now else c.find? other := by
  unfold getEntry
  cases hfound : c.find? key with
  | none =>
    by_cases h : other = key
    · subst h
      simpa [find?] using hfound
    · simp [find?, h]
  | some e =>
    by_cases h : other = key
    · subst h
      cases hexp : e.isExpired now <;>
        simp [find?, hexp, lookup_without_self, Option.filter_some]
    · have hbeq : (other == key) = false := by simpa using h
      cases hexp : e.isExpired now <;>
        simp [find?, h, hexp, List.lookup_cons, hbeq, lookup_without_of_ne h]

/-- After a look-up, any look-up at the same instant finds what it would have found before. -/
lemma value?_get (c : TtlLru K V) (key other : K) (now : Duration) :
    (c.get key now).2.value? other now = c.value? other now := by
  rw [value?_eq, value?_eq]
  show (((c.getEntry key now).2.find? other).filter _).map _ = _
  rw [find?_getEntry]
  by_cases h : other = key
  · rw [if_pos h, h, Option.filter_filter]
    simp
  · rw [if_neg h]

/-- What is there after a look-up was there before it. -/
lemma find?_get_eq_some {c : TtlLru K V} {now : Duration} {e : CacheEntry V}
    (h : (c.get key now).2.find? other = some e) : c.find? other = some e := by
  have hfound : (c.getEntry key now).2.find? other = some e := h
  rw [find?_getEntry] at hfound
  split at hfound
  · rename_i hother
    rw [hother]
    exact (Option.filter_eq_some_iff.1 hfound).1
  · exact hfound

@[simp] lemma defaultTtl_get (c : TtlLru K V) (key : K) (now : Duration) :
    (c.get key now).2.defaultTtl = c.defaultTtl := by
  show (c.getEntry key now).2.defaultTtl = c.defaultTtl
  unfold getEntry
  split
  · rfl
  · split <;> rfl

/-! ### Setting a key -/

@[simp] lemma defaultTtl_set (c : TtlLru K V) (key : K) (v : V) (ttl : Option Duration)
    (now : Duration) : (c.set key v ttl now).defaultTtl = c.defaultTtl := by
  unfold set
  dsimp only
  split
  · rfl
  · split <;> rfl

lemma find?_set_self (c : TtlLru K V) (key : K) (v : V) (ttl : Option Duration) (now : Duration) :
    (c.set key v ttl now).find? key =
      some (CacheEntry.ofValue v now (ttl.getD c.defaultTtl)) := by
  unfold set
  dsimp only
  split
  · simp [find?]
  · split <;> simp [find?]

lemma find?_set_of_ne (c : TtlLru K V) (hne : other ≠ key) (v : V) (ttl : Option Duration)
    (now : Duration) :
    (c.set key v ttl now).find? other = c.find? other ∨
      (c.set key v ttl now).find? other = none := by
  have hbeq : (other == key) = false := by simpa using hne
  unfold set
  dsimp only
  split
  · left
    simp [find?, List.lookup_cons, hbeq, lookup_without_of_ne hne]
  · split
    · left
      simp [find?, List.lookup_cons, hbeq]
    · simpa [find?, List.lookup_cons, hbeq] using lookup_take _ c.entries

/-- What is there after a key was set is its new entry, or was there before under another key. -/
lemma find?_set_eq_some {c : TtlLru K V} {v : V} {ttl : Option Duration} {now : Duration}
    {e : CacheEntry V} (h : (c.set key v ttl now).find? other = some e) :
    (other = key ∧ e = .ofValue v now (ttl.getD c.defaultTtl)) ∨
      (other ≠ key ∧ c.find? other = some e) := by
  by_cases hother : other = key
  · subst hother
    rw [find?_set_self] at h
    exact Or.inl ⟨rfl, (Option.some.inj h).symm⟩
  · rcases c.find?_set_of_ne hother v ttl now with hsame | hnone
    · exact Or.inr ⟨hother, hsame.symm.trans h⟩
    · cases hnone.symm.trans h

/-- A value that has just been set counts. -/
lemma value?_set_self (c : TtlLru K V) (key : K) (v : V) (ttl : Option Duration)
    (now : Duration) : (c.set key v ttl now).value? key now = some v := by
  rw [value?_eq, find?_set_self]
  simp [CacheEntry.ofValue, CacheEntry.isExpired, Option.filter_some]

lemma value?_set_of_ne (c : TtlLru K V) (hne : other ≠ key) (v : V) (ttl : Option Duration)
    (now : Duration) :
    (c.set key v ttl now).value? other now = c.value? other now ∨
      (c.set key v ttl now).value? other now = none := by
  rw [value?_eq, value?_eq]
  rcases c.find?_set_of_ne hne v ttl now with h | h
  · exact Or.inl (by rw [h])
  · exact Or.inr (by rw [h]; rfl)

/-! ### Removing keys -/

@[simp] lemma defaultTtl_remove (c : TtlLru K V) (key : K) :
    (c.remove key).2.defaultTtl = c.defaultTtl := rfl

lemma find?_remove (c : TtlLru K V) (key other : K) :
    (c.remove key).2.find? other = if other = key then none else c.find? other := by
  by_cases hother : other = key
  · subst hother
    rw [if_pos rfl]
    exact lookup_without_self c.entries
  · rw [if_neg hother]
    exact lookup_without_of_ne hother c.entries

lemma find?_removeWhere (c : TtlLru K V) (test : K → Bool) (key : K) :
    (c.removeWhere test).2.find? key = if test key then none else c.find? key := by
  obtain ⟨capacity, defaultTtl, entries, hits, misses, evictions⟩ := c
  simp only [removeWhere, find?]
  induction entries with
  | nil => simp
  | cons entry rest ih =>
    by_cases htest : test entry.1 = true
    · rw [List.filter_cons_of_neg (by simp [htest]), ih, List.lookup_cons]
      by_cases hkey : key = entry.1
      · rw [hkey, if_pos htest, if_pos htest]
      · rw [beq_eq_false_iff_ne.2 hkey]
    · rw [List.filter_cons_of_pos (by simp [htest]), List.lookup_cons, List.lookup_cons, ih]
      by_cases hkey : key = entry.1
      · simp [hkey, htest]
      · rw [beq_eq_false_iff_ne.2 hkey]

end TtlLru

end AccessControl
