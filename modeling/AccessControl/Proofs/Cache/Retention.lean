import AccessControl.Proofs.Cache.Uses
import Mathlib.Data.List.Induction
/-!
# What a bounded cache remembers

What is found under a key was last set for it, has not been removed, and has not come to its end. It
is found as long as fewer other keys have been used since the key was used than the cache has room
for: the keys of the cache stand in the order of their uses (`TimedCache.usedInOrder_run`), so that
since the last key of a full cache was used all the others have been used, and then the new one that
takes its place (`CacheCall.capacity_le_of_mem_displaced`).
-/
namespace AccessControl

variable {K V : Type} [DecidableEq K]

/-! ### What a call keeps -/

namespace CacheCall

variable {s : TimedCache K V} {call : CacheCall K V} {key : K} {e : CacheEntry V} {uses : List K}

variable (call s) in
@[simp] lemma capacity_perform : (call.perform s).cache.capacity = s.cache.capacity := by
  cases call with
  | get key => exact s.cache.capacity_getEntry key s.now
  | getEntry key => exact s.cache.capacity_getEntry key s.now
  | set key value ttl => exact s.cache.capacity_set key value ttl s.now
  | remove | removeWhere | clear | wait => rfl

variable (call s) in
@[simp] lemma defaultTtl_perform : (call.perform s).cache.defaultTtl = s.cache.defaultTtl := by
  cases call with
  | get key => exact s.cache.defaultTtl_get key s.now
  | getEntry key => exact s.cache.defaultTtl_get key s.now
  | set key value ttl => exact s.cache.defaultTtl_set key value ttl s.now
  | remove | removeWhere | clear | wait => rfl

variable (call s) in
lemma now_le_perform : s.now ≤ (call.perform s).now := by
  cases call with
  | wait d => exact Nat.le_add_right _ _
  | _ => exact Nat.le_refl _

lemma size_perform_le (hsize : s.cache.size ≤ s.cache.capacity.val) :
    (call.perform s).cache.size ≤ s.cache.capacity.val := by
  cases call with
  | get key => exact (s.cache.size_getEntry_le key s.now).trans hsize
  | getEntry key => exact (s.cache.size_getEntry_le key s.now).trans hsize
  | set key value ttl => exact s.cache.size_set_le key value ttl s.now hsize
  | remove key => exact (List.length_filter_le _ _).trans hsize
  | removeWhere test => exact (List.length_filter_le _ _).trans hsize
  | clear => exact Nat.zero_le _
  | wait d => exact hsize

variable (s) in
lemma keys_lookup (key : K) :
    (s.cache.getEntry key s.now).2.keys =
      (used? s (.get key : CacheCall K V)).toList ++ s.cache.keys.filter (· ≠ key) := by
  rw [TtlLru.keys_getEntry, used?]
  split <;> rfl

lemma of_used?_lookup {other : K} (h : used? s (.get other : CacheCall K V) = some key) :
    other = key ∧ (s.cache.getEntry other s.now).1.isSome := by
  rw [used?] at h
  split at h
  · rename_i hhit
    exact ⟨Option.some.inj h, hhit⟩
  · cases h

variable (s call) in
/-- A call puts the key that it uses in front, and brings in no other. -/
lemma keys_perform :
    ∃ rest, rest.Sublist s.cache.keys ∧ (∀ key ∈ call.used? s, key ∉ rest) ∧
      (call.perform s).cache.keys = (call.used? s).toList ++ rest := by
  have hlookup : ∀ key, ∀ k ∈ used? s (.get key : CacheCall K V),
      k ∉ s.cache.keys.filter (· ≠ key) := by
    intro key k hk
    obtain ⟨rfl, -⟩ := of_used?_lookup hk
    simp
  have hunused : ∀ (rest : List K), ∀ k ∈ (none : Option K), k ∉ rest := by
    intro rest k hk
    cases hk
  cases call with
  | get key => exact ⟨_, List.filter_sublist, hlookup key, keys_lookup s key⟩
  | getEntry key => exact ⟨_, List.filter_sublist, hlookup key, keys_lookup s key⟩
  | set key value ttl =>
    have hkeys := s.cache.keys_set key value ttl s.now
    split at hkeys
    · rename_i hover
      have habsent := (s.cache.find?_eq_none_iff key).1 hover.1
      refine ⟨_, List.take_sublist _ _, fun k hk => ?_, hkeys⟩
      obtain rfl : key = k := Option.some.inj hk
      exact fun hmem => habsent (List.mem_of_mem_take hmem)
    · refine ⟨_, List.filter_sublist, fun k hk => ?_, hkeys⟩
      obtain rfl : key = k := Option.some.inj hk
      simp
  | remove key => exact ⟨_, List.filter_sublist, hunused _, s.cache.keys_remove key⟩
  | removeWhere test => exact ⟨_, List.filter_sublist, hunused _, s.cache.keys_removeWhere test⟩
  | clear => exact ⟨[], List.nil_sublist _, hunused _, rfl⟩
  | wait d => exact ⟨s.cache.keys, List.Sublist.refl _, hunused _, rfl⟩

lemma usedInOrder_perform (h : UsedInOrder uses s.cache.keys) :
    UsedInOrder (uses ++ (call.used? s).toList) (call.perform s).cache.keys := by
  obtain ⟨rest, hrest, hused, hkeys⟩ := keys_perform s call
  rw [hkeys]
  cases hkey : call.used? s with
  | none =>
    have hkept : UsedInOrder uses rest := h.sublist hrest
    simpa using hkept
  | some key => exact h.front hrest (hused key hkey)

/-- What is found under a key after a call has just been set, or was found before. -/
lemma find?_perform_eq_some (h : (call.perform s).cache.find? key = some e) :
    (∃ value ttl, call = .set key value ttl ∧
        e = .ofValue value s.now (ttl.getD s.cache.defaultTtl)) ∨
      (s.cache.find? key = some e ∧ ¬call.Sets key ∧ ¬call.Removes key) := by
  cases call with
  | get other => exact Or.inr ⟨TtlLru.find?_get_eq_some h, not_false, not_false⟩
  | getEntry other => exact Or.inr ⟨TtlLru.find?_get_eq_some h, not_false, not_false⟩
  | set other value ttl =>
    rcases TtlLru.find?_set_eq_some h with ⟨rfl, he⟩ | ⟨hne, he⟩
    · exact Or.inl ⟨value, ttl, rfl, he⟩
    · exact Or.inr ⟨he, hne.symm, not_false⟩
  | remove other =>
    have hfound : (s.cache.remove other).2.find? key = some e := h
    rw [TtlLru.find?_remove] at hfound
    split at hfound
    · cases hfound
    · rename_i hne
      exact Or.inr ⟨hfound, not_false, fun heq => hne heq.symm⟩
  | removeWhere test =>
    have hfound : (s.cache.removeWhere test).2.find? key = some e := h
    rw [TtlLru.find?_removeWhere] at hfound
    split at hfound
    · cases hfound
    · rename_i htest
      exact Or.inr ⟨hfound, not_false, htest⟩
  | clear => cases h
  | wait d => exact Or.inr ⟨h, not_false, not_false⟩

/-- An entry is lost when it counts no longer, when it is set anew, when it is removed, or to make
room. -/
lemma find?_perform_of_kept (hfound : s.cache.find? key = some e) (hnow : s.now ≤ e.expiresAt)
    (hsets : ¬call.Sets key) (hremoves : ¬call.Removes key) (hdisplaced : key ∉ call.displaced s) :
    (call.perform s).cache.find? key = some e := by
  have hlookup : ∀ other, (s.cache.getEntry other s.now).2.find? key = some e := by
    intro other
    rw [TtlLru.find?_getEntry]
    split
    · rename_i heq
      have hcounts : e.isExpired s.now = false := by simpa [CacheEntry.isExpired] using hnow
      rw [← heq, hfound, Option.filter_some, hcounts]
      rfl
    · exact hfound
  cases call with
  | get other => exact hlookup other
  | getEntry other => exact hlookup other
  | set other value ttl =>
    have hne : key ≠ other := fun heq => hsets heq.symm
    rcases s.cache.find?_set_of_ne hne value ttl s.now with hsame | hnone
    · exact hsame.trans hfound
    · have hgone := (TtlLru.find?_eq_none_iff _ key).1 hnone
      have hmem := TtlLru.mem_keys_of_find? hfound
      exact absurd (List.mem_filter.2 ⟨hmem, by simpa using hgone⟩) hdisplaced
  | remove other =>
    have hne : key ≠ other := fun heq => hremoves heq.symm
    exact (s.cache.find?_remove other key).trans ((if_neg hne).trans hfound)
  | removeWhere test =>
    exact (s.cache.find?_removeWhere test key).trans ((if_neg hremoves).trans hfound)
  | clear => exact absurd trivial hremoves
  | wait d => exact hfound

/-- A key that is used without being set has an entry. -/
lemma exists_find?_of_used (hused : call.used? s = some key) (hsets : ¬call.Sets key) :
    ∃ e, s.cache.find? key = some e := by
  have hlookup : ∀ other, used? s (.get other : CacheCall K V) = some key →
      ∃ e, s.cache.find? key = some e := by
    intro other h
    obtain ⟨rfl, hhit⟩ := of_used?_lookup h
    exact TtlLru.exists_find?_of_getEntry hhit
  cases call with
  | get other => exact hlookup other hused
  | getEntry other => exact hlookup other hused
  | set other value ttl => exact absurd (Option.some.inj hused) hsets
  | remove | removeWhere | clear | wait => cases hused

/-- When a key is lost to make room, as many others have been used since as there is room for: those
that stand before it, and the one that takes its place. -/
lemma capacity_le_of_mem_displaced (horder : UsedInOrder uses s.cache.keys)
    (h : key ∈ call.displaced s) :
    s.cache.capacity.val ≤ (keysSince key (uses ++ (call.used? s).toList)).length := by
  cases call with
  | set other value ttl =>
    obtain ⟨hmem, hlost⟩ := List.mem_filter.1 h
    have hgone : key ∉ (s.cache.set other value ttl s.now).keys := by simpa using hlost
    rw [TtlLru.keys_set, List.mem_cons, not_or] at hgone
    obtain ⟨hne, hgone⟩ := hgone
    split at hgone
    · -- The keys that stay are all used since the one that goes, and there is room for one more.
      rename_i hover
      have habsent := (s.cache.find?_eq_none_iff other).1 hover.1
      have hlength : s.cache.capacity.val ≤ s.cache.keys.length :=
        s.cache.size_eq_length_keys ▸ hover.2
      have hsplit := List.take_append_drop (s.cache.capacity.val - 1) s.cache.keys
      have hback : key ∈ s.cache.keys.drop (s.cache.capacity.val - 1) := by
        rw [← hsplit] at hmem
        exact (List.mem_append.1 hmem).resolve_left hgone
      have hnew : other ∉ s.cache.keys.take (s.cache.capacity.val - 1) :=
        fun hother => habsent (List.mem_of_mem_take hother)
      have hlt := UsedInOrder.length_lt (hsplit.symm ▸ horder) hback hnew (Ne.symm hne)
      rw [List.length_take] at hlt
      show _ ≤ (keysSince key (uses ++ [other])).length
      omega
    · exact absurd (List.mem_filter.2 ⟨hmem, by simpa using hne⟩) hgone
  | _ => cases h

lemma hits_add_misses_perform :
    (call.perform s).cache.hits + (call.perform s).cache.misses =
      s.cache.hits + s.cache.misses + if call.isLookup then 1 else 0 := by
  cases call with
  | get key => exact s.cache.hits_add_misses_getEntry key s.now
  | getEntry key => exact s.cache.hits_add_misses_getEntry key s.now
  | set key value ttl => exact s.cache.hits_add_misses_set key value ttl s.now
  | remove | removeWhere | clear | wait => rfl

lemma evictions_perform (hnodup : s.cache.keys.Nodup)
    (hsize : s.cache.size ≤ s.cache.capacity.val) :
    (call.perform s).cache.evictions = s.cache.evictions + (call.displaced s).length := by
  cases call with
  | get key => exact s.cache.evictions_getEntry key s.now
  | getEntry key => exact s.cache.evictions_getEntry key s.now
  | set key value ttl => exact s.cache.evictions_set key value ttl s.now hnodup hsize
  | remove | removeWhere | clear | wait => rfl

lemma length_displaced (hnodup : s.cache.keys.Nodup) (hsize : s.cache.size ≤ s.cache.capacity.val) :
    (call.displaced s).length = if call.Overflows s then 1 else 0 := by
  cases call with
  | set key value ttl => exact s.cache.length_lost_set key value ttl s.now hnodup hsize
  | get | getEntry | remove | removeWhere | clear | wait => rfl

end CacheCall

/-! ### What is left after any calls -/

namespace TimedCache

variable {s : TimedCache K V} {calls : List (CacheCall K V)} {key : K} {value : V}
  {ending : Duration} {e : CacheEntry V}

variable (s calls) in
@[simp] lemma capacity_run : (s.run calls).cache.capacity = s.cache.capacity := by
  induction calls using List.reverseRecOn with
  | nil => rfl
  | append_singleton calls call ih => rw [run_concat, CacheCall.capacity_perform, ih]

variable (s calls) in
@[simp] lemma defaultTtl_run : (s.run calls).cache.defaultTtl = s.cache.defaultTtl := by
  induction calls using List.reverseRecOn with
  | nil => rfl
  | append_singleton calls call ih => rw [run_concat, CacheCall.defaultTtl_perform, ih]

variable (s calls) in
lemma hits_add_misses_run :
    (s.run calls).cache.hits + (s.run calls).cache.misses =
      s.cache.hits + s.cache.misses + calls.countP CacheCall.isLookup := by
  induction calls using List.reverseRecOn with
  | nil => rfl
  | append_singleton calls call ih =>
    rw [run_concat, CacheCall.hits_add_misses_perform, ih, List.countP_append,
      List.countP_singleton, Nat.add_assoc]

lemma exists_run_of_mem_trace {x : TimedCache K V × CacheCall K V} (h : x ∈ s.trace calls) :
    ∃ before, x.1 = s.run before := by
  induction calls using List.reverseRecOn with
  | nil => cases h
  | append_singleton calls call ih =>
    rw [trace_concat] at h
    rcases List.mem_append.1 h with h | h
    · exact ih h
    · rw [List.mem_singleton.1 h]
      exact ⟨calls, rfl⟩

section FromEmpty

variable (hempty : s.cache.entries = [])
include hempty

variable (calls) in
lemma size_run_le : (s.run calls).cache.size ≤ (s.run calls).cache.capacity.val := by
  induction calls using List.reverseRecOn with
  | nil =>
    rw [run, List.foldl_nil, TtlLru.size, hempty]
    exact Nat.zero_le _
  | append_singleton calls call ih =>
    rw [run_concat, CacheCall.capacity_perform]
    exact CacheCall.size_perform_le ih

variable (calls) in
lemma usedInOrder_run : UsedInOrder (s.uses calls) (s.run calls).cache.keys := by
  induction calls using List.reverseRecOn with
  | nil =>
    rw [run, List.foldl_nil, TtlLru.keys, hempty]
    exact List.Pairwise.nil
  | append_singleton calls call ih =>
    rw [run_concat, uses_concat]
    exact CacheCall.usedInOrder_perform ih

variable (calls) in
lemma nodup_keys_run : (s.run calls).cache.keys.Nodup := (usedInOrder_run calls hempty).nodup

/-- An entry that is found was last set for its key. -/
lemma lastSet_of_find? (h : (s.run calls).cache.find? key = some e) :
    s.LastSet calls key e.value e.expiresAt := by
  induction calls using List.reverseRecOn generalizing e with
  | nil =>
    rw [run, List.foldl_nil, TtlLru.find?, hempty] at h
    cases h
  | append_singleton calls call ih =>
    rw [run_concat] at h
    rw [lastSet_concat]
    rcases CacheCall.find?_perform_eq_some h with ⟨value, ttl, rfl, rfl⟩ | ⟨hfound, hkept⟩
    · refine Or.inl ⟨ttl, rfl, ?_⟩
      rw [CacheEntry.ofValue, defaultTtl_run]
    · exact Or.inr ⟨ih hfound, hkept⟩

/-- The value that was last set for a key is found until its end, unless as many other keys as there
is room for have been used since. -/
lemma find?_of_lastSet (hset : s.LastSet calls key value ending)
    (hnow : (s.run calls).now ≤ ending)
    (hfew : (keysSince key (s.uses calls)).length < s.cache.capacity.val) :
    ∃ e, (s.run calls).cache.find? key = some e ∧ e.value = value ∧ e.expiresAt = ending := by
  -- What is found is the value, so that something is found is enough.
  suffices hsome : ∃ e, (s.run calls).cache.find? key = some e by
    obtain ⟨e, he⟩ := hsome
    exact ⟨e, he, (lastSet_of_find? hempty he).unique hset⟩
  induction calls using List.reverseRecOn with
  | nil =>
    obtain ⟨before, found, ttl, after, htrace, -⟩ := hset
    simp [trace] at htrace
  | append_singleton calls call ih =>
    rw [run_concat] at hnow ⊢
    rw [uses_concat] at hfew
    rcases lastSet_concat.1 hset with ⟨ttl, rfl, -⟩ | ⟨hbefore, hsets, hremoves⟩
    · exact ⟨_, (s.run calls).cache.find?_set_self key value ttl (s.run calls).now⟩
    · have hnow' : (s.run calls).now ≤ ending := (call.now_le_perform _).trans hnow
      -- A look-up that uses the key finds it. Any other use makes the keys used since no fewer, so
      -- that there were few before as well.
      have hfound : ∃ e, (s.run calls).cache.find? key = some e := by
        by_cases hused : call.used? (s.run calls) = some key
        · exact CacheCall.exists_find?_of_used hused hsets
        · refine ih hbefore hnow' (lt_of_le_of_lt ?_ hfew)
          cases hother : call.used? (s.run calls) with
          | none => simp
          | some other =>
            refine length_keysSince_le fun heq => hused ?_
            rw [hother, heq]
      obtain ⟨e, he⟩ := hfound
      obtain ⟨-, hending⟩ := (lastSet_of_find? hempty he).unique hbefore
      refine ⟨e, CacheCall.find?_perform_of_kept he (hending ▸ hnow') hsets hremoves ?_⟩
      intro hdisplaced
      have hmany := CacheCall.capacity_le_of_mem_displaced (usedInOrder_run calls hempty) hdisplaced
      rw [capacity_run] at hmany
      omega

variable (calls) in
lemma evictions_run :
    (s.run calls).cache.evictions =
      s.cache.evictions + ((s.trace calls).flatMap fun x => x.2.displaced x.1).length := by
  induction calls using List.reverseRecOn with
  | nil => rfl
  | append_singleton calls call ih =>
    have hnodup := nodup_keys_run calls hempty
    have hsize := size_run_le calls hempty
    rw [run_concat, CacheCall.evictions_perform hnodup hsize, ih, trace_concat,
      List.flatMap_append, List.length_append, List.flatMap_singleton, Nat.add_assoc]

lemma length_displaced_of_mem_trace {x : TimedCache K V × CacheCall K V}
    (h : x ∈ s.trace calls) :
    (x.2.displaced x.1).length = if x.2.Overflows x.1 then 1 else 0 := by
  obtain ⟨before, hbefore⟩ := exists_run_of_mem_trace h
  rw [hbefore]
  exact CacheCall.length_displaced (nodup_keys_run before hempty) (size_run_le before hempty)

end FromEmpty

/-- A cache that was without entries at first finds under a key nothing but the value that was last
set for it, if that still counts and has not been removed, and finds it as long as fewer other keys
have been used since the key was than there is room for. There are never more entries than there is
room for, each look-up is a hit or a miss, and the evictions are the entries that were lost when
another key was set: one for each key that was set without having an entry while there was no room,
and none else. -/
theorem get_eq_last_set_while_recent (capacity : Capacity) (defaultTtl now : Duration)
    (calls : List (CacheCall K V)) :
    let start : TimedCache K V := empty capacity defaultTtl now
    let s := start.run calls
    (∀ key value, (s.cache.get key s.now).1 = some value →
        ∃ ending, start.LastSet calls key value ending ∧ s.now ≤ ending) ∧
      (∀ key value ending, start.LastSet calls key value ending → s.now ≤ ending →
        (keysSince key (start.uses calls)).length < capacity.val →
          (s.cache.get key s.now).1 = some value) ∧
      s.cache.stats.size ≤ capacity.val ∧
      s.cache.stats.hits + s.cache.stats.misses = calls.countP CacheCall.isLookup ∧
      s.cache.stats.evictions = ((start.trace calls).flatMap fun x => x.2.displaced x.1).length ∧
      ∀ x ∈ start.trace calls,
        (x.2.displaced x.1).length = if x.2.Overflows x.1 then 1 else 0 := by
  intro start s
  have hempty : start.cache.entries = [] := rfl
  have hsize : s.cache.size ≤ capacity.val := by
    have hle := size_run_le calls hempty
    rwa [capacity_run] at hle
  have hlookups := hits_add_misses_run start calls
  rw [show start.cache.hits + start.cache.misses = 0 from rfl, Nat.zero_add] at hlookups
  have hevictions := evictions_run calls hempty
  rw [show start.cache.evictions = 0 from rfl, Nat.zero_add] at hevictions
  refine ⟨?_, ?_, hsize, hlookups, hevictions, fun x hx => length_displaced_of_mem_trace hempty hx⟩
  · intro key value hget
    obtain ⟨e, he, hnow, rfl⟩ := TtlLru.value?_eq_some_iff.1 hget
    exact ⟨e.expiresAt, lastSet_of_find? hempty he, hnow⟩
  · intro key value ending hset hnow hfew
    obtain ⟨e, he, hvalue, rfl⟩ := find?_of_lastSet hempty hset hnow hfew
    exact TtlLru.value?_eq_some_iff.2 ⟨e, he, hnow, hvalue⟩

/-- A cache with room for two. -/
def twoPlaces : TimedCache String Nat := empty ⟨2, by decide⟩ (Duration.ofSeconds 10) 0

/-- Three keys are set. The first is used again before the third comes, at whose set the value of
the second has come to its end. -/
def threeSets : List (CacheCall String Nat) :=
  [.set "a" 1 none, .set "b" 2 (some (Duration.ofSeconds 3)), .get "a",
    .wait (Duration.ofSeconds 5), .set "c" 3 none]

theorem twoPlaces_threeSets :
    let s := twoPlaces.run threeSets
    twoPlaces.LastSet threeSets "a" 1 (Duration.ofSeconds 10) ∧
      twoPlaces.uses threeSets = ["a", "b", "a", "c"] ∧
      (s.cache.get "a" s.now).1 = some 1 ∧ s.cache.keys = ["c", "a"] ∧
      s.cache.stats.evictions = 1 := by
  intro s
  have hset : twoPlaces.LastSet threeSets "a" 1 (Duration.ofSeconds 10) := by
    refine ⟨[], twoPlaces, none, _, rfl, ?_, rfl⟩
    simp [trace, CacheCall.Sets, CacheCall.Removes]
  have huses : twoPlaces.uses threeSets = ["a", "b", "a", "c"] := rfl
  have hfew : (keysSince "a" (twoPlaces.uses threeSets)).length < 2 := by
    rw [huses]
    decide
  have hnow : s.now ≤ Duration.ofSeconds 10 := by decide
  obtain ⟨-, hfound, -, -, hevictions, -⟩ :=
    get_eq_last_set_while_recent ⟨2, by decide⟩ (Duration.ofSeconds 10) 0
      threeSets
  have hlost : ((twoPlaces.trace threeSets).flatMap fun x => x.2.displaced x.1) = ["b"] := rfl
  refine ⟨hset, huses, hfound "a" 1 _ hset hnow hfew, rfl, hevictions.trans ?_⟩
  exact congrArg List.length hlost

end TimedCache

end AccessControl
