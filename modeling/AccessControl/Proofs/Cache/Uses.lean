import AccessControl.Proofs.Cache.Recency
import AccessControl.Proofs.Sequences
import Mathlib.Data.List.Dedup
import Mathlib.Data.List.TakeWhile
import Mathlib.Data.List.Perm.Subperm
/-!
# The uses of a bounded cache

A cache is in use: keys are looked up, set and removed, and time passes. A set of a key is a use of
it, and so is a look-up that finds a value. On record is what every call found
(`TimedCache.trace`), and with it which keys were used, one after the other (`TimedCache.uses`), and
what was last set for each key (`TimedCache.LastSet`).

The keys that have been used since a key was are counted once each (`keysSince`). A list of keys is
in the order of their uses if each has been used since every key that stands after it
(`UsedInOrder`); it stays so when the key that is used next goes to the front.
-/
namespace AccessControl

variable {K V : Type} [DecidableEq K]

/-! ### Keys used since the last use of a key -/

/-- Of the keys in the order of their uses, those that come after the last use of a key, each
once. -/
def keysSince (key : K) (uses : List K) : List K := (uses.reverse.takeWhile (· ≠ key)).dedup

/-- Each of the keys has been used since the last use of every key that stands after it. -/
def UsedInOrder (uses keys : List K) : Prop := keys.Pairwise fun a b => a ∈ keysSince b uses

section KeysSince

variable {key other used : K} {uses keys rest : List K}

lemma keysSince_nodup : (keysSince key uses).Nodup := List.nodup_dedup _

lemma ne_of_mem_keysSince (h : other ∈ keysSince key uses) : other ≠ key := by
  have hmem : other ∈ uses.reverse.takeWhile (· ≠ key) := List.mem_dedup.1 h
  simpa using List.mem_takeWhile_imp hmem

lemma mem_keysSince_concat (hne : used ≠ key) :
    other ∈ keysSince key (uses ++ [used]) ↔ other = used ∨ other ∈ keysSince key uses := by
  simp [keysSince, hne]

/-- The use of another key makes the keys used since no fewer. -/
lemma length_keysSince_le (hne : used ≠ key) :
    (keysSince key uses).length ≤ (keysSince key (uses ++ [used])).length := by
  have hsubset : keysSince key uses ⊆ keysSince key (uses ++ [used]) := by
    intro k hk
    exact (mem_keysSince_concat hne).2 (Or.inr hk)
  exact (keysSince_nodup.subperm hsubset).length_le

lemma UsedInOrder.nodup (h : UsedInOrder uses keys) : keys.Nodup :=
  h.imp ne_of_mem_keysSince

/-- A key that is used goes before all others. -/
lemma UsedInOrder.front (h : UsedInOrder uses keys) (hrest : rest.Sublist keys)
    (hkey : key ∉ rest) : UsedInOrder (uses ++ [key]) (key :: rest) := by
  have hne : ∀ k ∈ rest, key ≠ k := fun k hk heq => hkey (heq ▸ hk)
  refine List.pairwise_cons.2 ⟨fun k hk => ?_, ?_⟩
  · exact (mem_keysSince_concat (hne k hk)).2 (Or.inl rfl)
  · refine (h.sublist hrest).imp_of_mem fun {a b} _ hb hab => ?_
    exact (mem_keysSince_concat (hne b hb)).2 (Or.inr hab)

/-- When one more key is used, then it and all keys that stand before some key have been used since
that key was. -/
lemma UsedInOrder.length_lt {front back : List K} (h : UsedInOrder uses (front ++ back))
    (hkey : key ∈ back) (hnew : used ∉ front) (hne : used ≠ key) :
    front.length < (keysSince key (uses ++ [used])).length := by
  obtain ⟨hfront, -, hbefore⟩ := List.pairwise_append.1 h
  have hnodup : (used :: front).Nodup := List.nodup_cons.2 ⟨hnew, UsedInOrder.nodup hfront⟩
  have hsubset : used :: front ⊆ keysSince key (uses ++ [used]) := by
    intro k hk
    rw [mem_keysSince_concat hne]
    rcases List.mem_cons.1 hk with rfl | hk
    · exact Or.inl rfl
    · exact Or.inr (hbefore k hk key hkey)
  exact (hnodup.subperm hsubset).length_le

end KeysSince

/-! ### A cache in use -/

/-- Something that is done with a cache, or time that passes. -/
inductive CacheCall (K V : Type) where
  | get (key : K)
  | getEntry (key : K)
  | set (key : K) (value : V) (ttl : Option Duration)
  | remove (key : K)
  | removeWhere (test : K → Bool)
  | clear
  | wait (d : Duration)

/-- A cache at some instant. -/
structure TimedCache (K V : Type) where
  cache : TtlLru K V
  now : Duration

namespace CacheCall

/-- What the call makes of a cache. -/
def perform : CacheCall K V → TimedCache K V → TimedCache K V
  | get key, s => { s with cache := (s.cache.get key s.now).2 }
  | getEntry key, s => { s with cache := (s.cache.getEntry key s.now).2 }
  | set key value ttl, s => { s with cache := s.cache.set key value ttl s.now }
  | remove key, s => { s with cache := (s.cache.remove key).2 }
  | removeWhere test, s => { s with cache := (s.cache.removeWhere test).2 }
  | clear, s => { s with cache := s.cache.clear }
  | wait d, s => { s with now := s.now + d }

/-- Whether the call looks a key up. -/
def isLookup : CacheCall K V → Bool
  | get _ | getEntry _ => true
  | _ => false

/-- The key that the call uses: one that is set, or is looked up with success. -/
def used? (s : TimedCache K V) : CacheCall K V → Option K
  | get key | getEntry key => if (s.cache.getEntry key s.now).1.isSome then some key else none
  | set key _ _ => some key
  | _ => none

/-- The call sets the key. -/
def Sets (key : K) : CacheCall K V → Prop
  | set other _ _ => other = key
  | _ => False

/-- The call removes the entry of the key, if there is one. -/
def Removes (key : K) : CacheCall K V → Prop
  | remove other => other = key
  | removeWhere test => test key = true
  | clear => True
  | _ => False

/-- The keys whose entries are lost when another key is set. -/
def displaced (s : TimedCache K V) : CacheCall K V → List K
  | set key value ttl => s.cache.keys.filter (· ∉ (s.cache.set key value ttl s.now).keys)
  | _ => []

/-- The call sets a key that has no entry while there is no room for another one. -/
def Overflows (s : TimedCache K V) : CacheCall K V → Prop
  | set key _ _ => s.cache.find? key = none ∧ s.cache.size = s.cache.capacity.val
  | _ => False

end CacheCall

instance (s : TimedCache K V) : (call : CacheCall K V) → Decidable (call.Overflows s)
  | .set key _ _ =>
    inferInstanceAs (Decidable (s.cache.find? key = none ∧ s.cache.size = s.cache.capacity.val))
  | .get _ | .getEntry _ | .remove _ | .removeWhere _ | .clear | .wait _ =>
    inferInstanceAs (Decidable False)

namespace TimedCache

/-- A cache without entries. -/
def empty (capacity : Capacity) (defaultTtl now : Duration) : TimedCache K V where
  cache := { capacity, defaultTtl }
  now := now

/-- The cache after some calls. -/
def run (s : TimedCache K V) (calls : List (CacheCall K V)) : TimedCache K V :=
  calls.foldl (fun s call => call.perform s) s

/-- The calls, each with the cache that it found. -/
def trace (s : TimedCache K V) : List (CacheCall K V) → List (TimedCache K V × CacheCall K V)
  | [] => []
  | call :: calls => (s, call) :: (call.perform s).trace calls

/-- The keys that the calls used, one after the other. -/
def uses (s : TimedCache K V) (calls : List (CacheCall K V)) : List K :=
  (s.trace calls).filterMap fun x => x.2.used? x.1

/-- The last set of the key gave it the value, which then counted up to the instant, and the key has
not been removed since. -/
def LastSet (s : TimedCache K V) (calls : List (CacheCall K V)) (key : K) (value : V)
    (ending : Duration) : Prop :=
  ∃ before found ttl after,
    s.trace calls = before ++ (found, .set key value ttl) :: after ∧
      (∀ later ∈ after, ¬later.2.Sets key ∧ ¬later.2.Removes key) ∧
        ending = found.now + min (ttl.getD s.cache.defaultTtl) maxTtl

variable {s : TimedCache K V} {calls : List (CacheCall K V)} {call : CacheCall K V} {key : K}
  {value : V} {ending : Duration}

/-! ### One more call -/

@[simp] lemma run_concat : s.run (calls ++ [call]) = call.perform (s.run calls) := by
  rw [run, List.foldl_append]
  rfl

lemma trace_concat : s.trace (calls ++ [call]) = s.trace calls ++ [(s.run calls, call)] := by
  induction calls generalizing s with
  | nil => rfl
  | cons first calls ih => rw [List.cons_append, trace, ih, trace]; rfl

lemma uses_concat :
    s.uses (calls ++ [call]) = s.uses calls ++ (call.used? (s.run calls)).toList := by
  rw [uses, trace_concat, List.filterMap_append, ← uses]
  cases hused : call.used? (s.run calls) <;> simp [hused]

lemma lastSet_concat :
    s.LastSet (calls ++ [call]) key value ending ↔
      (∃ ttl, call = .set key value ttl ∧
          ending = (s.run calls).now + min (ttl.getD s.cache.defaultTtl) maxTtl) ∨
        (s.LastSet calls key value ending ∧ ¬call.Sets key ∧ ¬call.Removes key) := by
  constructor
  · rintro ⟨before, found, ttl, after, htrace, hafter, hending⟩
    rw [trace_concat] at htrace
    rcases concat_eq_append_cons.1 htrace with ⟨-, hlast, -⟩ | ⟨rest, rfl, hrest⟩
    · obtain ⟨rfl, rfl⟩ := Prod.mk.inj hlast
      exact Or.inl ⟨ttl, rfl, hending⟩
    · have hcall := hafter (s.run calls, call) (by simp)
      refine Or.inr ⟨⟨before, found, ttl, rest, hrest, fun later hlater => ?_, hending⟩, hcall⟩
      exact hafter later (List.mem_append_left _ hlater)
  · rintro (⟨ttl, rfl, hending⟩ | ⟨⟨before, found, ttl, after, htrace, hafter, hending⟩, hcall⟩)
    · exact ⟨s.trace calls, s.run calls, ttl, [], trace_concat, by simp, hending⟩
    · refine ⟨before, found, ttl, after ++ [(s.run calls, call)], ?_, ?_, hending⟩
      · rw [trace_concat, htrace, List.append_assoc, List.cons_append]
      · intro later hlater
        rcases List.mem_append.1 hlater with hlater | hlater
        · exact hafter later hlater
        · rw [List.mem_singleton.1 hlater]
          exact hcall

/-- There is one last set. -/
lemma LastSet.unique {value' : V} {ending' : Duration} (h : s.LastSet calls key value ending)
    (h' : s.LastSet calls key value' ending') : value = value' ∧ ending = ending' := by
  induction calls using List.reverseRecOn with
  | nil =>
    obtain ⟨before, found, ttl, after, htrace, -⟩ := h
    simp [trace] at htrace
  | append_singleton calls call ih =>
    rcases lastSet_concat.1 h with ⟨ttl, rfl, rfl⟩ | ⟨hbefore, hsets, -⟩
    · rcases lastSet_concat.1 h' with ⟨ttl', hcall, rfl⟩ | ⟨-, hsets, -⟩
      · cases hcall
        exact ⟨rfl, rfl⟩
      · exact absurd rfl hsets
    · rcases lastSet_concat.1 h' with ⟨ttl', rfl, -⟩ | ⟨hbefore', -⟩
      · exact absurd rfl hsets
      · exact ih hbefore hbefore'

end TimedCache

end AccessControl
