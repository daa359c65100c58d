import AccessControl.Cache.FaultyStore
import AccessControl.Cache.RefreshAhead
import AccessControl.Cache.WriteThrough
import AccessControl.Proofs.Cache.TtlLru
import AccessControl.Proofs.Entries
import Mathlib.Logic.Function.Basic
/-!
# How fresh the answers of a reading cache are

Two kinds of cache read their store where they hold no value that counts: one that writes through,
and one that also refreshes ahead of expiry. Values are set and looked up through such a cache,
tasks of the second kind run at any time, time passes, entries are evicted, and others write to the
store. Calls of the store may fail or crash.

On record is what the store held at every moment, and who had just written to it. What is cached
under a key was in the store at some moment of the record, has an end that counts from that moment,
and has not been set through the cache since (`ReadingCourse.Fresh`). A value enters the cache in
two ways only: it has just been written, or it has just been read.
-/
namespace AccessControl

variable {σ K V : Type} [DecidableEq K]

/-- The calls of the store tell and change what it holds, which `content` finds in its state. A
read tells it and leaves it as it is; a write puts its value there, or is not done and leaves it as
it is. Any call may fail or crash. -/
structure BackingStore.Keeps (store : BackingStore σ K V) (content : σ → K → Option V) : Prop where
  load_answer : ∀ key s answer, (store.load key s).1 = .done answer → answer = content s key
  load_content : ∀ key s, content (store.load key s).2 = content s
  write_done : ∀ key value s, (store.write key value s).1 = .done () →
    content (store.write key value s).2 = Function.update (content s) key (some value)
  write_not_done : ∀ key value s, (store.write key value s).1 ≠ .done () →
    content (store.write key value s).2 = content s

/-! ### The two kinds of cache -/

/-- A cache that reads its store where it holds no value that counts. -/
inductive ReadingCache (σ K V : Type) where
  | through (w : WriteThrough σ K V)
  | ahead (r : RefreshAhead σ K V)

namespace ReadingCache

/-- What is cached. -/
def cache : ReadingCache σ K V → TtlLru K V
  | through w => w.cache
  | ahead r => r.cache

/-- The state of the store. -/
def backing : ReadingCache σ K V → σ
  | through w => w.backing
  | ahead r => r.backing

/-- The value of a key. -/
def get (store : BackingStore σ K V) (key : K) (now : Duration) :
    ReadingCache σ K V → Reply (Option V) × ReadingCache σ K V
  | through w => Prod.map id through (w.get store key now)
  | ahead r => Prod.map id ahead (r.get store key now)

/-- Set the value of a key. -/
def set (store : BackingStore σ K V) (key : K) (value : V) (now : Duration) :
    ReadingCache σ K V → Reply Unit × ReadingCache σ K V
  | through w => Prod.map id through (w.set store key value now)
  | ahead r => Prod.map id ahead (r.set store key value now)

/-- Run the task of a key; a cache that only writes through has none. -/
def runTask (store : BackingStore σ K V) (key : K) (now : Duration) :
    ReadingCache σ K V → ReadingCache σ K V
  | through w => through w
  | ahead r => ahead (r.runTask store key now)

/-- Evict the entries of all keys for which the test holds. -/
def evict (test : K → Bool) : ReadingCache σ K V → ReadingCache σ K V
  | through w => through { w with cache := (w.cache.removeWhere test).2 }
  | ahead r => ahead { r with cache := (r.cache.removeWhere test).2 }

/-- The store has come to another state. -/
def withBacking (backing : σ) : ReadingCache σ K V → ReadingCache σ K V
  | through w => through { w with backing }
  | ahead r => ahead { r with backing }

variable {store : BackingStore σ K V} {content : σ → K → Option V} {c : ReadingCache σ K V}
  {key other : K} {value : V} {now : Duration} {entry : CacheEntry V}

/-- The entry is of a value that the store tells of now. -/
def Loads (c : ReadingCache σ K V) (store : BackingStore σ K V) (key : K) (now : Duration)
    (entry : CacheEntry V) : Prop :=
  ∃ value, (store.load key c.backing).1 = .done (some value) ∧
    entry = .ofValue value now c.cache.defaultTtl

/-- A look-up answers with a value that is cached and counts, and leaves the store alone; or else it
asks the store and caches the value that it is told. -/
lemma get_cases (c : ReadingCache σ K V) (store : BackingStore σ K V) (key : K) (now : Duration) :
    (∃ value, c.cache.value? key now = some value ∧
        (c.get store key now).1 = .done (some value) ∧
        (c.get store key now).2.backing = c.backing ∧
        (c.get store key now).2.cache = (c.cache.get key now).2) ∨
      ((c.get store key now).1 = (store.load key c.backing).1 ∧
        (c.get store key now).2.backing = (store.load key c.backing).2 ∧
        ((c.get store key now).2.cache = (c.cache.get key now).2 ∨
          ∃ value, (store.load key c.backing).1 = .done (some value) ∧
            (c.get store key now).2.cache = (c.cache.get key now).2.set key value none now)) := by
  cases c with
  | through w =>
    simp only [get, Prod.map, id, WriteThrough.get, WriteThrough.load, cache, backing,
      TtlLru.value?]
    rcases w.cache.get key now with ⟨_ | value, cache'⟩
    · right
      rcases store.load key w.backing with ⟨(_ | value) | fault | _, s⟩ <;> simp
    · exact Or.inl ⟨value, rfl, rfl, rfl, rfl⟩
  | ahead r =>
    simp only [get, Prod.map, id, RefreshAhead.get, cache, backing, TtlLru.value?, TtlLru.get]
    rcases r.cache.getEntry key now with ⟨_ | entry, cache'⟩
    · right
      rcases store.load key r.backing with ⟨(_ | value) | fault | _, s⟩ <;> simp
    · -- A task may be put down, which touches neither the entries nor the store.
      refine Or.inl ⟨entry.value, rfl, rfl, ?_⟩
      dsimp only
      split
      · unfold RefreshAhead.schedule
        split <;> exact ⟨rfl, rfl⟩
      · exact ⟨rfl, rfl⟩

/-- Setting a key asks the store to write, and caches the value when that is done. -/
lemma set_cases (c : ReadingCache σ K V) (store : BackingStore σ K V) (key : K) (value : V)
    (now : Duration) :
    (c.set store key value now).1 = (store.write key value c.backing).1 ∧
      (c.set store key value now).2.backing = (store.write key value c.backing).2 ∧
      (((store.write key value c.backing).1 = .done () ∧
          (c.set store key value now).2.cache = c.cache.set key value none now) ∨
        ((store.write key value c.backing).1 ≠ .done () ∧
          (c.set store key value now).2.cache = c.cache)) := by
  cases c with
  | through w =>
    simp only [set, Prod.map, id, WriteThrough.set, cache, backing]
    rcases store.write key value w.backing with ⟨⟨⟩ | fault | _, s⟩ <;> simp
  | ahead r =>
    simp only [set, Prod.map, id, RefreshAhead.set, cache, backing]
    rcases store.write key value r.backing with ⟨⟨⟩ | fault | _, s⟩ <;> simp

/-- A task reads its key from the store, and the entry of the key becomes that of a value that is
read, or is removed, or stays. A cache without tasks stays as it is. -/
lemma runTask_cases (c : ReadingCache σ K V) (store : BackingStore σ K V) (key : K)
    (now : Duration) :
    c.runTask store key now = c ∨
      ((c.runTask store key now).backing = (store.load key c.backing).2 ∧
        ((c.runTask store key now).cache = c.cache ∨
          (c.runTask store key now).cache = (c.cache.remove key).2 ∨
          ∃ value, (store.load key c.backing).1 = .done (some value) ∧
            (c.runTask store key now).cache = c.cache.set key value none now)) := by
  cases c with
  | through w => exact Or.inl rfl
  | ahead r =>
    right
    show (r.refresh store key now).backing = (store.load key r.backing).2 ∧
      ((r.refresh store key now).cache = r.cache ∨
        (r.refresh store key now).cache = (r.cache.remove key).2 ∨
        ∃ value, (store.load key r.backing).1 = .done (some value) ∧
          (r.refresh store key now).cache = r.cache.set key value none now)
    by_cases hdone : ∃ answer, (store.load key r.backing).1 = .done answer
    · obtain ⟨_ | value, hload⟩ := hdone
      · rw [RefreshAhead.refresh_of_missing hload]
        exact ⟨rfl, Or.inr (Or.inl rfl)⟩
      · rw [RefreshAhead.refresh_of_value hload]
        exact ⟨rfl, Or.inr (Or.inr ⟨value, hload, rfl⟩)⟩
    · rw [RefreshAhead.refresh_of_not_done (not_exists.1 hdone)]
      exact ⟨rfl, Or.inl rfl⟩

/-! ### What is cached after an operation -/

@[simp] lemma defaultTtl_get (c : ReadingCache σ K V) (store : BackingStore σ K V) (key : K)
    (now : Duration) : (c.get store key now).2.cache.defaultTtl = c.cache.defaultTtl := by
  rcases c.get_cases store key now with ⟨_, -, -, -, h⟩ | ⟨-, -, h | ⟨_, -, h⟩⟩ <;> simp [h]

@[simp] lemma defaultTtl_set (c : ReadingCache σ K V) (store : BackingStore σ K V) (key : K)
    (value : V) (now : Duration) :
    (c.set store key value now).2.cache.defaultTtl = c.cache.defaultTtl := by
  rcases c.set_cases store key value now with ⟨-, -, ⟨-, h⟩ | ⟨-, h⟩⟩ <;> simp [h]

@[simp] lemma defaultTtl_runTask (c : ReadingCache σ K V) (store : BackingStore σ K V) (key : K)
    (now : Duration) : (c.runTask store key now).cache.defaultTtl = c.cache.defaultTtl := by
  rcases c.runTask_cases store key now with h | ⟨-, h | h | ⟨_, -, h⟩⟩
  · rw [h]
  · rw [h]
  · rw [h, TtlLru.defaultTtl_remove]
  · rw [h, TtlLru.defaultTtl_set]

lemma find?_get (h : (c.get store key now).2.cache.find? other = some entry) :
    c.cache.find? other = some entry ∨ other = key ∧ c.Loads store key now entry := by
  rcases c.get_cases store key now with
    ⟨_, -, -, -, hcache⟩ | ⟨-, -, hcache | ⟨value, hload, hcache⟩⟩
  · rw [hcache] at h
    exact Or.inl (TtlLru.find?_get_eq_some h)
  · rw [hcache] at h
    exact Or.inl (TtlLru.find?_get_eq_some h)
  · rw [hcache] at h
    rcases TtlLru.find?_set_eq_some h with ⟨rfl, hentry⟩ | ⟨-, hfound⟩
    · rw [TtlLru.defaultTtl_get] at hentry
      exact Or.inr ⟨rfl, value, hload, hentry⟩
    · exact Or.inl (TtlLru.find?_get_eq_some hfound)

lemma find?_runTask (h : (c.runTask store key now).cache.find? other = some entry) :
    c.cache.find? other = some entry ∨ other = key ∧ c.Loads store key now entry := by
  rcases c.runTask_cases store key now with hsame | ⟨-, hcache | hcache | ⟨value, hload, hcache⟩⟩
  · rw [hsame] at h
    exact Or.inl h
  · rw [hcache] at h
    exact Or.inl h
  · rw [hcache, TtlLru.find?_remove] at h
    split at h
    · cases h
    · exact Or.inl h
  · rw [hcache] at h
    rcases TtlLru.find?_set_eq_some h with ⟨rfl, hentry⟩ | ⟨-, hfound⟩
    · exact Or.inr ⟨rfl, value, hload, hentry⟩
    · exact Or.inl hfound

lemma find?_evict {test : K → Bool} (h : (c.evict test).cache.find? key = some entry) :
    c.cache.find? key = some entry := by
  have hfound : (c.cache.removeWhere test).2.find? key = some entry := by
    cases c <;> exact h
  rw [TtlLru.find?_removeWhere] at hfound
  split at hfound
  · cases hfound
  · exact hfound

/-! ### What the store holds after an operation -/

lemma content_get (hstore : store.Keeps content) (c : ReadingCache σ K V) (key : K)
    (now : Duration) : content (c.get store key now).2.backing = content c.backing := by
  rcases c.get_cases store key now with ⟨_, -, -, h, -⟩ | ⟨-, h, -⟩
  · rw [h]
  · rw [h, hstore.load_content]

lemma content_runTask (hstore : store.Keeps content) (c : ReadingCache σ K V) (key : K)
    (now : Duration) : content (c.runTask store key now).backing = content c.backing := by
  rcases c.runTask_cases store key now with h | ⟨h, -⟩
  · rw [h]
  · rw [h, hstore.load_content]

lemma Loads.content_eq (hstore : store.Keeps content) (h : c.Loads store key now entry) :
    content c.backing key = some entry.value := by
  obtain ⟨value, hload, rfl⟩ := h
  exact (hstore.load_answer key c.backing _ hload).symm

omit [DecidableEq K] in
lemma Loads.expiresAt (h : c.Loads store key now entry) :
    entry.expiresAt = now + min c.cache.defaultTtl maxTtl := by
  obtain ⟨value, -, rfl⟩ := h
  rfl

/-- When setting a key is done, its value is in the store, and it alone is newly cached. -/
lemma set_done (hstore : store.Keeps content)
    (h : (c.set store key value now).1 = .done ()) :
    content (c.set store key value now).2.backing =
        Function.update (content c.backing) key (some value) ∧
      ∀ other entry, (c.set store key value now).2.cache.find? other = some entry →
        (other = key ∧ entry = .ofValue value now c.cache.defaultTtl) ∨
          (other ≠ key ∧ c.cache.find? other = some entry) := by
  obtain ⟨hreply, hbacking, ⟨hdone, hcache⟩ | ⟨hfailed, -⟩⟩ := c.set_cases store key value now
  · rw [hbacking, hcache]
    exact ⟨hstore.write_done key value c.backing hdone,
      fun other entry hfound => TtlLru.find?_set_eq_some hfound⟩
  · exact absurd (hreply.symm.trans h) hfailed

/-- What is not done when a key is set changes nothing. -/
lemma set_not_done (hstore : store.Keeps content)
    (h : (c.set store key value now).1 ≠ .done ()) :
    content (c.set store key value now).2.backing = content c.backing ∧
      (c.set store key value now).2.cache = c.cache := by
  obtain ⟨hreply, hbacking, ⟨hdone, -⟩ | ⟨hfailed, hcache⟩⟩ := c.set_cases store key value now
  · exact absurd (hreply.trans hdone) h
  · rw [hbacking]
    exact ⟨hstore.write_not_done key value c.backing hfailed, hcache⟩

end ReadingCache

/-! ### What is on record -/

/-- Who has just written to the store. -/
inductive Writer (K : Type) where
  | nobody
  /-- The cache, when a value of the key was set. -/
  | cache (key : K)
  /-- Others, who may have changed anything. -/
  | others

/-- A moment on record. -/
structure StoreMoment (K V : Type) where
  time : Duration
  /-- What the store holds. -/
  content : K → Option V
  /-- Who has just written to the store. -/
  writer : Writer K

/-- A reading cache in use. -/
structure ReadingCourse (σ K V : Type) where
  cache : ReadingCache σ K V
  now : Duration
  /-- All moments so far, the present one last. -/
  moments : List (StoreMoment K V)

namespace ReadingCourse

variable {store : BackingStore σ K V} {content : σ → K → Option V} {ttl : Duration}
  {c c' : ReadingCourse σ K V} {key : K} {value : V}

/-- The course has come to this cache at this time, and that is put on record. -/
def next (content : σ → K → Option V) (c : ReadingCourse σ K V) (cache : ReadingCache σ K V)
    (now : Duration) (writer : Writer K) : ReadingCourse σ K V :=
  { cache, now, moments := c.moments ++ [⟨now, content cache.backing, writer⟩] }

/-- One thing that happens. Every call may go to a store of its own that keeps the content, and so
may fail or not as it likes. -/
inductive Step (content : σ → K → Option V) (c : ReadingCourse σ K V) :
    ReadingCourse σ K V → Prop
  | get {store : BackingStore σ K V} (hstore : store.Keeps content) (key : K) :
    Step content c (c.next content (c.cache.get store key c.now).2 c.now .nobody)
  | set {store : BackingStore σ K V} (hstore : store.Keeps content) (key : K) (value : V)
    (hdone : (c.cache.set store key value c.now).1 = .done ()) :
    Step content c (c.next content (c.cache.set store key value c.now).2 c.now (.cache key))
  | setInVain {store : BackingStore σ K V} (hstore : store.Keeps content) (key : K) (value : V)
    (hfailed : (c.cache.set store key value c.now).1 ≠ .done ()) :
    Step content c (c.next content (c.cache.set store key value c.now).2 c.now .nobody)
  /-- The task of a key is run, be it due or not. -/
  | runTask {store : BackingStore σ K V} (hstore : store.Keeps content) (key : K) :
    Step content c (c.next content (c.cache.runTask store key c.now) c.now .nobody)
  | evict (test : K → Bool) : Step content c (c.next content (c.cache.evict test) c.now .nobody)
  /-- Others make of the store what they like. -/
  | write (s : σ) : Step content c (c.next content (c.cache.withBacking s) c.now .others)
  | wait (d : Duration) : Step content c (c.next content c.cache (c.now + d) .nobody)

/-- What a cache that begins empty may come to, if its values count for the given time. -/
inductive Reachable (content : σ → K → Option V) (ttl : Duration) : ReadingCourse σ K V → Prop
  | start (cache : ReadingCache σ K V) (now : Duration) (hempty : cache.cache.entries = [])
    (httl : cache.cache.defaultTtl = ttl) :
    Reachable content ttl { cache, now, moments := [⟨now, content cache.backing, .nobody⟩] }
  | step {c c' : ReadingCourse σ K V} (h : Reachable content ttl c) (hstep : c.Step content c') :
    Reachable content ttl c'

/-- The value was in the store under the key at this moment on record, and has not been set through
the cache since. While nobody else has written since either, it is there still. -/
structure SeenAt (content : σ → K → Option V) (c : ReadingCourse σ K V) (key : K) (value : V)
    (before : List (StoreMoment K V)) (m : StoreMoment K V) (after : List (StoreMoment K V)) :
    Prop where
  moments : c.moments = before ++ m :: after
  held : m.content key = some value
  not_set : ∀ later ∈ after, later.writer ≠ .cache key
  undisturbed : (∀ later ∈ after, later.writer ≠ .others) →
    content c.cache.backing key = some value

/-- The record ends with the present, and every cached value was in the store at a moment of the
record from which its end counts. -/
structure Fresh (content : σ → K → Option V) (ttl : Duration) (c : ReadingCourse σ K V) : Prop where
  defaultTtl : c.cache.cache.defaultTtl = ttl
  present : ∃ before writer,
    c.moments = before ++ [⟨c.now, content c.cache.backing, writer⟩]
  entry : ∀ key entry, c.cache.cache.find? key = some entry →
    ∃ before m after, c.SeenAt content key entry.value before m after ∧
      entry.expiresAt = m.time + min ttl maxTtl

/-! ### One step -/

omit [DecidableEq K] in
/-- What was seen before has been seen, unless the key has just been set through the cache. -/
lemma SeenAt.next {before after : List (StoreMoment K V)} {m : StoreMoment K V}
    (h : c.SeenAt content key value before m after) {cache : ReadingCache σ K V} {now : Duration}
    {writer : Writer K} (hkey : writer ≠ .cache key)
    (hsame : writer ≠ .others → content cache.backing key = content c.cache.backing key) :
    (c.next content cache now writer).SeenAt content key value before m
      (after ++ [⟨now, content cache.backing, writer⟩]) where
  moments := by
    show c.moments ++ [_] = _
    rw [h.moments, List.append_assoc, List.cons_append]
  held := h.held
  not_set later hlater := by
    rcases List.mem_append.1 hlater with hlater | hlater
    · exact h.not_set later hlater
    · rw [List.mem_singleton.1 hlater]
      exact hkey
  undisturbed hothers := by
    have hbefore := h.undisturbed fun later hlater => hothers later (List.mem_append_left _ hlater)
    have hwriter : writer ≠ .others := hothers ⟨now, content cache.backing, writer⟩ (by simp)
    exact (hsame hwriter).trans hbefore

/-- A step keeps the record fresh if what is cached after it is in the store now and its end counts
from now, or was cached before and is not of a key that has just been set. -/
lemma Fresh.next (h : c.Fresh content ttl) {cache : ReadingCache σ K V} {now : Duration}
    {writer : Writer K} (hdefault : cache.cache.defaultTtl = c.cache.cache.defaultTtl)
    (hentry : ∀ key entry, cache.cache.find? key = some entry →
      (content cache.backing key = some entry.value ∧ entry.expiresAt = now + min ttl maxTtl) ∨
        (c.cache.cache.find? key = some entry ∧ writer ≠ .cache key ∧
          (writer ≠ .others → content cache.backing key = content c.cache.backing key))) :
    (c.next content cache now writer).Fresh content ttl where
  defaultTtl := hdefault.trans h.defaultTtl
  present := ⟨c.moments, writer, rfl⟩
  entry key entry hfound := by
    rcases hentry key entry hfound with ⟨hheld, hexpires⟩ | ⟨hold, hkey, hsame⟩
    · exact ⟨c.moments, _, [], ⟨rfl, hheld, nofun, fun _ => hheld⟩, hexpires⟩
    · obtain ⟨before, m, after, hseen, hexpires⟩ := h.entry key entry hold
      exact ⟨before, m, _, hseen.next hkey hsame, hexpires⟩

/-- A step in which nothing is written keeps the record fresh if what is cached after it was cached
before or has just been read. -/
lemma Fresh.next_of_reading (h : c.Fresh content ttl) {cache : ReadingCache σ K V}
    {now : Duration} (hdefault : cache.cache.defaultTtl = c.cache.cache.defaultTtl)
    (hcontent : content cache.backing = content c.cache.backing)
    (hentry : ∀ key entry, cache.cache.find? key = some entry →
      c.cache.cache.find? key = some entry ∨
        (content c.cache.backing key = some entry.value ∧
          entry.expiresAt = now + min ttl maxTtl)) :
    (c.next content cache now .nobody).Fresh content ttl := by
  refine h.next hdefault fun key entry hfound => ?_
  have hsame := congrFun hcontent key
  rcases hentry key entry hfound with hold | ⟨hheld, hexpires⟩
  · exact Or.inr ⟨hold, nofun, fun _ => hsame⟩
  · exact Or.inl ⟨hsame.trans hheld, hexpires⟩

lemma Step.fresh (h : c.Fresh content ttl) (hstep : c.Step content c') : c'.Fresh content ttl := by
  cases hstep with
  | @get store hstore key =>
    refine h.next_of_reading (ReadingCache.defaultTtl_get _ _ _ _)
      (ReadingCache.content_get hstore _ _ _) fun other entry hfound => ?_
    refine (ReadingCache.find?_get hfound).imp_right ?_
    rintro ⟨rfl, hloads⟩
    exact ⟨hloads.content_eq hstore, h.defaultTtl ▸ hloads.expiresAt⟩
  | @set store hstore key value hdone =>
    obtain ⟨hbacking, hentries⟩ := ReadingCache.set_done hstore hdone
    refine h.next (ReadingCache.defaultTtl_set _ _ _ _ _) fun other entry hfound => ?_
    rw [hbacking]
    rcases hentries other entry hfound with ⟨rfl, rfl⟩ | ⟨hother, hold⟩
    · refine Or.inl ⟨Function.update_self _ _ _, ?_⟩
      rw [← h.defaultTtl]
      rfl
    · refine Or.inr ⟨hold, fun heq => hother (Writer.cache.inj heq).symm, fun _ => ?_⟩
      exact Function.update_of_ne hother _ _
  | @setInVain store hstore key value hfailed =>
    obtain ⟨hcontent, hcache⟩ := ReadingCache.set_not_done hstore hfailed
    refine h.next_of_reading (ReadingCache.defaultTtl_set _ _ _ _ _) hcontent
      fun other entry hfound => Or.inl ?_
    rw [← hcache]
    exact hfound
  | @runTask store hstore key =>
    refine h.next_of_reading (ReadingCache.defaultTtl_runTask _ _ _ _)
      (ReadingCache.content_runTask hstore _ _ _) fun other entry hfound => ?_
    refine (ReadingCache.find?_runTask hfound).imp_right ?_
    rintro ⟨rfl, hloads⟩
    exact ⟨hloads.content_eq hstore, h.defaultTtl ▸ hloads.expiresAt⟩
  | evict test =>
    refine h.next_of_reading ?_ ?_ fun other entry hfound =>
      Or.inl (ReadingCache.find?_evict hfound)
    · cases c.cache <;> rfl
    · cases c.cache <;> rfl
  | write s =>
    have hcache : (c.cache.withBacking s).cache = c.cache.cache := by cases c.cache <;> rfl
    refine h.next (congrArg TtlLru.defaultTtl hcache) fun other entry hfound => ?_
    rw [hcache] at hfound
    exact Or.inr ⟨hfound, nofun, fun hothers => absurd rfl hothers⟩
  | wait d =>
    exact h.next_of_reading rfl rfl fun _ _ hfound => Or.inl hfound

lemma Reachable.fresh (h : Reachable content ttl c) : c.Fresh content ttl := by
  induction h with
  | start cache now hempty httl =>
    refine ⟨httl, ⟨[], .nobody, rfl⟩, fun key entry hfound => ?_⟩
    rw [TtlLru.find?, hempty] at hfound
    cases hfound
  | step _ hstep ih => exact hstep.fresh ih

/-! ### What a look-up answers -/

lemma exists_seenAt_of_get (h : c.Fresh content ttl) (hstore : store.Keeps content)
    (hget : (c.cache.get store key c.now).1 = .done (some value)) :
    ∃ before m after, c.SeenAt content key value before m after ∧
      c.now ≤ m.time + min ttl maxTtl := by
  rcases c.cache.get_cases store key c.now with ⟨cached, hcached, hanswer, -⟩ | ⟨hanswer, -⟩
  · -- A value that is cached and counts is no older than its end allows.
    rw [hanswer] at hget
    cases hget
    obtain ⟨entry, hfound, hcounts, rfl⟩ := TtlLru.value?_eq_some_iff.1 hcached
    obtain ⟨before, m, after, hseen, hexpires⟩ := h.entry key entry hfound
    exact ⟨before, m, after, hseen, hexpires ▸ hcounts⟩
  · have hheld := hstore.load_answer key c.cache.backing _ (hanswer.symm.trans hget)
    obtain ⟨before, writer, hpresent⟩ := h.present
    refine ⟨before, ⟨c.now, content c.cache.backing, writer⟩, [], ?_, Nat.le_add_right _ _⟩
    exact ⟨hpresent, hheld.symm, nofun, fun _ => hheld.symm⟩

lemma content_eq_none_of_get (hstore : store.Keeps content)
    (hget : (c.cache.get store key c.now).1 = .done none) :
    content c.cache.backing key = none := by
  rcases c.cache.get_cases store key c.now with ⟨cached, -, hanswer, -⟩ | ⟨hanswer, -⟩
  · rw [hanswer] at hget
    cases hget
  · exact (hstore.load_answer key c.cache.backing _ (hanswer.symm.trans hget)).symm

/-- Through a cache of either kind a look-up answers with a value that was in the store under its
key at some moment, no longer ago than values count and not before the key was last set through the
cache; and that there is none, only when the store holds none. So if nobody else has ever written,
every answer is what the store holds. Setting a key in vain leaves store and cache as they are. -/
theorem answers_held_since_last_set (h : c.Reachable content ttl) (hstore : store.Keeps content)
    (key : K) :
    (∀ value, (c.cache.get store key c.now).1 = .done (some value) →
        ∃ before m after, c.moments = before ++ m :: after ∧ m.content key = some value ∧
          c.now ≤ m.time + ttl ∧ ∀ later ∈ after, later.writer ≠ .cache key) ∧
      ((c.cache.get store key c.now).1 = .done none → content c.cache.backing key = none) ∧
      ((∀ m ∈ c.moments, m.writer ≠ .others) →
        ∀ answer, (c.cache.get store key c.now).1 = .done answer →
          answer = content c.cache.backing key) ∧
      ∀ value, (c.cache.set store key value c.now).1 ≠ .done () →
        content (c.cache.set store key value c.now).2.backing = content c.cache.backing ∧
          (c.cache.set store key value c.now).2.cache = c.cache.cache := by
  have hfresh := h.fresh
  refine ⟨fun value hget => ?_, content_eq_none_of_get hstore, fun hothers answer hget => ?_,
    fun value hfailed => ReadingCache.set_not_done hstore hfailed⟩
  · obtain ⟨before, m, after, hseen, hnow⟩ := exists_seenAt_of_get hfresh hstore hget
    have hage : m.time + min ttl maxTtl ≤ m.time + ttl := Nat.add_le_add_left (min_le_left _ _) _
    exact ⟨before, m, after, hseen.moments, hseen.held, le_trans hnow hage, hseen.not_set⟩
  · cases answer with
    | none => exact (content_eq_none_of_get hstore hget).symm
    | some value =>
      obtain ⟨before, m, after, hseen, -⟩ := exists_seenAt_of_get hfresh hstore hget
      refine (hseen.undisturbed fun later hlater => hothers later ?_).symm
      rw [hseen.moments]
      exact List.mem_append_right _ (List.mem_cons_of_mem _ hlater)

end ReadingCourse

/-! ### A run over a store that fails on demand -/

/-- What a store that fails on demand holds. -/
def FaultyStore.content (s : FaultyStore V) : String → Option V := s.contents.get?

lemma FaultyStore.calls_keeps (background : Bool) :
    (FaultyStore.calls (V := V) background).Keeps FaultyStore.content where
  load_answer key s answer h := by
    simp only [calls, load] at h
    split at h
    · cases h
    · split at h
      · cases h
      · exact (Reply.done.inj h).symm
  load_content key s := by
    simp only [calls, load]
    split
    · rfl
    · split <;> rfl
  write_done key value s h := by
    simp only [calls, write] at h ⊢
    split at h
    · cases h
    · rename_i hcrash
      split at h
      · cases h
      · rename_i hrefuses
        rw [if_neg hcrash, if_neg hrefuses]
        funext other
        rw [Function.update_apply]
        exact Entries.get?_insert key other value s.contents
  write_not_done key value s h := by
    simp only [calls, write] at h ⊢
    split
    · rfl
    · rename_i hcrash
      split
      · rfl
      · rename_i hrefuses
        rw [if_neg hcrash, if_neg hrefuses] at h
        exact absurd rfl h

/-- A cache that refreshes ahead, over a store that holds one value. -/
def oneStored : ReadingCache (FaultyStore Nat) String Nat :=
  .ahead {
    cache := { capacity := ⟨1, Nat.one_pos⟩, defaultTtl := 5 }
    backing := { contents := [("a", 1)] }
    isLow := fun left _ => left < 3 }

/-- The value is looked up, others change it in the store, which takes no more writes, and time
passes; then the value is looked up once more, and is set in vain. -/
def changedByOthers : ReadingCourse (FaultyStore Nat) String Nat :=
  let store := FaultyStore.calls false
  let start : ReadingCourse (FaultyStore Nat) String Nat :=
    { cache := oneStored, now := 0, moments := [⟨0, oneStored.backing.content, .nobody⟩] }
  let found := start.next FaultyStore.content (start.cache.get store "a" 0).2 0 .nobody
  let changed := found.next FaultyStore.content
    (found.cache.withBacking { contents := [("a", 2)], failWrites := true }) 0 .others
  let waited := changed.next FaultyStore.content changed.cache (0 + 4) .nobody
  waited.next FaultyStore.content (waited.cache.set store "a" 3 4).2 4 .nobody

lemma changedByOthers_reachable : changedByOthers.Reachable FaultyStore.content 5 := by
  have hstore := FaultyStore.calls_keeps (V := Nat) false
  have hstart : ReadingCourse.Reachable FaultyStore.content 5 _ := .start oneStored 0 rfl rfl
  have hchanged := (hstart.step (.get hstore "a")).step
    (.write { contents := [("a", 2)], failWrites := true })
  exact (hchanged.step (.wait 4)).step (.setInVain hstore "a" 3 (by nofun))

/-- A value that others have changed is answered as it was before, until the task of its key has
run. -/
theorem stale_until_refreshed :
    changedByOthers.Reachable FaultyStore.content 5 ∧
      (FaultyStore.calls (V := Nat) false).Keeps FaultyStore.content ∧
      (changedByOthers.cache.get (FaultyStore.calls false) "a" 4).1 = .done (some 1) ∧
      FaultyStore.content changedByOthers.cache.backing "a" = some 2 ∧
      (∃ before m after, changedByOthers.moments = before ++ m :: after ∧
        m.content "a" = some 1 ∧ 4 ≤ m.time + 5) ∧
      ((changedByOthers.cache.runTask (FaultyStore.calls true) "a" 4).get
        (FaultyStore.calls false) "a" 4).1 = .done (some 2) := by
  have hreachable := changedByOthers_reachable
  have hstore := FaultyStore.calls_keeps (V := Nat) false
  have hget : (changedByOthers.cache.get (FaultyStore.calls false) "a" 4).1 = .done (some 1) := rfl
  obtain ⟨hfound, -⟩ :=
    ReadingCourse.answers_held_since_last_set hreachable hstore "a"
  obtain ⟨before, m, after, hmoments, hheld, hnow, -⟩ := hfound 1 hget
  exact ⟨hreachable, hstore, hget, rfl, ⟨before, m, after, hmoments, hheld, hnow⟩, rfl⟩

end AccessControl
