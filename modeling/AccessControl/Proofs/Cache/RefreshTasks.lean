import AccessControl.Cache.FaultyStore
import AccessControl.Cache.RefreshAhead
import AccessControl.Proofs.Cache.TtlLru
import AccessControl.Proofs.Sequences
/-!
# The tasks of a cache that refreshes ahead

Values are looked up and set, time passes, and tasks come to their ends in any order, with a value,
without one, with an error of the store or by a crash. A call that has to wait for the store caches
its value only when others have acted, so what is cached and what the store holds may also change
at any time.

On record is when a value was served with little time left, and when a task ended. A key has a task
exactly when a value of it has been served with little time left since its last task ended
(`RefreshCourse.Pending`), it is marked exactly as long as it has one, and it never has two
(`RefreshCourse.Orderly`).
-/
namespace AccessControl

variable {σ K V : Type} [DecidableEq K]

namespace RefreshAhead

variable {store : BackingStore σ K V} {r : RefreshAhead σ K V} {key other : K} {now : Duration}
  {e : CacheEntry V}

/-- The entry that is served for the key: the one that is cached, if it still counts. -/
def served? (r : RefreshAhead σ K V) (key : K) (now : Duration) : Option (CacheEntry V) :=
  (r.cache.find? key).filter fun e => !e.isExpired now

/-- Whether an entry is served for the key that has too little time left. -/
def servesLow (r : RefreshAhead σ K V) (key : K) (now : Duration) : Bool :=
  (r.served? key now).any fun e => r.isLow (e.remaining now) e.ttl

lemma served?_eq_some_iff :
    r.served? key now = some e ↔ r.cache.find? key = some e ∧ now ≤ e.expiresAt := by
  simp [served?, Option.filter_eq_some_iff, CacheEntry.isExpired]

lemma servesLow_iff :
    r.servesLow key now = true ↔
      ∃ e, r.served? key now = some e ∧ r.isLow (e.remaining now) e.ttl = true := by
  rw [servesLow, Option.any_eq_true]

/-! ### What operations leave as it is -/

/-- A look-up that is served never asks the store. -/
lemma get_of_served (h : r.served? key now = some e) :
    r.get store key now = (.done (some e.value),
      let r' := { r with cache := (r.cache.getEntry key now).2 }
      if r.isLow (e.remaining now) e.ttl then r'.schedule key else r') := by
  have hfst : (r.cache.getEntry key now).1 = some e := (TtlLru.getEntry_fst _ _ _).trans h
  unfold get
  split
  · rename_i hentry
    rw [hentry] at hfst ⊢
    cases hfst
    rfl
  · rename_i hentry
    rw [hentry] at hfst
    cases hfst

lemma get_of_not_served (h : r.served? key now = none) :
    ∃ cache backing, (r.get store key now).2 = { r with cache, backing } := by
  have hfst : (r.cache.getEntry key now).1 = none := (TtlLru.getEntry_fst _ _ _).trans h
  unfold get
  split
  · rename_i hentry
    rw [hentry] at hfst
    cases hfst
  · split <;> exact ⟨_, _, rfl⟩

@[simp] lemma backing_schedule (r : RefreshAhead σ K V) (key : K) :
    (r.schedule key).backing = r.backing := by
  unfold schedule
  split <;> rfl

lemma backing_get_of_served (h : r.served? key now = some e) :
    (r.get store key now).2.backing = r.backing := by
  rw [get_of_served h]
  dsimp only
  split
  · exact backing_schedule _ _
  · rfl

lemma exists_eq_set (r : RefreshAhead σ K V) (store : BackingStore σ K V) (key : K) (value : V)
    (now : Duration) :
    ∃ cache backing, (r.set store key value now).2 = { r with cache, backing } := by
  unfold set
  split <;> exact ⟨_, _, rfl⟩

lemma exists_eq_refresh (r : RefreshAhead σ K V) (store : BackingStore σ K V) (key : K)
    (now : Duration) : ∃ cache backing, r.refresh store key now = { r with cache, backing } := by
  unfold refresh
  split <;> exact ⟨_, _, rfl⟩

lemma inFlight_runTask : (r.runTask store key now).inFlight = r.inFlight.erase key := by
  obtain ⟨cache, backing, hrefresh⟩ := r.exists_eq_refresh store key now
  rw [runTask, hrefresh]

lemma tasks_runTask : (r.runTask store key now).tasks = r.tasks.erase key := by
  obtain ⟨cache, backing, hrefresh⟩ := r.exists_eq_refresh store key now
  rw [runTask, hrefresh]

/-! ### What a task leaves in the cache -/

lemma cache_runTask : (r.runTask store key now).cache = (r.refresh store key now).cache := rfl

/-- Where the store fails or the task crashes, all that is cached stays. -/
lemma cache_runTask_of_not_done (h : ∀ answer, (store.load key r.backing).1 ≠ .done answer) :
    (r.runTask store key now).cache = r.cache := by
  rw [cache_runTask, refresh_of_not_done h]

/-- A value that was read is cached for the default time, for which another key may be given up. -/
lemma find?_runTask_of_value {value : V}
    (h : (store.load key r.backing).1 = .done (some value)) :
    (r.runTask store key now).cache.find? key =
        some (.ofValue value now r.cache.defaultTtl) ∧
      ∀ other, other ≠ key →
        (r.runTask store key now).cache.find? other = r.cache.find? other ∨
          (r.runTask store key now).cache.find? other = none := by
  have hcache : (r.runTask store key now).cache = r.cache.set key value none now := by
    rw [cache_runTask, refresh_of_value h]
  rw [hcache]
  exact ⟨TtlLru.find?_set_self _ _ _ _ _, fun other hother =>
    TtlLru.find?_set_of_ne _ hother _ _ _⟩

/-- A key without a value in the store is forgotten, and no other. -/
lemma find?_runTask_of_missing (h : (store.load key r.backing).1 = .done none) (other : K) :
    (r.runTask store key now).cache.find? other =
      if other = key then none else r.cache.find? other := by
  have hcache : (r.runTask store key now).cache = (r.cache.remove key).2 := by
    rw [cache_runTask, refresh_of_missing h]
  rw [hcache, TtlLru.find?_remove]

/-! ### Marks and tasks -/

/-- The marked keys are those that have tasks, and none has two. -/
structure MarksTasks (r : RefreshAhead σ K V) : Prop where
  inFlight_nodup : r.inFlight.Nodup
  tasks_nodup : r.tasks.Nodup
  mem_iff : ∀ key, key ∈ r.inFlight ↔ key ∈ r.tasks

omit [DecidableEq K] in
/-- What is cached and what the store holds has nothing to do with marks and tasks. -/
lemma MarksTasks.of_cache_backing (h : r.MarksTasks) (cache : TtlLru K V) (backing : σ) :
    MarksTasks { r with cache, backing } :=
  ⟨h.inFlight_nodup, h.tasks_nodup, h.mem_iff⟩

lemma MarksTasks.tasks_schedule (h : r.MarksTasks) (key : K) :
    (r.schedule key).tasks = if key ∈ r.tasks then r.tasks else r.tasks ++ [key] := by
  unfold schedule
  simp only [h.mem_iff key]
  split <;> rfl

lemma MarksTasks.mem_tasks_schedule (h : r.MarksTasks) :
    other ∈ (r.schedule key).tasks ↔ other = key ∨ other ∈ r.tasks := by
  rw [h.tasks_schedule]
  split
  · rename_i htask
    exact ⟨Or.inr, fun hmem => hmem.elim (fun heq => heq ▸ htask) id⟩
  · rw [List.mem_append, List.mem_singleton, or_comm]

lemma MarksTasks.schedule (h : r.MarksTasks) (key : K) : (r.schedule key).MarksTasks := by
  unfold RefreshAhead.schedule
  split
  · exact h
  · rename_i hmark
    have htask : key ∉ r.tasks := fun htask => hmark ((h.mem_iff key).2 htask)
    refine ⟨List.nodup_cons.2 ⟨hmark, h.inFlight_nodup⟩, ?_, fun other => ?_⟩
    · rw [← List.concat_eq_append]
      exact h.tasks_nodup.concat htask
    · show other ∈ key :: r.inFlight ↔ other ∈ r.tasks ++ [key]
      rw [List.mem_cons, List.mem_append, List.mem_singleton, h.mem_iff, or_comm]

lemma MarksTasks.mem_tasks_runTask (h : r.MarksTasks) :
    other ∈ (r.runTask store key now).tasks ↔ other ∈ r.tasks ∧ other ≠ key := by
  rw [tasks_runTask, h.tasks_nodup.mem_erase_iff, and_comm]

lemma MarksTasks.mem_inFlight_runTask (h : r.MarksTasks) :
    other ∈ (r.runTask store key now).inFlight ↔ other ∈ r.inFlight ∧ other ≠ key := by
  rw [inFlight_runTask, h.inFlight_nodup.mem_erase_iff, and_comm]

lemma MarksTasks.runTask (h : r.MarksTasks) (store : BackingStore σ K V) (key : K)
    (now : Duration) : (r.runTask store key now).MarksTasks where
  inFlight_nodup := by
    rw [inFlight_runTask]
    exact h.inFlight_nodup.erase key
  tasks_nodup := by
    rw [tasks_runTask]
    exact h.tasks_nodup.erase key
  mem_iff other := by rw [h.mem_inFlight_runTask, h.mem_tasks_runTask, h.mem_iff]

/-- A look-up that is served puts a task down if little time is left and the key has none. -/
lemma MarksTasks.tasks_get_of_served (h : r.MarksTasks) (hserved : r.served? key now = some e) :
    (r.get store key now).2.tasks =
      if r.isLow (e.remaining now) e.ttl ∧ key ∉ r.tasks then r.tasks ++ [key] else r.tasks := by
  rw [get_of_served hserved]
  have hmarks := h.of_cache_backing (r.cache.getEntry key now).2 r.backing
  by_cases hlow : r.isLow (e.remaining now) e.ttl = true
  · simp only [hlow, if_true, true_and, hmarks.tasks_schedule, ite_not]
  · simp only [hlow, Bool.false_eq_true, if_false, false_and]

end RefreshAhead

/-! ### What is on record -/

/-- What has happened to a key. -/
inductive RefreshEvent (K : Type) where
  /-- A value of the key was served with too little time left. -/
  | servedLow (key : K)
  /-- The task of the key has ended. -/
  | ended (key : K)

/-- A cache that refreshes ahead, in use. -/
structure RefreshCourse (σ K V : Type) where
  cache : RefreshAhead σ K V
  now : Duration
  /-- What has happened so far, the latest last. -/
  history : List (RefreshEvent K) := []

namespace RefreshCourse

/-- Since the last task of the key ended, a value of it has been served with too little time
left. -/
def Pending (key : K) (history : List (RefreshEvent K)) : Prop :=
  ∃ before after, history = before ++ .servedLow key :: after ∧ .ended key ∉ after

omit [DecidableEq K] in
lemma not_pending_nil (key : K) : ¬Pending key [] := by
  rintro ⟨before, after, hhistory, -⟩
  simp at hhistory

omit [DecidableEq K] in
/-- What is pending with one more event. -/
lemma pending_concat_iff {key : K} {history : List (RefreshEvent K)} {event : RefreshEvent K} :
    Pending key (history ++ [event]) ↔
      event = .servedLow key ∨ Pending key history ∧ event ≠ .ended key := by
  constructor
  · rintro ⟨before, after, hhistory, hafter⟩
    rcases concat_eq_append_cons.1 hhistory with ⟨-, hevent, -⟩ | ⟨rest, rfl, hbefore⟩
    · exact Or.inl hevent
    · rw [List.mem_append, List.mem_singleton, not_or] at hafter
      exact Or.inr ⟨⟨before, rest, hbefore, hafter.1⟩, Ne.symm hafter.2⟩
  · rintro (rfl | ⟨⟨before, after, rfl, hafter⟩, hevent⟩)
    · exact ⟨history, [], rfl, List.not_mem_nil⟩
    · refine ⟨before, after ++ [event], by rw [List.append_assoc, List.cons_append], ?_⟩
      rw [List.mem_append, List.mem_singleton, not_or]
      exact ⟨hafter, hevent.symm⟩

variable {c c' : RefreshCourse σ K V}

/-- One thing that happens. Every call may go to a store of its own, and so may end as it likes. -/
inductive Step (c : RefreshCourse σ K V) : RefreshCourse σ K V → Prop
  | getLow (store : BackingStore σ K V) (key : K) (hlow : c.cache.servesLow key c.now = true) :
    Step c { c with
      cache := (c.cache.get store key c.now).2
      history := c.history ++ [.servedLow key] }
  | get (store : BackingStore σ K V) (key : K) (hlow : c.cache.servesLow key c.now = false) :
    Step c { c with cache := (c.cache.get store key c.now).2 }
  | set (store : BackingStore σ K V) (key : K) (value : V) :
    Step c { c with cache := (c.cache.set store key value c.now).2 }
  /-- A task ends, whichever it is. -/
  | endTask (store : BackingStore σ K V) (key : K) (htask : key ∈ c.cache.tasks) :
    Step c { c with
      cache := c.cache.runTask store key c.now
      history := c.history ++ [.ended key] }
  /-- Entries are removed, evicted or set late, and others write to the store. -/
  | change (cache : TtlLru K V) (backing : σ) :
    Step c { c with cache := { c.cache with cache, backing } }
  | wait (d : Duration) : Step c { c with now := c.now + d }

/-- What a cache that begins without tasks may come to. -/
inductive Reachable : RefreshCourse σ K V → Prop
  | start (cache : RefreshAhead σ K V) (now : Duration) (hinFlight : cache.inFlight = [])
    (htasks : cache.tasks = []) : Reachable { cache, now }
  | step {c c' : RefreshCourse σ K V} (h : Reachable c) (hstep : c.Step c') : Reachable c'

/-- The marked keys are those with tasks, and the keys with tasks are those that wait for one to
end. -/
structure Orderly (c : RefreshCourse σ K V) : Prop where
  marks : c.cache.MarksTasks
  tasks : ∀ key, key ∈ c.cache.tasks ↔ Pending key c.history

/-! ### One step -/

omit [DecidableEq K] in
/-- Only what is cached and what the store holds has changed. -/
lemma Orderly.of_cache_backing (h : c.Orderly) {r : RefreshAhead σ K V}
    (hr : ∃ cache backing, r = { c.cache with cache, backing }) :
    Orderly { c with cache := r } := by
  obtain ⟨cache, backing, rfl⟩ := hr
  exact ⟨h.marks.of_cache_backing cache backing, h.tasks⟩

lemma Step.orderly (h : c.Orderly) (hstep : c.Step c') : c'.Orderly := by
  cases hstep with
  | getLow store key hlow =>
    obtain ⟨e, hserved, he⟩ := RefreshAhead.servesLow_iff.1 hlow
    rw [RefreshAhead.get_of_served hserved]
    have hmarks := h.marks.of_cache_backing (c.cache.cache.getEntry key c.now).2 c.cache.backing
    simp only [he, if_true]
    refine ⟨hmarks.schedule key, fun other => ?_⟩
    rw [hmarks.mem_tasks_schedule, pending_concat_iff, ← h.tasks other]
    simp [eq_comm]
  | get store key hlow =>
    cases hserved : c.cache.served? key c.now with
    | none => exact h.of_cache_backing (RefreshAhead.get_of_not_served hserved)
    | some e =>
      have he : c.cache.isLow (e.remaining c.now) e.ttl = false := by
        simpa [RefreshAhead.servesLow, hserved] using hlow
      refine h.of_cache_backing ⟨(c.cache.cache.getEntry key c.now).2, c.cache.backing, ?_⟩
      rw [RefreshAhead.get_of_served hserved]
      simp [he]
  | set store key value => exact h.of_cache_backing (c.cache.exists_eq_set store key value c.now)
  | endTask store key htask =>
    refine ⟨h.marks.runTask store key c.now, fun other => ?_⟩
    rw [h.marks.mem_tasks_runTask, pending_concat_iff, h.tasks other]
    simp [eq_comm]
  | change cache backing => exact h.of_cache_backing ⟨cache, backing, rfl⟩
  | wait d => exact ⟨h.marks, h.tasks⟩

lemma Reachable.orderly (h : c.Reachable) : c.Orderly := by
  induction h with
  | start cache now hinFlight htasks =>
    refine ⟨⟨?_, ?_, fun key => ?_⟩, fun key => ?_⟩
    · rw [hinFlight]
      exact List.nodup_nil
    · rw [htasks]
      exact List.nodup_nil
    · rw [hinFlight, htasks]
    · rw [htasks]
      exact iff_of_false List.not_mem_nil (not_pending_nil key)
  | step _ hstep ih => exact hstep.orderly ih

/-- At every moment the marked keys are those that have tasks, no key has two of them, and a key has
one exactly when a value of it has been served with too little time left since its last task ended.
When a task ends, in whatever way, its key alone is released. If it ends with an error or by a crash
all that is cached stays as it is; a value that it has read is cached for the default time, and
another key may be given up for it; and a key without a value is forgotten, and no other. A look-up
that finds an entry which still counts answers with its value and does not ask the store, whichever
it is; and it puts a task down if too little time is left and the key has none. -/
theorem one_task_per_key_until_it_ends (h : c.Reachable) :
    (∀ key, (key ∈ c.cache.inFlight ↔ key ∈ c.cache.tasks) ∧
        (key ∈ c.cache.tasks ↔ Pending key c.history)) ∧
      c.cache.inFlight.Nodup ∧ c.cache.tasks.Nodup ∧
      (∀ (store : BackingStore σ K V) (key : K), key ∈ c.cache.tasks →
        (∀ other, other ∈ (c.cache.runTask store key c.now).inFlight ↔
            other ∈ c.cache.inFlight ∧ other ≠ key) ∧
          (c.cache.runTask store key c.now).tasks = c.cache.tasks.erase key ∧
          ((∀ answer, (store.load key c.cache.backing).1 ≠ .done answer) →
            (c.cache.runTask store key c.now).cache = c.cache.cache) ∧
          (∀ value, (store.load key c.cache.backing).1 = .done (some value) →
            (c.cache.runTask store key c.now).cache.find? key =
                some (.ofValue value c.now c.cache.cache.defaultTtl) ∧
              ∀ other, other ≠ key →
                (c.cache.runTask store key c.now).cache.find? other =
                    c.cache.cache.find? other ∨
                  (c.cache.runTask store key c.now).cache.find? other = none) ∧
          ((store.load key c.cache.backing).1 = .done none → ∀ other,
            (c.cache.runTask store key c.now).cache.find? other =
              if other = key then none else c.cache.cache.find? other)) ∧
      ∀ (store : BackingStore σ K V) (key : K) (e : CacheEntry V),
        c.cache.cache.find? key = some e → c.now ≤ e.expiresAt →
          (c.cache.get store key c.now).1 = .done (some e.value) ∧
            (c.cache.get store key c.now).2.backing = c.cache.backing ∧
            (∀ store', c.cache.get store' key c.now = c.cache.get store key c.now) ∧
            (c.cache.get store key c.now).2.tasks =
              if c.cache.isLow (e.remaining c.now) e.ttl ∧ key ∉ c.cache.tasks then
                c.cache.tasks ++ [key]
              else c.cache.tasks := by
  obtain ⟨hmarks, htasks⟩ := h.orderly
  refine ⟨fun key => ⟨hmarks.mem_iff key, htasks key⟩, hmarks.inFlight_nodup, hmarks.tasks_nodup,
    fun store key _ => ⟨fun other => hmarks.mem_inFlight_runTask, RefreshAhead.tasks_runTask,
      RefreshAhead.cache_runTask_of_not_done, fun value => RefreshAhead.find?_runTask_of_value,
      RefreshAhead.find?_runTask_of_missing⟩,
    fun store key e hfound hcounts => ?_⟩
  have hserved := RefreshAhead.served?_eq_some_iff.2 ⟨hfound, hcounts⟩
  refine ⟨?_, RefreshAhead.backing_get_of_served hserved, fun store' => ?_,
    hmarks.tasks_get_of_served hserved⟩
  · rw [RefreshAhead.get_of_served hserved]
  · rw [RefreshAhead.get_of_served hserved, RefreshAhead.get_of_served hserved]

end RefreshCourse

/-! ### A task that crashes -/

/-- Values count for 5 units of time, and fewer than 3 are too little. The store crashes the first
task. -/
def crashingAhead : RefreshAhead (FaultyStore Nat) String Nat where
  cache := { capacity := ⟨1, Nat.one_pos⟩, defaultTtl := 5 }
  backing := { contents := [("a", 1)], crashLoad := true }
  isLow left _ := left < 3

/-- A value is looked up at the beginning and twice after 4 units of time. -/
def servedLowTwice : RefreshCourse (FaultyStore Nat) String Nat :=
  let store := FaultyStore.calls false
  let cached := (crashingAhead.get store "a" 0).2
  let servedLow := (cached.get store "a" 4).2
  { cache := (servedLow.get store "a" 4).2
    now := 0 + 4
    history := [.servedLow "a", .servedLow "a"] }

lemma servedLowTwice_reachable : servedLowTwice.Reachable := by
  have hstart : RefreshCourse.Reachable _ := .start crashingAhead 0 rfl rfl
  have hcached := (hstart.step (.get (FaultyStore.calls false) "a" rfl)).step (.wait 4)
  have hlow := hcached.step (.getLow (FaultyStore.calls false) "a" rfl)
  exact hlow.step (.getLow (FaultyStore.calls false) "a" rfl)

/-- The task of the value has crashed. -/
def servedLowCrashed : RefreshCourse (FaultyStore Nat) String Nat :=
  { servedLowTwice with
    cache := servedLowTwice.cache.runTask (FaultyStore.calls true) "a" 4
    history := servedLowTwice.history ++ [.ended "a"] }

/-- Two look-ups put one task down. It crashes, the value stays, and the next look-up puts down
another. -/
theorem another_task_after_crash :
    servedLowTwice.Reachable ∧ servedLowCrashed.Reachable ∧ servedLowTwice.cache.tasks = ["a"] ∧
      servedLowCrashed.cache.cache = servedLowTwice.cache.cache ∧
      "a" ∉ servedLowCrashed.cache.inFlight ∧
      (servedLowCrashed.cache.get (FaultyStore.calls false) "a" 4).1 = .done (some 1) ∧
      (servedLowCrashed.cache.get (FaultyStore.calls false) "a" 4).2.tasks = ["a"] := by
  have hreachable := servedLowTwice_reachable
  have hmem : "a" ∈ servedLowTwice.cache.tasks := List.mem_singleton.2 rfl
  have hcrashed : servedLowCrashed.Reachable :=
    hreachable.step (.endTask (FaultyStore.calls true) "a" hmem)
  obtain ⟨-, -, -, hend, -⟩ := RefreshCourse.one_task_per_key_until_it_ends hreachable
  obtain ⟨hreleased, -, hstays, -⟩ := hend (FaultyStore.calls true) "a" hmem
  obtain ⟨-, -, -, -, hserved⟩ := RefreshCourse.one_task_per_key_until_it_ends hcrashed
  obtain ⟨hanswer, -, -, htasks⟩ :=
    hserved (FaultyStore.calls false) "a" ⟨1, 0, 5⟩ rfl (by decide)
  exact ⟨hreachable, hcrashed, rfl, hstays nofun, fun hmark => ((hreleased "a").1 hmark).2 rfl,
    hanswer, htasks⟩

end AccessControl
