import AccessControl.Proofs.Cache.Ledger
import AccessControl.Proofs.Cache.TtlLru
/-!
# Writing behind loses, repeats and reorders nothing

A course of a write-behind cache consists of calls and of what happens in between: values are set
and looked up, flushes run, time passes and the flusher does what is due. A flush may also be given
step by step, with values being set between its writes. The store may refuse any write, but does
not crash.

Throughout a course there is a ledger in order that tells of the values that were set which ones the
store has taken, which ones a flush is busy with, and which ones wait in the queue; and whatever is
cached under a key is the latest value that was set under it.
-/
namespace AccessControl

variable {σ K V : Type}

/-- The store that also records every value that it has written, the first one first. -/
def BackingStore.logged (store : BackingStore σ K V) : BackingStore (σ × List (K × V)) K V where
  load key s := ((store.load key s.1).1, (store.load key s.1).2, s.2)
  write key value s :=
    match store.write key value s.1 with
    | (.done (), state) => (.done (), state, s.2 ++ [(key, value)])
    | (reply, state) => (reply, state, s.2)

/-- No write ends by a crash. -/
def BackingStore.NeverCrashes (store : BackingStore σ K V) : Prop :=
  ∀ key value s, (store.write key value s).1 ≠ .crashed

/-- The ledger tells what the cache has stored, what it has queued, and how far a flush is. -/
structure Ledger.Describes (l : Ledger K V) (w : WriteBehind (σ × List (K × V)) K V)
    (run : FlushRun K V) : Prop where
  stored : w.backing.2 = l.stored.map Numbered.plain
  queue : w.queue = l.queued.map Numbered.plain
  waiting : run.waiting = l.run.waiting.map Numbered.plain
  tried : run.tried = l.run.tried.map fun t => (t.1, t.2.1.2, t.2.2)

/-- Without a flush on its way there is none in the ledger. -/
lemma Ledger.Describes.idle {l : Ledger K V} {w : WriteBehind (σ × List (K × V)) K V}
    (hl : l.Describes w { waiting := [] }) : l.run = { waiting := [] } := by
  obtain ⟨stored, ⟨waiting, tried⟩, queued⟩ := l
  have hwaiting := List.map_eq_nil_iff.1 hl.waiting.symm
  have htried := List.map_eq_nil_iff.1 hl.tried.symm
  simp only at hwaiting htried
  rw [hwaiting, htried]

namespace WriteBehind

variable [DecidableEq K] {store : BackingStore σ K V} {w : WriteBehind (σ × List (K × V)) K V}
  {run : FlushRun K V} {sets : List (K × V)}

/-- There is a ledger in order, and what is cached is the latest. -/
structure Accounted (w : WriteBehind (σ × List (K × V)) K V) (run : FlushRun K V)
    (sets : List (K × V)) : Prop where
  ledger : ∃ l : Ledger K V, l.InOrder sets ∧ l.Describes w run
  latest : ∀ key entry, w.cache.find? key = some entry → lastValue key sets = some entry.value

/-! ### The parts of operations -/

lemma accounted_new (capacity : Capacity) (ttl : Duration) (backing : σ) (maxBatch : Nat)
    (interval : Duration) :
    (new capacity ttl (backing, ([] : List (K × V))) maxBatch interval).Accounted
      { waiting := [] } [] where
  ledger := ⟨{}, Ledger.inOrder_empty, rfl, rfl, rfl, rfl⟩
  latest := nofun

lemma Accounted.get (h : w.Accounted run sets) (key : K) (now : Duration) :
    (w.get key now).2.Accounted run sets where
  ledger := by
    obtain ⟨l, horder, hl⟩ := h.ledger
    exact ⟨l, horder, hl.stored, hl.queue, hl.waiting, hl.tried⟩
  latest other entry hentry := by
    have hfound : (w.cache.getEntry key now).2.find? other = some entry := hentry
    rw [TtlLru.find?_getEntry] at hfound
    split at hfound
    · rename_i hother
      rw [hother]
      exact h.latest key entry (Option.filter_eq_some_iff.1 hfound).1
    · exact h.latest other entry hfound

/-- What a look-up finds is the latest value. -/
lemma Accounted.of_get (h : w.Accounted run sets) {key : K} {now : Duration} {value : V}
    (hget : (w.get key now).1 = some value) : lastValue key sets = some value := by
  have hfound : w.cache.value? key now = some value := hget
  rw [TtlLru.value?_eq, Option.map_eq_some_iff] at hfound
  obtain ⟨entry, hentry, rfl⟩ := hfound
  exact h.latest key entry (Option.filter_eq_some_iff.1 hentry).1

lemma Accounted.enqueue (h : w.Accounted run sets) (key : K) (value : V) (now : Duration) :
    (w.enqueue key value now).Accounted run (sets ++ [(key, value)]) where
  ledger := by
    obtain ⟨l, horder, hl⟩ := h.ledger
    refine ⟨l.enqueue sets.length key value, horder.enqueue key value, hl.stored, ?_, hl.waiting,
      hl.tried⟩
    simp [WriteBehind.enqueue, Ledger.enqueue, hl.queue, Numbered.plain]
  latest other entry hentry := by
    -- To make room for the value the cache may give up another entry, but changes none.
    rw [lastValue_concat]
    by_cases hother : other = key
    · subst hother
      have hset : (w.cache.set other value none now).find? other = some entry := hentry
      rw [TtlLru.find?_set_self] at hset
      cases hset
      rw [if_pos rfl]
      rfl
    · rw [if_neg hother]
      rcases w.cache.find?_set_of_ne hother value none now with hsame | hnone
      · exact h.latest other entry (hsame.symm.trans hentry)
      · cases hnone.symm.trans hentry

lemma Accounted.begin (h : w.Accounted { waiting := [] } sets) :
    w.begin.2.Accounted w.begin.1 sets where
  ledger := by
    obtain ⟨l, horder, hl⟩ := h.ledger
    exact ⟨l.begin, horder.begin hl.idle, hl.stored, rfl, hl.queue, rfl⟩
  latest := h.latest

omit [DecidableEq K] in
/-- The next write of a flush succeeds and is recorded, or is refused. -/
lemma writeNext_cons (hstore : store.NeverCrashes) {key : K} {value : V} {rest : List (K × V)}
    (hwaiting : run.waiting = (key, value) :: rest) :
    ∃ written backing,
      writeNext store.logged run w =
        (some { waiting := rest, tried := (key, value, written) :: run.tried },
          { w with backing }) ∧
      backing.2 = if written then w.backing.2 ++ [(key, value)] else w.backing.2 := by
  unfold writeNext BackingStore.logged
  rw [hwaiting]
  dsimp only
  rcases hwrite : store.write key value w.backing.1 with ⟨answer | fault | _, state⟩
  · exact ⟨true, _, rfl, rfl⟩
  · exact ⟨false, _, rfl, rfl⟩
  · exact absurd (congrArg Prod.fst hwrite) (hstore key value w.backing.1)

/-- The next write of a flush ends, and the flush has one value less to write. -/
lemma Accounted.writeNext (hstore : store.NeverCrashes) (h : w.Accounted run sets) :
    ∃ run' w', WriteBehind.writeNext store.logged run w = (some run', w') ∧
      run'.waiting = run.waiting.tail ∧ w'.Accounted run' sets := by
  cases hwaiting : run.waiting with
  | nil =>
    refine ⟨run, w, ?_, hwaiting, h⟩
    rw [WriteBehind.writeNext, hwaiting]
  | cons entry rest =>
    obtain ⟨l, horder, hl⟩ := h.ledger
    obtain ⟨x, xs, hnext, hx, hxs⟩ := List.map_eq_cons_iff.1 (hl.waiting.symm.trans hwaiting)
    obtain ⟨written, backing, hwrite, hstored⟩ := writeNext_cons (w := w) hstore hwaiting
    refine ⟨_, _, hwrite, rfl, ⟨l.writeNext x xs written, horder.writeNext hnext written, ?_⟩,
      h.latest⟩
    refine ⟨?_, hl.queue, hxs.symm, ?_⟩
    · rw [hstored, hl.stored]
      cases written
      · rfl
      · simp [Ledger.writeNext, hx]
    · simp [Ledger.writeNext, hl.tried, ← hx, Numbered.plain]

lemma Accounted.finish (h : w.Accounted run sets) (hwaiting : run.waiting = []) :
    (WriteBehind.finish run w).Accounted { waiting := [] } sets where
  ledger := by
    obtain ⟨l, horder, hl⟩ := h.ledger
    have hnone : l.run.waiting = [] := List.map_eq_nil_iff.1 (hl.waiting.symm.trans hwaiting)
    refine ⟨l.finish, horder.finish hnone, hl.stored, ?_, rfl, rfl⟩
    have hkeys : w.queue.map Prod.fst = l.queued.map Prod.fst := by
      rw [hl.queue, List.map_map]
      rfl
    show FlushRun.leftOver run.tried (w.queue.map Prod.fst) [] ++ w.queue =
      (FlushRun.leftOver l.run.tried (l.queued.map Prod.fst) [] ++ l.queued).map Numbered.plain
    rw [List.map_append, ← hl.queue, hkeys, hl.tried, FlushRun.leftOver_map Prod.snd]
    rfl
  latest := h.latest

/-! ### Whole operations -/

lemma Accounted.writeMany (hstore : store.NeverCrashes) {n : Nat} (h : w.Accounted run sets)
    (hn : run.waiting.length ≤ n) :
    ∃ run' w', WriteBehind.writeMany store.logged n run w = (some run', w') ∧
      run'.waiting = [] ∧ w'.Accounted run' sets := by
  induction n generalizing run w with
  | zero => exact ⟨run, w, rfl, List.length_eq_zero_iff.1 (Nat.le_zero.1 hn), h⟩
  | succ n ih =>
    obtain ⟨run', w', hwrite, hwaiting, h'⟩ := h.writeNext hstore
    -- With every write one value less is waiting, so the number suffices to the end.
    have hlength : run'.waiting.length ≤ n := by
      rw [hwaiting, List.length_tail]
      omega
    obtain ⟨run'', w'', hrest, hdone, h''⟩ := ih h' hlength
    exact ⟨run'', w'', by rw [WriteBehind.writeMany, hwrite]; exact hrest, hdone, h''⟩

lemma Accounted.flush (hstore : store.NeverCrashes) (h : w.Accounted { waiting := [] } sets) :
    ∃ n w', w.flush store.logged = (.done n, w') ∧ w'.Accounted { waiting := [] } sets := by
  obtain ⟨run, w', hwrites, hwaiting, h'⟩ := h.begin.writeMany hstore (Nat.le_refl _)
  refine ⟨run.stored, WriteBehind.finish run w', ?_, h'.finish hwaiting⟩
  show complete store.logged w.begin.1 w.begin.2 = _
  rw [complete, hwrites]

lemma Accounted.set (hstore : store.NeverCrashes) (h : w.Accounted { waiting := [] } sets)
    (key : K) (value : V) (now : Duration) :
    (w.set store.logged key value now).2.Accounted { waiting := [] } (sets ++ [(key, value)]) := by
  have hqueued := h.enqueue key value now
  unfold WriteBehind.set
  dsimp only
  split
  · obtain ⟨n, w', hflush, h'⟩ := hqueued.flush hstore
    rw [hflush]
    exact h'
  · exact hqueued

lemma Accounted.withFlusher (h : w.Accounted run sets) (flusher : Flusher) :
    ({ w with flusher } : WriteBehind (σ × List (K × V)) K V).Accounted run sets where
  ledger := by
    obtain ⟨l, horder, hl⟩ := h.ledger
    exact ⟨l, horder, hl.stored, hl.queue, hl.waiting, hl.tried⟩
  latest := h.latest

lemma Accounted.tick (hstore : store.NeverCrashes) (n : Nat)
    (h : w.Accounted { waiting := [] } sets) :
    (WriteBehind.tick store.logged n w).Accounted { waiting := [] } sets := by
  induction n generalizing w with
  | zero => exact h
  | succ n ih =>
    unfold WriteBehind.tick
    split
    · exact h
    · obtain ⟨_, w', hflush, h'⟩ := h.flush hstore
      rw [hflush]
      exact ih h'

lemma Accounted.catchUp (hstore : store.NeverCrashes) (h : w.Accounted { waiting := [] } sets)
    (now : Duration) : (w.catchUp store.logged now).Accounted { waiting := [] } sets := by
  unfold WriteBehind.catchUp
  split
  · exact (h.withFlusher _).tick hstore _
  · exact h

lemma Accounted.start (h : w.Accounted run sets) (now : Duration) :
    (w.start now).2.Accounted run sets := by
  unfold WriteBehind.start
  split
  · exact h.withFlusher _
  · exact h

lemma Accounted.stop (hstore : store.NeverCrashes) (h : w.Accounted { waiting := [] } sets) :
    (w.stop store.logged).2.Accounted { waiting := [] } sets := by
  unfold WriteBehind.stop
  split
  · exact h.withFlusher _
  · obtain ⟨_, w', hflush, h'⟩ := (h.withFlusher .idle).flush hstore
    dsimp only
    rw [hflush]
    exact h'

end WriteBehind

/-! ### Courses -/

/-- A write-behind cache in use. -/
structure Course (σ K V : Type) where
  /-- The cache, over a store that records what it has written. -/
  cache : WriteBehind (σ × List (K × V)) K V
  /-- The flush that is given step by step, if there is one. -/
  flight : Option (FlushRun K V) := none
  now : Duration := 0
  /-- What has been set so far; a value has the number of those before it. -/
  sets : List (K × V) := []

namespace Course

variable [DecidableEq K] {store : BackingStore σ K V} {c c' : Course σ K V}

/-- One thing that happens. Operations that flush do so at a stroke, or a value is only queued
(`arrive`), as it is when another flush is on its way, and flushes are given step by step. -/
inductive Step (store : BackingStore σ K V) (c : Course σ K V) : Course σ K V → Prop
  | get (key : K) : Step store c { c with cache := (c.cache.get key c.now).2 }
  | arrive (key : K) (value : V) :
    Step store c { c with
      cache := c.cache.enqueue key value c.now
      sets := c.sets ++ [(key, value)] }
  | set (key : K) (value : V) (hidle : c.flight = none) :
    Step store c { c with
      cache := (c.cache.set store.logged key value c.now).2
      sets := c.sets ++ [(key, value)] }
  | flush (hidle : c.flight = none) :
    Step store c { c with cache := (c.cache.flush store.logged).2 }
  | begin (hidle : c.flight = none) :
    Step store c { c with cache := c.cache.begin.2, flight := some c.cache.begin.1 }
  | write {run run' : FlushRun K V} {cache} (hflight : c.flight = some run)
    (hwrite : WriteBehind.writeNext store.logged run c.cache = (some run', cache)) :
    Step store c { c with cache, flight := some run' }
  | finish {run : FlushRun K V} (hflight : c.flight = some run) (hwaiting : run.waiting = []) :
    Step store c { c with cache := WriteBehind.finish run c.cache, flight := none }
  | start : Step store c { c with cache := (c.cache.start c.now).2 }
  | stop (hidle : c.flight = none) : Step store c { c with cache := (c.cache.stop store.logged).2 }
  | wait (d : Duration) : Step store c { c with now := c.now + d }
  | advance (d : Duration) (hidle : c.flight = none) :
    Step store c { c with
      cache := c.cache.catchUp store.logged (c.now + d)
      now := c.now + d }

/-- What a new cache of any capacity, over a store in any state, may come to. -/
inductive Reachable (store : BackingStore σ K V) : Course σ K V → Prop
  | new (capacity : Capacity) (ttl : Duration) (backing : σ) (maxBatch : Nat)
      (interval now : Duration) :
    Reachable store { cache := .new capacity ttl (backing, []) maxBatch interval, now }
  | step {c c' : Course σ K V} (h : Reachable store c) (hstep : c.Step store c') :
    Reachable store c'

/-- Everything is accounted for, given the flush on its way or none. -/
def Accounted (c : Course σ K V) : Prop :=
  c.cache.Accounted (c.flight.getD { waiting := [] }) c.sets

lemma Step.accounted (hstore : store.NeverCrashes) (h : c.Accounted) (hstep : c.Step store c') :
    c'.Accounted := by
  have hnone : c.flight = none → c.cache.Accounted { waiting := [] } c.sets := by
    intro hidle
    rw [Accounted, hidle] at h
    exact h
  cases hstep with
  | get key => exact WriteBehind.Accounted.get h key c.now
  | arrive key value => exact WriteBehind.Accounted.enqueue h key value c.now
  | set key value hidle =>
    rw [Accounted, hidle]
    exact (hnone hidle).set hstore key value c.now
  | flush hidle =>
    obtain ⟨_, cache, hflush, h'⟩ := (hnone hidle).flush hstore
    rw [Accounted, hidle, hflush]
    exact h'
  | begin hidle => exact (hnone hidle).begin
  | @write run run' cache hflight hwrite =>
    have hrun : c.cache.Accounted run c.sets := by
      rw [Accounted, hflight] at h
      exact h
    obtain ⟨run'', cache', hwrite', -, h'⟩ := hrun.writeNext hstore
    rw [hwrite'] at hwrite
    cases hwrite
    exact h'
  | finish hflight hwaiting =>
    rw [Accounted, hflight] at h
    exact WriteBehind.Accounted.finish h hwaiting
  | start => exact WriteBehind.Accounted.start h c.now
  | stop hidle =>
    rw [Accounted, hidle]
    exact (hnone hidle).stop hstore
  | wait d => exact h
  | advance d hidle =>
    rw [Accounted, hidle]
    exact (hnone hidle).catchUp hstore (c.now + d)

lemma Reachable.accounted (hstore : store.NeverCrashes) (h : c.Reachable store) :
    c.Accounted := by
  induction h with
  | new capacity ttl backing maxBatch interval now =>
    exact WriteBehind.accounted_new capacity ttl backing maxBatch interval
  | step _ hstep ih => exact hstep.accounted hstore ih

/-- The key that was set with the number. -/
def keyOf (c : Course σ K V) (n : Nat) : Option K := (c.sets[n]?).map Prod.fst

/-- Whatever happens, between operations every value that was set is stored once, or queued once, or
a later value of its key is stored or queued. The queue is in the order of the sets, and so is what
was stored under one key. So the latest value of a key is the last queued one, or the last stored
one if none is queued, and a look-up finds no other. Where the values that are set all differ, they
determine their numbers. -/
theorem accounted_between_operations (hstore : store.NeverCrashes) (hc : c.Reachable store)
    (hidle : c.flight = none) :
    ∃ stored queued : List Nat,
      List.Forall₂ (fun n entry => c.sets[n]? = some entry) stored c.cache.backing.2 ∧
      List.Forall₂ (fun n entry => c.sets[n]? = some entry) queued c.cache.queue ∧
      queued.Pairwise (· < ·) ∧
      stored.Pairwise (fun m n => c.keyOf m = c.keyOf n → m < n) ∧
      (∀ n < c.sets.length,
        (stored.count n = 1 ∧ n ∉ queued) ∨ (queued.count n = 1 ∧ n ∉ stored) ∨
          (n ∉ stored ∧ n ∉ queued ∧
            ∃ m, n < m ∧ c.keyOf m = c.keyOf n ∧ (m ∈ stored ∨ m ∈ queued))) ∧
      (∀ key, lastValue key c.sets =
        (lastValue key c.cache.queue).or (lastValue key c.cache.backing.2)) ∧
      ∀ key now value, (c.cache.get key now).1 = some value →
        lastValue key c.sets = some value := by
  have h : c.cache.Accounted { waiting := [] } c.sets := by
    have haccounted := hc.accounted hstore
    rw [Accounted, hidle] at haccounted
    exact haccounted
  obtain ⟨l, horder, hl⟩ := h.ledger
  have hpending := Ledger.pending_of_idle hl.idle
  have hnumbered := horder.numbered
  rw [hpending] at hnumbered
  refine ⟨l.stored.map Numbered.number, l.queued.map Numbered.number, ?_, ?_, ?_, ?_,
    fun n hn => horder.once hl.idle hn rfl rfl, fun key => ?_, fun key now value => h.of_get⟩
  · rw [hl.stored, List.forall₂_map_left_iff, List.forall₂_map_right_iff, List.forall₂_same]
    exact fun x hx => hnumbered x (Or.inl hx)
  · rw [hl.queue, List.forall₂_map_left_iff, List.forall₂_map_right_iff, List.forall₂_same]
    exact fun x hx => hnumbered x (Or.inr hx)
  · rw [List.pairwise_map, ← hpending]
    exact horder.pending_order
  · rw [List.pairwise_map]
    refine horder.stored_order.imp_of_mem fun {x y} hx hy hlt hkey => hlt ?_
    rw [keyOf, keyOf, horder.key_eq (Or.inl hx), horder.key_eq (Or.inl hy)] at hkey
    exact Option.some.inj hkey
  · rw [hl.stored, hl.queue]
    exact horder.lastValue_eq hl.idle key

/-- A store that refuses its first write. -/
def refusingFirst : BackingStore Bool Nat Nat where
  load _ s := (.done none, s)
  write _ _ s := (if s then .done () else .failed (.internal "refused"), true)

/-- Two values under one key were set and flushed; the first one was refused. -/
def refusedThenStored : Course Bool Nat Nat :=
  let queued := ((WriteBehind.new ⟨2, Nat.two_pos⟩ 5 (false, []) 3 1).enqueue 1 10 0).enqueue 1 20 0
  { cache := (queued.flush refusingFirst.logged).2, sets := [(1, 10), (1, 20)] }

theorem refused_value_not_replayed :
    refusingFirst.NeverCrashes ∧ refusedThenStored.Reachable refusingFirst ∧
      refusedThenStored.flight = none ∧ refusedThenStored.cache.queue = [] ∧
      refusedThenStored.cache.backing.2 = [(1, 20)] ∧
      (refusedThenStored.cache.get 1 0).1 = some 20 ∧
      lastValue 1 refusedThenStored.sets = some 20 := by
  have hstore : refusingFirst.NeverCrashes := by
    intro key value s
    cases s <;> nofun
  have hreachable : refusedThenStored.Reachable refusingFirst := by
    have hnew : Reachable refusingFirst _ := .new ⟨2, Nat.two_pos⟩ 5 false 3 1 0
    have hqueued := (hnew.step (.arrive 1 10)).step (.arrive 1 20)
    exact hqueued.step (.flush rfl)
  obtain ⟨_, _, -, -, -, -, -, -, hget⟩ := accounted_between_operations hstore hreachable rfl
  exact ⟨hstore, hreachable, rfl, rfl, rfl, rfl, hget 1 0 20 rfl⟩

end Course

end AccessControl
