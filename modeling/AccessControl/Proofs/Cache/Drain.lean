import AccessControl.Proofs.Cache.WriteBehind
/-!
# Stopping the flusher

A flush over a store that takes all values writes the whole queue in its order and leaves nothing
behind. So stopping the flusher drains the queue, be the flusher idle or running. If the flusher has
crashed, stopping it tells so and leaves the queue as it is; only the next stop drains it.
-/
namespace AccessControl

variable {σ K V : Type}

/-- The state of the store after these values have been written one after the other; none if one of
them is refused or a write crashes. -/
def BackingStore.writeAll (store : BackingStore σ K V) : List (K × V) → σ → Option σ
  | [], s => some s
  | (key, value) :: rest, s =>
    match store.write key value s with
    | (.done (), s') => store.writeAll rest s'
    | _ => none

variable [DecidableEq K] {store : BackingStore σ K V}

/-- What was written does not go back. -/
lemma FlushRun.leftOver_of_written {tried : List (K × V × Bool)} {later : List K}
    {back : List (K × V)} (h : ∀ t ∈ tried, t.2.2 = true) : leftOver tried later back = back := by
  induction tried generalizing later with
  | nil => rfl
  | cons t earlier ih =>
    obtain ⟨hwritten, hrest⟩ := List.forall_mem_cons.1 h
    obtain ⟨key, value, written⟩ := t
    obtain rfl : written = true := hwritten
    rw [leftOver, Bool.true_or, if_pos rfl, ih hrest]

namespace WriteBehind

variable {w : WriteBehind σ K V} {s : σ}

omit [DecidableEq K] in
/-- A store that takes all values takes those of a flush in their order. -/
lemma writeMany_of_writeAll (waiting : List (K × V)) (tried : List (K × V × Bool))
    (w : WriteBehind σ K V) (h : store.writeAll waiting w.backing = some s) :
    writeMany store waiting.length { waiting, tried } w =
      (some { waiting := [], tried := (waiting.map fun x => (x.1, x.2, true)).reverse ++ tried },
        { w with backing := s }) := by
  induction waiting generalizing tried w with
  | nil =>
    cases h
    rfl
  | cons entry rest ih =>
    obtain ⟨key, value⟩ := entry
    rw [BackingStore.writeAll] at h
    split at h
    · rename_i s' hwrite
      simp only [List.length_cons, writeMany, writeNext, hwrite]
      rw [ih ((key, value, true) :: tried) { w with backing := s' } h]
      simp
    · cases h

/-- Over a store that takes all values a flush writes the queue in its order and empties it. -/
lemma flush_of_writeAll (h : store.writeAll w.queue w.backing = some s) :
    w.flush store = (.done w.pending, { w with queue := [], backing := s }) := by
  have hwrites := writeMany_of_writeAll w.queue [] w.begin.2 h
  have hleft : FlushRun.leftOver (w.queue.map fun x => (x.1, x.2, true)).reverse [] [] = [] := by
    refine FlushRun.leftOver_of_written fun t ht => ?_
    obtain ⟨x, -, rfl⟩ := List.mem_map.1 (List.mem_reverse.1 ht)
    rfl
  have hcount : ((w.queue.map fun x => (x.1, x.2, true)).filter fun t => t.2.2).length =
      w.queue.length := by
    rw [List.filter_eq_self.2 (by simp), List.length_map]
  show complete store w.begin.1 w.begin.2 = _
  rw [complete, show w.begin.1 = { waiting := w.queue } from rfl, hwrites]
  simp [finish, FlushRun.stored, pending, begin, hleft, hcount]

/-- Stopping a flusher that has not crashed, or was never started, drains the queue. -/
lemma stop_of_not_crashed (h : store.writeAll w.queue w.backing = some s)
    (hflusher : w.flusher ≠ .crashed) :
    w.stop store =
      (.ok (.done w.pending), { w with queue := [], backing := s, flusher := .idle }) := by
  have hflush := flush_of_writeAll (w := { w with flusher := .idle }) h
  unfold stop
  split
  · exact absurd ‹w.flusher = .crashed› hflusher
  · dsimp only
    rw [hflush]
    rfl

/-- A crash of the flusher is told when it is stopped, and all but the flusher stays as it is. -/
lemma stop_of_crashed (hflusher : w.flusher = .crashed) :
    w.stop store =
      (.error (.internal "background task panicked"), { w with flusher := .idle }) := by
  rw [stop, hflusher]

/-- Stopping drains the queue unless the flusher has crashed. A crash is told instead, and what is
pending is left to the next stop. -/
theorem stop_drains_iff_not_crashed (h : store.writeAll w.queue w.backing = some s) :
    ((w.stop store).2.backing = s ∧ (w.stop store).2.pending = 0 ↔
        w.flusher ≠ .crashed ∨ w.queue = []) ∧
      (w.flusher ≠ .crashed → w.stop store =
        (.ok (.done w.pending), { w with queue := [], backing := s, flusher := .idle })) ∧
      (w.flusher = .crashed →
        w.stop store =
            (.error (.internal "background task panicked"), { w with flusher := .idle }) ∧
          (w.stop store).2.stop store =
            (.ok (.done w.pending), { w with queue := [], backing := s, flusher := .idle })) := by
  refine ⟨?_, stop_of_not_crashed h, fun hflusher => ⟨stop_of_crashed hflusher, ?_⟩⟩
  · by_cases hflusher : w.flusher = .crashed
    · rw [stop_of_crashed hflusher, or_iff_right (not_not_intro hflusher)]
      constructor
      · rintro ⟨-, hpending⟩
        exact List.length_eq_zero_iff.1 hpending
      · intro hqueue
        rw [hqueue] at h
        exact ⟨Option.some.inj h, List.length_eq_zero_iff.2 hqueue⟩
    · rw [stop_of_not_crashed h hflusher]
      exact iff_of_true ⟨rfl, rfl⟩ (Or.inl hflusher)
  · -- The first stop has made the flusher idle and left the queue and the store as they were.
    rw [stop_of_crashed hflusher]
    exact stop_of_not_crashed (w := { w with flusher := .idle }) h nofun

end WriteBehind

/-! A store whose first write crashes. It is the flusher that makes it, and a value is set after
that. -/

def crashingFirst : BackingStore Bool Nat Nat where
  load _ s := (.done none, s)
  write _ _ s := (if s then .done () else .crashed, true)

def setAfterCrash : Course Bool Nat Nat :=
  let started := ((WriteBehind.new ⟨2, Nat.two_pos⟩ 5 (false, []) 3 1).start 0).2
  let crashed := (started.set crashingFirst.logged 1 10 0).2.catchUp crashingFirst.logged 1
  { cache := (crashed.set crashingFirst.logged 1 20 1).2, now := 1, sets := [(1, 10), (1, 20)] }

theorem stop_after_crash_leaves_queue :
    setAfterCrash.Reachable crashingFirst ∧
      crashingFirst.logged.writeAll setAfterCrash.cache.queue setAfterCrash.cache.backing =
        some (true, [(1, 20)]) ∧
      (setAfterCrash.cache.stop crashingFirst.logged).1 =
        .error (.internal "background task panicked") ∧
      (setAfterCrash.cache.stop crashingFirst.logged).2.pending = 1 ∧
      (setAfterCrash.cache.stop crashingFirst.logged).2.backing.2 = [] := by
  have hreachable : setAfterCrash.Reachable crashingFirst := by
    have hnew : Course.Reachable crashingFirst _ := .new ⟨2, Nat.two_pos⟩ 5 false 3 1 0
    have hset := (hnew.step .start).step (.set 1 10 rfl)
    exact (hset.step (.advance 1 rfl)).step (.set 1 20 rfl)
  have hwrites : crashingFirst.logged.writeAll setAfterCrash.cache.queue
      setAfterCrash.cache.backing = some (true, [(1, 20)]) := rfl
  obtain ⟨-, -, hstop⟩ := WriteBehind.stop_drains_iff_not_crashed hwrites
  obtain ⟨hfailed, -⟩ := hstop rfl
  rw [hfailed]
  exact ⟨hreachable, hwrites, rfl, rfl, rfl⟩

end AccessControl
