import AccessControl.Proofs.Cache.Drain
/-!
# A crash in the middle of a flush

A flush takes the queue before its first write, and after its last one puts back what it owes: the
values that were not written and have no later value of their key, be it in the batch or queued
since. In between, the queue holds nothing but what was queued since. So when one of its writes
crashes there is nobody left to put anything back, and what the flush owes at that moment is lost.

A flush is followed from its beginning, with look-ups and with values being queued between its
writes, to any moment before its end (`WriteBehind.Flight`).
-/
namespace AccessControl

variable {σ K V : Type} [DecidableEq K]

/-! ### What a flush owes -/

namespace FlushRun

/-- Of these values, the oldest first, those that were not written and whose key is neither among
the keys of later ones nor among the given ones. -/
def unsuperseded : List (K × V × Bool) → List K → List (K × V)
  | [], _ => []
  | (key, value, written) :: later, queued =>
    if written ∨ key ∈ later.map Prod.fst ∨ key ∈ queued then unsuperseded later queued
    else (key, value) :: unsuperseded later queued

/-- What is owed at this moment of a flush, if these values have been queued since it began. -/
def owed (run : FlushRun K V) (queued : List (K × V)) : List (K × V) :=
  unsuperseded (run.tried.reverse ++ run.waiting.map fun x => (x.1, x.2, false))
    (queued.map Prod.fst)

variable {values : List (K × V × Bool)} {waiting : List (K × V)} {queued : List K}

lemma key_not_mem_of_mem_unsuperseded {x : K × V} (hx : x ∈ unsuperseded values queued) :
    x.1 ∉ queued := by
  induction values with
  | nil => cases hx
  | cons t later ih =>
    obtain ⟨key, value, written⟩ := t
    rw [unsuperseded] at hx
    split at hx
    · exact ih hx
    · rename_i hkept
      rcases List.mem_cons.1 hx with rfl | hx
      · exact fun hqueued => hkept (Or.inr (Or.inr hqueued))
      · exact ih hx

lemma unsuperseded_of_append_eq_nil {older newer : List (K × V × Bool)}
    (h : unsuperseded (older ++ newer) queued = []) : unsuperseded newer queued = [] := by
  induction older with
  | nil => exact h
  | cons t older ih =>
    obtain ⟨key, value, written⟩ := t
    rw [List.cons_append, unsuperseded] at h
    split at h
    · exact ih h
    · cases h

/-- The last one of the unwritten values of a key can only be superseded by a queued one. -/
lemma key_mem_of_unsuperseded_eq_nil
    (h : unsuperseded (waiting.map fun x => (x.1, x.2, false)) queued = []) {x : K × V}
    (hx : x ∈ waiting) : x.1 ∈ queued := by
  induction waiting generalizing x with
  | nil => cases hx
  | cons y later ih =>
    rw [List.map_cons, unsuperseded] at h
    split at h
    · rename_i hsuperseded
      rcases List.mem_cons.1 hx with rfl | hx
      · rcases hsuperseded with hwritten | hlater | hqueued
        · cases hwritten
        · rw [List.map_map] at hlater
          obtain ⟨z, hz, hkey⟩ := List.mem_map.1 hlater
          rw [← hkey]
          exact ih h hz
        · exact hqueued
      · exact ih h hx
    · cases h

/-- If nothing is owed, then the values still to be written have been queued again. -/
lemma key_mem_of_owed_eq_nil {run : FlushRun K V} {arrived : List (K × V)}
    (h : run.owed arrived = []) {x : K × V} (hx : x ∈ run.waiting) : x.1 ∈ arrived.map Prod.fst :=
  key_mem_of_unsuperseded_eq_nil (unsuperseded_of_append_eq_nil h) hx

lemma unsuperseded_concat (values : List (K × V × Bool)) (key : K) (value : V) (written : Bool) :
    unsuperseded (values ++ [(key, value, written)]) queued =
      unsuperseded values (key :: queued) ++
        if written || queued.contains key then [] else [(key, value)] := by
  induction values with
  | nil => simp [unsuperseded]
  | cons t later ih =>
    obtain ⟨key', value', written'⟩ := t
    rw [List.cons_append, unsuperseded, unsuperseded, ih]
    have hsame : written' = true ∨ key' ∈ (later ++ [(key, value, written)]).map Prod.fst ∨
        key' ∈ queued ↔
      written' = true ∨ key' ∈ later.map Prod.fst ∨ key' ∈ key :: queued := by
      simp [or_assoc]
    rw [if_congr hsame rfl rfl]
    split
    · rfl
    · rw [List.cons_append]

/-- What goes back at the end of a flush is what has not been superseded. -/
lemma leftOver_eq_unsuperseded (tried : List (K × V × Bool)) (queued : List K) :
    leftOver tried queued [] = unsuperseded tried.reverse queued := by
  induction tried generalizing queued with
  | nil => rfl
  | cons t earlier ih =>
    obtain ⟨key, value, written⟩ := t
    rw [leftOver_cons, List.reverse_cons, unsuperseded_concat, ih]

end FlushRun

/-! ### A flush on its way -/

namespace WriteBehind

variable {store : BackingStore σ K V} {w w' w'' : WriteBehind σ K V} {run run' : FlushRun K V}
  {arrived : List (K × V)}

/-- What a flush of `w` may come to before its end, with the values that have been queued since it
began, the oldest first. -/
inductive Flight (store : BackingStore σ K V) (w : WriteBehind σ K V) :
    FlushRun K V → List (K × V) → WriteBehind σ K V → Prop
  | begin : Flight store w w.begin.1 [] w.begin.2
  | write {run run' : FlushRun K V} {arrived : List (K × V)} {w' w'' : WriteBehind σ K V}
    (h : Flight store w run arrived w') (hwrite : writeNext store run w' = (some run', w'')) :
    Flight store w run' arrived w''
  | arrive {run : FlushRun K V} {arrived : List (K × V)} {w' : WriteBehind σ K V}
    (h : Flight store w run arrived w') (key : K) (value : V) (now : Duration) :
    Flight store w run (arrived ++ [(key, value)]) (w'.enqueue key value now)
  | get {run : FlushRun K V} {arrived : List (K × V)} {w' : WriteBehind σ K V}
    (h : Flight store w run arrived w') (key : K) (now : Duration) :
    Flight store w run arrived (w'.get key now).2

omit [DecidableEq K] in
/-- A write that does not crash takes its value from those that wait to those that were tried. -/
lemma batch_writeNext (h : writeNext store run w = (some run', w')) :
    run'.attempted ++ run'.waiting = run.attempted ++ run.waiting ∧ w'.queue = w.queue := by
  unfold writeNext at h
  split at h
  · cases h
    exact ⟨rfl, rfl⟩
  · rename_i key value rest hwaiting
    split at h <;> cases h <;> simp [FlushRun.attempted, hwaiting]

omit [DecidableEq K] in
/-- A write that crashes had a value to write, and leaves the queue as it was. -/
lemma writeNext_crashed (h : writeNext store run w = (none, w')) :
    run.waiting ≠ [] ∧ w'.queue = w.queue := by
  unfold writeNext at h
  split at h
  · cases h
  · rename_i key value rest hwaiting
    rw [hwaiting]
    split at h <;> cases h
    exact ⟨List.cons_ne_nil _ _, rfl⟩

lemma Flight.batch (h : Flight store w run arrived w') :
    run.attempted ++ run.waiting = w.queue := by
  induction h with
  | begin => rfl
  | write h hwrite ih => rw [(batch_writeNext hwrite).1, ih]
  | arrive h key value now ih => exact ih
  | get h key now ih => exact ih

lemma Flight.queue (h : Flight store w run arrived w') : w'.queue = arrived := by
  induction h with
  | begin => rfl
  | write h hwrite ih => rw [(batch_writeNext hwrite).2, ih]
  | arrive h key value now ih => rw [WriteBehind.enqueue, ih]
  | get h key now ih => exact ih

/-- What a flush puts back at its end is what it owes. -/
lemma Flight.finish_queue (h : Flight store w run arrived w') (hwaiting : run.waiting = []) :
    (finish run w').queue = run.owed arrived ++ arrived := by
  rw [finish, FlushRun.leftOver_eq_unsuperseded, h.queue, FlushRun.owed, hwaiting, List.map_nil,
    List.append_nil]

/-- If writing the rest of a flush ends by a crash, then one of its writes crashes. -/
lemma Flight.exists_crash {n : Nat} (h : Flight store w run [] w')
    (hwrites : writeMany store n run w' = (none, w'')) :
    ∃ run' w', Flight store w run' [] w' ∧ writeNext store run' w' = (none, w'') := by
  induction n generalizing run w' with
  | zero => cases hwrites
  | succ n ih =>
    rw [writeMany] at hwrites
    split at hwrites
    · rename_i hcrash
      cases hwrites
      exact ⟨run, w', h, hcrash⟩
    · rename_i hwrite
      exact ih (h.write hwrite) hwrites

/-- A flush that is made at a stroke crashes at one of its writes. -/
lemma exists_crash_of_flush (h : w.flush store = (.crashed, w'')) :
    ∃ run w', Flight store w run [] w' ∧ writeNext store run w' = (none, w'') := by
  have hcomplete : complete store w.begin.1 w.begin.2 = (.crashed, w'') := h
  rw [complete] at hcomplete
  split at hcomplete
  · rename_i hwrites
    cases hcomplete
    exact Flight.exists_crash .begin hwrites
  · cases hcomplete

/-- Nothing of what a crashed flush owes is in the queue, as their keys have not been queued. -/
lemma Flight.not_mem_of_owed (h : Flight store w run arrived w')
    (hcrash : writeNext store run w' = (none, w'')) {x : K × V} (hx : x ∈ run.owed arrived) :
    x ∉ w''.queue := by
  rw [(writeNext_crashed hcrash).2, h.queue]
  exact fun hmem => FlushRun.key_not_mem_of_mem_unsuperseded hx (List.mem_map_of_mem hmem)

/-- A crash always leaves something owed, unless values have been queued meanwhile. -/
lemma owed_ne_nil_of_crash (hcrash : writeNext store run w' = (none, w'')) : run.owed [] ≠ [] := by
  intro hnone
  obtain ⟨x, hx⟩ := List.exists_mem_of_ne_nil _ (writeNext_crashed hcrash).1
  cases FlushRun.key_mem_of_owed_eq_nil hnone hx

/-- The tick whose flush crashes is the last one. -/
lemma tick_of_crash (hflush : w.flush store = (.crashed, w'')) (n : Nat) :
    tick store (n + 1) w = { w'' with flusher := .crashed } := by
  have hqueue : w.queue ≠ [] := by
    obtain ⟨run, w', hflight, hcrash⟩ := exists_crash_of_flush hflush
    rw [← hflight.batch]
    exact List.append_ne_nil_of_right_ne_nil _ (writeNext_crashed hcrash).1
  rw [tick, if_neg (by simpa using hqueue), hflush]

/-- A flush that comes to its end puts back what it owes. One that crashes at a write puts back
nothing, and all that it owes is lost: it would be there only if it were nothing at all, which is so
only if the values still to be written have been queued again. Nor does any later flush write it.
When the flusher crashes and nothing was queued since its flush began, something is lost in any
case. -/
theorem crash_keeps_owed_iff_nothing_owed (store : BackingStore σ K V) (w : WriteBehind σ K V) :
    (∀ run arrived w', Flight store w run arrived w' →
      run.attempted ++ run.waiting = w.queue ∧
        (run.waiting = [] → (finish run w').queue = run.owed arrived ++ arrived) ∧
        ∀ w'', writeNext store run w' = (none, w'') →
          w''.queue = arrived ∧ (∀ x ∈ run.owed arrived, x ∉ w''.queue) ∧
            ((run.owed arrived).Sublist w''.queue ↔ run.owed arrived = []) ∧
            (run.owed arrived = [] → ∀ x ∈ run.waiting, x.1 ∈ arrived.map Prod.fst) ∧
            ∀ working s, BackingStore.writeAll working arrived w''.backing = some s →
              w''.flush working =
                (.done arrived.length, { w'' with queue := [], backing := s })) ∧
      ∀ w'', w.flush store = (.crashed, w'') →
        (∀ n, tick store (n + 1) w = { w'' with flusher := .crashed }) ∧ w''.queue = [] ∧
          ∃ run w', Flight store w run [] w' ∧ writeNext store run w' = (none, w'') ∧
            run.owed [] ≠ [] := by
  constructor
  · intro run arrived w' hflight
    refine ⟨hflight.batch, hflight.finish_queue, fun w'' hcrash => ?_⟩
    have hqueue : w''.queue = arrived := (writeNext_crashed hcrash).2.trans hflight.queue
    have hlost := fun x => hflight.not_mem_of_owed hcrash (x := x)
    refine ⟨hqueue, hlost, ⟨fun hsub => ?_, fun hnone => ?_⟩,
      fun hnone x hx => FlushRun.key_mem_of_owed_eq_nil hnone hx, fun working s hwrites => ?_⟩
    · exact List.eq_nil_iff_forall_not_mem.2 fun x hx => hlost x hx (hsub.subset hx)
    · rw [hnone]
      exact List.nil_sublist _
    · rw [← hqueue] at hwrites ⊢
      exact flush_of_writeAll hwrites
  · intro w'' hflush
    obtain ⟨run, w', hflight, hcrash⟩ := exists_crash_of_flush hflush
    have hqueue : w''.queue = [] := (writeNext_crashed hcrash).2.trans hflight.queue
    exact ⟨tick_of_crash hflush, hqueue, run, w', hflight, hcrash, owed_ne_nil_of_crash hcrash⟩

end WriteBehind

/-- A store that refuses its first write and crashes at its second. -/
def refusingThenCrashing : BackingStore Nat Nat Nat where
  load _ s := (.done none, s)
  write _ _ s :=
    (if s = 0 then .failed (.internal "refused") else if s = 1 then .crashed else .done (), s + 1)

/-- Three values are queued, the last one under the key of the first. -/
def threeQueued : WriteBehind Nat Nat Nat :=
  (((WriteBehind.new ⟨2, Nat.two_pos⟩ 5 0 5 1).enqueue 1 10 0).enqueue 2 20 0).enqueue 1 30 0

theorem crash_loses_last_of_key :
    ∃ run w' w'', threeQueued.Flight refusingThenCrashing run [(2, 40)] w' ∧
      WriteBehind.writeNext refusingThenCrashing run w' = (none, w'') ∧
      run.owed [(2, 40)] = [(1, 30)] ∧ w''.queue = [(2, 40)] ∧ (1, 30) ∉ w''.queue ∧
      (WriteBehind.tick refusingThenCrashing 1 threeQueued).queue = [] := by
  obtain ⟨hflights, hflusher⟩ :=
    WriteBehind.crash_keeps_owed_iff_nothing_owed refusingThenCrashing threeQueued
  have hrefused : threeQueued.Flight refusingThenCrashing _ [] _ := .write .begin rfl
  have hflight := hrefused.arrive 2 40 0
  obtain ⟨-, -, hcrashed⟩ := hflights _ _ _ hflight
  obtain ⟨hqueue, hlost, -⟩ := hcrashed _ rfl
  obtain ⟨htick, hempty, -⟩ := hflusher _ rfl
  have hticked := (congrArg WriteBehind.queue (htick 0)).trans hempty
  exact ⟨_, _, _, hflight, rfl, rfl, hqueue, hlost (1, 30) (List.mem_singleton_self _), hticked⟩

end AccessControl
