import AccessControl.Cache.WriteBehind
import AccessControl.Proofs.Sequences
import Mathlib.Data.List.Induction
/-!
# The ledger of queued writes

The values that are set are numbered in their order. A ledger says which of them have been stored,
which ones a flush on its way has tried or still has to write, and which ones are queued. It is in
order if what is pending is in the order of the numbers, what was stored under one key is in the
order of the numbers and comes before what is pending under that key, and every value that was set
is stored or pending itself, or a later value of its key is.

A ledger in order stays in order when a value is set (`Ledger.InOrder.enqueue`), when a flush takes
the queue (`begin`), tries its next value (`writeNext`), and puts back what it could not write
(`finish`). The last is the one that needs an argument: a value that goes back was not written, and
neither were any values of its key that were tried after it, because there are none.
-/
namespace AccessControl

variable {K V W : Type}

/-- A value that was set, with its number. -/
abbrev Numbered (K V : Type) := K × Nat × V

namespace Numbered

/-- The number of the value. -/
def number (x : Numbered K V) : Nat := x.2.1

/-- What was set, without the number. -/
def plain (x : Numbered K V) : K × V := (x.1, x.2.2)

end Numbered

/-! ### What goes back to the queue -/

namespace FlushRun

/-- What has been tried, the oldest first. -/
def attempted (run : FlushRun K V) : List (K × V) := (run.tried.map fun t => (t.1, t.2.1)).reverse

variable [DecidableEq K] {tried : List (K × V × Bool)} {later : List K} {key : K} {value : V}

lemma leftOver_append (tried : List (K × V × Bool)) (later : List K) (back : List (K × V)) :
    leftOver tried later back = leftOver tried later [] ++ back := by
  induction tried generalizing later back with
  | nil => rfl
  | cons t earlier ih =>
    obtain ⟨key, value, written⟩ := t
    rw [leftOver, leftOver, ih]
    split
    · rfl
    · rw [ih (key :: later) [(key, value)], List.append_assoc, List.singleton_append]

lemma leftOver_cons (written : Bool) (earlier : List (K × V × Bool)) :
    leftOver ((key, value, written) :: earlier) later [] =
      leftOver earlier (key :: later) [] ++
        if written || later.contains key then [] else [(key, value)] := by
  rw [leftOver, leftOver_append]

/-- The values that go back are those that were not written, and whose keys are not among those of
later values, be they tried or queued. -/
lemma mem_leftOver_iff :
    (key, value) ∈ leftOver tried later [] ↔
      key ∉ later ∧ ∃ newer older, tried = newer ++ (key, value, false) :: older ∧
        ∀ t ∈ newer, t.1 ≠ key := by
  induction tried generalizing later with
  | nil => simp [leftOver]
  | cons t earlier ih =>
    obtain ⟨key', value', written⟩ := t
    -- The value tried last is looked at first, and its key counts as later for all others.
    rw [leftOver_cons, List.mem_append, ih]
    constructor
    · rintro (⟨hlater, newer, older, rfl, hnewer⟩ | h)
      · obtain ⟨hne, hlater⟩ := not_or.1 (mt List.mem_cons.2 hlater)
        refine ⟨hlater, (key', value', written) :: newer, older, rfl, fun t ht => ?_⟩
        rcases List.mem_cons.1 ht with rfl | ht
        · exact Ne.symm hne
        · exact hnewer t ht
      · split at h
        · cases h
        · rename_i hkept
          cases List.mem_singleton.1 h
          simp only [Bool.or_eq_true, List.contains_iff_mem, not_or, Bool.not_eq_true] at hkept
          exact ⟨hkept.2, [], earlier, by rw [hkept.1]; rfl, by simp⟩
    · rintro ⟨hlater, newer, older, heq, hnewer⟩
      cases newer with
      | nil =>
        cases heq
        exact Or.inr (by simp [hlater])
      | cons t newer =>
        cases heq
        have hne := hnewer _ List.mem_cons_self
        refine Or.inl ⟨fun hmem => ?_, newer, older, rfl, fun t ht => ?_⟩
        · rcases List.mem_cons.1 hmem with h | h
          · exact hne h.symm
          · exact hlater h
        · exact hnewer t (List.mem_cons_of_mem _ ht)

/-- What goes back keeps its order. -/
lemma leftOver_sublist (tried : List (K × V × Bool)) (later : List K) :
    (leftOver tried later []).Sublist (tried.map fun t => (t.1, t.2.1)).reverse := by
  induction tried generalizing later with
  | nil => exact List.Sublist.refl _
  | cons t earlier ih =>
    obtain ⟨key, value, written⟩ := t
    rw [leftOver_cons, List.map_cons, List.reverse_cons]
    refine (ih (key :: later)).append ?_
    split
    · exact List.nil_sublist _
    · exact List.Sublist.refl _

/-- What goes back does not depend on the values. -/
lemma leftOver_map (f : V → W) (tried : List (K × V × Bool)) (later : List K) :
    leftOver (tried.map fun t => (t.1, f t.2.1, t.2.2)) later [] =
      (leftOver tried later []).map fun x => (x.1, f x.2) := by
  induction tried generalizing later with
  | nil => rfl
  | cons t earlier ih =>
    obtain ⟨key, value, written⟩ := t
    rw [List.map_cons, leftOver_cons, leftOver_cons, ih, List.map_append]
    split <;> rfl

end FlushRun

/-! ### The ledger -/

/-- What has become of the values that were set. -/
structure Ledger (K V : Type) where
  /-- What has been stored, the first write first. -/
  stored : List (Numbered K V) := []
  /-- The flush on its way; between flushes it is empty. -/
  run : FlushRun K (Nat × V) := { waiting := [] }
  queued : List (Numbered K V) := []

namespace Ledger

variable {l : Ledger K V} {sets : List (K × V)} {key : K} {value : V} {x y : Numbered K V}

/-- What has been tried in this flush, what it still has to write, and what is queued. -/
def pending (l : Ledger K V) : List (Numbered K V) := l.run.attempted ++ l.run.waiting ++ l.queued

/-- The ledger accounts for the values that were set. -/
structure InOrder (l : Ledger K V) (sets : List (K × V)) : Prop where
  numbered : ∀ x, x ∈ l.stored ∨ x ∈ l.pending → sets[x.number]? = some x.plain
  pending_order : l.pending.Pairwise fun x y => x.number < y.number
  stored_order : l.stored.Pairwise fun x y => x.1 = y.1 → x.number < y.number
  stored_first : ∀ x ∈ l.stored, ∀ y : Numbered K V, y ∈ l.run.waiting ++ l.queued →
    x.1 = y.1 → x.number < y.number
  /-- Of what was stored and what has been tried in this flush the same is true, unless the one that
  was stored has been tried too. -/
  stored_or_tried : ∀ x ∈ l.stored, ∀ y : Numbered K V, y ∈ l.run.attempted →
    x.1 = y.1 → x.number < y.number ∨ (x.1, x.2, true) ∈ l.run.tried
  written : ∀ x : Numbered K V, (x.1, x.2, true) ∈ l.run.tried → x ∈ l.stored
  /-- A value that was set is there, or a later value of its key is. -/
  accounted : ∀ (n : Nat) key value, sets[n]? = some (key, value) →
    ∃ x : Numbered K V, x.1 = key ∧ n ≤ x.number ∧ (x ∈ l.stored ∨ x ∈ l.pending)

lemma InOrder.number_lt (h : l.InOrder sets) (hx : x ∈ l.stored ∨ x ∈ l.pending) :
    x.number < sets.length :=
  (List.getElem?_eq_some_iff.1 (h.numbered x hx)).1

lemma inOrder_empty : ({} : Ledger K V).InOrder [] where
  numbered _ h := by simp [pending, FlushRun.attempted] at h
  pending_order := by simp [pending, FlushRun.attempted]
  stored_order := List.Pairwise.nil
  stored_first := nofun
  stored_or_tried := nofun
  written := nofun
  accounted := nofun

/-! ### What operations do to the ledger -/

/-- The next value has been queued. -/
def enqueue (l : Ledger K V) (n : Nat) (key : K) (value : V) : Ledger K V :=
  { l with queued := l.queued ++ [(key, n, value)] }

lemma pending_enqueue (n : Nat) (key : K) (value : V) :
    (l.enqueue n key value).pending = l.pending ++ [(key, n, value)] := by
  simp [pending, enqueue]

lemma InOrder.enqueue (h : l.InOrder sets) (key : K) (value : V) :
    (l.enqueue sets.length key value).InOrder (sets ++ [(key, value)]) where
  numbered x hx := by
    rw [pending_enqueue, List.mem_append, List.mem_singleton] at hx
    by_cases hold : x ∈ l.stored ∨ x ∈ l.pending
    · rw [List.getElem?_append_left (h.number_lt hold)]
      exact h.numbered x hold
    · rcases hx with hx | hx | rfl
      · exact absurd (Or.inl hx) hold
      · exact absurd (Or.inr hx) hold
      · exact List.getElem?_concat_length
  pending_order := by
    rw [pending_enqueue, List.pairwise_append]
    refine ⟨h.pending_order, List.pairwise_singleton _ _, fun x hx y hy => ?_⟩
    rw [List.mem_singleton.1 hy]
    exact h.number_lt (Or.inr hx)
  stored_order := h.stored_order
  stored_first x hx y hy hkey := by
    rw [Ledger.enqueue, ← List.append_assoc, List.mem_append, List.mem_singleton] at hy
    rcases hy with hy | rfl
    · exact h.stored_first x hx y hy hkey
    · exact h.number_lt (Or.inl hx)
  stored_or_tried := h.stored_or_tried
  written := h.written
  accounted n key' value' hn := by
    rw [pending_enqueue]
    rcases Nat.lt_or_ge n sets.length with hlt | hge
    · rw [List.getElem?_append_left hlt] at hn
      obtain ⟨x, hkey, hle, hx⟩ := h.accounted n key' value' hn
      exact ⟨x, hkey, hle, hx.imp_right (List.mem_append_left _)⟩
    · have hlength : n < sets.length + 1 := by
        simpa using (List.getElem?_eq_some_iff.1 hn).1
      obtain rfl : n = sets.length := by omega
      rw [List.getElem?_concat_length] at hn
      cases hn
      exact ⟨(key, sets.length, value), rfl, Nat.le_refl _, Or.inr (by simp)⟩

/-- A flush has taken the queue. -/
def begin (l : Ledger K V) : Ledger K V := { l with run := { waiting := l.queued }, queued := [] }

lemma InOrder.begin (h : l.InOrder sets) (hidle : l.run = { waiting := [] }) :
    l.begin.InOrder sets := by
  have hpending : l.begin.pending = l.pending := by
    simp [pending, Ledger.begin, hidle, FlushRun.attempted]
  refine ⟨?_, ?_, h.stored_order, ?_, nofun, nofun, ?_⟩
  · rw [hpending]
    exact h.numbered
  · rw [hpending]
    exact h.pending_order
  · intro x hx y hy
    refine h.stored_first x hx y (List.mem_append_right _ ?_)
    simpa [Ledger.begin] using hy
  · rw [hpending]
    exact h.accounted

/-- The next value of the flush has been tried. -/
def writeNext (l : Ledger K V) (x : Numbered K V) (rest : List (Numbered K V)) (written : Bool) :
    Ledger K V where
  stored := if written then l.stored ++ [x] else l.stored
  run := { waiting := rest, tried := (x.1, x.2, written) :: l.run.tried }
  queued := l.queued

lemma pending_writeNext {rest : List (Numbered K V)} (hwaiting : l.run.waiting = x :: rest)
    (written : Bool) : (l.writeNext x rest written).pending = l.pending := by
  simp [pending, writeNext, hwaiting, FlushRun.attempted]

lemma mem_stored_writeNext {rest : List (Numbered K V)} {written : Bool} :
    y ∈ (l.writeNext x rest written).stored ↔ y ∈ l.stored ∨ written = true ∧ y = x := by
  cases written <;> simp [writeNext]

/-- The next value of the flush has a smaller number than the rest and the queue. -/
lemma InOrder.number_lt_of_rest (h : l.InOrder sets) {rest : List (Numbered K V)}
    (hwaiting : l.run.waiting = x :: rest) (hy : y ∈ rest ++ l.queued) : x.number < y.number := by
  have horder := h.pending_order
  rw [pending, hwaiting, List.append_assoc, List.pairwise_append] at horder
  exact (List.pairwise_cons.1 horder.2.1).1 y hy

/-- What is stored under the key of the next value of the flush has a smaller number. -/
lemma InOrder.number_lt_of_stored (h : l.InOrder sets) {rest : List (Numbered K V)}
    (hwaiting : l.run.waiting = x :: rest) (hy : y ∈ l.stored) (hkey : y.1 = x.1) :
    y.number < x.number :=
  h.stored_first y hy x (by simp [hwaiting]) hkey

lemma InOrder.writeNext (h : l.InOrder sets) {rest : List (Numbered K V)}
    (hwaiting : l.run.waiting = x :: rest) (written : Bool) :
    (l.writeNext x rest written).InOrder sets where
  numbered y hy := by
    rw [pending_writeNext hwaiting, mem_stored_writeNext] at hy
    rcases hy with (hy | ⟨-, rfl⟩) | hy
    · exact h.numbered y (Or.inl hy)
    · exact h.numbered y (Or.inr (by simp [pending, hwaiting]))
    · exact h.numbered y (Or.inr hy)
  pending_order := by
    rw [pending_writeNext hwaiting]
    exact h.pending_order
  stored_order := by
    cases written with
    | false => exact h.stored_order
    | true =>
      show (l.stored ++ [x]).Pairwise _
      rw [List.pairwise_append]
      refine ⟨h.stored_order, List.pairwise_singleton _ _, fun y hy z hz hkey => ?_⟩
      rw [List.mem_singleton.1 hz] at hkey ⊢
      exact h.number_lt_of_stored hwaiting hy hkey
  stored_first y hy z hz hkey := by
    rcases mem_stored_writeNext.1 hy with hy | ⟨-, rfl⟩
    · refine h.stored_first y hy z ?_ hkey
      rw [hwaiting]
      exact List.mem_cons_of_mem _ hz
    · exact h.number_lt_of_rest hwaiting hz
  stored_or_tried y hy z hz hkey := by
    have hz : z = x ∨ z ∈ l.run.attempted := by
      simpa [Ledger.writeNext, FlushRun.attempted, or_comm] using hz
    rcases mem_stored_writeNext.1 hy with hold | ⟨rfl, rfl⟩
    · rcases hz with rfl | hz
      · exact Or.inl (h.number_lt_of_stored hwaiting hold hkey)
      · exact (h.stored_or_tried y hold z hz hkey).imp_right (List.mem_cons_of_mem _)
    · exact Or.inr List.mem_cons_self
  written y hy := by
    rw [mem_stored_writeNext]
    rcases List.mem_cons.1 hy with heq | hy
    · simp only [Prod.mk.injEq] at heq
      exact Or.inr ⟨heq.2.2.symm, Prod.ext heq.1 heq.2.1⟩
    · exact Or.inl (h.written y hy)
  accounted n key value hn := by
    obtain ⟨y, hkey, hle, hy⟩ := h.accounted n key value hn
    rw [pending_writeNext hwaiting]
    exact ⟨y, hkey, hle, hy.imp_left fun hy => mem_stored_writeNext.2 (Or.inl hy)⟩

/-- What was tried earlier has the smaller number. -/
lemma InOrder.number_lt_of_older (h : l.InOrder sets) {newer older : List (K × (Nat × V) × Bool)}
    {s t : K × (Nat × V) × Bool} (htried : l.run.tried = newer ++ t :: older) (hs : s ∈ older) :
    s.2.1.1 < t.2.1.1 := by
  have horder := h.pending_order
  rw [pending, List.append_assoc, List.pairwise_append, FlushRun.attempted, htried,
    List.map_append, List.map_cons, List.reverse_append, List.reverse_cons, List.append_assoc,
    List.pairwise_append] at horder
  refine horder.1.2.2 (s.1, s.2.1) ?_ (t.1, t.2.1) (by simp)
  exact List.mem_reverse.2 (List.mem_map.2 ⟨s, hs, rfl⟩)

section Finish

variable [DecidableEq K]

/-- What the flush could not write is back in the queue. -/
def finish (l : Ledger K V) : Ledger K V where
  stored := l.stored
  queued := FlushRun.leftOver l.run.tried (l.queued.map Prod.fst) [] ++ l.queued

/-- Of what was tried under a key the latest is written, or goes back, or a later value of the key
is queued. -/
lemma InOrder.exists_of_tried (h : l.InOrder sets) {t : K × (Nat × V) × Bool}
    (ht : t ∈ l.run.tried) :
    ∃ x : Numbered K V, x.1 = t.1 ∧ t.2.1.1 ≤ x.number ∧
      (x ∈ l.stored ∨ x ∈ FlushRun.leftOver l.run.tried (l.queued.map Prod.fst) [] ∨
        x ∈ l.queued) := by
  -- The last value tried under the key is the only one that can go back.
  obtain ⟨⟨key, x, written⟩, hfind⟩ : ∃ last, l.run.tried.find? (fun s => s.1 = t.1) = some last :=
    Option.isSome_iff_exists.1 (List.find?_isSome.2 ⟨t, ht, decide_eq_true rfl⟩)
  obtain ⟨hfound, newer, older, htried, hothers⟩ := List.find?_eq_some_iff_append.1 hfind
  have hkey : key = t.1 := of_decide_eq_true hfound
  have hnewer : ∀ s ∈ newer, s.1 ≠ t.1 := fun s hs => by simpa using hothers s hs
  have hle : t.2.1.1 ≤ x.1 := by
    rw [htried] at ht
    rcases List.mem_append.1 ht with ht | ht
    · exact absurd rfl (hnewer t ht)
    · rcases List.mem_cons.1 ht with rfl | ht
      · exact Nat.le_refl _
      · exact Nat.le_of_lt (h.number_lt_of_older htried ht)
  cases written with
  | true =>
    have hmem : (key, x, true) ∈ l.run.tried := by simp [htried]
    exact ⟨(key, x), hkey, hle, Or.inl (h.written (key, x) hmem)⟩
  | false =>
    by_cases hqueued : key ∈ l.queued.map Prod.fst
    · obtain ⟨y, hy, rfl⟩ := List.mem_map.1 hqueued
      refine ⟨y, hkey, Nat.le_trans hle (Nat.le_of_lt ?_), Or.inr (Or.inr hy)⟩
      have horder := h.pending_order
      rw [pending, List.append_assoc, List.pairwise_append] at horder
      exact horder.2.2 (y.1, x) (by simp [FlushRun.attempted, htried]) y
        (List.mem_append_right _ hy)
    · refine ⟨(key, x), hkey, hle, Or.inr (Or.inl (FlushRun.mem_leftOver_iff.2
        ⟨hqueued, newer, older, htried, fun s hs => ?_⟩))⟩
      rw [hkey]
      exact hnewer s hs

lemma InOrder.finish (h : l.InOrder sets) (hwaiting : l.run.waiting = []) :
    l.finish.InOrder sets := by
  have hsub : l.finish.pending.Sublist l.pending := by
    have hleft := FlushRun.leftOver_sublist l.run.tried (l.queued.map Prod.fst)
    simpa [pending, Ledger.finish, FlushRun.attempted, hwaiting] using hleft
  have hback : ∀ x : Numbered K V,
      x ∈ FlushRun.leftOver l.run.tried (l.queued.map Prod.fst) [] ∨ x ∈ l.queued →
        x ∈ l.finish.pending := by
    intro x hx
    simpa [pending, Ledger.finish, FlushRun.attempted] using hx
  refine ⟨?_, h.pending_order.sublist hsub, h.stored_order, ?_, nofun, nofun, ?_⟩
  · rintro x (hx | hx)
    · exact h.numbered x (Or.inl hx)
    · exact h.numbered x (Or.inr (hsub.subset hx))
  · intro x hx y hy hkey
    rcases List.mem_append.1 (show y ∈ _ ++ l.queued from hy) with hy | hy
    · obtain ⟨-, newer, older, htried, hnewer⟩ := FlushRun.mem_leftOver_iff.1 hy
      have hattempted : y ∈ l.run.attempted := by simp [FlushRun.attempted, htried]
      rcases h.stored_or_tried x hx y hattempted hkey with hlt | hmem
      · exact hlt
      · -- What was written of the key was not tried after what goes back.
        rw [htried] at hmem
        rcases List.mem_append.1 hmem with hmem | hmem
        · exact absurd hkey (hnewer _ hmem)
        · rcases List.mem_cons.1 hmem with heq | hmem
          · simp at heq
          · exact h.number_lt_of_older htried hmem
    · exact h.stored_first x hx y (List.mem_append_right _ hy) hkey
  · intro n key value hn
    obtain ⟨x, hkey, hle, hx | hx⟩ := h.accounted n key value hn
    · exact ⟨x, hkey, hle, Or.inl hx⟩
    · rw [pending, hwaiting, List.append_nil, List.mem_append] at hx
      rcases hx with hx | hx
      · obtain ⟨t, ht, rfl⟩ := List.mem_map.1 (List.mem_reverse.1 hx)
        obtain ⟨y, hykey, hyle, hy⟩ := h.exists_of_tried ht
        exact ⟨y, hykey.trans hkey, Nat.le_trans hle hyle, hy.imp_right (hback y)⟩
      · exact ⟨x, hkey, hle, Or.inr (hback x (Or.inr hx))⟩

end Finish

/-! ### Between flushes -/

lemma pending_of_idle (hidle : l.run = { waiting := [] }) : l.pending = l.queued := by
  simp [pending, hidle, FlushRun.attempted]

/-- The number of a value leads back to its key. -/
lemma InOrder.key_eq (h : l.InOrder sets) (hx : x ∈ l.stored ∨ x ∈ l.pending) :
    (sets[x.number]?).map Prod.fst = some x.1 := by
  rw [h.numbered x hx]
  rfl

/-- One number stands for one key. -/
lemma InOrder.key_inj (h : l.InOrder sets) (hx : x ∈ l.stored ∨ x ∈ l.pending)
    (hy : y ∈ l.stored ∨ y ∈ l.pending) (hxy : x.number = y.number) : x.1 = y.1 := by
  have hkey := h.key_eq hx
  rw [hxy, h.key_eq hy] at hkey
  exact (Option.some.inj hkey).symm

/-- Nothing is stored twice. -/
lemma InOrder.nodup_stored (h : l.InOrder sets) : (l.stored.map Numbered.number).Nodup := by
  rw [List.Nodup, List.pairwise_map]
  refine h.stored_order.imp_of_mem fun {x y} hx hy hlt heq => ?_
  exact Nat.ne_of_lt (hlt (h.key_inj (Or.inl hx) (Or.inl hy) heq)) heq

/-- Nothing is pending twice. -/
lemma InOrder.nodup_pending (h : l.InOrder sets) : (l.pending.map Numbered.number).Nodup := by
  rw [List.Nodup, List.pairwise_map]
  exact h.pending_order.imp Nat.ne_of_lt

/-- What waits in the queue has not been stored. -/
lemma InOrder.number_ne (h : l.InOrder sets) (hx : x ∈ l.stored) (hy : y ∈ l.queued) :
    x.number ≠ y.number := by
  intro heq
  have hpending : y ∈ l.pending := List.mem_append_right _ hy
  have hkey := h.key_inj (Or.inl hx) (Or.inr hpending) heq
  exact Nat.ne_of_lt (h.stored_first x hx y (List.mem_append_right _ hy) hkey) heq

/-- A value that was set is stored once, or queued once, or a later value of its key is stored or
queued. -/
lemma InOrder.once (h : l.InOrder sets) (hidle : l.run = { waiting := [] }) {n : Nat}
    (hn : n < sets.length) {stored queued : List Nat}
    (hstored : stored = l.stored.map Numbered.number)
    (hqueued : queued = l.queued.map Numbered.number) :
    (stored.count n = 1 ∧ n ∉ queued) ∨ (queued.count n = 1 ∧ n ∉ stored) ∨
      (n ∉ stored ∧ n ∉ queued ∧ ∃ m, n < m ∧
        (sets[m]?).map Prod.fst = (sets[n]?).map Prod.fst ∧ (m ∈ stored ∨ m ∈ queued)) := by
  have hpending := pending_of_idle hidle
  have hdisjoint : n ∈ stored → n ∉ queued := by
    intro hs hq
    rw [hstored, List.mem_map] at hs
    rw [hqueued, List.mem_map] at hq
    obtain ⟨x, hx, hxn⟩ := hs
    obtain ⟨y, hy, hyn⟩ := hq
    exact h.number_ne hx hy (hxn.trans hyn.symm)
  by_cases hs : n ∈ stored
  · refine Or.inl ⟨List.count_eq_one_of_mem ?_ hs, hdisjoint hs⟩
    rw [hstored]
    exact h.nodup_stored
  by_cases hq : n ∈ queued
  · refine Or.inr (Or.inl ⟨List.count_eq_one_of_mem ?_ hq, hs⟩)
    rw [hqueued, ← hpending]
    exact h.nodup_pending
  refine Or.inr (Or.inr ⟨hs, hq, ?_⟩)
  obtain ⟨x, hkey, hle, hx⟩ := h.accounted n _ _ (List.getElem?_eq_getElem hn)
  have hmem : x.number ∈ stored ∨ x.number ∈ queued := by
    rw [hpending] at hx
    rw [hstored, hqueued]
    exact hx.imp (List.mem_map_of_mem) (List.mem_map_of_mem)
  refine ⟨x.number, Nat.lt_of_le_of_ne hle ?_, ?_, hmem⟩
  · rintro rfl
    exact hmem.elim hs hq
  · rw [h.key_eq hx, hkey, List.getElem?_eq_getElem hn]
    rfl

/-- The value with the greatest number of its key is the last one under the key. -/
lemma lastValue_map_plain [DecidableEq K] {xs : List (Numbered K V)}
    (hxs : xs.Pairwise fun x y => x.1 = y.1 → x.number < y.number) (hx : x ∈ xs)
    (hlast : ∀ y ∈ xs, y.1 = x.1 → y.number ≤ x.number) :
    lastValue x.1 (xs.map Numbered.plain) = some x.2.2 := by
  obtain ⟨before, after, rfl⟩ := List.append_of_mem hx
  refine lastValue_eq_some_iff.2 ⟨before.map Numbered.plain, after.map Numbered.plain,
    List.map_append, List.forall_mem_map.2 fun y hy hkey => ?_⟩
  have hlater := (List.pairwise_cons.1 (List.pairwise_append.1 hxs).2.1).1 y hy hkey.symm
  have hle := hlast y (by simp [hy]) hkey
  omega

/-- The last value that was set under a key is there, with the greatest number of its key. -/
lemma InOrder.exists_latest [DecidableEq K] (h : l.InOrder sets)
    (hlast : lastValue key sets = some value) :
    ∃ x : Numbered K V, x.1 = key ∧ x.2.2 = value ∧ (x ∈ l.stored ∨ x ∈ l.pending) ∧
      ∀ y, y ∈ l.stored ∨ y ∈ l.pending → y.1 = key → y.number ≤ x.number := by
  obtain ⟨n, hn, hlatest⟩ := exists_place_of_lastValue hlast
  obtain ⟨x, rfl, hle, hx⟩ := h.accounted n key value hn
  have hplain := h.numbered x hx
  have hnumber : x.number = n := Nat.le_antisymm (hlatest _ _ hplain rfl) hle
  rw [hnumber, hn] at hplain
  refine ⟨x, rfl, (Prod.mk.inj (Option.some.inj hplain)).2.symm, hx, fun y hy hkey => ?_⟩
  rw [hnumber]
  exact hlatest _ _ (h.numbered y hy) hkey

/-- The latest value of a key is the last queued one, or the last stored one if none is queued. -/
lemma InOrder.lastValue_eq [DecidableEq K] (h : l.InOrder sets)
    (hidle : l.run = { waiting := [] }) (key : K) :
    lastValue key sets = (lastValue key (l.queued.map Numbered.plain)).or
      (lastValue key (l.stored.map Numbered.plain)) := by
  cases hlast : lastValue key sets with
  | none =>
    rw [lastValue_eq_none_iff] at hlast
    have hnowhere : ∀ xs : List (Numbered K V), (∀ x ∈ xs, x ∈ l.stored ∨ x ∈ l.pending) →
        lastValue key (xs.map Numbered.plain) = none := by
      intro xs hxs
      refine lastValue_eq_none_iff.2 (List.forall_mem_map.2 fun x hx => ?_)
      exact hlast _ (List.mem_of_getElem? (h.numbered x (hxs x hx)))
    rw [← pending_of_idle hidle, hnowhere _ fun _ => Or.inr, hnowhere _ fun _ => Or.inl]
    rfl
  | some value =>
    obtain ⟨x, rfl, rfl, hx, hmax⟩ := h.exists_latest hlast
    rw [pending_of_idle hidle] at hx hmax
    rcases hx with hx | hx
    · -- A queued value of the key would be later than the stored one.
      have hnone : lastValue x.1 (l.queued.map Numbered.plain) = none := by
        refine lastValue_eq_none_iff.2 (List.forall_mem_map.2 fun y hy hkey => ?_)
        have hlt := h.stored_first x hx y (List.mem_append_right _ hy) hkey.symm
        exact Nat.not_le_of_lt hlt (hmax y (Or.inr hy) hkey)
      rw [hnone, lastValue_map_plain h.stored_order hx fun y hy => hmax y (Or.inl hy)]
      rfl
    · have hqueued : l.queued.Pairwise fun x y => x.1 = y.1 → x.number < y.number := by
        rw [← pending_of_idle hidle]
        refine h.pending_order.imp ?_
        intro x y hlt _
        exact hlt
      rw [lastValue_map_plain hqueued hx fun y hy => hmax y (Or.inr hy)]
      rfl

end Ledger

end AccessControl
