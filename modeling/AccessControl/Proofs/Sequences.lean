import Mathlib.Data.List.Basic
import Mathlib.Data.List.Induction
import Mathlib.Data.List.Nodup
import Mathlib.Order.Lattice
/-!
# Sequences of readings and orders by score

Facts about lists that several other modules need. Reading the members of a list one by one
succeeds exactly when every reading does. Sorting by descending score keeps members with equal
scores in the order of the list: with the place of each member beside it, the sorted list is ordered
by score and place together. A search through a list in some order finds the member that passes and
is before all others that do.
-/
namespace AccessControl

variable {α β γ ε : Type}

/-- A member of a list with one more at the end is that one, or a member of the list. -/
lemma concat_eq_append_cons {xs before after : List α} {x a : α} :
    xs ++ [x] = before ++ a :: after ↔
      (xs = before ∧ x = a ∧ after = []) ∨
        ∃ rest, after = rest ++ [x] ∧ xs = before ++ a :: rest := by
  constructor
  · intro h
    rcases List.eq_nil_or_concat after with rfl | ⟨rest, last, rfl⟩
    · obtain ⟨hxs, hx⟩ := List.append_inj' h rfl
      exact Or.inl ⟨hxs, List.singleton_inj.1 hx, rfl⟩
    · rw [List.concat_eq_append, ← List.cons_append, ← List.append_assoc] at h
      obtain ⟨hxs, hx⟩ := List.append_inj' h rfl
      exact Or.inr ⟨rest, by rw [List.concat_eq_append, List.singleton_inj.1 hx], hxs⟩
  · rintro (⟨rfl, rfl, rfl⟩ | ⟨rest, rfl, rfl⟩)
    · rfl
    · rw [List.append_assoc, List.cons_append]

/-- Of two members of a list the one stands before the other, or they stand in one place. -/
lemma append_cons_eq_append_cons {before after before' after' : List α} {a b : α}
    (h : before ++ a :: after = before' ++ b :: after') :
    (∃ mid, before = before' ++ b :: mid ∧ after' = mid ++ a :: after) ∨
      (before = before' ∧ a = b ∧ after = after') ∨
        ∃ mid, before' = before ++ a :: mid ∧ after = mid ++ b :: after' := by
  rcases List.append_eq_append_iff.1 h with ⟨rest, rfl, hrest⟩ | ⟨rest, rfl, hrest⟩
  · cases rest with
    | nil =>
      cases hrest
      exact Or.inr (Or.inl ⟨(List.append_nil _).symm, rfl, rfl⟩)
    | cons first rest =>
      cases hrest
      exact Or.inr (Or.inr ⟨rest, rfl, rfl⟩)
  · cases rest with
    | nil =>
      cases hrest
      exact Or.inr (Or.inl ⟨List.append_nil _, rfl, rfl⟩)
    | cons first rest =>
      cases hrest
      exact Or.inl ⟨rest, rfl, rfl⟩

/-- Two lists are cut alike at the first member that fails a test. -/
lemma append_cons_inj_of_forall {p : α → Prop} {xs ys r r' : List α} {d d' : α}
    (hxs : ∀ x ∈ xs, p x) (hys : ∀ y ∈ ys, p y) (hd : ¬p d) (hd' : ¬p d')
    (h : xs ++ d :: r = ys ++ d' :: r') : xs = ys ∧ d = d' ∧ r = r' := by
  rcases append_cons_eq_append_cons h with ⟨mid, rfl, -⟩ | ⟨hxy, hdd, hrr⟩ | ⟨mid, rfl, -⟩
  · exact absurd (hxs d' (by simp)) hd'
  · exact ⟨hxy, hdd, hrr⟩
  · exact absurd (hys d (by simp)) hd

/-- What stands in a place of a list with one more at the end stood there before, or is that one. -/
lemma getElem?_concat_eq_some {xs : List α} {a b : α} {n : Nat}
    (h : (xs ++ [a])[n]? = some b) : xs[n]? = some b ∨ n = xs.length ∧ b = a := by
  rcases Nat.lt_trichotomy n xs.length with hn | rfl | hn
  · rw [List.getElem?_append_left hn] at h
    exact Or.inl h
  · rw [List.getElem?_concat_length] at h
    exact Or.inr ⟨rfl, (Option.some.inj h).symm⟩
  · rw [List.getElem?_eq_none (by simp; omega)] at h
    cases h

/-- A member of what is left of a list has been a member of the list, with what is left before and
after it. -/
lemma filter_eq_append_cons {p : α → Bool} {xs before after : List α} {a : α}
    (h : xs.filter p = before ++ a :: after) :
    ∃ before' after', xs = before' ++ a :: after' ∧ before'.filter p = before ∧
      after'.filter p = after ∧ p a = true := by
  obtain ⟨front, back, rfl, hfront, hback⟩ := List.filter_eq_append_iff.1 h
  obtain ⟨dropped, rest, rfl, hdropped, ha, hrest⟩ := List.filter_eq_cons_iff.1 hback
  refine ⟨front ++ dropped, rest, (List.append_assoc _ _ _).symm, ?_, hrest, ha⟩
  rw [List.filter_append, hfront, List.filter_eq_nil_iff.2 hdropped, List.append_nil]

/-! ### The last value under a key -/

section LastValue

variable {κ : Type} [DecidableEq κ] {key : κ} {value : α} {entries : List (κ × α)}

/-- The value of the last entry with the key. -/
def lastValue (key : κ) (entries : List (κ × α)) : Option α := entries.reverse.lookup key

lemma lastValue_concat (key : κ) (entries : List (κ × α)) (entry : κ × α) :
    lastValue key (entries ++ [entry]) =
      if key = entry.1 then some entry.2 else lastValue key entries := by
  rw [lastValue, List.reverse_concat, List.lookup_cons]
  by_cases h : key = entry.1
  · simp [h]
  · simp [h, beq_eq_false_iff_ne.2 h, lastValue]

lemma lastValue_eq_some_iff :
    lastValue key entries = some value ↔
      ∃ before after, entries = before ++ (key, value) :: after ∧ ∀ x ∈ after, x.1 ≠ key := by
  induction entries using List.reverseRecOn with
  | nil => simp [lastValue]
  | append_singleton entries entry ih =>
    rw [lastValue_concat]
    by_cases hkey : key = entry.1
    · rw [if_pos hkey]
      constructor
      · intro h
        cases h
        exact ⟨entries, [], by rw [hkey], by simp⟩
      · rintro ⟨before, after, hentries, hafter⟩
        rcases concat_eq_append_cons.1 hentries with ⟨-, rfl, -⟩ | ⟨rest, rfl, -⟩
        · rfl
        · exact absurd hkey.symm (hafter entry (by simp))
    · rw [if_neg hkey, ih]
      constructor
      · rintro ⟨before, after, rfl, hafter⟩
        refine ⟨before, after ++ [entry], by simp, fun x hx => ?_⟩
        rcases List.mem_append.1 hx with hx | hx
        · exact hafter x hx
        · rw [List.mem_singleton.1 hx]
          exact Ne.symm hkey
      · rintro ⟨before, after, hentries, hafter⟩
        rcases concat_eq_append_cons.1 hentries with ⟨-, rfl, -⟩ | ⟨rest, rfl, hrest⟩
        · exact absurd rfl hkey
        · exact ⟨before, rest, hrest, fun x hx => hafter x (List.mem_append_left _ hx)⟩

lemma lastValue_eq_none_iff : lastValue key entries = none ↔ ∀ x ∈ entries, x.1 ≠ key := by
  rw [lastValue, List.lookup_eq_none_iff]
  simp only [List.mem_reverse, bne_iff_ne, ne_comm]

/-- The last value stands at some place, and its key stands at no later one. -/
lemma exists_place_of_lastValue (h : lastValue key entries = some value) :
    ∃ n, entries[n]? = some (key, value) ∧
      ∀ (m : Nat) (x : κ × α), entries[m]? = some x → x.1 = key → m ≤ n := by
  obtain ⟨before, after, rfl, hafter⟩ := lastValue_eq_some_iff.1 h
  refine ⟨before.length, by simp, fun m x hm hkey => ?_⟩
  by_contra hlt
  obtain ⟨k, rfl⟩ := Nat.exists_eq_add_of_lt (Nat.lt_of_not_le hlt)
  rw [Nat.add_assoc, List.getElem?_append_right (Nat.le_add_right _ _), Nat.add_sub_cancel_left,
    List.getElem?_cons_succ] at hm
  exact hafter x (List.mem_of_getElem? hm) hkey

end LastValue

/-! ### Readings -/

/-- A computation succeeds when its first part does and the rest does with what that found. -/
lemma bind_eq_ok_iff {x : Except ε α} {f : α → Except ε β} {b : β} :
    (x >>= f) = .ok b ↔ ∃ a, x = .ok a ∧ f a = .ok b := by
  cases x with
  | error e => simp [bind, Except.bind]
  | ok a => simp [bind, Except.bind]

/-- A computation fails when its first part does, or the rest does with what that found. -/
lemma bind_eq_error_iff {x : Except ε α} {f : α → Except ε β} {e : ε} :
    (x >>= f) = .error e ↔ x = .error e ∨ ∃ a, x = .ok a ∧ f a = .error e := by
  cases x with
  | error e => simp [bind, Except.bind]
  | ok a => simp [bind, Except.bind]

lemma map_eq_ok_iff {x : Except ε α} {f : α → β} {b : β} :
    x.map f = .ok b ↔ ∃ a, x = .ok a ∧ f a = b := by
  cases x <;> simp [Except.map]

lemma map_eq_error_iff {x : Except ε α} {f : α → β} {e : ε} :
    x.map f = .error e ↔ x = .error e := by
  cases x <;> simp [Except.map]

/-- A computation succeeds unless it has an error. -/
lemma exists_eq_ok_iff {x : Except ε α} : (∃ a, x = .ok a) ↔ ∀ e, x ≠ .error e := by
  cases x <;> simp

/-- Reading one by one succeeds when every reading does, with the results in order. -/
lemma mapM_eq_ok_iff {f : α → Except ε β} {xs : List α} {ys : List β} :
    xs.mapM f = .ok ys ↔ List.Forall₂ (fun x y => f x = .ok y) xs ys := by
  induction xs generalizing ys with
  | nil =>
    cases ys with
    | nil => simp [pure, Except.pure]
    | cons y ys => simp [pure, Except.pure]
  | cons x xs ih =>
    rw [List.mapM_cons, List.forall₂_cons_left_iff]
    cases hx : f x with
    | error e => simp [bind, Except.bind]
    | ok y =>
      cases hxs : xs.mapM f with
      | error e => simp [bind, Except.bind, ← ih, hxs]
      | ok zs => simp [bind, Except.bind, pure, Except.pure, ← ih, hxs, eq_comm]

/-- Readings that are known to succeed give what is known of them. -/
lemma mapM_eq_ok_map {f : α → Except ε β} {g : α → β} {xs : List α}
    (h : ∀ x ∈ xs, f x = .ok (g x)) : xs.mapM f = .ok (xs.map g) := by
  rw [mapM_eq_ok_iff, List.forall₂_map_right_iff, List.forall₂_same]
  exact h

/-- What is known of every successful reading is known of the results. -/
lemma eq_map_of_mapM_eq_ok {f : α → Except ε β} {g : α → β} {xs : List α} {ys : List β}
    (h : xs.mapM f = .ok ys) (hg : ∀ x y, f x = .ok y → y = g x) : ys = xs.map g := by
  rw [mapM_eq_ok_iff] at h
  induction h with
  | nil => rfl
  | cons hxy _ ih => rw [List.map_cons, hg _ _ hxy, ih]

lemma exists_of_mapM_eq_ok {f : α → Except ε β} {xs : List α} {ys : List β}
    (h : xs.mapM f = .ok ys) {x : α} (hx : x ∈ xs) : ∃ y, f x = .ok y := by
  rw [mapM_eq_ok_iff] at h
  induction h with
  | nil => cases hx
  | @cons x' y xs ys hxy _ ih =>
    rcases List.mem_cons.1 hx with rfl | hx
    · exact ⟨y, hxy⟩
    · exact ih hx

/-- The results of reading one by one are the results of the readings. -/
lemma mem_of_mapM_eq_ok {f : α → Except ε β} {xs : List α} {ys : List β} (h : xs.mapM f = .ok ys)
    {y : β} : y ∈ ys ↔ ∃ x ∈ xs, f x = .ok y := by
  rw [mapM_eq_ok_iff] at h
  induction h with
  | nil => simp
  | @cons x y' xs ys hxy _ ih =>
    rw [List.mem_cons, ih, List.exists_mem_cons_iff, hxy, Except.ok.injEq, eq_comm]

/-- Reading one by one stops at the first reading that fails, with its error. -/
lemma mapM_eq_error_iff {f : α → Except ε β} {xs : List α} {e : ε} :
    xs.mapM f = .error e ↔
      ∃ before x after, xs = before ++ x :: after ∧ (∀ y ∈ before, ∃ b, f y = .ok b) ∧
        f x = .error e := by
  constructor
  · intro h
    induction xs with
    | nil => cases h
    | cons x xs ih =>
      rw [List.mapM_cons] at h
      cases hx : f x with
      | error e' =>
        rw [hx] at h
        cases h
        exact ⟨[], x, xs, rfl, by simp, hx⟩
      | ok b =>
        cases hxs : xs.mapM f with
        | error e' =>
          rw [hx, hxs] at h
          cases h
          obtain ⟨before, y, after, rfl, hbefore, hy⟩ := ih hxs
          exact ⟨x :: before, y, after, rfl, List.forall_mem_cons.2 ⟨⟨b, hx⟩, hbefore⟩, hy⟩
        | ok bs =>
          rw [hx, hxs] at h
          cases h
  · rintro ⟨before, x, after, rfl, hbefore, hx⟩
    induction before with
    | nil => simp [hx, bind, Except.bind]
    | cons y before ih =>
      obtain ⟨⟨b, hb⟩, hrest⟩ := List.forall_mem_cons.1 hbefore
      rw [List.cons_append, List.mapM_cons, hb, ih hrest]
      rfl

/-- Reading one by one succeeds exactly when every reading does. -/
lemma exists_mapM_eq_ok_iff {f : α → Except ε β} {xs : List α} :
    (∃ ys, xs.mapM f = .ok ys) ↔ ∀ x ∈ xs, ∃ y, f x = .ok y := by
  constructor
  · rintro ⟨ys, h⟩ x hx
    exact exists_of_mapM_eq_ok h hx
  · intro h
    rw [exists_eq_ok_iff]
    intro e he
    obtain ⟨before, x, after, rfl, -, hx⟩ := mapM_eq_error_iff.1 he
    obtain ⟨y, hy⟩ := h x (by simp)
    rw [hx] at hy
    cases hy

/-- What is made of the results does not matter for where the readings stop. -/
lemma mapM_map_eq_error_iff {f : α → Except ε β} {g : α → β → γ} {xs : List α} {e : ε} :
    (xs.mapM fun x => (f x).map (g x)) = .error e ↔ xs.mapM f = .error e := by
  have hok : ∀ x, (∃ c, (f x).map (g x) = .ok c) ↔ ∃ b, f x = .ok b := by
    intro x
    simp only [map_eq_ok_iff, exists_eq_right', exists_comm (α := γ)]
  simp only [mapM_eq_error_iff, map_eq_error_iff, hok]

/-- Reading several lists one by one is reading all of them together. -/
lemma mapM_flatMap {f : α → Except ε β} {g : γ → List α} {cs : List γ} :
    (cs.flatMap g).mapM f = (cs.mapM fun c => (g c).mapM f).map List.flatten := by
  induction cs with
  | nil => rfl
  | cons c cs ih =>
    rw [List.flatMap_cons, List.mapM_append, List.mapM_cons, ih]
    cases (g c).mapM f with
    | error e => rfl
    | ok ys => cases cs.mapM fun c => (g c).mapM f <;> rfl

/-! ### Orders by descending score -/

section Score

variable [LinearOrder β] (score : α → β)

/-- Whether the first member of a list with places is to come no later than the second, by its
score alone. -/
def notAfterByScore (a b : α × Nat) : Bool := decide (score b.1 ≤ score a.1)

/-- The members of a list by descending score, each with its place. -/
def byScore (l : List α) : List (α × Nat) := l.zipIdx.mergeSort (notAfterByScore score)

lemma mem_byScore {l : List α} {a : α × Nat} : a ∈ byScore score l ↔ l[a.2]? = some a.1 := by
  rw [byScore, List.mem_mergeSort, List.mem_zipIdx_iff_getElem?]

lemma notAfterByScore_trans (a b c : α × Nat) (hab : notAfterByScore score a b = true)
    (hbc : notAfterByScore score b c = true) : notAfterByScore score a c = true := by
  simp only [notAfterByScore, decide_eq_true_eq] at *
  exact le_trans hbc hab

lemma notAfterByScore_total (a b : α × Nat) :
    (notAfterByScore score a b || notAfterByScore score b a) = true := by
  simpa [notAfterByScore] using le_total (score b.1) (score a.1)

omit [LinearOrder β] in
/-- Numbering the members once more gives the same numbers. -/
lemma eq_of_mem_zipIdx_zipIdx {l : List α} {a : α × Nat} {k : Nat} (h : (a, k) ∈ l.zipIdx.zipIdx) :
    a.2 = k := by
  rw [List.mem_zipIdx_iff_getElem?, List.getElem?_zipIdx] at h
  obtain ⟨x, -, hx⟩ := Option.map_eq_some_iff.1 h
  simpa using (congrArg Prod.snd hx).symm

/-- Members with equal scores stay in the order of the list. -/
lemma byScore_pairwise (l : List α) :
    (byScore score l).Pairwise fun a b =>
      score b.1 < score a.1 ∨ score b.1 = score a.1 ∧ a.2 < b.2 := by
  -- The sort does not notice that ties are broken by a further numbering in the same order.
  rw [byScore, ← List.mergeSort_zipIdx, List.pairwise_map]
  have hsorted := List.pairwise_mergeSort (List.zipIdxLE_trans (notAfterByScore_trans score))
    (List.zipIdxLE_total (notAfterByScore_total score)) l.zipIdx.zipIdx
  have hnumbers : (l.zipIdx.zipIdx.mergeSort (List.zipIdxLE (notAfterByScore score))).Pairwise
      fun a b => a.2 ≠ b.2 := by
    refine List.Pairwise.of_map Prod.snd (fun _ _ h => h) ?_
    refine ((List.mergeSort_perm _ _).map Prod.snd).nodup_iff.2 ?_
    rw [List.zipIdx_map_snd]
    exact List.nodup_range'
  refine (hsorted.and hnumbers).imp_of_mem ?_
  rintro ⟨⟨a, i⟩, i'⟩ ⟨⟨b, j⟩, j'⟩ ha hb ⟨hle, hne⟩
  obtain rfl : i = i' := eq_of_mem_zipIdx_zipIdx (List.mem_mergeSort.1 ha)
  obtain rfl : j = j' := eq_of_mem_zipIdx_zipIdx (List.mem_mergeSort.1 hb)
  simp only [List.zipIdxLE, notAfterByScore, decide_eq_true_eq] at hle
  split at hle
  · rename_i hba
    split at hle
    · rename_i hab
      exact Or.inr ⟨le_antisymm hba hab, Nat.lt_of_le_of_ne (of_decide_eq_true hle) hne⟩
    · rename_i hab
      exact Or.inl (lt_of_not_ge hab)
  · cases hle

/-- These are the members of the list, each with its place, by descending score, and by their places
where scores are equal. -/
structure InScoreOrder (l : List α) (order : List (α × Nat)) : Prop where
  perm : order.Perm l.zipIdx
  sorted : order.Pairwise fun a b => score b.1 < score a.1 ∨ score b.1 = score a.1 ∧ a.2 < b.2

lemma byScore_inScoreOrder (l : List α) : InScoreOrder score l (byScore score l) :=
  ⟨List.mergeSort_perm _ _, byScore_pairwise score l⟩

lemma byScore_map_fst_perm (l : List α) : ((byScore score l).map Prod.fst).Perm l := by
  have h := (List.mergeSort_perm l.zipIdx (notAfterByScore score)).map Prod.fst
  rwa [List.zipIdx_map_fst] at h

/-- Members whose scores all differ come in one order, in whatever order they are listed. -/
lemma byScore_map_fst_of_perm {l l' : List α} (hperm : l'.Perm l)
    (hne : l.Pairwise fun a b => score a ≠ score b) :
    (byScore score l').map Prod.fst = (byScore score l).map Prod.fst := by
  have hsorted : ∀ m : List α, (m.Pairwise fun a b => score a ≠ score b) →
      ((byScore score m).map Prod.fst).Pairwise fun a b => score b < score a := by
    intro m hm
    have hdiffer := (byScore_map_fst_perm score m).symm.pairwise hm Ne.symm
    rw [List.pairwise_map] at hdiffer ⊢
    refine ((byScore_pairwise score m).and hdiffer).imp ?_
    rintro a b ⟨hlt | ⟨heq, -⟩, hne⟩
    · exact hlt
    · exact absurd heq.symm hne
  refine List.Perm.eq_of_pairwise (fun a b _ _ hab hba => absurd hab (lt_asymm hba))
    (hsorted l' (hperm.symm.pairwise hne Ne.symm)) (hsorted l hne) ?_
  exact (byScore_map_fst_perm score l').trans (hperm.trans (byScore_map_fst_perm score l).symm)

/-- Sorting what is made of the members is sorting the members. -/
lemma byScore_map (f : γ → α) (l : List γ) :
    byScore score (l.map f) = (byScore (score ∘ f) l).map (Prod.map f id) := by
  rw [byScore, byScore, List.zipIdx_map, List.map_mergeSort]
  exact fun _ _ _ _ => rfl

/-- Lists whose members have equal scores one by one are sorted side by side. -/
lemma forall₂_byScore {r : α → γ → Prop} {score' : γ → β} {l : List α} {l' : List γ}
    (hscore : ∀ a b, r a b → score a = score' b) (h : List.Forall₂ r l l') :
    List.Forall₂ r ((byScore score l).map Prod.fst) ((byScore score' l').map Prod.fst) := by
  obtain ⟨pairs, rfl, rfl⟩ : ∃ pairs : List { p : α × γ // r p.1 p.2 },
      l = pairs.map (fun p => p.1.1) ∧ l' = pairs.map fun p => p.1.2 := by
    induction h with
    | nil => exact ⟨[], rfl, rfl⟩
    | @cons a b _ _ hab _ ih =>
      obtain ⟨pairs, rfl, rfl⟩ := ih
      exact ⟨⟨(a, b), hab⟩ :: pairs, rfl, rfl⟩
  have hsame : (score ∘ fun p : { p : α × γ // r p.1 p.2 } => p.1.1) = score' ∘ fun p => p.1.2 :=
    funext fun p => hscore _ _ p.2
  rw [byScore_map, byScore_map, hsame, List.map_map, List.map_map, List.forall₂_map_left_iff,
    List.forall₂_map_right_iff, List.forall₂_same]
  exact fun p _ => p.1.2

/-- Sorting something made of the members and their places is sorting the members. -/
lemma mergeSort_map_zipIdx {le : γ → γ → Bool} {f : α × Nat → γ} (l : List α)
    (h : ∀ a b, le (f a) (f b) = notAfterByScore score a b) :
    (l.zipIdx.map f).mergeSort le = (byScore score l).map f :=
  (List.map_mergeSort fun a _ b _ => (h a b).symm).symm

end Score

/-! ### The first member that passes a test -/

section First

variable {r : α → α → Prop} {test : α → Bool} {l : List α}

/-- In a list in some order the search finds the one that passes and is before all others that
do. -/
lemma find?_eq_some_of_first (hl : l.Pairwise r) (hasymm : ∀ a b, r a b → ¬r b a) {a : α}
    (ha : a ∈ l) (hpass : test a = true) (hfirst : ∀ b ∈ l, test b = true → b = a ∨ r a b) :
    l.find? test = some a := by
  cases hfound : l.find? test with
  | none => exact absurd hpass (List.find?_eq_none.1 hfound a ha)
  | some b =>
    obtain ⟨hb, before, after, rfl, hbefore⟩ := List.find?_eq_some_iff_append.1 hfound
    rcases hfirst b (by simp) hb with rfl | hab
    · rfl
    · rcases List.mem_append.1 ha with ha | ha
      · exact absurd hpass (by simpa using hbefore a ha)
      · rcases List.mem_cons.1 ha with rfl | ha
        · rfl
        · have hba := (List.pairwise_cons.1 (List.pairwise_append.1 hl).2.1).1 a ha
          exact absurd hba (hasymm a b hab)

/-- If some member passes, there is one before all others that do. -/
lemma exists_first (hl : l.Pairwise r) (h : ∃ a ∈ l, test a = true) :
    ∃ a ∈ l, test a = true ∧ ∀ b ∈ l, test b = true → b = a ∨ r a b := by
  obtain ⟨a, hfound⟩ := Option.isSome_iff_exists.1 (List.find?_isSome.2 h)
  obtain ⟨ha, before, after, rfl, hbefore⟩ := List.find?_eq_some_iff_append.1 hfound
  refine ⟨a, by simp, ha, fun b hb hpass => ?_⟩
  rcases List.mem_append.1 hb with hb | hb
  · exact absurd hpass (by simpa using hbefore b hb)
  · rcases List.mem_cons.1 hb with rfl | hb
    · exact Or.inl rfl
    · exact Or.inr ((List.pairwise_cons.1 (List.pairwise_append.1 hl).2.1).1 b hb)

/-- The first member that two lists in one order have in common can be looked for in either. -/
lemma find?_mem_comm [DecidableEq α] {l l' : List α} (hl : l.Pairwise r) (hl' : l'.Pairwise r)
    (hasymm : ∀ a b, r a b → ¬r b a) : l.find? (· ∈ l') = l'.find? (· ∈ l) := by
  cases hfound : l'.find? (· ∈ l) with
  | none =>
    have hnone : ∀ a ∈ l', a ∉ l := by simpa using hfound
    rw [List.find?_eq_none]
    intro a ha hmem
    exact hnone a (by simpa using hmem) ha
  | some a =>
    have ha' : a ∈ l' := List.mem_of_find?_eq_some hfound
    have ha : a ∈ l := by simpa using List.find?_some hfound
    have hpass : ∃ x ∈ l', decide (x ∈ l) = true := ⟨a, ha', by simpa using ha⟩
    obtain ⟨b, hb, hb', hfirst⟩ := exists_first hl' hpass
    have hab : l'.find? (· ∈ l) = some b := find?_eq_some_of_first hl' hasymm hb hb' hfirst
    obtain rfl : a = b := Option.some.inj (hfound.symm.trans hab)
    refine find?_eq_some_of_first hl hasymm ha (by simpa using ha') ?_
    intro c hc hc'
    exact hfirst c (by simpa using hc') (by simpa using hc)

end First

end AccessControl
