import AccessControl.Proofs.Sequences
import AccessControl.Text.Quoted
import Mathlib.Data.Char
/-!
# The written form determines the text

A character is written as itself, as a backslash and a name, or as the escape of its code point, and
of two written forms neither begins the other. So a text can be told from the inside of its written
form.

The written form can also be told from its end. Inside of it every quotation mark stands after a
backslash, so the opening one is the last that does not, if what stands before the whole is no
backslash (`quote_backward_inj`).
-/
namespace AccessControl.Text

/-! ### Digits -/

lemma digitChar_inj : ∀ m < 16, ∀ n < 16, Nat.digitChar m = Nat.digitChar n → m = n := by decide

/-- A number is written with its last digit at the end, after the other digits if there are any. -/
lemma toDigits_cases {b : Nat} (hb : 1 < b) (n : Nat) :
    (n < b ∧ Nat.toDigits b n = [Nat.digitChar n]) ∨
      (b ≤ n ∧ Nat.toDigits b n = Nat.toDigits b (n / b) ++ [Nat.digitChar (n % b)]) := by
  rcases Nat.lt_or_ge n b with hn | hn
  · exact Or.inl ⟨hn, Nat.toDigits_of_lt_base hn⟩
  · exact Or.inr ⟨hn, Nat.toDigits_of_base_le hb hn⟩

/-- The digits of a number determine it, in any base that has a digit of its own for each number
below it. -/
lemma toDigits_inj {b m n : Nat} (hb : 1 < b) (hb' : b ≤ 16)
    (h : Nat.toDigits b m = Nat.toDigits b n) : m = n := by
  induction m using Nat.strong_induction_on generalizing n with
  | _ m ih =>
    have hmod : ∀ k, k % b < 16 := fun k => lt_of_lt_of_le (Nat.mod_lt k (by omega)) hb'
    rcases toDigits_cases hb m with ⟨hm, hm'⟩ | ⟨hm, hm'⟩ <;>
      rcases toDigits_cases hb n with ⟨hn, hn'⟩ | ⟨hn, hn'⟩ <;> rw [hm', hn'] at h
    · exact digitChar_inj m (by omega) n (by omega) (List.singleton_inj.1 h)
    · have hlength := congrArg List.length h
      have hpos : 0 < (Nat.toDigits b (n / b)).length := Nat.length_toDigits_pos
      simp only [List.length_singleton, List.length_append] at hlength
      omega
    · have hlength := congrArg List.length h
      have hpos : 0 < (Nat.toDigits b (m / b)).length := Nat.length_toDigits_pos
      simp only [List.length_singleton, List.length_append] at hlength
      omega
    · obtain ⟨hfront, hlast⟩ := List.append_inj' h rfl
      have hquotient : m / b = n / b := ih (m / b) (Nat.div_lt_self (by omega) hb) hfront
      have hrest : m % b = n % b :=
        digitChar_inj _ (hmod m) _ (hmod n) (List.singleton_inj.1 hlast)
      rw [← Nat.div_add_mod m b, hquotient, hrest, Nat.div_add_mod]

lemma exists_digit_of_mem_toDigits {b n : Nat} {c : Char} (hb : 1 < b)
    (hc : c ∈ Nat.toDigits b n) : ∃ d < b, c = Nat.digitChar d := by
  induction n using Nat.strong_induction_on with
  | _ n ih =>
    rcases toDigits_cases hb n with ⟨hn, hn'⟩ | ⟨hn, hn'⟩ <;> rw [hn'] at hc
    · exact ⟨n, hn, List.mem_singleton.1 hc⟩
    · rcases List.mem_append.1 hc with hc | hc
      · exact ih (n / b) (Nat.div_lt_self (by omega) hb) hc
      · exact ⟨n % b, Nat.mod_lt _ (by omega), List.mem_singleton.1 hc⟩

/-- No other character stands among the digits of a number. -/
lemma not_mem_toDigits {b n : Nat} {c : Char} (hb : 1 < b) (hc : ∀ d < b, Nat.digitChar d ≠ c) :
    c ∉ Nat.toDigits b n := by
  intro hmem
  obtain ⟨d, hd, rfl⟩ := exists_digit_of_mem_toDigits hb hmem
  exact hc d hd rfl

/-! ### Escapes -/

/-- The characters whose escape is a name, each with its name. -/
def namedEscapes : List (Char × Char) :=
  [('\x00', '0'), ('\t', 't'), ('\r', 'r'), ('\n', 'n'), ('\\', '\\'), ('"', '"')]

/-- The ways in which a character is written inside quotation marks. -/
inductive Written (c : Char) : List Char → Prop
  | named {name : Char} (h : (c, name) ∈ namedEscapes) : Written c ['\\', name]
  | codePoint : Written c (codePointEscape c)
  | itself (hslash : c ≠ '\\') (hmark : c ≠ '"') : Written c [c]

lemma written_escape (c : Char) : Written c (escape c) := by
  unfold escape
  split_ifs with h0 ht hr hn hslash hmark hpoint
  · exact .named (by simp [namedEscapes, h0])
  · exact .named (by simp [namedEscapes, ht])
  · exact .named (by simp [namedEscapes, hr])
  · exact .named (by simp [namedEscapes, hn])
  · exact .named (by simp [namedEscapes, hslash])
  · exact .named (by simp [namedEscapes, hmark])
  · exact .codePoint
  · exact .itself hslash hmark

/-- Different names stand for different characters, and none of them opens a code point. -/
lemma named_inj : ∀ x ∈ namedEscapes, ∀ y ∈ namedEscapes, x.2 = y.2 → x.1 = y.1 := by decide

lemma name_ne_u : ∀ x ∈ namedEscapes, x.2 ≠ 'u' := by decide

/-- Escapes of code points end at the closing brace. -/
lemma codePointEscape_append_inj {c c' : Char} {r r' : List Char}
    (h : codePointEscape c ++ r = codePointEscape c' ++ r') : c = c' ∧ r = r' := by
  simp only [codePointEscape, List.cons_append, List.cons.injEq, true_and, List.append_assoc,
    List.nil_append] at h
  have hbrace : ∀ n, '\x7d' ∉ Nat.toDigits 16 n := fun n => not_mem_toDigits (by decide) (by decide)
  obtain ⟨hdigits, -, hrest⟩ := append_cons_inj_of_forall (p := (· ≠ '\x7d'))
    (fun d hd hbad => hbrace _ (hbad ▸ hd)) (fun d hd hbad => hbrace _ (hbad ▸ hd))
    (not_not_intro rfl) (not_not_intro rfl) h
  exact ⟨Char.toNat_inj.1 (toDigits_inj (by decide) le_rfl hdigits), hrest⟩

/-- What comes first in a written text determines the character and the rest. -/
lemma Written.append_inj {c c' : Char} {w w' r r' : List Char} (hw : Written c w)
    (hw' : Written c' w') (h : w ++ r = w' ++ r') : c = c' ∧ r = r' := by
  cases hw with
  | @named name hname =>
    cases hw' with
    | @named name' hname' =>
      simp only [List.cons_append, List.nil_append, List.cons.injEq, true_and] at h
      exact ⟨named_inj _ hname _ hname' h.1, h.2⟩
    | codePoint =>
      simp only [codePointEscape, List.cons_append, List.nil_append, List.cons.injEq,
        true_and] at h
      exact absurd h.1 (name_ne_u _ hname)
    | itself hslash =>
      simp only [List.cons_append, List.nil_append, List.cons.injEq] at h
      exact absurd h.1.symm hslash
  | codePoint =>
    cases hw' with
    | @named name' hname' =>
      simp only [codePointEscape, List.cons_append, List.nil_append, List.cons.injEq,
        true_and] at h
      exact absurd h.1.symm (name_ne_u _ hname')
    | codePoint => exact codePointEscape_append_inj h
    | itself hslash =>
      simp only [codePointEscape, List.cons_append, List.nil_append, List.cons.injEq] at h
      exact absurd h.1.symm hslash
  | itself hslash =>
    cases hw' with
    | named hname' =>
      simp only [List.cons_append, List.nil_append, List.cons.injEq] at h
      exact absurd h.1 hslash
    | codePoint =>
      simp only [codePointEscape, List.cons_append, List.nil_append, List.cons.injEq] at h
      exact absurd h.1 hslash
    | itself => exact List.cons.inj h

lemma flatMap_escape_inj {cs cs' : List Char} (h : cs.flatMap escape = cs'.flatMap escape) :
    cs = cs' := by
  have hne : ∀ c, escape c ≠ [] := by
    intro c hnil
    have hw := written_escape c
    rw [hnil] at hw
    cases hw
  induction cs generalizing cs' with
  | nil =>
    cases cs' with
    | nil => rfl
    | cons c' cs' => exact absurd (List.append_eq_nil_iff.1 h.symm).1 (hne c')
  | cons c cs ih =>
    cases cs' with
    | nil => exact absurd (List.append_eq_nil_iff.1 h).1 (hne c)
    | cons c' cs' =>
      obtain ⟨rfl, hrest⟩ := (written_escape c).append_inj (written_escape c') h
      rw [ih hrest]

/-! ### From the end -/

/-- Read from its end, every quotation mark is followed by a backslash. -/
def Guarded : List Char → Prop
  | [] => True
  | c :: cs => (c = '"' → cs.head? = some '\\') ∧ Guarded cs

lemma guarded_of_not_mem {cs : List Char} (h : '"' ∉ cs) : Guarded cs := by
  induction cs with
  | nil => trivial
  | cons c cs ih =>
    obtain ⟨hc, hcs⟩ := not_or.1 (mt List.mem_cons.2 h)
    exact ⟨fun heq => absurd heq.symm hc, ih hcs⟩

lemma Guarded.append {xs ys : List Char} (hxs : Guarded xs) (hys : Guarded ys) :
    Guarded (xs ++ ys) := by
  induction xs with
  | nil => exact hys
  | cons c xs ih =>
    rw [List.cons_append]
    refine ⟨fun hc => ?_, ih hxs.2⟩
    rw [List.head?_append, hxs.1 hc]
    rfl

lemma Written.guarded {c : Char} {w : List Char} (h : Written c w) : Guarded w.reverse := by
  cases h with
  | @named name hname =>
    show Guarded [name, '\\']
    exact ⟨fun _ => rfl, fun hslash => absurd hslash (by decide), trivial⟩
  | codePoint =>
    refine guarded_of_not_mem ?_
    have hdigits : '"' ∉ Nat.toDigits 16 c.toNat :=
      not_mem_toDigits (by decide) (by decide)
    simp [codePointEscape, hdigits]
  | itself _ hmark => exact guarded_of_not_mem (by simpa using Ne.symm hmark)

lemma guarded_flatMap_escape (cs : List Char) : Guarded (cs.flatMap escape).reverse := by
  induction cs with
  | nil => trivial
  | cons c cs ih =>
    rw [List.flatMap_cons, List.reverse_append]
    exact ih.append (written_escape c).guarded

/-- The first quotation mark that is not followed by a backslash ends the guarded part. -/
lemma Guarded.append_mark_inj {xs ys r r' : List Char} {d d' : Char} (hxs : Guarded xs)
    (hys : Guarded ys) (hd : d ≠ '\\') (hd' : d' ≠ '\\')
    (h : xs ++ '"' :: d :: r = ys ++ '"' :: d' :: r') : xs = ys ∧ d = d' ∧ r = r' := by
  induction xs generalizing ys with
  | nil =>
    cases ys with
    | nil =>
      simp only [List.nil_append, List.cons.injEq, true_and] at h
      exact ⟨rfl, h⟩
    | cons c ys =>
      obtain ⟨hc, hrest⟩ := List.cons.inj h
      have hhead := hys.1 hc.symm
      cases ys with
      | nil => cases hhead
      | cons e ys =>
        cases hhead
        exact absurd (List.cons.inj hrest).1 hd
  | cons c xs ih =>
    cases ys with
    | nil =>
      obtain ⟨hc, hrest⟩ := List.cons.inj h
      have hhead := hxs.1 hc
      cases xs with
      | nil => cases hhead
      | cons e xs =>
        cases hhead
        exact absurd (List.cons.inj hrest).1.symm hd'
    | cons c' ys =>
      obtain ⟨rfl, hrest⟩ := List.cons.inj h
      obtain ⟨rfl, hsame⟩ := ih hxs.2 hys.2 hrest
      exact ⟨rfl, hsame⟩

/-- A text can be told from its written form read from the end, together with where that form
begins, if the character before it is no backslash. -/
lemma quote_backward_inj {s t : String} {d d' : Char} {r r' : List Char} (hd : d ≠ '\\')
    (hd' : d' ≠ '\\')
    (h : (quote s).toList.reverse ++ d :: r = (quote t).toList.reverse ++ d' :: r') :
    s = t ∧ d = d' ∧ r = r' := by
  simp only [quote, String.toList_ofList, List.reverse_cons, List.reverse_append,
    List.reverse_nil, List.nil_append, List.append_assoc, List.cons_append, List.cons.injEq,
    true_and] at h
  obtain ⟨hinside, hrest⟩ := (guarded_flatMap_escape s.toList).append_mark_inj
    (guarded_flatMap_escape t.toList) hd hd' h
  exact ⟨String.toList_inj.1 (flatMap_escape_inj (List.reverse_injective hinside)), hrest⟩

end AccessControl.Text
