import AccessControl.Proofs.Text.Quoted
import AccessControl.Scope.Filter
/-!
# Filters are told apart by their keys

The key of a filter is the field, the label of the operator and the text of the value, with bars
between them. A field may be any text, with bars and quotation marks in it, so that the key cannot
be read from its beginning. It can be read from its end: the text of a value, read from its last
character, says where it begins (`ScopeValue.backward_inj`). A text in quotation marks begins at the
last mark that stands after no backslash, a list at the bracket that is left when its items have
been read, and any other value where a bar, a comma or a bracket stands.
-/
namespace AccessControl

/-! ### Values without marks and brackets -/

/-- The characters of the texts of identifiers, integers and truth values. -/
def IsPlain (c : Char) : Prop := c.isAlphanum = true ∨ c = '-'

/-- What stands before the text of a value in a key. -/
def OpensValue (c : Char) : Prop := c = '|' ∨ c = ',' ∨ c = '['

lemma OpensValue.not_isPlain {c : Char} (h : OpensValue c) : ¬IsPlain c := by
  unfold IsPlain
  rcases h with rfl | rfl | rfl <;> decide

lemma OpensValue.ne_backslash {c : Char} (h : OpensValue c) : c ≠ '\\' := by
  rcases h with rfl | rfl | rfl <;> decide

namespace Uuid

lemma text_inj {u v : Uuid} (h : u.text = v.text) : u = v :=
  Option.some.inj (by rw [← ofText?_text u, h, ofText?_text v])

lemma mem_hyphenate {ns : List Nat} {cs : List Char} {c : Char} (h : c ∈ hyphenate ns cs) :
    c ∈ cs ∨ c = '-' := by
  fun_induction hyphenate ns cs with
  | case1 n m ns cs ih =>
    rcases List.mem_append.1 h with h | h
    · exact Or.inl (List.mem_of_mem_take h)
    · rcases List.mem_cons.1 h with h | h
      · exact Or.inr h
      · exact (ih h).imp_left List.mem_of_mem_drop
  | case2 => exact Or.inl h

lemma isPlain_of_mem_text {u : Uuid} {c : Char} (h : c ∈ u.text.toList) : IsPlain c := by
  have hdigit : ∀ d : Fin 16, (digitChar d).isAlphanum = true := by decide
  rw [text, String.toList_ofList] at h
  refine (mem_hyphenate h).imp_left fun hc => ?_
  obtain ⟨d, -, rfl⟩ := List.mem_map.1 hc
  exact hdigit d

/-- There is a hyphen in the text of an identifier, but not at its beginning. -/
lemma hyphen_mem_text (u : Uuid) : '-' ∈ u.text.toList.tail := by
  obtain ⟨digits, hlength⟩ := u
  cases digits with
  | nil => simp at hlength
  | cons d ds => simp [text, groups, hyphenate]

end Uuid

/-! ### Integers -/

/-- An integer is written in digits, after a hyphen if it is negative. -/
lemma repr_cases (i : Int) :
    (∃ n : Nat, i = n ∧ i.repr.toList = Nat.toDigits 10 n) ∨
      ∃ n : Nat, i = -(n + 1) ∧ i.repr.toList = '-' :: Nat.toDigits 10 (n + 1) := by
  have hnat : ∀ n : Nat, n.repr.toList = Nat.toDigits 10 n := by
    intro n
    rw [Nat.repr_eq_ofList_toDigits, String.toList_ofList]
  cases i with
  | ofNat n => exact Or.inl ⟨n, rfl, hnat n⟩
  | negSucc n =>
    refine Or.inr ⟨n, Int.negSucc_eq n, ?_⟩
    show ("-" ++ (n + 1).repr).toList = _
    rw [String.toList_append, hnat]
    rfl

lemma hyphen_not_mem_toDigits (n : Nat) : '-' ∉ Nat.toDigits 10 n :=
  Text.not_mem_toDigits (by decide) (by decide)

lemma repr_inj {i j : Int} (h : i.repr = j.repr) : i = j := by
  have hsign : ∀ {m n : Nat}, Nat.toDigits 10 m ≠ '-' :: Nat.toDigits 10 n := by
    intro m n heq
    exact hyphen_not_mem_toDigits m (by rw [heq]; exact List.mem_cons_self)
  rcases repr_cases i with ⟨m, rfl, hi⟩ | ⟨m, rfl, hi⟩ <;>
    rcases repr_cases j with ⟨n, rfl, hj⟩ | ⟨n, rfl, hj⟩ <;> rw [h, hj] at hi
  · rw [Text.toDigits_inj (by decide) (by decide) hi]
  · exact absurd hi.symm hsign
  · exact absurd hi hsign
  · have hsucc := Text.toDigits_inj (by decide) (by decide) (List.cons.inj hi).2
    obtain rfl : n = m := Nat.succ.inj hsucc
    rfl

namespace ScopeValue

/-! ### Scalars -/

/-- An identifier, an integer or a truth value. -/
inductive IsScalar : ScopeValue → Prop
  | uuid (u : Uuid) : IsScalar (.uuid u)
  | int (n : Int64) : IsScalar (.int n)
  | bool (b : Bool) : IsScalar (.bool b)

lemma isPlain_of_mem_int {n : Int64} {c : Char} (h : c ∈ (int n).text.toList) : IsPlain c := by
  have hdigit : ∀ k, ∀ d ∈ Nat.toDigits 10 k, IsPlain d := by
    intro k d hd
    left
    rw [Char.isAlphanum, Nat.isDigit_of_mem_toDigits (by decide) (by decide) hd, Bool.or_true]
  have hmem : c ∈ n.toInt.repr.toList := h
  rcases repr_cases n.toInt with ⟨k, -, hrepr⟩ | ⟨k, -, hrepr⟩ <;> rw [hrepr] at hmem
  · exact hdigit k c hmem
  · rcases List.mem_cons.1 hmem with rfl | hmem
    · exact Or.inr rfl
    · exact hdigit (k + 1) c hmem

lemma isPlain_of_mem_bool {b : Bool} {c : Char} (h : c ∈ (bool b).text.toList) : IsPlain c := by
  have hletters : ∀ b : Bool, (toString b).toList.all Char.isAlphanum = true := by decide
  exact Or.inl (List.all_eq_true.1 (hletters b) c h)

lemma IsScalar.isPlain {v : ScopeValue} (hv : v.IsScalar) : ∀ c ∈ v.text.toList, IsPlain c := by
  cases hv with
  | uuid u => exact fun c hc => Uuid.isPlain_of_mem_text hc
  | int n => exact fun c hc => isPlain_of_mem_int hc
  | bool b => exact fun c hc => isPlain_of_mem_bool hc

lemma IsScalar.text_ne_nil {v : ScopeValue} (hv : v.IsScalar) : v.text.toList ≠ [] := by
  cases hv with
  | uuid u =>
    intro hnil
    have hmem := u.hyphen_mem_text
    rw [show u.text.toList = [] from hnil] at hmem
    cases hmem
  | int n =>
    show n.toInt.repr.toList ≠ []
    rcases repr_cases n.toInt with ⟨k, -, hrepr⟩ | ⟨k, -, hrepr⟩ <;> rw [hrepr]
    · exact Nat.toDigits_ne_nil
    · exact List.cons_ne_nil _ _
  | bool b => cases b <;> decide

/-- Identifiers are told from the other scalars by a hyphen after the first character. -/
lemma hyphen_not_mem_tail_int (n : Int64) : '-' ∉ (int n).text.toList.tail := by
  show '-' ∉ n.toInt.repr.toList.tail
  rcases repr_cases n.toInt with ⟨k, -, hrepr⟩ | ⟨k, -, hrepr⟩ <;> rw [hrepr]
  · exact fun hmem => hyphen_not_mem_toDigits k (List.mem_of_mem_tail hmem)
  · exact hyphen_not_mem_toDigits (k + 1)

lemma hyphen_not_mem_tail_bool (b : Bool) : '-' ∉ (bool b).text.toList.tail := by
  cases b <;> decide

/-- Truth values are told from integers by the letter at their end. -/
lemma text_int_ne_text_bool (n : Int64) (b : Bool) : (int n).text ≠ (bool b).text := by
  intro h
  have hletter : ∀ b : Bool, 'e' ∈ (toString b).toList := by decide
  have hdigits : ∀ k, 'e' ∉ Nat.toDigits 10 k :=
    fun k => Text.not_mem_toDigits (by decide) (by decide)
  have hmem : 'e' ∈ n.toInt.repr.toList := by
    rw [show n.toInt.repr = toString b from h]
    exact hletter b
  rcases repr_cases n.toInt with ⟨k, -, hrepr⟩ | ⟨k, -, hrepr⟩ <;> rw [hrepr] at hmem
  · exact hdigits k hmem
  · rcases List.mem_cons.1 hmem with hmem | hmem
    · exact absurd hmem (by decide)
    · exact hdigits (k + 1) hmem

/-- The text of a scalar determines it. -/
lemma IsScalar.text_inj {v w : ScopeValue} (hv : v.IsScalar) (hw : w.IsScalar)
    (h : v.text = w.text) : v = w := by
  have hne : ∀ {u : Uuid} {x : ScopeValue}, '-' ∉ x.text.toList.tail →
      (ScopeValue.uuid u).text ≠ x.text := by
    intro u x hx heq
    rw [← heq] at hx
    exact hx u.hyphen_mem_text
  cases hv with
  | uuid u =>
    cases hw with
    | uuid u' => exact congrArg ScopeValue.uuid (Uuid.text_inj h)
    | int n => exact absurd h (hne (hyphen_not_mem_tail_int n))
    | bool b => exact absurd h (hne (hyphen_not_mem_tail_bool b))
  | int n =>
    cases hw with
    | uuid u => exact absurd h.symm (hne (hyphen_not_mem_tail_int n))
    | int n' => exact congrArg ScopeValue.int (Int64.toInt_inj.1 (repr_inj h))
    | bool b => exact absurd h (text_int_ne_text_bool n b)
  | bool b =>
    cases hw with
    | uuid u => exact absurd h.symm (hne (hyphen_not_mem_tail_bool b))
    | int n => exact absurd h.symm (text_int_ne_text_bool n b)
    | bool b' =>
      have hbool : ∀ b b' : Bool, toString b = toString b' → b = b' := by decide
      exact congrArg ScopeValue.bool (hbool b b' h)

/-! ### Values read from their end -/

/-- The text of a value, the last character first. -/
def backward (v : ScopeValue) : List Char := v.text.toList.reverse

/-- The texts of the items of a list with what stands before each, the last item first and all of it
read from the end. -/
def backwardItems : List ScopeValue → List Char
  | [] => ['[']
  | v :: vs => v.backward ++ if vs = [] then ['['] else ',' :: backwardItems vs

lemma texts_eq_map (vs : List ScopeValue) : texts vs = vs.map text := by
  induction vs with
  | nil => rfl
  | cons v vs ih => rw [texts, ih, List.map_cons]

lemma backward_items (vs : List ScopeValue) :
    (",".intercalate (texts vs)).toList.reverse ++ ['['] = backwardItems vs.reverse := by
  rw [texts_eq_map]
  induction vs using List.reverseRecOn with
  | nil => rfl
  | append_singleton vs v ih =>
    rw [List.reverse_concat, backwardItems]
    by_cases hvs : vs = []
    · subst hvs
      simp [backward]
    · have hne : vs.map text ≠ [] := mt List.map_eq_nil_iff.1 hvs
      rw [if_neg (mt List.reverse_eq_nil_iff.1 hvs), ← ih, List.map_append, List.map_singleton,
        String.intercalate_append_of_ne_nil hne (List.cons_ne_nil _ _)]
      simp [backward, String.toList_append]

lemma backward_str (s : String) :
    (str s).backward = '"' :: ((s.toList.flatMap Text.escape).reverse ++ ['"']) := by
  simp [backward, text, Text.quote]

lemma backward_list (vs : List ScopeValue) :
    (list vs).backward = ']' :: backwardItems vs.reverse := by
  rw [← backward_items]
  simp [backward, text, String.toList_append]

/-! ### The last character -/

/-- The character is one that the text of the value may end with. -/
def MayEndWith (c : Char) : ScopeValue → Prop
  | .str _ => c = '"'
  | .list _ => c = ']'
  | .uuid _ | .int _ | .bool _ => IsPlain c

section MayEndWith

variable {v : ScopeValue} {c : Char}

lemma not_isPlain_mark : ¬IsPlain '"' := by
  unfold IsPlain
  decide

lemma not_isPlain_bracket : ¬IsPlain ']' := by
  unfold IsPlain
  decide

lemma exists_str_of_mayEndWith (h : v.MayEndWith '"') : ∃ s, v = str s := by
  cases v with
  | str s => exact ⟨s, rfl⟩
  | list vs => exact absurd (show '"' = ']' from h) (by decide)
  | uuid u | int n | bool b => exact absurd h not_isPlain_mark

lemma exists_list_of_mayEndWith (h : v.MayEndWith ']') : ∃ vs, v = list vs := by
  cases v with
  | str s => exact absurd (show ']' = '"' from h) (by decide)
  | list vs => exact ⟨vs, rfl⟩
  | uuid u | int n | bool b => exact absurd h not_isPlain_bracket

lemma isScalar_of_mayEndWith (h : v.MayEndWith c) (hc : IsPlain c) : v.IsScalar := by
  cases v with
  | uuid u => exact .uuid u
  | int n => exact .int n
  | bool b => exact .bool b
  | str s =>
    obtain rfl : c = '"' := h
    exact absurd hc not_isPlain_mark
  | list vs =>
    obtain rfl : c = ']' := h
    exact absurd hc not_isPlain_bracket

/-- No value ends with a character that opens one. -/
lemma not_mayEndWith_of_opensValue (hc : OpensValue c) : ¬v.MayEndWith c := by
  cases v with
  | uuid u | int n | bool b => exact hc.not_isPlain
  | str s =>
    rintro (rfl : c = '"')
    exact absurd hc (by unfold OpensValue; decide)
  | list vs =>
    rintro (rfl : c = ']')
    exact absurd hc (by unfold OpensValue; decide)

lemma IsScalar.isPlain_backward (hv : v.IsScalar) : ∀ d ∈ v.backward, IsPlain d :=
  fun d hd => hv.isPlain d (List.mem_reverse.1 hd)

lemma exists_backward (v : ScopeValue) : ∃ c cs, v.backward = c :: cs ∧ v.MayEndWith c := by
  have hscalar : v.IsScalar → ∃ c cs, v.backward = c :: cs ∧ IsPlain c := by
    intro hv
    obtain ⟨c, cs, hcs⟩ :=
      List.exists_cons_of_ne_nil (mt List.reverse_eq_nil_iff.1 hv.text_ne_nil)
    have hback : v.backward = c :: cs := hcs
    exact ⟨c, cs, hback, hv.isPlain_backward c (hback ▸ List.mem_cons_self)⟩
  cases v with
  | str s => exact ⟨_, _, backward_str s, rfl⟩
  | list vs => exact ⟨_, _, backward_list vs, rfl⟩
  | uuid u => exact hscalar (.uuid u)
  | int n => exact hscalar (.int n)
  | bool b => exact hscalar (.bool b)

/-- What is read first, where a value is read from its end, is a character that it may end with. -/
lemma mayEndWith_of_eq {cs r : List Char} (h : c :: cs = v.backward ++ r) : v.MayEndWith c := by
  obtain ⟨c', cs', hback, hlast⟩ := v.exists_backward
  rw [hback] at h
  rw [(List.cons.inj h).1]
  exact hlast

end MayEndWith

/-! ### Where a value begins -/

/-- A value and the place where its text begins can be told from what is read from its end, if a
character stands there that may open a value. -/
def IsReadable (v : ScopeValue) : Prop :=
  ∀ (w : ScopeValue) (d d' : Char) (r r' : List Char), OpensValue d → OpensValue d' →
    v.backward ++ d :: r = w.backward ++ d' :: r' → v = w ∧ d = d' ∧ r = r'

lemma IsScalar.isReadable {v : ScopeValue} (hv : v.IsScalar) : v.IsReadable := by
  intro w d d' r r' hd hd' h
  obtain ⟨c, cs, hback, -⟩ := v.exists_backward
  have hc : IsPlain c := hv.isPlain_backward c (hback ▸ List.mem_cons_self)
  have hw : w.IsScalar := isScalar_of_mayEndWith (mayEndWith_of_eq (hback ▸ h)) hc
  obtain ⟨htext, hrest⟩ := append_cons_inj_of_forall hv.isPlain_backward hw.isPlain_backward
    hd.not_isPlain hd'.not_isPlain h
  exact ⟨hv.text_inj hw (String.toList_inj.1 (List.reverse_injective htext)), hrest⟩

lemma isReadable_str (s : String) : (str s).IsReadable := by
  intro w d d' r r' hd hd' h
  have hlast := h
  rw [backward_str] at hlast
  obtain ⟨t, rfl⟩ := exists_str_of_mayEndWith (mayEndWith_of_eq hlast)
  obtain ⟨rfl, hrest⟩ := Text.quote_backward_inj hd.ne_backslash hd'.ne_backslash h
  exact ⟨rfl, hrest⟩

/-- What stands before an item opens a value, whether there are more items or not. -/
lemma exists_opensValue (vs : List ScopeValue) : ∃ d rest, OpensValue d ∧
    (if vs = [] then ['['] else ',' :: backwardItems vs) = d :: rest := by
  by_cases hvs : vs = []
  · exact ⟨'[', [], by simp [OpensValue], if_pos hvs⟩
  · exact ⟨',', backwardItems vs, by simp [OpensValue], if_neg hvs⟩

/-- The bracket that opens a list is read first only if there are no items. -/
lemma cons_bracket_ne_backwardItems {v : ScopeValue} {vs : List ScopeValue} {r r' : List Char} :
    '[' :: r ≠ backwardItems (v :: vs) ++ r' := by
  intro h
  rw [backwardItems, List.append_assoc] at h
  exact not_mayEndWith_of_opensValue (Or.inr (Or.inr rfl)) (mayEndWith_of_eq h)

/-- The items of a list can be told from what is read from their end: after the first of them stands
the bracket that opens the list, after every other a comma. -/
lemma backwardItems_inj {vs ws : List ScopeValue} (hvs : ∀ v ∈ vs, v.IsReadable)
    {r r' : List Char} (h : backwardItems vs ++ r = backwardItems ws ++ r') :
    vs = ws ∧ r = r' := by
  induction vs generalizing ws with
  | nil =>
    cases ws with
    | nil => exact ⟨rfl, (List.cons.inj h).2⟩
    | cons w ws => exact absurd h cons_bracket_ne_backwardItems
  | cons v vs ih =>
    cases ws with
    | nil => exact absurd h.symm cons_bracket_ne_backwardItems
    | cons w ws =>
      obtain rfl : v = w := by
        obtain ⟨d, rest, hd, hbefore⟩ := exists_opensValue vs
        obtain ⟨d', rest', hd', hbefore'⟩ := exists_opensValue ws
        rw [backwardItems, backwardItems, hbefore, hbefore', List.append_assoc,
          List.append_assoc] at h
        exact (hvs v List.mem_cons_self w d d' _ _ hd hd' h).1
      rw [backwardItems, backwardItems, List.append_assoc, List.append_assoc] at h
      -- What stands before the item says whether it is the first of the list.
      have hbefore := List.append_cancel_left h
      split_ifs at hbefore with hnil hnil' hnil'
      · rw [hnil, hnil']
        exact ⟨rfl, (List.cons.inj hbefore).2⟩
      · exact absurd (List.cons.inj hbefore).1 (by decide)
      · exact absurd (List.cons.inj hbefore).1 (by decide)
      · obtain ⟨rfl, hrest⟩ := ih (fun u hu => hvs u (List.mem_cons_of_mem _ hu))
          (List.cons.inj hbefore).2
        exact ⟨rfl, hrest⟩

lemma isReadable_list {vs : List ScopeValue} (hvs : ∀ v ∈ vs, v.IsReadable) :
    (list vs).IsReadable := by
  intro w d d' r r' hd hd' h
  rw [backward_list] at h
  obtain ⟨ws, rfl⟩ := exists_list_of_mayEndWith (mayEndWith_of_eq h)
  rw [backward_list] at h
  obtain ⟨hitems, hrest⟩ := backwardItems_inj
    (fun v hv => hvs v (List.mem_reverse.1 hv)) (List.cons.inj h).2
  rw [List.reverse_injective hitems]
  exact ⟨rfl, List.cons.inj hrest⟩

mutual

/-- Every value can be told from what is read from its end, a list because its items can. -/
lemma isReadable : ∀ v : ScopeValue, v.IsReadable
  | .uuid u => (IsScalar.uuid u).isReadable
  | .str s => isReadable_str s
  | .int n => (IsScalar.int n).isReadable
  | .bool b => (IsScalar.bool b).isReadable
  | .list items => isReadable_list (isReadable_items items)

lemma isReadable_items : ∀ vs : List ScopeValue, ∀ v ∈ vs, v.IsReadable
  | [] => fun _ hv => absurd hv List.not_mem_nil
  | v :: vs => fun u hu =>
    (List.mem_cons.1 hu).elim (fun heq => heq ▸ isReadable v) (isReadable_items vs u)

end

/-- Where two texts that end with values are equal, the values are, and what stands before them. -/
lemma backward_inj {v w : ScopeValue} {d d' : Char} {r r' : List Char} (hd : OpensValue d)
    (hd' : OpensValue d') (h : v.backward ++ d :: r = w.backward ++ d' :: r') :
    v = w ∧ d = d' ∧ r = r' :=
  v.isReadable w d d' r r' hd hd' h

end ScopeValue

/-! ### Keys -/

namespace FilterOperator

lemma label_injective {o o' : FilterOperator} (h : o.label = o'.label) : o = o' := by
  have hsome := congrArg ofLabel? h
  rw [ofLabel?_label, ofLabel?_label] at hsome
  exact Option.some.inj hsome

lemma bar_not_mem_label (o : FilterOperator) : '|' ∉ o.label.toList := by
  cases o <;> decide

end FilterOperator

namespace ScopeFilter

/-- The key of a filter, the last character first. -/
lemma key_backward (f : ScopeFilter) : f.key.toList.reverse = f.value.backward ++
    '|' :: (f.operator.label.toList.reverse ++ '|' :: f.field.toList.reverse) := by
  simp [key, ScopeValue.backward, String.toList_append]

/-- Filters with one key are equal. -/
lemma key_inj {f g : ScopeFilter} (h : f.key = g.key) : f = g := by
  have hbar : OpensValue '|' := Or.inl rfl
  have hback := congrArg (fun s => s.toList.reverse) h
  simp only [key_backward] at hback
  obtain ⟨hvalue, -, hfront⟩ := ScopeValue.backward_inj hbar hbar hback
  -- A label has no bar in it, so that the first bar before the label ends the field.
  have hlabels : ∀ o : FilterOperator, ∀ c ∈ o.label.toList.reverse, c ≠ '|' :=
    fun o c hc heq => o.bar_not_mem_label (List.mem_reverse.1 (heq ▸ hc))
  obtain ⟨hlabel, -, hfield⟩ := append_cons_inj_of_forall (hlabels _) (hlabels _)
    (not_not_intro rfl) (not_not_intro rfl) hfront
  obtain ⟨field, operator, value⟩ := f
  obtain ⟨field', operator', value'⟩ := g
  obtain rfl : field = field' := String.toList_inj.1 (List.reverse_injective hfield)
  obtain rfl : operator = operator' :=
    FilterOperator.label_injective (String.toList_inj.1 (List.reverse_injective hlabel))
  obtain rfl : value = value' := hvalue
  rfl

/-- No filter is lost when filters with one key are taken together. -/
@[simp] lemma mem_deduplicate {fs : List ScopeFilter} {f : ScopeFilter} :
    f ∈ deduplicate fs ↔ f ∈ fs := by
  induction fs with
  | nil => rfl
  | cons g fs ih =>
    rw [deduplicate, List.mem_cons, List.mem_cons, List.mem_filter, ih, decide_eq_true_eq]
    by_cases hkey : f.key = g.key
    · simp [key_inj hkey]
    · simp [hkey]

end ScopeFilter

end AccessControl
