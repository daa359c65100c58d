/-!
# Universally unique identifiers

A UUID is thirty-two hexadecimal digits. Its text has hyphens between groups of eight, four, four,
four and twelve digits, in lower case. It is read in either case, from its plain digits, from its
groups, and from its groups between braces or after `urn:uuid:`, also in either case; reading its
text gives it back.
-/
namespace AccessControl

/-- A universally unique identifier. -/
structure Uuid where
  /-- The hexadecimal digits. -/
  digits : List (Fin 16)
  /-- There are thirty-two of them. -/
  length_digits : digits.length = 32
  deriving DecidableEq

namespace Uuid

/-- The sizes of the groups of digits in a text. -/
def groups : List Nat := [8, 4, 4, 4, 12]

/-- The characters with hyphens between groups of the given sizes. -/
def hyphenate : List Nat → List Char → List Char
  | n :: m :: ns, cs => cs.take n ++ '-' :: hyphenate (m :: ns) (cs.drop n)
  | _, cs => cs

/-- The characters without the hyphens between groups of the given sizes; the size of the last
group is left open. -/
def joinGroups : List Nat → List Char → Option (List Char)
  | n :: m :: ns, cs =>
    match cs.drop n with
    | '-' :: rest => (joinGroups (m :: ns) rest).map (cs.take n ++ ·)
    | _ => none
  | _, cs => some cs

theorem joinGroups_hyphenate {ns : List Nat} {cs : List Char}
    (h : ns.foldr (· + ·) 0 ≤ cs.length) :
    joinGroups ns (hyphenate ns cs) = some cs := by
  induction ns generalizing cs with
  | nil => simp [hyphenate, joinGroups]
  | cons n ns ih =>
    cases ns with
    | nil => simp [hyphenate, joinGroups]
    | cons m ns =>
      rw [List.foldr_cons] at h
      have hlen : (cs.take n).length = n := by simp; omega
      have hrest : (m :: ns).foldr (· + ·) 0 ≤ (cs.drop n).length := by
        rw [List.length_drop]
        omega
      have hdrop : (hyphenate (n :: m :: ns) cs).drop n =
          '-' :: hyphenate (m :: ns) (cs.drop n) := by
        simp [hyphenate, hlen]
      have htake : (hyphenate (n :: m :: ns) cs).take n = cs.take n := by
        simp [hyphenate, hlen]
      simp [joinGroups, hdrop, htake, ih hrest]

/-- How a digit is written. -/
def digitChar (d : Fin 16) : Char := Nat.digitChar d

/-- The digit that a character writes. -/
def digit? (c : Char) : Option (Fin 16) :=
  (List.finRange 16).find? fun d => digitChar d = c.toLower

theorem digit?_digitChar : ∀ d : Fin 16, digit? (digitChar d) = some d := by decide

/-- The identifier with the digits that these characters write. -/
def ofPlain? (cs : List Char) : Option Uuid :=
  match cs.mapM digit? with
  | none => none
  | some ds => if h : ds.length = 32 then some ⟨ds, h⟩ else none

/-- The identifier that these characters write in groups. -/
def ofGroups? (cs : List Char) : Option Uuid := (joinGroups groups cs).bind ofPlain?

/-- What names the space of these identifiers before the groups of one. -/
def namespaceLabel : List Char := "urn:uuid:".toList

/-- The characters after the label of the namespace, if they begin with it in either case. -/
def dropNamespace? (cs : List Char) : Option (List Char) :=
  let n := namespaceLabel.length
  if (cs.take n).map Char.toLower = namespaceLabel then some (cs.drop n) else none

/-- The identifier that these characters write, without the label of the namespace. -/
def ofUnlabelled? (cs : List Char) : Option Uuid :=
  match cs with
  | '\x7b' :: inner => if inner.getLast? = some '\x7d' then ofGroups? inner.dropLast else none
  | cs => if cs.length = 32 then ofPlain? cs else ofGroups? cs

/-- The identifier that a text writes. -/
def ofText? (text : String) : Option Uuid :=
  match dropNamespace? text.toList with
  | some cs => ofGroups? cs
  | none => ofUnlabelled? text.toList

/-- The text of an identifier. -/
def text (u : Uuid) : String := String.ofList (hyphenate groups (u.digits.map digitChar))

theorem length_hyphenate (n : Nat) (ns : List Nat) (cs : List Char) :
    (hyphenate (n :: ns) cs).length = cs.length + ns.length := by
  induction ns generalizing n cs with
  | nil => simp [hyphenate]
  | cons m ns ih =>
    have hcut : (cs.take n).length + (cs.drop n).length = cs.length := by
      rw [← List.length_append, List.take_append_drop]
    simp only [hyphenate, List.length_append, List.length_cons, ih]
    omega

theorem mapM_digit?_map (ds : List (Fin 16)) : (ds.map digitChar).mapM digit? = some ds := by
  induction ds with
  | nil => rfl
  | cons d ds ih => simp [digit?_digitChar, ih]

/-- The text of an identifier is read as that identifier. -/
theorem ofText?_text (u : Uuid) : ofText? u.text = some u := by
  obtain ⟨digits, hlength⟩ := u
  have hread : ofGroups? (hyphenate groups (digits.map digitChar)) = some ⟨digits, hlength⟩ := by
    have hsize : groups.foldr (· + ·) 0 ≤ (digits.map digitChar).length := by
      rw [List.length_map, hlength]
      decide
    rw [ofGroups?, joinGroups_hyphenate hsize, Option.bind_some, ofPlain?, mapM_digit?_map]
    exact dif_pos hlength
  have hcount : (hyphenate groups (digits.map digitChar)).length = 36 := by
    rw [groups, length_hyphenate, List.length_map, hlength]
    rfl
  -- It begins with a digit, and so neither with a label nor with a brace.
  obtain ⟨d, rest, hfirst⟩ : ∃ d rest,
      hyphenate groups (digits.map digitChar) = digitChar d :: rest := by
    cases digits with
    | nil => cases hlength
    | cons d ds => exact ⟨d, _, rfl⟩
  have hlabel : ∀ d : Fin 16, (digitChar d).toLower ≠ 'u' := by decide
  have hbrace : ∀ d : Fin 16, digitChar d ≠ '\x7b' := by decide
  have hnone : dropNamespace? (digitChar d :: rest) = none := by
    refine if_neg fun h => hlabel d ?_
    exact (List.cons.inj h).1
  rw [ofText?, text, String.toList_ofList, hfirst, hnone]
  rw [hfirst] at hread hcount
  dsimp only [ofUnlabelled?]
  split
  · rename_i heq
    exact absurd (List.cons.inj heq).1 (hbrace d)
  · rw [if_neg (by rw [hcount]; decide), hread]

end Uuid

end AccessControl
