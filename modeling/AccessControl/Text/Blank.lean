import AccessControl.Text.Ranges
/-!
# Blank characters

The blank characters are those with the Unicode property `White_Space`: the controls from tab to
carriage return, the space, next line, and the spaces and separators of general punctuation.
`trim` takes them off both ends of a text.
-/
namespace AccessControl.Text

/-- The characters with the property `White_Space`. -/
def blanks : Ranges :=
  [(0x9, 0xd), (0x20, 0x20), (0x85, 0x85), (0xa0, 0xa0), (0x1680, 0x1680), (0x2000, 0x200a),
    (0x2028, 0x2029), (0x202f, 0x202f), (0x205f, 0x205f), (0x3000, 0x3000)]

/-- Whether a character is blank. -/
def isBlank (c : Char) : Bool := blanks.holds c

/-- The text without the blank characters at its two ends. -/
def trim (s : String) : String :=
  String.ofList (((s.toList.dropWhile isBlank).reverse.dropWhile isBlank).reverse)

/-- A text is blank when it has no other characters. -/
def isBlankText (s : String) : Bool := s.toList.all isBlank

private theorem dropWhile_eq_nil_iff_all {p : Char → Bool} :
    ∀ {cs : List Char}, cs.dropWhile p = [] ↔ cs.all p = true
  | [] => by simp
  | c :: cs => by
    cases h : p c with
    | true => simp [h, dropWhile_eq_nil_iff_all]
    | false => simp [h]

/-- Trimming leaves nothing exactly of the blank texts. -/
theorem trim_eq_empty_iff {s : String} : trim s = "" ↔ isBlankText s = true := by
  rw [← String.toList_inj]
  simp only [trim, isBlankText, String.toList_ofList, String.toList_empty,
    List.reverse_eq_nil_iff]
  constructor
  · intro h
    rw [dropWhile_eq_nil_iff_all, List.all_reverse] at h
    have hsplit := List.takeWhile_append_dropWhile (p := isBlank) (l := s.toList)
    rw [← hsplit, List.all_append, h, List.all_takeWhile, Bool.and_self]
  · intro h
    simp [dropWhile_eq_nil_iff_all.2 h]

end AccessControl.Text
