/-!
# Classes of characters given by ranges

A class of characters is written as a list of inclusive ranges of code points. The classes this
library needs are those of blank characters, of characters that extend a grapheme, and of
characters that have no printed form.
-/
namespace AccessControl.Text

/-- Inclusive ranges of code points. -/
abbrev Ranges := List (Nat × Nat)

/-- A character is in a class when its code point is in one of the ranges. -/
def Ranges.holds (ranges : Ranges) (c : Char) : Bool :=
  ranges.any fun range => range.1 ≤ c.toNat && c.toNat ≤ range.2

theorem Ranges.holds_iff {ranges : Ranges} {c : Char} :
    ranges.holds c = true ↔ ∃ range ∈ ranges, range.1 ≤ c.toNat ∧ c.toNat ≤ range.2 := by
  simp [Ranges.holds]

end AccessControl.Text
