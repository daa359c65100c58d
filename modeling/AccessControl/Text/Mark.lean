/-!
# Marks

A mark beside some texts is a text that is part of none of them. It is a run of one character, once
more than this character occurs in all of the texts together, so that it is not part of any of them
when they are joined either (`not_isInfix_mark`). What is written between two marks can therefore be
told from everything that the texts say.
-/
namespace AccessControl.Text

/-- The character that marks consist of, one of those for private use. -/
def markChar : Char := '\ue000'

/-- The characters of some texts, one text after the other. -/
def joined (texts : List String) : List Char := texts.flatMap String.toList

/-- A text that is part of none of the given ones. -/
def mark (texts : List String) : String :=
  String.ofList (List.replicate ((joined texts).count markChar + 1) markChar)

theorem not_isInfix_mark (texts : List String) : ¬(mark texts).toList <:+: joined texts := by
  intro h
  have hcount := h.sublist.count_le markChar
  rw [mark, String.toList_ofList, List.count_replicate_self] at hcount
  omega

/-- A number between two marks. -/
def marked (mark : String) (n : Nat) : String := mark ++ toString n ++ mark

end AccessControl.Text
