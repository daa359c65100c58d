import AccessControl.Text.DefaultIgnorable
import AccessControl.Text.GraphemeExtend
import AccessControl.Text.Printable
/-!
# Quoted text

A text is quoted by writing it between two quotation marks, with a backslash before each quotation
mark and each backslash, and with an escape for each character that would not be seen: by name for
the zero character and for the common layout controls, and by its code point in hexadecimal for
every other character that is not printed, that is ignored by default, or that joins the character
before it. The two halfwidth sound marks join the letter before them too, but each is seen in a cell
of its own, and so they are written as they are.

The written form determines the text, because only an escape starts with a backslash and no
written character is a bare quotation mark.
-/
namespace AccessControl.Text

/-- Whether a character is one of the halfwidth marks for voiced and semi-voiced sounds, which take
a cell of their own. -/
def isHalfwidthSoundMark (c : Char) : Bool := c = '\uff9e' || c = '\uff9f'

/-- Whether a character is written as the escape of its code point. -/
def needsCodePoint (c : Char) : Bool :=
  !isPrintable c || isDefaultIgnorable c || (extendsGrapheme c && !isHalfwidthSoundMark c)

/-- The escape of a code point: `u` and the code point in hexadecimal between braces. -/
def codePointEscape (c : Char) : List Char :=
  '\\' :: 'u' :: '\x7b' :: (Nat.toDigits 16 c.toNat ++ ['\x7d'])

/-- How a character is written inside quotation marks. -/
def escape (c : Char) : List Char :=
  if c = '\x00' then ['\\', '0']
  else if c = '\t' then ['\\', 't']
  else if c = '\r' then ['\\', 'r']
  else if c = '\n' then ['\\', 'n']
  else if c = '\\' then ['\\', '\\']
  else if c = '"' then ['\\', '"']
  else if needsCodePoint c then codePointEscape c
  else [c]

/-- The text between quotation marks, with its escapes. -/
def quote (s : String) : String :=
  String.ofList ('"' :: (s.toList.flatMap escape ++ ['"']))

/-- Texts, quoted, between brackets and with a comma and a space between any two. -/
def quoteList (items : List String) : String :=
  "[" ++ ", ".intercalate (items.map quote) ++ "]"

end AccessControl.Text
