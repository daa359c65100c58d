import AccessControl.Decimal.Shortest
import AccessControl.Json.Basic
/-!
# Writing JSON

Values are written without spaces. Control characters, quotation marks and backslashes are escaped
in strings; all other characters stand for themselves. A floating-point number is written with its
shortest digits, halfway between two decimals with the even one, and always with a fraction or an
exponent, so that it reads back as one.
-/
namespace AccessControl.Json

/-- How a character is written in a string. -/
def escape (c : Char) : List Char :=
  if c = '"' then ['\\', '"']
  else if c = '\\' then ['\\', '\\']
  else if c.toNat < 0x20 then
    let ds := Nat.toDigits 16 c.toNat
    '\\' :: 'u' :: (List.replicate (4 - ds.length) '0' ++ ds)
  else [c]

/-- A string between its quotation marks. -/
def writeString (s : String) : List Char := '"' :: (s.toList.flatMap escape ++ ['"'])

/-- A floating-point number: with a point from a ten-thousandth up to below ten to the sixteenth,
with an exponent outside. -/
def writeReal (x : Float) : List Char :=
  let d := Decimal.ofFloat .toEven x
  let ds := d.digits
  let point : Int := ds.length + d.exponent
  let body :=
    if d.coefficient = 0 then ['0', '.', '0']
    else if 0 ≤ d.exponent ∧ point ≤ 16 then
      ds ++ List.replicate d.exponent.toNat '0' ++ ['.', '0']
    else if 0 < point ∧ point ≤ 16 then ds.take point.toNat ++ '.' :: ds.drop point.toNat
    else if -5 < point ∧ point ≤ 0 then
      '0' :: '.' :: (List.replicate (-point).toNat '0' ++ ds)
    else
      ds.take 1 ++ (if ds.length = 1 then [] else '.' :: ds.drop 1) ++
        'e' :: (toString (point - 1)).toList
  if Decimal.isNegative x then '-' :: body else body

mutual

/-- The written form of a value, in front of what follows it. -/
def writeBefore : Json → List Char → List Char
  | .null, rest => 'n' :: 'u' :: 'l' :: 'l' :: rest
  | .bool true, rest => 't' :: 'r' :: 'u' :: 'e' :: rest
  | .bool false, rest => 'f' :: 'a' :: 'l' :: 's' :: 'e' :: rest
  | .int i, rest => (toString i).toList ++ rest
  | .real x, rest => writeReal x ++ rest
  | .str s, rest => writeString s ++ rest
  | .arr items, rest => '[' :: writeItems items (']' :: rest)
  | .obj members, rest => '\x7b' :: writeMembers members ('\x7d' :: rest)

/-- The items of an array with commas between them, in front of what follows. -/
def writeItems : List Json → List Char → List Char
  | [], rest => rest
  | [j], rest => writeBefore j rest
  | j :: j' :: js, rest => writeBefore j (',' :: writeItems (j' :: js) rest)

/-- The members of an object with commas between them, in front of what follows. -/
def writeMembers : List (String × Json) → List Char → List Char
  | [], rest => rest
  | [(k, j)], rest => writeString k ++ ':' :: writeBefore j rest
  | (k, j) :: m :: ms, rest =>
    writeString k ++ ':' :: writeBefore j (',' :: writeMembers (m :: ms) rest)

end

/-- The written form of a value. -/
def write (j : Json) : String := String.ofList (writeBefore j [])

end AccessControl.Json
