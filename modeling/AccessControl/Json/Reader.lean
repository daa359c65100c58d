import AccessControl.Json.Basic
/-!
# Reading JSON

`Json.read?` accepts a text that holds one JSON value, with blanks around its tokens. Every reading
function returns the value that it found at the front of the text and the rest of the text. Values
are nested no deeper than the text is long, so the length of the text is enough as a bound on the
depth of the recursion.
-/
namespace AccessControl.Json.Reader

/-- The text from its first token on. -/
def skip (cs : List Char) : List Char :=
  cs.dropWhile fun c => c = ' ' || c = '\t' || c = '\n' || c = '\r'

/-- The value of a hexadecimal digit. -/
def hexDigit? (c : Char) : Option Nat :=
  if '0' ≤ c ∧ c ≤ '9' then some (c.toNat - '0'.toNat)
  else if 'a' ≤ c ∧ c ≤ 'f' then some (c.toNat - 'a'.toNat + 10)
  else if 'A' ≤ c ∧ c ≤ 'F' then some (c.toNat - 'A'.toNat + 10)
  else none

/-- The number written in the next four hexadecimal digits. -/
def hex4? : List Char → Option (Nat × List Char)
  | a :: b :: c :: d :: rest => do
    let a ← hexDigit? a
    let b ← hexDigit? b
    let c ← hexDigit? c
    let d ← hexDigit? d
    return (((a * 16 + b) * 16 + c) * 16 + d, rest)
  | _ => none

/-- The character after `\u`: one unit, or two units that form a pair. -/
def unicodeEscape? (cs : List Char) : Option (Char × List Char) := do
  let (unit, rest) ← hex4? cs
  if unit < 0xd800 ∨ 0xdfff < unit then return (Char.ofNat unit, rest)
  else if unit ≤ 0xdbff then
    match rest with
    | '\\' :: 'u' :: rest => do
      let (low, rest) ← hex4? rest
      if 0xdc00 ≤ low ∧ low ≤ 0xdfff then
        return (Char.ofNat (0x10000 + (unit - 0xd800) * 0x400 + (low - 0xdc00)), rest)
      else none
    | _ => none
  else none

/-- The character that follows a backslash, one of those named by a letter or by itself. -/
def namedEscape? (c : Char) : Option Char :=
  match c with
  | '"' => some '"'
  | '\\' => some '\\'
  | '/' => some '/'
  | 'b' => some '\x08'
  | 'f' => some '\x0c'
  | 'n' => some '\n'
  | 'r' => some '\r'
  | 't' => some '\t'
  | _ => none

/-- The rest of a string whose opening quotation mark has been read; `done` holds the characters
found so far, the last one first. -/
def string? : Nat → List Char → List Char → Option (String × List Char)
  | 0, _, _ => none
  | fuel + 1, done, cs =>
    match cs with
    | '"' :: rest => some (String.ofList done.reverse, rest)
    | '\\' :: 'u' :: rest => do
      let (c, rest) ← unicodeEscape? rest
      string? fuel (c :: done) rest
    | '\\' :: c :: rest => do string? fuel ((← namedEscape? c) :: done) rest
    | c :: rest => if c.toNat < 0x20 then none else string? fuel (c :: done) rest
    | [] => none

/-- The digits at the front of a text. -/
def digits (cs : List Char) : List Char × List Char :=
  (cs.takeWhile Char.isDigit, cs.dropWhile Char.isDigit)

/-- The number written with these digits. -/
def digitsValue (ds : List Char) : Nat :=
  ds.foldl (fun n c => n * 10 + (c.toNat - '0'.toNat)) 0

/-- The coefficient that starts with `n` and goes on with the digits, as far as it stays below
`2 ^ 64`, and how many digits it took. -/
def absorb (n : Nat) : List Char → Nat × Nat
  | [] => (n, 0)
  | d :: ds =>
    let next := n * 10 + (d.toNat - '0'.toNat)
    if next < UInt64.size then
      let (coefficient, count) := absorb next ds
      (coefficient, count + 1)
    else (n, 0)

/-- The quotient by a power of ten, in steps of `10 ^ 308`, since no larger power is finite. -/
def divideByPower (x : Float) (power : Nat) : Float :=
  if power ≤ 308 then x / Float.ofScientific 1 false power
  else if x == 0.0 then x
  else divideByPower (x / Float.ofScientific 1 false 308) (power - 308)
termination_by power

/-- The number `coefficient * 10 ^ exponent`: the coefficient and the power of ten are rounded to
floating-point numbers, and then their product or quotient is. There is none above the largest
finite number. -/
def realOf? (coefficient : Nat) (exponent : Int) : Option Float :=
  let x := Float.ofNat coefficient
  if exponent < 0 then some (divideByPower x exponent.natAbs)
  else if coefficient = 0 then some x
  else if 308 < exponent then none
  else
    let product := x * Float.ofScientific 1 false exponent.natAbs
    if product.isFinite then some product else none

/-- A number: an integer when it has no fraction and no exponent and fits 64 bits, with or without
a sign; minus zero is not an integer. -/
def number? (cs : List Char) : Option (Json × List Char) := do
  let (negative, cs) := match cs with
    | '-' :: rest => (true, rest)
    | _ => (false, cs)
  let (whole, rest) := digits cs
  if whole.isEmpty ∨ (whole.length ≠ 1 ∧ whole.head? = some '0') then none
  let (fraction, rest, hasFraction) ← match rest with
    | '.' :: rest =>
      let (fraction, rest) := digits rest
      if fraction.isEmpty then none else some (fraction, rest, true)
    | _ => some ([], rest, false)
  let (exponent, rest, hasExponent) ← match rest with
    | c :: rest' =>
      if c = 'e' ∨ c = 'E' then
        let (sign, rest') := match rest' with
          | '-' :: r => (-1, r)
          | '+' :: r => (1, r)
          | _ => ((1 : Int), rest')
        let (ds, rest') := digits rest'
        if ds.isEmpty then none else some (sign * (digitsValue ds : Int), rest', true)
      else some (0, rest, false)
    | [] => some (0, rest, false)
  let n := digitsValue whole
  let isInteger := !hasFraction && !hasExponent &&
    (if negative then 0 < n && n ≤ UInt64.size / 2 else n < UInt64.size)
  if isInteger then
    return (.int (if negative then -(n : Int) else n), rest)
  else
    let (start, wholeCount) := absorb 0 whole
    let (coefficient, fractionCount) := absorb start fraction
    let x ← realOf? coefficient (exponent + (whole.length - wholeCount : Nat) - fractionCount)
    return (.real (if negative then -x else x), rest)

mutual

/-- A value. -/
def value? : Nat → List Char → Option (Json × List Char)
  | 0, _ => none
  | fuel + 1, cs =>
    match skip cs with
    | 'n' :: 'u' :: 'l' :: 'l' :: rest => some (.null, rest)
    | 't' :: 'r' :: 'u' :: 'e' :: rest => some (.bool true, rest)
    | 'f' :: 'a' :: 'l' :: 's' :: 'e' :: rest => some (.bool false, rest)
    | '"' :: rest => do
      let (s, rest) ← string? (rest.length + 1) [] rest
      return (.str s, rest)
    | '[' :: rest =>
      match skip rest with
      | ']' :: rest => some (.arr [], rest)
      | rest => items? fuel [] rest
    | '\x7b' :: rest =>
      match skip rest with
      | '\x7d' :: rest => some (.obj [], rest)
      | rest => members? fuel [] rest
    | rest => number? rest

/-- The rest of an array with at least one more item; `done` holds the items found so far, the last
one first. -/
def items? : Nat → List Json → List Char → Option (Json × List Char)
  | 0, _, _ => none
  | fuel + 1, done, cs => do
    let (j, rest) ← value? fuel cs
    match skip rest with
    | ',' :: rest => items? fuel (j :: done) rest
    | ']' :: rest => some (.arr (j :: done).reverse, rest)
    | _ => none

/-- The rest of an object with at least one more member; `done` holds the members found so far, the
last one first. -/
def members? : Nat → List (String × Json) → List Char → Option (Json × List Char)
  | 0, _, _ => none
  | fuel + 1, done, cs =>
    match skip cs with
    | '"' :: rest => do
      let (key, rest) ← string? (rest.length + 1) [] rest
      match skip rest with
      | ':' :: rest => do
        let (j, rest) ← value? fuel rest
        match skip rest with
        | ',' :: rest => members? fuel ((key, j) :: done) rest
        | '\x7d' :: rest => some (object ((key, j) :: done).reverse, rest)
        | _ => none
      | _ => none
    | _ => none

end

end Reader

/-- The value that a text holds, if it holds exactly one. -/
def read? (text : String) : Option Json :=
  let cs := text.toList
  match Reader.value? (cs.length + 1) cs with
  | some (j, rest) => if (Reader.skip rest).isEmpty then some j else none
  | none => none

end AccessControl.Json
