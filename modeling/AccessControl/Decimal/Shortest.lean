/-!
# Shortest decimals

A floating-point number stands for every real number that rounds to it. Its shortest decimal is the
decimal with the fewest digits among those reals, and of several such decimals the nearest to the
number itself. Two of them may be equally near, as the number may lie halfway between them; which
of the two is taken is a decision of the format that is written, a `TieRule`.

`Binary.ofBits` reads a number as `mantissa * 2 ^ exponent`, `Binary.span` gives the interval of
reals that round to it, and `Binary.shortest` looks at the two neighbours of the number on the grids
of one, two, up to seventeen digits, in exact arithmetic on natural numbers; the first grid with a
neighbour in the interval decides. Seventeen digits always suffice for a number of 64 bits.
-/
namespace AccessControl

/-- The number `coefficient * 10 ^ exponent`. -/
structure Decimal where
  /-- The digits, read as one natural number. -/
  coefficient : Nat
  /-- The power of ten by which the digits are scaled. -/
  exponent : Int
  deriving DecidableEq, Repr

namespace Decimal

/-- The digits of the coefficient, without leading zeros. -/
def digits (d : Decimal) : List Char := Nat.toDigits 10 d.coefficient

/-- The same number with the zeros at the end of its digits moved to the exponent, at most `fuel`
of them. -/
def trimZeros : Nat → Decimal → Decimal
  | 0, d => d
  | fuel + 1, d =>
    if d.coefficient ≠ 0 ∧ d.coefficient % 10 = 0 then
      trimZeros fuel ⟨d.coefficient / 10, d.exponent + 1⟩
    else d

end Decimal

/-- Which of two neighbours on a grid is taken when a number lies halfway between them. -/
inductive TieRule where
  /-- The one with an even last digit. -/
  | toEven
  /-- The one of greater magnitude. -/
  | toGreater
  deriving DecidableEq, Repr

/-- Whether the lower neighbour, a coefficient on the grid, is taken at a tie. -/
def TieRule.takesLower : TieRule → Nat → Bool
  | .toEven, lower => lower % 2 = 0
  | .toGreater, _ => false

/-- The number `mantissa * 2 ^ exponent`. -/
structure Binary where
  /-- The significant bits, read as one natural number. -/
  mantissa : Nat
  /-- The power of two by which they are scaled. -/
  exponent : Int
  deriving DecidableEq, Repr

namespace Binary

/-- The magnitude of the 64-bit floating-point number with these bits. -/
def ofBits (bits : UInt64) : Binary :=
  let fraction := (bits &&& 0xFFFFFFFFFFFFF).toNat
  let scale := ((bits >>> 52) &&& 0x7FF).toNat
  if scale = 0 then ⟨fraction, -1074⟩ else ⟨fraction + Nat.pow 2 52, scale - 1075⟩

/-- An interval of reals and a point in it, as fractions over one denominator. -/
structure Span where
  /-- Numerator of the lower end. -/
  low : Nat
  /-- Numerator of the point. -/
  point : Nat
  /-- Numerator of the upper end. -/
  high : Nat
  /-- The common denominator. -/
  denominator : Nat
  /-- Whether the two ends belong to the interval. -/
  closed : Bool
  deriving DecidableEq, Repr

/-- The reals that round to the number: half a gap to each side, a quarter below a power of two,
where the gap halves. The ends round to the number exactly when its mantissa is even. -/
def span (b : Binary) : Span :=
  let below := if b.mantissa = Nat.pow 2 52 ∧ -1074 < b.exponent then 1 else 2
  let up := Nat.pow 2 (b.exponent - 2).toNat
  { low := (4 * b.mantissa - below) * up
    point := 4 * b.mantissa * up
    high := (4 * b.mantissa + 2) * up
    denominator := Nat.pow 2 (2 - b.exponent).toNat
    closed := b.mantissa % 2 = 0 }

/-- The greatest power of ten that is not above `numerator / denominator`, both positive. -/
def leadingPower (numerator denominator : Nat) : Int :=
  if denominator ≤ numerator then
    ((Nat.toDigits 10 (numerator / denominator)).length : Int) - 1
  else
    -((Nat.toDigits 10 ((denominator + numerator - 1) / numerator - 1)).length : Int)

namespace Span

/-- The interval with all numerators and the denominator scaled so that the grid of the multiples
of `10 ^ power` is the grid of the multiples of the returned step. -/
def onGrid (s : Span) (power : Int) : Span × Nat :=
  let down := Nat.pow 10 (-power).toNat
  ({ s with low := s.low * down, point := s.point * down, high := s.high * down },
    s.denominator * Nat.pow 10 power.toNat)

/-- Whether a numerator over the common denominator lies in the interval. -/
def contains (s : Span) (x : Nat) : Bool :=
  if s.closed then s.low ≤ x && x ≤ s.high else s.low < x && x < s.high

/-- The neighbour of the point on the grid of `10 ^ power` that lies in the interval: of two the
nearer one, of two equally near the one that the rule takes. -/
def neighbour? (tie : TieRule) (s : Span) (power : Int) : Option Decimal :=
  let (g, step) := s.onGrid power
  let below := g.point / step
  let toBelow := g.point - below * step
  let toAbove := (below + 1) * step - g.point
  match g.contains (below * step), g.contains ((below + 1) * step) with
  | true, true =>
    if toBelow < toAbove ∨ (toBelow = toAbove ∧ tie.takesLower below) then some ⟨below, power⟩
    else some ⟨below + 1, power⟩
  | true, false => some ⟨below, power⟩
  | false, true => some ⟨below + 1, power⟩
  | false, false => none

end Span

/-- The shortest decimal of a number of 64 bits, its digits not ending in a zero. -/
def shortest (tie : TieRule) (b : Binary) : Decimal :=
  if b.mantissa = 0 then ⟨0, 0⟩
  else
    let s := b.span
    let lead := leadingPower s.point s.denominator
    let grids := (List.range 17).map fun (more : Nat) => lead - (more : Int)
    ((grids.findSome? (s.neighbour? tie)).getD ⟨s.point / s.denominator, 0⟩).trimZeros 400

end Binary

namespace Decimal

/-- The shortest decimal of the magnitude of a finite floating-point number. -/
def ofFloat (tie : TieRule) (x : Float) : Decimal := (Binary.ofBits x.toBits).shortest tie

/-- Whether a floating-point number carries a minus sign, the negative zero included. -/
def isNegative (x : Float) : Bool := x.toBits >>> 63 = 1

/-- A finite floating-point number written with its shortest digits, the point where it belongs,
no exponent, and no point when there is no fraction. -/
def plain (tie : TieRule) (x : Float) : String :=
  let d := ofFloat tie x
  let ds := d.digits
  let body :=
    if 0 ≤ d.exponent then ds ++ List.replicate d.exponent.toNat '0'
    else
      let places := (-d.exponent).toNat
      if places < ds.length then
        ds.take (ds.length - places) ++ '.' :: ds.drop (ds.length - places)
      else '0' :: '.' :: (List.replicate (places - ds.length) '0' ++ ds)
  String.ofList (if isNegative x then '-' :: body else body)

end Decimal

end AccessControl
