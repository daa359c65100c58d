import AccessControl.Json.Shape
/-!
# Spans of time

A span of time is a number of nanoseconds. On the wire it is a record of whole seconds and further
nanoseconds; more than a thousand million nanoseconds carry into the seconds, which have to stay
below `2 ^ 64`.
-/
namespace AccessControl

/-- A span of time, in nanoseconds. -/
abbrev Duration := Nat

namespace Duration

/-- The nanoseconds in a second. -/
def perSecond : Nat := 1_000_000_000

/-- So many seconds. -/
def ofSeconds (n : Nat) : Duration := n * perSecond

/-- So many thousandths of a second. -/
def ofMillis (n : Nat) : Duration := n * 1_000_000

/-- The whole seconds. -/
def wholeSeconds (d : Duration) : Nat := d / perSecond

/-- The nanoseconds besides the whole seconds. -/
def restNanos (d : Duration) : Nat := d % perSecond

/-- The whole thousandths of a second. -/
def toMillis (d : Duration) : Nat := d / 1_000_000

/-- The seconds as a floating-point number, the whole ones and the fraction each rounded. -/
def toSeconds (d : Duration) : Float :=
  Float.ofNat (wholeSeconds d) + Float.ofNat (restNanos d) / 1e9

/-- The wire form of a span. -/
def toJson (d : Duration) : Json :=
  .object [("secs", .nat (wholeSeconds d)), ("nanos", .nat (restNanos d))]

/-- The span that a wire form holds. -/
def decode? (j : Json) : Option Duration := do
  let member ← j.record? ["secs", "nanos"] true
  let seconds ← Json.required (member "secs") Json.nat64?
  let nanos ← Json.required (member "nanos") Json.nat32?
  let d := ofSeconds seconds + nanos
  if wholeSeconds d < UInt64.size then return d else none

end Duration

end AccessControl
