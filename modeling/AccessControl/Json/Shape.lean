import AccessControl.Json.Basic
/-!
# Shapes of JSON values

The decoders that the wire forms of this library are built from. A scalar decoder accepts exactly
the values of its kind: an integer is never taken for a floating-point number's text or the other
way round, except that `real?` accepts integers as numbers.

A record is written as an object, whose further members are ignored unless the record is closed,
or as an array that holds the first members in the order of their declaration. A label of an
enumeration is written as a string, or as an object whose only member has the label as its key and
null as its value.
-/
namespace AccessControl.Json

/-- The text of a string. -/
def str? : Json → Option String
  | .str s => some s
  | _ => none

/-- A truth value. -/
def bool? : Json → Option Bool
  | .bool b => some b
  | _ => none

/-- An integer from `low` to `high`. -/
def intBetween? (low high : Int) : Json → Option Int
  | .int i => if low ≤ i ∧ i ≤ high then some i else none
  | _ => none

/-- A signed integer of 64 bits. -/
def int64? (j : Json) : Option Int64 :=
  (j.intBetween? Int64.minValue.toInt Int64.maxValue.toInt).map Int64.ofInt

/-- A signed integer of 32 bits. -/
def int32? (j : Json) : Option Int :=
  j.intBetween? Int32.minValue.toInt Int32.maxValue.toInt

/-- An unsigned integer of 64 bits. -/
def nat64? (j : Json) : Option Nat := (j.intBetween? 0 (UInt64.size - 1)).map Int.toNat

/-- An unsigned integer of 32 bits. -/
def nat32? (j : Json) : Option Nat := (j.intBetween? 0 (UInt32.size - 1)).map Int.toNat

/-- A number, an integer included. -/
def real? : Json → Option Float
  | .int i => some (Float.ofInt i)
  | .real x => some x
  | _ => none

/-- The items of an array, decoded one by one. -/
def list? {α : Type} (decode : Json → Option α) : Json → Option (List α)
  | .arr items => items.mapM decode
  | _ => none

/-- An array of strings. -/
def strings? : Json → Option (List String) := list? str?

/-- The members of an object. -/
def members? : Json → Option (List (String × Json))
  | .obj members => some members
  | _ => none

/-- A value that may be null. -/
def nullable? {α : Type} (decode : Json → Option α) : Json → Option (Option α)
  | .null => some none
  | j => (decode j).map some

/-- A label of an enumeration. -/
def label? {α : Type} (ofLabel? : String → Option α) : Json → Option α
  | .str s => ofLabel? s
  | .obj [(s, .null)] => ofLabel? s
  | _ => none

/-- The members of a record by their names, from its object or its array form. `names` lists the
members in the order of their declaration; a closed record has no others. -/
def record? (names : List String) (closed : Bool) : Json → Option (String → Option Json)
  | .obj members =>
    if closed && members.any (fun member => !names.contains member.1) then none
    else some (Entries.get? members)
  | .arr items =>
    if items.length ≤ names.length then some (fun name => (names.zip items).lookup name)
    else none
  | _ => none

/-- A member that may be left out, with the value that it then has. -/
def given {α : Type} (member : Option Json) (decode : Json → Option α) (otherwise : α) :
    Option α :=
  match member with
  | none => some otherwise
  | some j => decode j

/-- A member that has to be there. -/
def required {α : Type} (member : Option Json) (decode : Json → Option α) : Option α :=
  member.bind decode

/-- The member of an object under a key, decoded. -/
def member? {α : Type} (j : Json) (key : String) (decode : Json → Option α) : Option α :=
  (j.get? key).bind decode

/-- The member of an object under a key, decoded; one that is left out counts as null. -/
def optional? {α : Type} (j : Json) (key : String) (decode : Json → Option α) :
    Option (Option α) :=
  nullable? decode ((j.get? key).getD .null)

/-- The items of a member under a key, decoded; there are none if it is left out or null. -/
def items? {α : Type} (j : Json) (key : String) (decode : Json → Option α) : Option (List α) :=
  (j.optional? key (list? decode)).map fun items => items.getD []

end AccessControl.Json
