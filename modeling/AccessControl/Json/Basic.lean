import AccessControl.Entries
/-!
# JSON values

A number written without fraction and exponent is an integer, every other number is a
floating-point number, and the two are never equal. The members of an object are kept in key order,
so that objects are equal when they hold the same members, in whatever order they were written.
-/
namespace AccessControl

/-- A JSON value. -/
inductive Json where
  | null
  | bool (b : Bool)
  | int (i : Int)
  | real (x : Float)
  | str (s : String)
  | arr (items : List Json)
  /-- An object; its members are in key order, as `Entries.insert` keeps them. -/
  | obj (members : List (String × Json))
  deriving Inhabited

namespace Json

mutual

/-- Equality of values. -/
def same : Json → Json → Bool
  | .null, .null => true
  | .bool a, .bool b => a == b
  | .int a, .int b => a == b
  | .real a, .real b => a == b
  | .str a, .str b => a == b
  | .arr a, .arr b => sameItems a b
  | .obj a, .obj b => sameMembers a b
  | _, _ => false

/-- Equality of the items of two arrays, one by one. -/
def sameItems : List Json → List Json → Bool
  | [], [] => true
  | a :: as, b :: bs => same a b && sameItems as bs
  | _, _ => false

/-- Equality of the members of two objects, both in key order. -/
def sameMembers : List (String × Json) → List (String × Json) → Bool
  | [], [] => true
  | (k, a) :: as, (l, b) :: bs => k == l && same a b && sameMembers as bs
  | _, _ => false

end

instance : BEq Json := ⟨same⟩

/-- The object with these members; a later member replaces an earlier one of the same key. -/
def object (members : List (String × Json)) : Json := .obj (Entries.ofList members)

/-- The array of these texts. -/
def strings (items : List String) : Json := .arr (items.map .str)

/-- A value, or null. -/
def ofOption {α : Type} (encode : α → Json) : Option α → Json
  | none => .null
  | some a => encode a

/-- The natural number as a JSON integer. -/
def nat (n : Nat) : Json := .int n

/-- The member of an object under a key. -/
def get? (j : Json) (key : String) : Option Json :=
  match j with
  | .obj members => Entries.get? members key
  | _ => none

/-- An object without the members under some keys. -/
def without (keys : List String) : Json → Json
  | .obj members => .obj (members.filter fun member => !keys.contains member.1)
  | j => j

mutual

/-- The texts in a value, keys included. -/
def texts : Json → List String
  | .str s => [s]
  | .arr items => textsOfItems items
  | .obj members => textsOfMembers members
  | _ => []

/-- The texts in the items of an array. -/
def textsOfItems : List Json → List String
  | [] => []
  | item :: items => texts item ++ textsOfItems items

/-- The texts in the members of an object, keys included. -/
def textsOfMembers : List (String × Json) → List String
  | [] => []
  | (key, value) :: members => key :: (texts value ++ textsOfMembers members)

end

mutual

/-- The value with every text in it changed. Keys stay: they say what a text is. -/
def mapTexts (f : String → String) : Json → Json
  | .str s => .str (f s)
  | .arr items => .arr (mapTextsOfItems f items)
  | .obj members => .obj (mapTextsOfMembers f members)
  | j => j

/-- The items with every text in them changed. -/
def mapTextsOfItems (f : String → String) : List Json → List Json
  | [] => []
  | item :: items => mapTexts f item :: mapTextsOfItems f items

/-- The members with every text in their values changed. -/
def mapTextsOfMembers (f : String → String) : List (String × Json) → List (String × Json)
  | [] => []
  | (key, value) :: members => (key, mapTexts f value) :: mapTextsOfMembers f members

end

end Json

end AccessControl
