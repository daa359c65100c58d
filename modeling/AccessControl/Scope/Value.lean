import AccessControl.Json.Shape
import AccessControl.Text.Quoted
import AccessControl.Uuid
/-!
# Values in row filters

A filter compares a field with a scalar, or with a list of values. The kinds of value are kept
apart: an integer is never equal to a text, and an identifier never to the text that spells it.

There are two ways to take a value from JSON. `ScopeValue.ofJson?` leaves every text a text and is
for data that a request carries; `ScopeValue.decode?` takes a text that spells an identifier for
the identifier and is for the wire form, which `ScopeValue.toJson` writes. Neither has a value for
null, for an object, or for a number that is no integer of 64 bits.
-/
namespace AccessControl

/-- A value that a field is compared with. -/
inductive ScopeValue where
  | uuid (u : Uuid)
  | str (s : String)
  | int (n : Int64)
  | bool (b : Bool)
  | list (items : List ScopeValue)
  deriving Inhabited

namespace ScopeValue

mutual

/-- Equality of values can be decided. -/
def decEq : (v w : ScopeValue) → Decidable (v = w)
  | .uuid a, .uuid b => decidable_of_iff (a = b) (by simp)
  | .str a, .str b => decidable_of_iff (a = b) (by simp)
  | .int a, .int b => decidable_of_iff (a = b) (by simp)
  | .bool a, .bool b => decidable_of_iff (a = b) (by simp)
  | .list as, .list bs =>
    have := decEqItems as bs
    decidable_of_iff (as = bs) (by simp)
  | .uuid _, .str _ | .uuid _, .int _ | .uuid _, .bool _ | .uuid _, .list _
  | .str _, .uuid _ | .str _, .int _ | .str _, .bool _ | .str _, .list _
  | .int _, .uuid _ | .int _, .str _ | .int _, .bool _ | .int _, .list _
  | .bool _, .uuid _ | .bool _, .str _ | .bool _, .int _ | .bool _, .list _
  | .list _, .uuid _ | .list _, .str _ | .list _, .int _ | .list _, .bool _ => isFalse nofun

/-- Equality of lists of values can be decided. -/
def decEqItems : (vs ws : List ScopeValue) → Decidable (vs = ws)
  | [], [] => isTrue rfl
  | [], _ :: _ | _ :: _, [] => isFalse nofun
  | v :: vs, w :: ws =>
    have := decEq v w
    have := decEqItems vs ws
    decidable_of_iff (v = w ∧ vs = ws) (by simp)

end

instance : DecidableEq ScopeValue := decEq

mutual

/-- The text of a value. -/
def text : ScopeValue → String
  | .uuid u => u.text
  | .str s => Text.quote s
  | .int n => toString n.toInt
  | .bool b => toString b
  | .list items => "[" ++ ",".intercalate (texts items) ++ "]"

/-- The texts of values. -/
def texts : List ScopeValue → List String
  | [] => []
  | v :: vs => text v :: texts vs

end

mutual

/-- The text of a value together with its kind. -/
def describe : ScopeValue → String
  | .uuid u => "Uuid(" ++ u.text ++ ")"
  | .str s => "String(" ++ Text.quote s ++ ")"
  | .int n => "Int(" ++ toString n.toInt ++ ")"
  | .bool b => "Bool(" ++ toString b ++ ")"
  | .list items => "List([" ++ ", ".intercalate (describeItems items) ++ "])"

/-- The texts of values together with their kinds. -/
def describeItems : List ScopeValue → List String
  | [] => []
  | v :: vs => describe v :: describeItems vs

end

/-- The identifier that a value is, or spells. -/
def asUuid? : ScopeValue → Option Uuid
  | .uuid u => some u
  | .str s => Uuid.ofText? s
  | _ => none

/-- The text that a value is. -/
def asText? : ScopeValue → Option String
  | .str s => some s
  | _ => none

/-- The value of a scalar, where `ofString` says what a text is. -/
def scalar? (ofString : String → ScopeValue) : Json → Option ScopeValue
  | .str s => some (ofString s)
  | .int i => ((Json.int i).int64?).map .int
  | .bool b => some (.bool b)
  | _ => none

mutual

/-- The value that JSON data holds, where `ofString` says what a text is. -/
def read? (ofString : String → ScopeValue) : Json → Option ScopeValue
  | .arr items => (readItems? ofString items).map .list
  | j => scalar? ofString j

/-- The values that JSON data hold. -/
def readItems? (ofString : String → ScopeValue) : List Json → Option (List ScopeValue)
  | [] => some []
  | j :: js => do return (← read? ofString j) :: (← readItems? ofString js)

end

/-- The value that JSON data holds; texts stay texts. -/
def ofJson? : Json → Option ScopeValue := read? .str

/-- The value of a text on the wire: the identifier that it spells, if it does. -/
def ofWireText (s : String) : ScopeValue :=
  match Uuid.ofText? s with
  | some u => .uuid u
  | none => .str s

/-- The value that a wire form holds. -/
def decode? : Json → Option ScopeValue := read? ofWireText

mutual

/-- The wire form of a value. -/
def toJson : ScopeValue → Json
  | .uuid u => .str u.text
  | .str s => .str s
  | .int n => .int n.toInt
  | .bool b => .bool b
  | .list items => .arr (itemsToJson items)

/-- The wire forms of values. -/
def itemsToJson : List ScopeValue → List Json
  | [] => []
  | v :: vs => toJson v :: itemsToJson vs

end

end ScopeValue

end AccessControl
