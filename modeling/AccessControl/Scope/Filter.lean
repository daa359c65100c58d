import AccessControl.Scope.Value
/-!
# Row filters

A filter compares a named field of a row with a value. `ScopeFilter.key` is a text that tells
filters apart; `deduplicate` keeps the first filter of each key, and `hasConflict` recognises one
kind of contradiction: a field that must be equal to a value and must be different from it.
-/
namespace AccessControl

/-- How a field is compared with a value. -/
inductive FilterOperator where
  | equal | unequal | oneOf | noneOf | greater | atLeast | less | atMost | like
  deriving DecidableEq, Repr

namespace FilterOperator

/-- The label of an operator. -/
def label : FilterOperator → String
  | equal => "eq"
  | unequal => "neq"
  | oneOf => "in"
  | noneOf => "not_in"
  | greater => "gt"
  | atLeast => "gte"
  | less => "lt"
  | atMost => "lte"
  | like => "like"

/-- All operators. -/
def all : List FilterOperator :=
  [equal, unequal, oneOf, noneOf, greater, atLeast, less, atMost, like]

/-- The operator with a label. -/
def ofLabel? (s : String) : Option FilterOperator := all.find? fun o => o.label = s

@[simp] theorem ofLabel?_label (o : FilterOperator) : ofLabel? o.label = some o := by
  cases o <;> decide

end FilterOperator

/-- A condition on the rows of a table. -/
structure ScopeFilter where
  /-- The name of the field. -/
  field : String
  /-- How it is compared. -/
  operator : FilterOperator
  /-- What it is compared with. -/
  value : ScopeValue
  deriving DecidableEq

namespace ScopeFilter

/-- The field is equal to the value. -/
def equal (field : String) (value : ScopeValue) : ScopeFilter := ⟨field, .equal, value⟩

/-- The field is different from the value. -/
def unequal (field : String) (value : ScopeValue) : ScopeFilter := ⟨field, .unequal, value⟩

/-- The field is one of the values. -/
def oneOf (field : String) (values : List ScopeValue) : ScopeFilter := ⟨field, .oneOf, .list values⟩

/-- The text that stands for field, operator and value together. -/
def key (f : ScopeFilter) : String := f.field ++ "|" ++ f.operator.label ++ "|" ++ f.value.text

/-- The filter as a reader sees it. -/
def text (f : ScopeFilter) : String := f.field ++ " " ++ f.operator.label ++ " " ++ f.value.text

/-- The wire form of a filter. -/
def toJson (f : ScopeFilter) : Json :=
  .object [("field", .str f.field), ("operator", .str f.operator.label), ("value", f.value.toJson)]

/-- The filter that a wire form holds. -/
def decode? (j : Json) : Option ScopeFilter := do
  let member ← j.record? ["field", "operator", "value"] false
  return {
    field := ← Json.required (member "field") Json.str?
    operator := ← Json.required (member "operator") (Json.label? FilterOperator.ofLabel?)
    value := ← Json.required (member "value") ScopeValue.decode? }

/-- The filters without those whose key has come before. -/
def deduplicate : List ScopeFilter → List ScopeFilter
  | [] => []
  | f :: fs => f :: (deduplicate fs).filter fun g => g.key ≠ f.key

/-- Whether a field must be equal to some value and also different from it. -/
def hasConflict (fs : List ScopeFilter) : Bool :=
  fs.any fun f => f.operator = .equal &&
    fs.any fun g => g.operator = .unequal && g.field = f.field && g.value = f.value

end ScopeFilter

end AccessControl
