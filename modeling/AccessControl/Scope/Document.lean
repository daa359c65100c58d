import AccessControl.Scope.Combination
/-!
# Scopes as documents

Scope definitions, the sources of their values, filters and hierarchies can be written down in
JSON. A definition names a kind, or a helper that supplies the usual condition of a kind; further
conditions come after those of the helper. A source that computes its value is described by what it
computes: a failure, the tenant's id with a suffix, or a value that does not depend on the request.
-/
namespace AccessControl

/-- The place in a request that a document names. -/
def ContextRef.ofJson? (j : Json) : Option ContextRef :=
  match j with
  | .str "tenant_id" => some .tenantId
  | .str "subject_id" => some .subjectId
  | .obj [("metadata", .str key)] => some (.subjectMetadata key)
  | .obj [("attribute", .str name)] => some (.requestAttribute name)
  | _ => none

/-- The computation of a value that a document describes. -/
def computationOf? (j : Json) : Option (Request → Except AccessError ScopeValue) :=
  match j with
  | .obj [("error", .str message)] => some fun _ => .error (.attributeUnavailable message)
  | .obj [("tenant_suffix", .str suffix)] => some fun r => .ok (.str (r.tenant.id ++ suffix))
  | .obj [("value", value)] =>
    some fun _ =>
      match ScopeValue.ofJson? value with
      | some value => .ok value
      | none => .error (.internal "no scope value")
  | _ => none

/-- The source of a value that a document describes. -/
def ValueSource.ofJson? (j : Json) : Option ValueSource :=
  match j with
  | .obj [("static", value)] => (ScopeValue.decode? value).map .fixed
  | .obj [("static_json", value)] => (ScopeValue.ofJson? value).map .fixed
  | .obj [("context", place)] => (ContextRef.ofJson? place).map .context
  | .obj [("resolver", computation)] => (computationOf? computation).map .computed
  | _ => none

/-- The condition that a document describes. -/
def ScopeCondition.ofJson? (j : Json) : Option ScopeCondition := do
  return {
    field := ← j.member? "field" Json.str?
    operator := ← j.member? "operator" (Json.label? ScopeOperator.ofLabel?)
    value := ← j.member? "value" ValueSource.ofJson? }

namespace ScopeDefinition

/-- What a helper makes of the fields of a document. -/
def ofHelper? (helper id : String) (j : Json) : Option ScopeDefinition := do
  let field := j.member? "field" Json.str?
  let key := j.member? "metadata_key" Json.str?
  match helper with
  | "all" => return { id, kind := .all }
  | "tenant" => return { id, kind := .tenant }
  | "custom" => return { id, kind := .custom }
  | "owned_by_self" => return ownedBySelf id (← field)
  | "department" => return department id (← field) (← key)
  | "team" => return team id (← field) (← key)
  | "subordinates" => return subordinates id (← field) (← j.member? "root" ValueSource.ofJson?)
  | _ => none

/-- The definition that a document describes. -/
def ofJson? (j : Json) : Option ScopeDefinition := do
  let id ← j.member? "id" Json.str?
  let base : ScopeDefinition ←
    match ← j.optional? "helper" Json.str? with
    | some helper => ofHelper? helper id j
    | none => pure { id, kind := ← j.member? "type" (Json.label? ScopeKind.ofLabel?) }
  let more ← j.items? "conditions" ScopeCondition.ofJson?
  let exclusive ← j.optional? "exclusive" Json.bool?
  return { base with
    conditions := base.conditions ++ more
    priority := (← j.optional? "priority" Json.int32?).getD 0
    combinable := !(exclusive.getD false) }

end ScopeDefinition

/-- The filter that a document describes: its wire form, or an operator with a plain value, where a
value that is no list is one of itself. -/
def ScopeFilter.ofJson? (j : Json) : Option ScopeFilter :=
  match j.get? "make" with
  | none => decode? j
  | some make => do
    let field ← j.member? "field" Json.str?
    let value ← ScopeValue.ofJson? ((j.get? "value").getD .null)
    match ← make.label? FilterOperator.ofLabel?, value with
    | .oneOf, .list values => return .oneOf field values
    | .oneOf, value => return .oneOf field [value]
    | operator, value => return { field, operator, value }

namespace Hierarchy

/-- An edge, written as a parent and a child. -/
def edge? (j : Json) : Option (String × String) :=
  match j with
  | .arr [.str parent, .str child] => some (parent, child)
  | _ => none

/-- The hierarchy whose edges a document lists. -/
def ofJson? (j : Json) : Option Hierarchy := (j.member? "edges" (Json.list? edge?)).map .mk

end Hierarchy

/-- The resolver that a document describes: a hierarchy with its edges, or fixed answers for single
roots, among which are roots that cannot be looked up. -/
def resolverOf? (j : Json) : Option HierarchyResolver := do
  match j.get? "fixed" with
  | none => return (← Hierarchy.ofJson? j).resolver
  | some fixed =>
    let lost ← j.items? "fail" Json.str?
    return fun root =>
      if root ∈ lost then .error (.storeUnavailable ("hierarchy down for " ++ root))
      else .ok ((fixed.member? root Json.strings?).getD [])

end AccessControl
