import AccessControl.Scope.Definition
import AccessControl.Scope.Hierarchy
/-!
# Resolving scopes

Against a request, a scope definition becomes a list of filters, one for each of its conditions in
order. It fails when a condition has no value: no condition is ever left out.
-/
namespace AccessControl

/-- The field that the filter of a tenant scope compares. -/
def tenantField : String := "tenant_id"

/-- The value of a condition of the named scope. -/
def ValueSource.resolve (scope : String) (r : Request) : ValueSource → Except AccessError ScopeValue
  | fixed value => .ok value
  | context place =>
    match place.value? r with
    | some value => .ok value
    | none => .error (.scopeResolution scope ("no usable value at " ++ place.text))
  | computed value => (value r).mapError fun e => .scopeResolution scope e.message

/-- The id of a root: a text, an identifier or an integer. -/
def ScopeValue.rootId? : ScopeValue → Option String
  | .str s => some s
  | .uuid u => some u.text
  | .int n => some (toString n.toInt)
  | _ => none

/-- The root in front of what a resolver lists, unless it is listed. -/
def withRoot (root : String) (ids : List String) : List String :=
  if root ∈ ids then ids else root :: ids

/-- The filter that a condition of the named scope becomes. -/
def ScopeCondition.resolve (hierarchy : Option HierarchyResolver) (scope : String)
    (c : ScopeCondition) (r : Request) : Except AccessError ScopeFilter := do
  let value ← c.value.resolve scope r
  match c.operator with
  | .compare operator => return ⟨c.field, operator, value⟩
  | .hierarchy =>
    match value.rootId?, hierarchy with
    | none, _ =>
      throw (.scopeResolution scope ("hierarchy root must be a scalar id, got " ++ value.text))
    | some _, none => throw (.scopeResolution scope "no hierarchy resolver configured")
    | some root, some resolver =>
      let ids ← resolver root
      return .oneOf c.field ((withRoot root ids).map .str)

/-- The filters that a definition becomes. -/
def ScopeDefinition.resolve (hierarchy : Option HierarchyResolver) (d : ScopeDefinition)
    (r : Request) : Except AccessError (List ScopeFilter) :=
  match d.kind with
  | .all => .ok []
  | .tenant => .ok [.equal tenantField (.str r.tenant.id)]
  | .department | .team | .own | .subordinates | .custom =>
    d.conditions.mapM fun c => c.resolve hierarchy d.id r

end AccessControl
