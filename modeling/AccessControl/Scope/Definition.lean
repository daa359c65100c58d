import AccessControl.Request
import AccessControl.Scope.Filter
import AccessControl.Error
/-!
# Scope definitions

A scope definition says which rows a subject may see in terms of the request: its tenant, its
subject, the subject's metadata, its attributes. Each condition of a definition compares a field
with a value from some source. A hierarchy condition names a root and means the root and all below
it.
-/
namespace AccessControl

/-- The kind of a scope. -/
inductive ScopeKind where
  /-- Every row. -/
  | all
  /-- The rows of the request's tenant. -/
  | tenant
  | department
  | team
  /-- The rows that belong to the subject. -/
  | own
  /-- The rows at or below a root of a hierarchy. -/
  | subordinates
  | custom
  deriving DecidableEq, Repr

namespace ScopeKind

/-- The label of a kind. -/
def label : ScopeKind → String
  | all => "all"
  | tenant => "tenant"
  | department => "department"
  | team => "team"
  | own => "self"
  | subordinates => "subordinates"
  | custom => "custom"

/-- The kind with a label. -/
def ofLabel? (s : String) : Option ScopeKind :=
  [all, tenant, department, team, own, subordinates, custom].find? fun k => k.label = s

end ScopeKind

/-- How a condition compares its field. -/
inductive ScopeOperator where
  /-- As a filter does. -/
  | compare (operator : FilterOperator)
  /-- The field is the given root or below it. -/
  | hierarchy
  deriving DecidableEq, Repr

namespace ScopeOperator

/-- The label of an operator. -/
def label : ScopeOperator → String
  | compare operator => operator.label
  | hierarchy => "hierarchy"

/-- The operator with a label. -/
def ofLabel? (s : String) : Option ScopeOperator :=
  if s = "hierarchy" then some hierarchy else (FilterOperator.ofLabel? s).map compare

/-- The operator of filters that it is, if it is one. -/
def filterOperator? : ScopeOperator → Option FilterOperator
  | compare operator => some operator
  | hierarchy => none

end ScopeOperator

/-- A place in a request. -/
inductive ContextRef where
  | tenantId
  | subjectId
  | subjectMetadata (key : String)
  | requestAttribute (name : String)
  deriving DecidableEq, Repr

namespace ContextRef

/-- The text of a place. -/
def text : ContextRef → String
  | tenantId => "tenant.id"
  | subjectId => "subject.id"
  | subjectMetadata key => "subject.metadata." ++ key
  | requestAttribute name => "attributes." ++ name

/-- The text of a place together with its kind. -/
def describe : ContextRef → String
  | tenantId => "TenantId"
  | subjectId => "SubjectId"
  | subjectMetadata key => "SubjectMetadata(" ++ Text.quote key ++ ")"
  | requestAttribute name => "Attribute(" ++ Text.quote name ++ ")"

/-- The value at a place, if there is one that a filter can take. -/
def value? (r : Request) : ContextRef → Option ScopeValue
  | tenantId => some (.str r.tenant.id)
  | subjectId => some (.str r.subject.id)
  | subjectMetadata key => (r.subject.metadata.get? key).bind ScopeValue.ofJson?
  | requestAttribute name => (r.attribute? name).bind ScopeValue.ofJson?

end ContextRef

/-- Where a condition has its value from. -/
inductive ValueSource where
  /-- The definition itself. -/
  | fixed (value : ScopeValue)
  /-- A place in the request. -/
  | context (place : ContextRef)
  /-- A computation over the request, which may fail. -/
  | computed (value : Request → Except AccessError ScopeValue)

/-- The text of a source together with its kind. -/
def ValueSource.describe : ValueSource → String
  | fixed value => "Static(" ++ value.describe ++ ")"
  | context place => "Context(" ++ place.describe ++ ")"
  | computed _ => "Resolver(..)"

/-- One condition of a scope. -/
structure ScopeCondition where
  field : String
  operator : ScopeOperator
  value : ValueSource

/-- Which rows a subject may see. -/
structure ScopeDefinition where
  id : String
  kind : ScopeKind
  conditions : List ScopeCondition := []
  /-- Scopes of higher priority come first. -/
  priority : Int := 0
  /-- A scope that is not combinable stands in the place of all others. -/
  combinable : Bool := true

namespace ScopeDefinition

/-- The rows whose field holds the id of the subject. -/
def ownedBySelf (id field : String) : ScopeDefinition :=
  { id, kind := .own, conditions := [⟨field, .compare .equal, .context .subjectId⟩] }

/-- The rows whose field holds some metadata of the subject, for a department or a team. -/
def byMetadata (kind : ScopeKind) (id field key : String) : ScopeDefinition :=
  { id, kind, conditions := [⟨field, .compare .equal, .context (.subjectMetadata key)⟩] }

/-- The rows whose field holds the subject's department. -/
def department : (id field key : String) → ScopeDefinition := byMetadata .department

/-- The rows whose field holds the subject's team. -/
def team : (id field key : String) → ScopeDefinition := byMetadata .team

/-- The rows whose field holds the root or an id below it. -/
def subordinates (id field : String) (root : ValueSource) : ScopeDefinition :=
  { id, kind := .subordinates, conditions := [⟨field, .hierarchy, root⟩] }

end ScopeDefinition

end AccessControl
