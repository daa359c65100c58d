import AccessControl.Scope.Resolution
/-!
# Combining scopes

The scopes of a request are put in the order of their priorities, the highest first, and in the
order of their listing where priorities are equal. If one of them is not combinable, the first such
scope stands alone. Otherwise all their filters are taken together, or those of the first scope that
has any, as the mode says. An empty list of filters leaves every row visible.
-/
namespace AccessControl

/-- How the filters of several scopes are taken together. -/
inductive CombineMode where
  /-- A row has to pass all filters. -/
  | and
  /-- A row has to pass one filter. -/
  | or
  /-- Only the first scope with filters counts. -/
  | priority
  deriving DecidableEq, Repr

namespace CombineMode

/-- The label of a mode. -/
def label : CombineMode → String
  | and => "and"
  | or => "or"
  | priority => "priority"

/-- The mode with a label. -/
def ofLabel? (s : String) : Option CombineMode := [and, or, priority].find? fun m => m.label = s

/-- The mode with a label, or what is wrong with the label. -/
def parse (s : String) : Except String CombineMode :=
  match ofLabel? s with
  | some mode => .ok mode
  | none => .error ("unknown combine mode '" ++ s ++ "'")

/-- The mode that a wire form holds. -/
def decode? : Json → Option CombineMode := Json.label? ofLabel?

end CombineMode

/-- A scope together with the filters that it has become. -/
structure ResolvedScope where
  definition : ScopeDefinition
  filters : List ScopeFilter

/-- The filters of all scopes of a request, and how they are to be joined. -/
structure CombinedScope where
  mode : CombineMode
  filters : List ScopeFilter
  deriving DecidableEq

namespace CombinedScope

/-- Whether every row is visible. -/
def isUnrestricted (s : CombinedScope) : Bool := s.filters.isEmpty

/-- The wire form of a combined scope. -/
def toJson (s : CombinedScope) : Json :=
  .object [("mode", .str s.mode.label), ("filters", .arr (s.filters.map ScopeFilter.toJson))]

/-- The combined scope that a wire form holds. -/
def decode? (j : Json) : Option CombinedScope := do
  let member ← j.record? ["mode", "filters"] false
  return {
    mode := ← Json.required (member "mode") CombineMode.decode?
    filters := ← Json.required (member "filters") (Json.list? ScopeFilter.decode?) }

end CombinedScope

/-- The scopes in the order of their priorities, the highest first. -/
def byPriority (scopes : List ResolvedScope) : List ResolvedScope :=
  scopes.mergeSort fun s t => decide (t.definition.priority ≤ s.definition.priority)

/-- The filters of the scopes taken together. -/
def combine (scopes : List ResolvedScope) (mode : CombineMode) : List ScopeFilter :=
  let ordered := byPriority scopes
  match ordered.find? fun s => !s.definition.combinable with
  | some exclusive => exclusive.filters
  | none =>
    match mode with
    | .and | .or => ordered.flatMap ResolvedScope.filters
    | .priority => ((ordered.find? fun s => !s.filters.isEmpty).map ResolvedScope.filters).getD []

/-- Resolve all definitions, combine them, and keep the first of equal filters. The first definition
that cannot be resolved is the error. -/
def resolveScopes (hierarchy : Option HierarchyResolver) (definitions : List ScopeDefinition)
    (r : Request) (mode : CombineMode) : Except AccessError CombinedScope := do
  let resolved ← definitions.mapM fun d => (d.resolve hierarchy r).map (ResolvedScope.mk d)
  return { mode, filters := ScopeFilter.deduplicate (combine resolved mode) }

end AccessControl
