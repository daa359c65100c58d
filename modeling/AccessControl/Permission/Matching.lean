import AccessControl.Permission.Code
/-!
# Matching codes against patterns

A pattern covers a code when it is the wildcard, or names the code, or names one of its two parts
and leaves the other to the wildcard. `Permission.coveredBy` asks that the pattern be well formed
and `tryMatches` asks it of the code too; `covers` and `firstCovering` take whatever is malformed
for something that matches nothing.
-/
namespace AccessControl

namespace Permission

/-- Whether the pattern covers the permission; an error when the pattern is malformed. -/
def coveredBy (p : Permission) (pattern : String) : Except AccessError Bool :=
  if pattern = wildcard then .ok true
  else do
    let q ← parse pattern
    return if q.action = wildcard then q.resource = p.resource
      else if q.resource = wildcard then q.action = p.action
      else q = p

/-- Whether the pattern is well formed and covers the permission. -/
def isCoveredBy (p : Permission) (pattern : String) : Bool :=
  match p.coveredBy pattern with
  | .ok covered => covered
  | .error _ => false

end Permission

/-- Whether the pattern covers the code; an error when either is malformed, or when the code has a
wildcard. -/
def tryMatches (code pattern : String) : Except AccessError Bool := do
  (← Permission.parseConcrete code).coveredBy pattern

/-- Whether code and pattern are well formed and the pattern covers the code. -/
def covers (pattern code : String) : Bool :=
  match tryMatches code pattern with
  | .ok covered => covered
  | .error _ => false

/-- The first of the patterns that covers the code. -/
def firstCovering (patterns : List String) (code : String) : Option String :=
  match Permission.parseConcrete code with
  | .ok p => patterns.find? p.isCoveredBy
  | .error _ => none

/-- Whether one of the patterns covers the code. -/
def anyCovers (patterns : List String) (code : String) : Bool :=
  (firstCovering patterns code).isSome

end AccessControl
