import AccessControl.Error
/-!
# Permission codes

A permission code is a resource and an action with a colon between them, such as `order:read`. Each
of the two is a segment: a letter, then letters, digits and underscores, all of ASCII. In a pattern
one of the two may be the wildcard `*`; the single wildcard alone stands for every permission and is
not a code.

`Permission.ofText` reads a code or pattern with two parts, `Permission.ofConcrete` one without
wildcards. Both say what is wrong with a text that is neither, and `Permission.text` gives the text
back.
-/
namespace AccessControl

/-- What stands between the resource and the action of a code. -/
def separator : Char := ':'

/-- What stands for any resource or any action in a pattern, and alone for every permission. -/
def wildcard : String := "*"

/-- A segment starts with a letter, and letters, digits and underscores follow. -/
def isSegment (s : String) : Bool :=
  match s.toList with
  | [] => false
  | c :: cs => c.isAlpha && cs.all fun c => c.isAlphanum || c = '_'

/-- What is wrong with a text that should be a code. -/
inductive CodeFault where
  /-- There is no separator, or more than one. -/
  | separators
  /-- The resource or the action is empty. -/
  | emptySegment
  /-- A wildcard stands where a concrete code is asked for. -/
  | wildcard
  /-- The resource or the action is not a segment. -/
  | malformed (segment : String)
  /-- Both the resource and the action are wildcards. -/
  | doubleWildcard
  deriving DecidableEq, Repr

namespace CodeFault

/-- The wording of a fault. -/
def reason : CodeFault → String
  | separators => "expected exactly one ':' separator"
  | emptySegment => "empty segment"
  | wildcard => "wildcard not allowed here"
  | malformed segment => "segment '" ++ segment ++ "' must match [a-zA-Z][a-zA-Z0-9_]*"
  | doubleWildcard => "double wildcard is not supported; use '*'"

/-- The error that a fault is in a given text. -/
def error (code : String) (fault : CodeFault) : AccessError := .invalidCode code fault.reason

end CodeFault

/-- A resource and an action. Where a pattern is meant, one of them may be the wildcard. -/
structure Permission where
  /-- The kind of thing. -/
  resource : String
  /-- What is done to it. -/
  action : String
  deriving DecidableEq, Repr

namespace Permission

/-- The text of a resource and an action, whatever they are. -/
def encode (resource action : String) : String :=
  resource ++ String.singleton separator ++ action

/-- The text of a permission. -/
def text (p : Permission) : String := encode p.resource p.action

/-- Whether the resource or the action is the wildcard. -/
def isPattern (p : Permission) : Bool := p.resource = wildcard || p.action = wildcard

/-- The two parts of a text with exactly one separator. -/
def cut? (code : String) : Option (String × String) :=
  let cs := code.toList
  match cs.dropWhile (· ≠ separator) with
  | [] => none
  | _ :: action =>
    if separator ∈ action then none
    else some (String.ofList (cs.takeWhile (· ≠ separator)), String.ofList action)

/-- Whether a part of a code is a segment, or the wildcard where that is allowed. -/
def checkPart (wildcardAllowed : Bool) (part : String) : Except CodeFault Unit :=
  if part = "" then .error .emptySegment
  else if part = wildcard then
    if wildcardAllowed then .ok () else .error .wildcard
  else if isSegment part then .ok ()
  else .error (.malformed part)

/-- Both parts of a text, the resource checked before the action. -/
def parts (wildcardAllowed : Bool) (code : String) : Except CodeFault Permission :=
  match cut? code with
  | none => .error .separators
  | some (resource, action) => do
    checkPart wildcardAllowed resource
    checkPart wildcardAllowed action
    return ⟨resource, action⟩

/-- The code or pattern that a text holds; at most one of its parts is the wildcard. -/
def ofText (code : String) : Except CodeFault Permission := do
  let p ← parts true code
  if p.resource = wildcard ∧ p.action = wildcard then .error .doubleWildcard else return p

/-- The concrete code that a text holds. -/
def ofConcrete (code : String) : Except CodeFault Permission := parts false code

/-- `ofText` with the fault as an error about the text. -/
def parse (code : String) : Except AccessError Permission :=
  (ofText code).mapError (CodeFault.error code)

/-- `ofConcrete` with the fault as an error about the text. -/
def parseConcrete (code : String) : Except AccessError Permission :=
  (ofConcrete code).mapError (CodeFault.error code)

end Permission

/-- Whether a text may stand in a list of grants: a code, a pattern, or the wildcard alone. -/
def checkPattern (pattern : String) : Except AccessError Unit :=
  if pattern = wildcard then .ok () else (Permission.parse pattern).map fun _ => ()

/-- Whether all texts may stand in a list of grants; the first that may not is the error. -/
def checkPatterns : List String → Except AccessError Unit
  | [] => .ok ()
  | pattern :: patterns => do
    checkPattern pattern
    checkPatterns patterns

end AccessControl
