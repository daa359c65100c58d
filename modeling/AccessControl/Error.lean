/-!
# Errors

`AccessError` lists the ways in which a question about access can fail to have an answer. A denied
permission is an answer and not an error; it becomes one only where a caller asks for it.
`EngineError` adds what can go wrong in running the engine itself. The wording of every error is in
one function, `message`.
-/
namespace AccessControl

/-- Why a question about access, or a change to what answers it, failed. -/
inductive AccessError where
  /-- A permission code or pattern is malformed. -/
  | invalidCode (code reason : String)
  /-- A policy definition is malformed, at one of its rules or as a whole. -/
  | policyCompilation (policy : String) (rule : Option Nat) (reason : String)
  /-- A change would make a role inherit from itself. -/
  | circularInheritance (role : String)
  /-- A permission is denied, where denial was asked to be an error. -/
  | permissionDenied (permission reason : String)
  /-- A store could not be reached. -/
  | storeUnavailable (reason : String)
  /-- There is no such thing. -/
  | notFound (kind id : String)
  /-- There is such a thing already. -/
  | conflict (reason : String)
  /-- A row scope has no value for this request. -/
  | scopeResolution (scope reason : String)
  /-- An attribute could not be looked up. -/
  | attributeUnavailable (reason : String)
  /-- Anything else. -/
  | internal (reason : String)
  deriving DecidableEq, Repr

namespace AccessError

/-- The place in a policy, as part of a message. -/
private def atRule : Option Nat → String
  | none => ""
  | some i => " at rule " ++ toString i

/-- The wording of an error. -/
def message : AccessError → String
  | invalidCode code reason => "invalid permission code '" ++ code ++ "': " ++ reason
  | policyCompilation policy rule reason =>
    "policy '" ++ policy ++ "' failed to compile" ++ atRule rule ++ ": " ++ reason
  | circularInheritance role => "role '" ++ role ++ "' would inherit from itself"
  | permissionDenied permission reason =>
    "permission '" ++ permission ++ "' denied: " ++ reason
  | storeUnavailable reason => "store unavailable: " ++ reason
  | notFound kind id => kind ++ " '" ++ id ++ "' not found"
  | conflict reason => "conflict: " ++ reason
  | scopeResolution scope reason =>
    "scope '" ++ scope ++ "' could not be resolved: " ++ reason
  | attributeUnavailable reason => "attribute unavailable: " ++ reason
  | internal reason => "internal error: " ++ reason

end AccessError

/-- Why the engine could not be built, or could not carry out an operation. -/
inductive EngineError where
  /-- An error of access. -/
  | access (error : AccessError)
  /-- A setting is out of range, or a part is missing. -/
  | invalidSettings (reason : String)
  /-- A background task has been started before. -/
  | alreadyRunning (task : String)
  /-- A background task crashed. -/
  | internal (reason : String)
  deriving DecidableEq, Repr

namespace EngineError

/-- The wording of an error. -/
def message : EngineError → String
  | access error => error.message
  | invalidSettings reason => "invalid configuration: " ++ reason
  | alreadyRunning task => task ++ " is already running"
  | internal reason => "internal error: " ++ reason

/-- How a caller that asks about access sees the error: anything but an error of access is
internal. -/
def toAccessError : EngineError → AccessError
  | access error => error
  | invalidSettings reason => .internal ("invalid configuration: " ++ reason)
  | alreadyRunning task => .internal (task ++ " is already running")
  | internal reason => .internal reason

end EngineError

end AccessControl
