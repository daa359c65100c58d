import AccessControl.Check
import AccessControl.Text.Quoted
/-!
# Conditions of policy rules

A condition is a named question about a check; answering it may fail, and a failure counts as a no
wherever conditions are evaluated. The built-in conditions look at the request, at the thing that
the check is about, or ask a provider of attributes.
-/
namespace AccessControl

/-- A named question about a check. -/
structure Condition where
  name : String
  /-- The answer, or why there is none. -/
  holds : CheckContext → Except AccessError Bool

/-- Looks up attributes for a check; it may know none of a name, and it may fail. -/
abbrev AttributeProvider := CheckContext → String → Except AccessError (Option Json)

namespace Condition

/-- Whether the condition is known to hold. -/
def passes (c : Condition) (ctx : CheckContext) : Bool :=
  match c.holds ctx with
  | .ok b => b
  | .error _ => false

/-- The text of a condition: its name, quoted. -/
def describe (c : Condition) : String :=
  "Condition \x7b name: " ++ Text.quote c.name ++ ", .. \x7d"

/-- Whether a value is there and is the one expected. -/
def isExpected (expected : Json) (value : Option Json) : Bool :=
  value.any fun v => v == expected

/-- The request has an attribute with the expected value. -/
def attributeEquals (name : String) (expected : Json) : Condition where
  name := "attribute_equals(" ++ name ++ ")"
  holds ctx := .ok (isExpected expected (ctx.request.attribute? name))

/-- The metadata of the subject has the expected value under a key. -/
def subjectMetadataEquals (key : String) (expected : Json) : Condition where
  name := "subject_metadata_equals(" ++ key ++ ")"
  holds ctx := .ok (isExpected expected (ctx.request.subject.metadata.get? key))

/-- The identity layer asserts a role of the subject. -/
def subjectHasRole (role : String) : Condition where
  name := "subject_has_role(" ++ role ++ ")"
  holds ctx := .ok (ctx.request.subject.roles.contains role)

/-- The check is about one particular thing. -/
def resourceIdPresent : Condition where
  name := "resource_id_present"
  holds ctx := .ok ctx.resourceId.isSome

/-- The provider has the expected value for an attribute. -/
def providedAttributeEquals (provider : AttributeProvider) (name : String) (expected : Json) :
    Condition where
  name := "provided_attribute_equals(" ++ name ++ ")"
  holds ctx := (provider ctx name).map (isExpected expected)

end Condition

end AccessControl
