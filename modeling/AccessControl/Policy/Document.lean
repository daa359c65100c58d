import AccessControl.Policy.Compiled
/-!
# Policies as documents

Policies, their rules and the conditions of rules can be written down in JSON. A condition is an
object whose kind says which question it asks; the kinds include a fixed answer and a failure,
which stand for questions that are answered elsewhere. The labels of effects and priorities are
taken as they are written: whether they mean anything is found out when the policy is compiled.
-/
namespace AccessControl

/-- The provider that a document describes: it knows some values, or it fails. -/
def providerOf? (j : Json) : Option AttributeProvider :=
  match j with
  | .obj [("error", .str message)] => some fun _ _ => .error (.attributeUnavailable message)
  | .obj [("values", values)] => some fun _ name => .ok (values.get? name)
  | _ => none

/-- The condition that a document describes. -/
def Condition.ofJson? (j : Json) : Option Condition := do
  let expected := (j.get? "expected").getD .null
  let name := j.member? "name" Json.str?
  match ← j.member? "kind" Json.str? with
  | "attribute_equals" => return attributeEquals (← name) expected
  | "subject_metadata_equals" => return subjectMetadataEquals (← j.member? "key" Json.str?) expected
  | "subject_has_role" => return subjectHasRole (← j.member? "role" Json.str?)
  | "resource_id_present" => return resourceIdPresent
  | "provided_attribute_equals" =>
    return providedAttributeEquals (← j.member? "provider" providerOf?) (← name) expected
  | "const" =>
    let answer ← j.member? "value" Json.bool?
    return { name := ← name, holds := fun _ => .ok answer }
  | "fail" =>
    let message ← j.member? "message" Json.str?
    return { name := ← name, holds := fun _ => .error (.attributeUnavailable message) }
  | _ => none

/-- The rule that a document describes. -/
def PolicyRule.ofJson? (j : Json) : Option PolicyRule := do
  return {
    permissions := ← j.member? "permissions" Json.strings?
    effect := ← j.member? "effect" Json.str?
    conditions := ← j.items? "conditions" Condition.ofJson?
    priority := ← j.optional? "priority" Json.str?
    description := ← j.optional? "description" Json.str? }

/-- The policy that a document describes. -/
def PolicyDefinition.ofJson? (j : Json) : Option PolicyDefinition := do
  return {
    id := ← j.member? "id" Json.str?
    priority := ← j.optional? "priority" Json.str?
    rules := ← j.member? "rules" (Json.list? PolicyRule.ofJson?) }

/-- A compiled rule as a document; of its conditions only the names are shown. -/
def CompiledRule.toJson (r : CompiledRule) : Json :=
  .object [("index", .nat r.index), ("permissions", .strings r.permissions.toList),
    ("effect", .str r.effect.label), ("conditions", .strings (r.conditions.map Condition.name)),
    ("priority", .str r.priority.label), ("description", .ofOption .str r.description)]

/-- A compiled policy as a document. -/
def CompiledPolicy.toJson (p : CompiledPolicy) : Json :=
  .object [("id", .str p.id), ("priority", .str p.priority.label),
    ("rules", .arr (p.rules.map CompiledRule.toJson))]

end AccessControl
