import AccessControl.Permission.Set
import AccessControl.Policy.Condition
import AccessControl.Text.Blank
/-!
# Policy definitions and their compiled form

A definition holds its rules as they were written, with effects and priorities as labels. Compiling
it checks every rule and puts the rules into the order in which they are asked: by descending
priority, and in the order of the definition where priorities are equal. A set of definitions is
compiled one by one, and the policies are ordered in the same way. Rules keep the position that they
have in their definition.
-/
namespace AccessControl

/-- A rule as it is written. -/
structure PolicyRule where
  /-- The codes and patterns that the rule is about. -/
  permissions : List String
  /-- The label of the effect. -/
  effect : String
  /-- What has to hold for the rule to decide. -/
  conditions : List Condition := []
  /-- The label of the priority. -/
  priority : Option String := none
  description : Option String := none

/-- A policy as it is written. -/
structure PolicyDefinition where
  id : String
  /-- The label of the priority. -/
  priority : Option String := none
  rules : List PolicyRule := []

/-- A rule that has been checked. -/
structure CompiledRule where
  /-- The position in the definition. -/
  index : Nat
  permissions : PermissionSet
  effect : Effect
  conditions : List Condition
  priority : Priority
  description : Option String

/-- A policy that has been checked, with its rules in the order in which they are asked. -/
structure CompiledPolicy where
  id : String
  priority : Priority
  rules : List CompiledRule

/-- What is wrong with a policy definition. -/
inductive PolicyFault where
  | blankId
  | noRules
  /-- The rule at the position is about nothing. -/
  | noPermissions (rule : Nat)
  /-- The rule at the position has an effect with this unknown label. -/
  | unknownEffect (rule : Nat) (label : String)
  /-- The rule at the position is about something that is no code or pattern. -/
  | badPattern (rule : Nat) (error : AccessError)
  deriving DecidableEq

namespace PolicyFault

/-- The position of the rule that is at fault, if it is one. -/
def rule? : PolicyFault → Option Nat
  | blankId | noRules => none
  | noPermissions rule | unknownEffect rule _ | badPattern rule _ => some rule

/-- The wording of a fault. -/
def reason : PolicyFault → String
  | blankId => "id must not be empty"
  | noRules => "rules must not be empty"
  | noPermissions _ => "permissions must not be empty"
  | unknownEffect _ label => "effect must be 'allow' or 'deny', got '" ++ label ++ "'"
  | badPattern _ error => error.message

/-- The error that a fault is in the policy of an id. -/
def error (id : String) (fault : PolicyFault) : AccessError :=
  .policyCompilation id fault.rule? fault.reason

end PolicyFault

namespace PolicyRule

/-- The rule at a position, checked. -/
def compile (index : Nat) (rule : PolicyRule) : Except PolicyFault CompiledRule :=
  if rule.permissions.isEmpty then .error (.noPermissions index)
  else
    match Effect.ofLabel? rule.effect with
    | none => .error (.unknownEffect index rule.effect)
    | some effect =>
      match checkPatterns rule.permissions with
      | .error e => .error (.badPattern index e)
      | .ok () =>
        .ok {
          index, effect
          permissions := .ofList rule.permissions
          conditions := rule.conditions
          priority := .ofLabel rule.priority
          description := rule.description }

/-- Rules at the positions from `index` on, checked; the first fault is the error. -/
def compileFrom (index : Nat) : List PolicyRule → Except PolicyFault (List CompiledRule)
  | [] => .ok []
  | rule :: rules => do
    let first ← rule.compile index
    return first :: (← compileFrom (index + 1) rules)

end PolicyRule

/-- Whether the first rule is asked no later than the second. -/
def CompiledRule.notAfter (r s : CompiledRule) : Bool := s.priority.score ≤ r.priority.score

/-- Whether the first policy is asked no later than the second. -/
def CompiledPolicy.notAfter (p q : CompiledPolicy) : Bool := q.priority.score ≤ p.priority.score

namespace PolicyDefinition

/-- The id without blanks around it. -/
def trimmedId (d : PolicyDefinition) : String := Text.trim d.id

/-- The rules of a definition, checked and in the order in which they are asked. -/
def compileRules (d : PolicyDefinition) : Except PolicyFault (List CompiledRule) :=
  if d.trimmedId = "" then .error .blankId
  else if d.rules.isEmpty then .error .noRules
  else (PolicyRule.compileFrom 0 d.rules).map fun rules => rules.mergeSort CompiledRule.notAfter

/-- The compiled form of a definition. -/
def compile (d : PolicyDefinition) : Except AccessError CompiledPolicy :=
  match d.compileRules with
  | .error fault => .error (fault.error d.trimmedId)
  | .ok rules => .ok { id := d.trimmedId, priority := .ofLabel d.priority, rules }

/-- The compiled forms of definitions, in the order in which they are asked; the first definition
that does not compile is the error. -/
def compileAll (ds : List PolicyDefinition) : Except AccessError (List CompiledPolicy) :=
  (ds.mapM compile).map fun policies => policies.mergeSort CompiledPolicy.notAfter

end PolicyDefinition

end AccessControl
