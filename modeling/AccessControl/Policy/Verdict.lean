import AccessControl.Policy.Compiled
/-!
# The verdict of policies

Policies and their rules are asked in their order, and the first rule that covers the code and
whose conditions all hold decides. Of a rule that covers the code, conditions are evaluated up to
the first that does not hold; of other rules none are. A verdict tells the decision and, in order,
which conditions were evaluated for it. Without a deciding rule the answer is no.
-/
namespace AccessControl

/-- What policies say about a code. -/
structure PolicyDecision where
  effect : Effect
  /-- The policy and the position of the rule that decided, if one did. -/
  decidedBy : Option (String × Nat)
  deriving DecidableEq

namespace PolicyDecision

/-- The decision when no rule decides. -/
def byDefault : PolicyDecision := ⟨.deny, none⟩

/-- Whether a rule decided. -/
def isMatch (d : PolicyDecision) : Bool := d.decidedBy.isSome

end PolicyDecision

/-- A decision, and the conditions that were evaluated to reach it. -/
structure Verdict where
  decision : PolicyDecision
  evaluated : List Condition

/-- Whether all conditions hold, and those evaluated to find out. -/
def evaluateConditions (ctx : CheckContext) : List Condition → Bool × List Condition
  | [] => (true, [])
  | c :: cs =>
    if c.passes ctx then
      let (hold, evaluated) := evaluateConditions ctx cs
      (hold, c :: evaluated)
    else (false, [c])

namespace CompiledRule

/-- Whether the rule is about the code. -/
def coversCode (r : CompiledRule) (code : String) : Bool := anyCovers r.permissions.toList code

/-- Whether all conditions of the rule hold. -/
def passes (r : CompiledRule) (ctx : CheckContext) : Bool := (evaluateConditions ctx r.conditions).1

end CompiledRule

/-- The rules of policies in the order in which they are asked, each with the id of its policy. -/
def rulesInOrder (policies : List CompiledPolicy) : List (String × CompiledRule) :=
  policies.flatMap fun p => p.rules.map fun r => (p.id, r)

/-- Ask rules one by one. -/
def scan (code : String) (ctx : CheckContext) : List (String × CompiledRule) → Verdict
  | [] => ⟨.byDefault, []⟩
  | (policy, rule) :: rest =>
    if rule.coversCode code then
      let (hold, evaluated) := evaluateConditions ctx rule.conditions
      if hold then ⟨⟨rule.effect, some (policy, rule.index)⟩, evaluated⟩
      else
        let verdict := scan code ctx rest
        ⟨verdict.decision, evaluated ++ verdict.evaluated⟩
    else scan code ctx rest

/-- What policies say about a code. -/
def evaluate (code : String) (ctx : CheckContext) (policies : List CompiledPolicy) : Verdict :=
  scan code ctx (rulesInOrder policies)

end AccessControl
