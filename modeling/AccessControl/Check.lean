import AccessControl.Permission.Code
import AccessControl.Policy.Basic
import AccessControl.Request
import AccessControl.Time.Duration
/-!
# Checks and their results

A check asks whether a request may perform an action on a resource. Its result says yes or no, for
which code, and why. The results of many checks are kept by their codes, and what is said about all
or any of them is said about the results kept.
-/
namespace AccessControl

/-- The question whether a request may perform an action on a resource. -/
structure CheckContext where
  request : Request
  resource : String
  action : String
  /-- The one thing of its kind that is meant, where one is. -/
  resourceId : Option String := none

/-- The code that a check is about. -/
def CheckContext.permission (c : CheckContext) : String := Permission.encode c.resource c.action

/-- Why a check ended as it did. -/
inductive DecisionReason where
  /-- Internal callers pass every check. -/
  | system
  /-- The code is among those granted to the subject directly. -/
  | directPermission
  /-- This entry of the effective permissions covers the code. -/
  | granted (grant : String)
  /-- No entry of the effective permissions covers the code. -/
  | notGranted
  /-- A rule of a policy decided. -/
  | policy (policyId : String) (rule : Nat) (effect : Effect)
  deriving DecidableEq, Repr

namespace DecisionReason

/-- The wording of a reason. -/
def text : DecisionReason → String
  | system => "system"
  | directPermission => "direct permission"
  | granted grant => "granted by '" ++ grant ++ "'"
  | notGranted => "no matching permission"
  | policy policyId rule effect =>
    "policy '" ++ policyId ++ "' rule " ++ toString rule ++ ": " ++ effect.label

/-- The wire form of a reason: its kind, and beside it what belongs to the kind. -/
def toJson : DecisionReason → Json
  | system => .object [("kind", .str "system")]
  | directPermission => .object [("kind", .str "direct_permission")]
  | granted grant => .object [("kind", .str "granted"), ("grant", .str grant)]
  | notGranted => .object [("kind", .str "not_granted")]
  | policy policyId rule effect =>
    .object [("kind", .str "policy"), ("policy_id", .str policyId), ("rule_index", .nat rule),
      ("effect", .str effect.label)]

/-- The effect in the wire form of a reason; as an object it may hold an empty object for null. -/
def effect? : Json → Option Effect
  | .obj [(s, .obj [])] => Effect.ofLabel? s
  | j => j.label? Effect.ofLabel?

/-- The reason of a kind, where `body` holds what belongs to the kind. -/
def ofKind? (kind : String) (body : Json) : Option DecisionReason :=
  match kind with
  | "system" => do let _ ← body.record? [] false; return system
  | "direct_permission" => do let _ ← body.record? [] false; return directPermission
  | "not_granted" => do let _ ← body.record? [] false; return notGranted
  | "granted" => do
    let member ← body.record? ["grant"] false
    return granted (← Json.required (member "grant") Json.str?)
  | "policy" => do
    let member ← body.record? ["policy_id", "rule_index", "effect"] false
    return policy (← Json.required (member "policy_id") Json.str?)
      (← Json.required (member "rule_index") Json.nat64?)
      (← Json.required (member "effect") effect?)
  | _ => none

/-- The reason that a wire form holds. -/
def decode? : Json → Option DecisionReason
  | .obj members =>
    match Entries.get? members "kind" with
    | some (.str kind) => ofKind? kind (.obj members)
    | _ => none
  | .arr (.str kind :: items) => ofKind? kind (.arr items)
  | _ => none

end DecisionReason

/-- The answer to a check. -/
structure CheckResult where
  allowed : Bool
  /-- The code that was asked for. -/
  permission : String
  reason : DecisionReason
  /-- How long it took to find the answer; nothing where it was not measured. -/
  evaluationTime : Duration := 0
  deriving DecidableEq

namespace CheckResult

/-- The time that the answer took, in thousandths of a second. -/
def evaluationMillis (r : CheckResult) : Float := r.evaluationTime.toSeconds * 1000.0

/-- The wire form of a result. -/
def toJson (r : CheckResult) : Json :=
  .object [("allowed", .bool r.allowed), ("permission", .str r.permission),
    ("reason", r.reason.toJson), ("evaluation_time", r.evaluationTime.toJson)]

/-- The result that a wire form holds. -/
def decode? (j : Json) : Option CheckResult := do
  let member ← j.record? ["allowed", "permission", "reason", "evaluation_time"] false
  return {
    allowed := ← Json.required (member "allowed") Json.bool?
    permission := ← Json.required (member "permission") Json.str?
    reason := ← Json.required (member "reason") DecisionReason.decode?
    evaluationTime := ← Json.required (member "evaluation_time") Duration.decode? }

end CheckResult

/-- The answers to many checks, by the codes that were asked for. -/
structure BatchResult where
  /-- The answer to each code; of several answers to one code the last. -/
  results : Entries CheckResult
  /-- Whether every answer kept is yes. -/
  allAllowed : Bool
  /-- Whether some answer kept is yes. -/
  anyAllowed : Bool

namespace BatchResult

/-- The answers of a list. -/
def ofResults (rs : List CheckResult) : BatchResult :=
  let results := Entries.ofList (rs.map fun r => (r.permission, r))
  { results
    allAllowed := results.all fun entry => entry.2.allowed
    anyAllowed := results.any fun entry => entry.2.allowed }

/-- The codes whose answer is no. -/
def denied (b : BatchResult) : List String :=
  (b.results.filter fun entry => !entry.2.allowed).map fun entry => entry.2.permission

/-- The wire form of the answers. -/
def toJson (b : BatchResult) : Json :=
  .object [("results", .obj (b.results.map fun entry => (entry.1, entry.2.toJson))),
    ("all_allowed", .bool b.allAllowed), ("any_allowed", .bool b.anyAllowed)]

end BatchResult

end AccessControl
