import AccessControl.Engine
import AccessControl.Policy.Document
/-!
# Events

What may happen to an engine without anybody waiting for an answer: policies are stored, the store
of policies goes down or comes back, something that was kept is forgotten, time passes. Events may
also happen amid a check, while policies are being read for it.
-/
namespace AccessControl

/-- Something that happens to an engine. -/
inductive EngineEvent where
  /-- Definitions take the place of those of a tenant. -/
  | putPolicies (tenant : String) (definitions : List PolicyDefinition)
  | addPolicy (tenant : String) (definition : PolicyDefinition)
  /-- From now on the store of policies can be read, or cannot. -/
  | setPolicyStore (isAvailable : Bool)
  /-- The policies of a tenant are forgotten. -/
  | invalidatePolicies (tenant : String)
  /-- Everything that has been found out is forgotten. -/
  | clearCache
  | advance (time : Duration)

namespace EngineEvent

/-- The event that a document describes; `usual` is the tenant where it names none. -/
def ofJson? (usual : String) (j : Json) : Option EngineEvent := do
  let tenant := (← j.optional? "tenant" Json.str?).getD usual
  match ← j.member? "op" Json.str? with
  | "put_policies" =>
    return putPolicies tenant (← j.member? "policies" (Json.list? PolicyDefinition.ofJson?))
  | "add_policy" => return addPolicy tenant (← j.member? "policy" PolicyDefinition.ofJson?)
  | "policy_store_down" => return setPolicyStore !(← j.member? "down" Json.bool?)
  | "invalidate_policies" => return invalidatePolicies tenant
  | "clear_cache" => return clearCache
  | "advance" => return advance (.ofMillis (← j.member? "ms" Json.nat64?))
  | _ => none

/-- The engine after an event. -/
def apply (event : EngineEvent) (e : Engine) : Engine :=
  match event with
  | putPolicies tenant definitions => e.changePolicies fun store => store.put tenant definitions
  | addPolicy tenant definition => e.changePolicies fun store => store.add tenant definition
  | setPolicyStore isAvailable => e.changePolicies fun store => { store with isAvailable }
  | invalidatePolicies tenant => e.invalidatePolicies tenant
  | clearCache => e.clearCache
  | advance time => e.advance time

end EngineEvent

/-- The engine after events that happen one after the other. -/
def Engine.after (e : Engine) (events : List EngineEvent) : Engine :=
  events.foldl (fun e event => event.apply e) e

end AccessControl
