import AccessControl.Cache.FaultyStore
import AccessControl.Json.Shape
/-!
# Rehearsals as documents

What is to become of a store that fails on demand can be written down in JSON: what it holds, and
which of its calls are to fail.
-/
namespace AccessControl

/-- The change to a store that a document describes. -/
def FaultyStore.changeOf? (j : Json) : Option (FaultyStore Json → FaultyStore Json) := do
  let on := j.member? "on" Json.bool?
  match ← j.member? "op" Json.str? with
  | "store_put" =>
    let key ← j.member? "key" Json.str?
    let value ← j.get? "value"
    return fun s => { s with contents := Entries.insert key value s.contents }
  | "store_delete" =>
    let key ← j.member? "key" Json.str?
    return fun s => { s with contents := Entries.erase key s.contents }
  | "fail_writes" =>
    let failWrites ← on
    return fun s => { s with failWrites }
  | "fail_next" =>
    let failNext ← j.member? "n" Json.nat64?
    return fun s => { s with failNext }
  | "fail_keys" =>
    let failKeys ← j.member? "keys" Json.strings?
    return fun s => { s with failKeys }
  | "fail_loads" =>
    let failLoads ← on
    return fun s => { s with failLoads }
  | _ => none

end AccessControl
