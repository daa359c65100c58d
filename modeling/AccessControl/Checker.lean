import AccessControl.Check
/-!
# Questions that take several checks

Given any way to answer a single check that may change some state, these functions ask many checks
one after the other, ask whether any or all of some codes are allowed, and turn a denial into an
error.
-/
namespace AccessControl

/-- A way to answer checks. -/
abbrev Checker (σ : Type) := CheckContext → σ → Except AccessError CheckResult × σ

namespace Checker

variable {σ : Type} (check : Checker σ)

/-- Answer checks one after the other; the first error ends it. -/
def each : List CheckContext → σ → Except AccessError (List CheckResult) × σ
  | [], s => (.ok [], s)
  | ctx :: rest, s =>
    match check ctx s with
    | (.error e, s) => (.error e, s)
    | (.ok r, s) =>
      match each rest s with
      | (.error e, s) => (.error e, s)
      | (.ok rs, s) => (.ok (r :: rs), s)

/-- Answer checks, and keep the answers by their codes. -/
def many (ctxs : List CheckContext) (s : σ) : Except AccessError BatchResult × σ :=
  let (rs, s) := each check ctxs s
  (rs.map BatchResult.ofResults, s)

/-- Answer a check, with an error in the place of a no. -/
def orThrow (ctx : CheckContext) (s : σ) : Except AccessError CheckResult × σ :=
  let (r, s) := check ctx s
  (r.bind fun r =>
      if r.allowed then .ok r else .error (.permissionDenied r.permission r.reason.text),
    s)

/-- The checks of concrete codes for one request; the first text that is no such code is the
error. -/
def contexts (request : Request) (codes : List String) : Except AccessError (List CheckContext) :=
  codes.mapM fun code => do
    let p ← Permission.parseConcrete code
    return { request, resource := p.resource, action := p.action }

/-- Ask for codes, and take one of the two facts about all answers. -/
def askAll (fact : BatchResult → Bool) (request : Request) (codes : List String) (s : σ) :
    Except AccessError Bool × σ :=
  match contexts request codes with
  | .error e => (.error e, s)
  | .ok ctxs =>
    let (batch, s) := many check ctxs s
    (batch.map fact, s)

/-- Whether some of the codes is allowed. -/
def hasAny (request : Request) (codes : List String) (s : σ) : Except AccessError Bool × σ :=
  askAll check BatchResult.anyAllowed request codes s

/-- Whether all of the codes are allowed. -/
def hasAll (request : Request) (codes : List String) (s : σ) : Except AccessError Bool × σ :=
  askAll check BatchResult.allAllowed request codes s

end Checker

end AccessControl
