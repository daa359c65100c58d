import AccessControl.Engine.Event
import AccessControl.Role.Document
import AccessControl.Text.Mark
/-!
# Sessions

A session is an engine in use by somebody who does not care for the ids that it gives out. A role
or a binding goes by the name that was asked for when it was made, or else by its number; whoever
uses the session writes names where ids are meant, and a text that is no name is an id itself. Ids
are written with a mark, so that nobody who has not been given one can write it.

Events can be set up to happen while policies are being read for the next time.
-/
namespace AccessControl

/-- An engine in use. -/
structure Session where
  engine : Engine
  /-- A text that is part of nothing that is written by those who use the session. -/
  mark : String
  /-- The hooks that run around changes of roles; they too know roles by names. -/
  hooks : List RoleHook := []
  /-- The names, each with its id, the latest first. -/
  names : List (String × String) := []
  /-- What happens when policies are read for the next time. -/
  armed : List EngineEvent := []

namespace Session

/-! ## Names and ids -/

/-- The id that a name stands for; the latest of equal names counts. -/
def idOf (s : Session) (name : String) : String := (s.names.lookup name).getD name

/-- The number of the role or binding that is made next. -/
def nextNumber (s : Session) : Nat := s.names.length + 1

/-- The id that is given out next. -/
def nextId (s : Session) : String := Text.marked s.mark s.nextNumber

/-- The session after an id was given out, for which a name may have been asked. -/
def withName (name : Option String) (id : String) (s : Session) : Session :=
  { s with names := (name.getD ("#" ++ toString s.nextNumber), id) :: s.names }

/-- A value with names in the place of ids. -/
def named (s : Session) (j : Json) : Json :=
  j.mapTexts fun text => s.names.foldl (fun text entry => text.replace entry.2 entry.1) text

/-! ## Checks -/

/-- How often policies have been read, if there is a store of them. -/
def reads (s : Session) : Option Nat := s.engine.policies.map PolicyStore.reads

/-- Decide a check. What is armed happens when policies are read for it, and then no more. -/
def check : Checker Session := fun ctx s =>
  let (result, engine) := s.engine.checkAmid (fun e => e.after s.armed) ctx
  let t := { s with engine }
  let hasRead := t.reads ≠ s.reads && engine.policies.any PolicyStore.isAvailable
  (result, if hasRead then { t with armed := [] } else t)

/-- What a subject may do by its roles at present. -/
def effective (s : Session) (tenant : String) (kind : SubjectKind) (subject : String) :
    Except AccessError EffectivePermissions :=
  s.engine.loader ⟨tenant, kind, subject⟩

/-! ## Changes -/

/-- Change roles and bindings, with the hooks of the session. -/
def change {α : Type} (step : Lifecycle Role → RoleStore → Except AccessError α × RoleStore)
    (s : Session) : Except AccessError α × Session :=
  let hooks := s.hooks.map (RoleHook.entry s.idOf)
  let (answer, engine) := s.engine.changeRoles fun _ => step hooks
  (answer, { s with engine })

/-- Make something that has an id. If that succeeds, the name stands for the id in the answer. -/
def make {α : Type} (name : Option String) (idIn : α → String)
    (step : Lifecycle Role → String → RoleStore → Except AccessError α × RoleStore)
    (s : Session) : Except AccessError α × Session :=
  match s.change fun hooks => step hooks s.nextId with
  | (.error e, t) => (.error e, t)
  | (.ok answer, t) => (.ok answer, t.withName name (idIn answer))

/-- Create a role. -/
def createRole (name : Option String) (new : NewRole) (s : Session) :
    Except AccessError Role × Session :=
  let new := { new with inherits := new.inherits.map s.idOf }
  s.make name Role.id fun hooks id store => store.create hooks id s.engine.wallClock new

/-- Bind a subject to a role. -/
def bind (name : Option String) (new : NewBinding) (s : Session) :
    Except AccessError Binding × Session :=
  let new := { new with roleId := s.idOf new.roleId }
  s.make name Binding.id fun _ id store => store.bind id s.engine.wallClock new

/-- Change a role. -/
def updateRole (tenant role : String) (patch : RolePatch) (s : Session) :
    Except AccessError Role × Session :=
  let patch := { patch with inherits := patch.inherits.map fun names => names.map s.idOf }
  s.change fun hooks store => store.update hooks s.engine.wallClock tenant (s.idOf role) patch

/-- Remove a role and its bindings. -/
def deleteRole (tenant role : String) (s : Session) : Except AccessError Unit × Session :=
  s.change fun hooks store => store.delete hooks tenant (s.idOf role)

/-- Remove a binding. -/
def unbind (tenant binding : String) (s : Session) : Except AccessError Unit × Session :=
  s.change fun _ store => store.unbind tenant (s.idOf binding)

/-- Do something with the engine. -/
def onEngine {α : Type} (step : Engine → α × Engine) (s : Session) : α × Session :=
  let (answer, engine) := step s.engine
  (answer, { s with engine })

end Session

end AccessControl
