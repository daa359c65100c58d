import AccessControl.Text.Quoted
/-!
# Hooks

A hook sees the data of an operation and either lets it proceed, possibly changed, or halts it with
a reason. The hooks of a pipeline run one after the other, each on what the one before it let
through, and the first that halts ends the run. A lifecycle has a pipeline for each stage of each
operation.
-/
namespace AccessControl

/-- What a hook, or a pipeline of hooks, makes of its data. -/
inductive Outcome (α : Type) where
  | proceed (data : α)
  | halt (reason : String)
  deriving DecidableEq, Repr

namespace Outcome

variable {α β : Type}

/-- Whether the data was let through. -/
def isProceed : Outcome α → Bool
  | proceed _ => true
  | halt _ => false

/-- Go on with what was let through. -/
def andThen : Outcome α → (α → Outcome β) → Outcome β
  | proceed data, next => next data
  | halt reason, _ => halt reason

end Outcome

/-- A named step that sees data before it is used. -/
structure Hook (α : Type) where
  name : String
  run : α → Outcome α

/-- Hooks in the order in which they run. -/
abbrev Pipeline (α : Type) := List (Hook α)

namespace Pipeline

variable {α : Type}

/-- Run the hooks one after the other. -/
def run : Pipeline α → α → Outcome α
  | [], data => .proceed data
  | hook :: hooks, data => (hook.run data).andThen (run hooks)

/-- The names of the hooks, quoted. -/
def describe (p : Pipeline α) : String := Text.quoteList (p.map Hook.name)

end Pipeline

/-- When hooks of an operation run. -/
inductive Timing where
  | before | after
  deriving DecidableEq, Repr

/-- An operation that hooks may run around. -/
inductive Operation where
  | create | read | update | delete | list
  deriving DecidableEq, Repr

namespace Operation

/-- The label of an operation. -/
def label : Operation → String
  | create => "create"
  | read => "read"
  | update => "update"
  | delete => "delete"
  | list => "list"

end Operation

/-- A point in the course of an operation. -/
structure Stage where
  timing : Timing
  operation : Operation
  deriving DecidableEq, Repr

namespace Stage

/-- Only what runs before an operation can stop it. -/
def isBefore (s : Stage) : Bool := s.timing = .before

/-- The label of a stage. -/
def label (s : Stage) : String :=
  (if s.isBefore then "before_" else "after_") ++ s.operation.label

/-- All stages. -/
def all : List Stage :=
  [.create, .read, .update, .delete, .list].flatMap fun operation =>
    [⟨.before, operation⟩, ⟨.after, operation⟩]

/-- The stage with a label. -/
def ofLabel? (s : String) : Option Stage := all.find? fun stage => stage.label = s

end Stage

/-- Hooks at stages, in the order in which they were given. -/
abbrev Lifecycle (α : Type) := List (Stage × Hook α)

namespace Lifecycle

variable {α : Type}

/-- The hooks of a stage. -/
def pipeline (l : Lifecycle α) (stage : Stage) : Pipeline α :=
  (l.filter fun entry => entry.1 = stage).map Prod.snd

/-- Run the hooks of a stage. -/
def run (l : Lifecycle α) (stage : Stage) (data : α) : Outcome α := (l.pipeline stage).run data

end Lifecycle

end AccessControl
