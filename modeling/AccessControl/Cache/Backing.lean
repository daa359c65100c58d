import AccessControl.Error
/-!
# Stores behind caches

A backing store reads and writes single keys, and every call may change its state. A call ends with
an answer, with an error, or by a crash of the task that made it.
-/
namespace AccessControl

/-- How a call of a store ends. -/
inductive Reply (α : Type) where
  | done (answer : α)
  | failed (error : AccessError)
  | crashed
  deriving DecidableEq

/-- A store from keys to values with states of type `σ`. -/
structure BackingStore (σ K V : Type) where
  /-- Read the value of a key, if it has one. -/
  load : K → σ → Reply (Option V) × σ
  /-- Write the value of a key. -/
  write : K → V → σ → Reply Unit × σ

end AccessControl
