import AccessControl.Cache.Backing
import AccessControl.Entries
/-!
# A store that fails on demand

A store in memory for rehearsing what caches do when their store fails. Writes fail all at once,
for some keys, or so many of them from now on; reads fail all at once. A crash can be set up for
the next read or write, and then strikes the next one that a background task makes. Every call is
logged with how it ended.
-/
namespace AccessControl

/-- How a logged call ended. -/
inductive CallEnd where
  | ok | fail | crash
  deriving DecidableEq, Repr

/-- A logged call. -/
inductive StoreCall (V : Type) where
  | load (key : String) (ending : CallEnd)
  | write (key : String) (value : V) (ending : CallEnd)

/-- A store in memory whose calls can be made to fail. -/
structure FaultyStore (V : Type) where
  contents : Entries V := []
  /-- Whether all writes fail. -/
  failWrites : Bool := false
  /-- How many of the next writes fail. -/
  failNext : Nat := 0
  /-- The keys whose writes fail. -/
  failKeys : List String := []
  /-- Whether all reads fail. -/
  failLoads : Bool := false
  /-- Whether the next read of a background task crashes it. -/
  crashLoad : Bool := false
  /-- Whether the next write of a background task crashes it. -/
  crashWrite : Bool := false
  /-- The calls made, the latest first. -/
  log : List (StoreCall V) := []

namespace FaultyStore

variable {V : Type}

/-- Read a key, in a background task or not. -/
def load (background : Bool) (key : String) (s : FaultyStore V) :
    Reply (Option V) × FaultyStore V :=
  if background && s.crashLoad then
    (.crashed, { s with crashLoad := false, log := .load key .crash :: s.log })
  else if s.failLoads then
    (.failed (.storeUnavailable "load failed"), { s with log := .load key .fail :: s.log })
  else (.done (s.contents.get? key), { s with log := .load key .ok :: s.log })

/-- Whether a write of the key is bound to fail. -/
def refuses (s : FaultyStore V) (key : String) : Bool :=
  s.failWrites || 0 < s.failNext || s.failKeys.contains key

/-- Write a key, in a background task or not. -/
def write (background : Bool) (key : String) (value : V) (s : FaultyStore V) :
    Reply Unit × FaultyStore V :=
  if background && s.crashWrite then
    (.crashed, { s with crashWrite := false, log := .write key value .crash :: s.log })
  else
    let counted := { s with failNext := s.failNext - 1 }
    if s.refuses key then
      (.failed (.storeUnavailable "store failed"),
        { counted with log := .write key value .fail :: s.log })
    else
      (.done (), { counted with
        contents := Entries.insert key value s.contents
        log := .write key value .ok :: s.log })

/-- The store as a background task or its caller uses it. -/
def calls (background : Bool) : BackingStore (FaultyStore V) String V :=
  ⟨load background, write background⟩

end FaultyStore

end AccessControl
