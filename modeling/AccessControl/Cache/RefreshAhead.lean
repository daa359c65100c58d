import AccessControl.Cache.Backing
import AccessControl.Cache.TtlLru
/-!
# Refreshing ahead of expiry

A cached value is served as long as it counts. When it is served shortly before it expires, a task
is put down that reads it from the store again. No key has two such tasks at a time: a key is
marked as being in flight from when its task is put down to when the task has ended, however it
ends.
-/
namespace AccessControl

/-- A cache that refreshes values before they expire. -/
structure RefreshAhead (σ K V : Type) where
  cache : TtlLru K V
  /-- The state of the store. -/
  backing : σ
  /-- Whether too little is left, given what is left and the whole time of an entry. -/
  isLow : Duration → Duration → Bool
  /-- The keys that are marked. -/
  inFlight : List K := []
  /-- The keys whose tasks have not ended, in the order in which they were put down. -/
  tasks : List K := []

/-- Whether less than the given share of the whole time is left. -/
def isBelowShare (share : Float) (left whole : Duration) : Bool :=
  left.toSeconds < whole.toSeconds * share

namespace RefreshAhead

variable {σ K V : Type} [DecidableEq K]

/-- Put a task down for a key, unless it has one. -/
def schedule (r : RefreshAhead σ K V) (key : K) : RefreshAhead σ K V :=
  if key ∈ r.inFlight then r
  else { r with inFlight := key :: r.inFlight, tasks := r.tasks ++ [key] }

/-- The value of a key. -/
def get (store : BackingStore σ K V) (r : RefreshAhead σ K V) (key : K) (now : Duration) :
    Reply (Option V) × RefreshAhead σ K V :=
  match r.cache.getEntry key now with
  | (some e, cache) =>
    let r := { r with cache }
    (.done (some e.value), if r.isLow (e.remaining now) e.ttl then r.schedule key else r)
  | (none, cache) =>
    match store.load key r.backing with
    | (.done (some v), backing) =>
      (.done (some v), { r with cache := cache.set key v none now, backing })
    | (reply, backing) => (reply, { r with cache, backing })

/-- Set the value of a key, in the store first. -/
def set (store : BackingStore σ K V) (r : RefreshAhead σ K V) (key : K) (value : V)
    (now : Duration) : Reply Unit × RefreshAhead σ K V :=
  match store.write key value r.backing with
  | (.done (), backing) => (.done (), { r with cache := r.cache.set key value none now, backing })
  | (reply, backing) => (reply, { r with backing })

/-- What the task of a key does: a value found is cached, a key without a value is forgotten, and
nothing is done where the store fails or the task crashes. -/
def refresh (store : BackingStore σ K V) (r : RefreshAhead σ K V) (key : K) (now : Duration) :
    RefreshAhead σ K V :=
  match store.load key r.backing with
  | (.done (some v), backing) => { r with cache := r.cache.set key v none now, backing }
  | (.done none, backing) => { r with cache := (r.cache.remove key).2, backing }
  | (_, backing) => { r with backing }

section

variable {store : BackingStore σ K V} {r : RefreshAhead σ K V} {key : K} {now : Duration}

theorem refresh_of_value {value : V} (h : (store.load key r.backing).1 = .done (some value)) :
    r.refresh store key now =
      { r with
        cache := r.cache.set key value none now
        backing := (store.load key r.backing).2 } := by
  rcases hload : store.load key r.backing with ⟨reply, backing⟩
  rw [hload] at h
  cases h
  simp only [refresh, hload]

theorem refresh_of_missing (h : (store.load key r.backing).1 = .done none) :
    r.refresh store key now =
      { r with
        cache := (r.cache.remove key).2
        backing := (store.load key r.backing).2 } := by
  rcases hload : store.load key r.backing with ⟨reply, backing⟩
  rw [hload] at h
  cases h
  simp only [refresh, hload]

theorem refresh_of_not_done (h : ∀ answer, (store.load key r.backing).1 ≠ .done answer) :
    r.refresh store key now = { r with backing := (store.load key r.backing).2 } := by
  rcases hload : store.load key r.backing with ⟨answer | fault | _, backing⟩
  · rw [hload] at h
    exact absurd rfl (h answer)
  · simp only [refresh, hload]
  · simp only [refresh, hload]

end

/-- Run the task of a key to its end. -/
def runTask (store : BackingStore σ K V) (r : RefreshAhead σ K V) (key : K) (now : Duration) :
    RefreshAhead σ K V :=
  let r := r.refresh store key now
  { r with inFlight := r.inFlight.erase key, tasks := r.tasks.erase key }

/-- Run all tasks, in the order in which they were put down. -/
def settle (store : BackingStore σ K V) (r : RefreshAhead σ K V) (now : Duration) :
    RefreshAhead σ K V :=
  r.tasks.foldl (fun r key => r.runTask store key now) r

end RefreshAhead

end AccessControl
