import AccessControl.Cache.Backing
import AccessControl.Cache.TtlLru
/-!
# Writing through to the store

A value is written to the store first and to the cache after that, so that a value which the store
has refused is never cached. A value that the cache does not hold is read from the store and cached.
-/
namespace AccessControl

/-- A cache in front of a store. -/
structure WriteThrough (σ K V : Type) where
  cache : TtlLru K V
  /-- The state of the store. -/
  backing : σ

namespace WriteThrough

variable {σ K V : Type} [DecidableEq K]

/-- Read a key past the cache, and cache what is found. -/
def load (store : BackingStore σ K V) (w : WriteThrough σ K V) (key : K) (now : Duration) :
    Reply (Option V) × WriteThrough σ K V :=
  match store.load key w.backing with
  | (.done (some v), backing) =>
    (.done (some v), { cache := w.cache.set key v none now, backing })
  | (reply, backing) => (reply, { w with backing })

/-- The value of a key. -/
def get (store : BackingStore σ K V) (w : WriteThrough σ K V) (key : K) (now : Duration) :
    Reply (Option V) × WriteThrough σ K V :=
  match w.cache.get key now with
  | (some v, cache) => (.done (some v), { w with cache })
  | (none, cache) => load store { w with cache } key now

/-- Set the value of a key. -/
def set (store : BackingStore σ K V) (w : WriteThrough σ K V) (key : K) (value : V)
    (now : Duration) : Reply Unit × WriteThrough σ K V :=
  match store.write key value w.backing with
  | (.done (), backing) => (.done (), { cache := w.cache.set key value none now, backing })
  | (reply, backing) => (reply, { w with backing })

end WriteThrough

end AccessControl
