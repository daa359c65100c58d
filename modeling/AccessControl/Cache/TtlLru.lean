import AccessControl.Time.Duration
/-!
# A bounded cache with expiry

The cache holds at most as many entries as its capacity, in the order of their last use, the latest
first. Looking an entry up and setting it are uses. To make room for a new key the entry used
longest ago is given up. Each entry has an instant up to and including which it counts; an entry
past that instant is removed when it is looked up, and counts as missing.

Instants are spans of time since some common start, and every operation that depends on the time is
told it.
-/
namespace AccessControl

/-- A number of entries; at least one. -/
abbrev Capacity := { n : Nat // 0 < n }

namespace Capacity

/-- The capacity of so many entries. -/
def ofNat? (n : Nat) : Option Capacity := if h : 0 < n then some ⟨n, h⟩ else none

end Capacity

/-- The longest time that an entry can count for: a hundred years of 365 days. -/
def maxTtl : Duration := Duration.ofSeconds (100 * 365 * 24 * 60 * 60)

/-- A value in a cache. -/
structure CacheEntry (V : Type) where
  value : V
  /-- When the value was set. -/
  createdAt : Duration
  /-- The last instant at which the value counts. -/
  expiresAt : Duration
  deriving DecidableEq

namespace CacheEntry

variable {V : Type}

/-- The entry of a value that is set now, for some time but no longer than the longest. -/
def ofValue (value : V) (now ttl : Duration) : CacheEntry V :=
  { value, createdAt := now, expiresAt := now + min ttl maxTtl }

/-- Whether the value counts no longer. -/
def isExpired (e : CacheEntry V) (now : Duration) : Bool := e.expiresAt < now

/-- How long the value counts from when it was set. -/
def ttl (e : CacheEntry V) : Duration := e.expiresAt - e.createdAt

/-- How long the value still counts. -/
def remaining (e : CacheEntry V) (now : Duration) : Duration := e.expiresAt - now

end CacheEntry

/-- How a cache has been used so far. -/
structure CacheStats where
  hits : Nat
  misses : Nat
  size : Nat
  evictions : Nat

namespace CacheStats

/-- The share of hits among look-ups; nothing before the first. -/
def hitRate (s : CacheStats) : Float :=
  if s.hits + s.misses = 0 then 0.0 else Float.ofNat s.hits / Float.ofNat (s.hits + s.misses)

/-- The wire form of the numbers. -/
def toJson (s : CacheStats) : Json :=
  .object [("hits", .nat s.hits), ("misses", .nat s.misses), ("size", .nat s.size),
    ("evictions", .nat s.evictions), ("hit_rate", .real s.hitRate)]

end CacheStats

/-- A bounded cache from keys to values. The three numbers that tell of its use have no greatest
value; in a run of fewer than `2 ^ 64` steps they are those of counters of 64 bits. -/
structure TtlLru (K V : Type) where
  capacity : Capacity
  /-- How long a value counts that is set without a time of its own. -/
  defaultTtl : Duration
  /-- The entries, the one used last first. -/
  entries : List (K × CacheEntry V) := []
  /-- How many look-ups found a value. -/
  hits : Nat := 0
  /-- How many look-ups found none. -/
  misses : Nat := 0
  /-- How many entries were given up for others. -/
  evictions : Nat := 0

namespace TtlLru

variable {K V : Type} [DecidableEq K]

/-- The entries under other keys. -/
def without (key : K) (entries : List (K × CacheEntry V)) : List (K × CacheEntry V) :=
  entries.filter fun entry => entry.1 ≠ key

/-- The entry under a key, whether it counts or not. -/
def find? (c : TtlLru K V) (key : K) : Option (CacheEntry V) := c.entries.lookup key

/-- Look a key up. An entry found becomes the one used last. -/
def getEntry (c : TtlLru K V) (key : K) (now : Duration) : Option (CacheEntry V) × TtlLru K V :=
  match c.find? key with
  | none => (none, { c with misses := c.misses + 1 })
  | some e =>
    if e.isExpired now then
      (none, { c with entries := without key c.entries, misses := c.misses + 1 })
    else (some e, { c with entries := (key, e) :: without key c.entries, hits := c.hits + 1 })

/-- The value under a key. -/
def get (c : TtlLru K V) (key : K) (now : Duration) : Option V × TtlLru K V :=
  let (e, c) := c.getEntry key now
  (e.map CacheEntry.value, c)

/-- Set the value of a key, for the given or the default time. -/
def set (c : TtlLru K V) (key : K) (value : V) (ttl : Option Duration) (now : Duration) :
    TtlLru K V :=
  let e := CacheEntry.ofValue value now (ttl.getD c.defaultTtl)
  if (c.find? key).isSome then { c with entries := (key, e) :: without key c.entries }
  else if c.entries.length < c.capacity.val then { c with entries := (key, e) :: c.entries }
  else
    { c with
      entries := (key, e) :: c.entries.take (c.capacity.val - 1)
      evictions := c.evictions + 1 }

/-- Remove the entry of a key; the answer is whether there was one. -/
def remove (c : TtlLru K V) (key : K) : Bool × TtlLru K V :=
  ((c.find? key).isSome, { c with entries := without key c.entries })

/-- Remove the entries of all keys for which the test holds; the answer is how many there were. -/
def removeWhere (c : TtlLru K V) (test : K → Bool) : Nat × TtlLru K V :=
  ((c.entries.filter fun entry => test entry.1).length,
    { c with entries := c.entries.filter fun entry => !test entry.1 })

/-- Remove all entries. -/
def clear (c : TtlLru K V) : TtlLru K V := { c with entries := [] }

/-- The number of entries, those included that count no longer. -/
def size (c : TtlLru K V) : Nat := c.entries.length

/-- How the cache has been used so far. -/
def stats (c : TtlLru K V) : CacheStats :=
  { hits := c.hits, misses := c.misses, size := c.size, evictions := c.evictions }

end TtlLru

end AccessControl
