import AccessControl.Cache.RefreshAhead
import AccessControl.Cache.WriteBehind
import AccessControl.Cache.WriteThrough
import AccessControl.Decimal.Shortest
import AccessControl.Scope.Combination
/-!
# Settings

The settings of the engine come in groups, and every setting has a default. Their wire form is
closed: a name that is no setting is refused. `Settings.check` says whether the values are in range
and names the first that is not. Caches of all kinds are made to the settings once these have been
checked.
-/
namespace AccessControl

/-- The longest default time for which a cached value may count: a year, in seconds. -/
def maxDefaultTtlSeconds : Nat := 365 * 24 * 60 * 60

/-- The longest time between two flushes: a day, in thousandths of a second. -/
def maxFlushIntervalMillis : Nat := 24 * 60 * 60 * 1000

/-- The size of caches. -/
structure CacheSettings where
  /-- How many entries are kept. -/
  capacity : Nat := 10000
  /-- For how many seconds an entry counts. -/
  defaultTtlSeconds : Nat := 300

/-- When queued writes are flushed. -/
structure WriteBehindSettings where
  /-- The length of the queue at which it is flushed. -/
  maxBatchSize : Nat := 100
  flushIntervalMillis : Nat := 1000

/-- When cached values are refreshed. -/
structure RefreshAheadSettings where
  /-- The share of the whole time below which a value that is served is refreshed. -/
  refreshThreshold : Float := 0.2

/-- How scopes are combined. -/
structure ScopeSettings where
  /-- The mode for callers that name none. -/
  defaultCombineMode : CombineMode := .and

/-- The settings of the engine. -/
structure Settings where
  cache : CacheSettings := {}
  writeBehind : WriteBehindSettings := {}
  refreshAhead : RefreshAheadSettings := {}
  scopes : ScopeSettings := {}

/-! ## Wire forms -/

/-- The settings that a wire form holds. -/
def CacheSettings.decode? (j : Json) : Option CacheSettings := do
  let member ← j.record? ["capacity", "default_ttl_secs"] true
  let d : CacheSettings := {}
  return {
    capacity := ← Json.given (member "capacity") Json.nat64? d.capacity
    defaultTtlSeconds := ← Json.given (member "default_ttl_secs") Json.nat64? d.defaultTtlSeconds }

/-- The settings that a wire form holds. -/
def WriteBehindSettings.decode? (j : Json) : Option WriteBehindSettings := do
  let member ← j.record? ["max_batch_size", "flush_interval_ms"] true
  let d : WriteBehindSettings := {}
  return {
    maxBatchSize := ← Json.given (member "max_batch_size") Json.nat64? d.maxBatchSize
    flushIntervalMillis :=
      ← Json.given (member "flush_interval_ms") Json.nat64? d.flushIntervalMillis }

/-- The settings that a wire form holds. -/
def RefreshAheadSettings.decode? (j : Json) : Option RefreshAheadSettings := do
  let member ← j.record? ["refresh_threshold"] true
  let d : RefreshAheadSettings := {}
  return {
    refreshThreshold := ← Json.given (member "refresh_threshold") Json.real? d.refreshThreshold }

/-- The settings that a wire form holds. -/
def ScopeSettings.decode? (j : Json) : Option ScopeSettings := do
  let member ← j.record? ["default_combine_mode"] true
  let d : ScopeSettings := {}
  return {
    defaultCombineMode :=
      ← Json.given (member "default_combine_mode") CombineMode.decode? d.defaultCombineMode }

namespace Settings

/-- The settings that a wire form holds. -/
def decode? (j : Json) : Option Settings := do
  let member ← j.record? ["cache", "write_behind", "refresh_ahead", "scopes"] true
  return {
    cache := ← Json.given (member "cache") CacheSettings.decode? {}
    writeBehind := ← Json.given (member "write_behind") WriteBehindSettings.decode? {}
    refreshAhead := ← Json.given (member "refresh_ahead") RefreshAheadSettings.decode? {}
    scopes := ← Json.given (member "scopes") ScopeSettings.decode? {} }

/-! ## Ranges -/

/-- The error that a setting has to be above zero. -/
def notPositive (setting : String) : EngineError :=
  .invalidSettings (setting ++ " must be greater than 0")

/-- The error that a setting is above its limit. -/
def tooLarge (setting : String) (limit value : Nat) : EngineError :=
  .invalidSettings (setting ++ " must be at most " ++ toString limit ++ ", got " ++ toString value)

/-- A threshold in a message: its shortest digits without an exponent, and halfway between two
decimals the greater one. -/
def thresholdText (threshold : Float) : String := Decimal.plain .toGreater threshold

/-- The capacity of caches, if all settings are in range. -/
def check (s : Settings) : Except EngineError Capacity := do
  let capacity ←
    match Capacity.ofNat? s.cache.capacity with
    | some capacity => pure capacity
    | none => throw (notPositive "cache.capacity")
  if s.cache.defaultTtlSeconds = 0 then throw (notPositive "cache.default_ttl_secs")
  if maxDefaultTtlSeconds < s.cache.defaultTtlSeconds then
    throw (tooLarge "cache.default_ttl_secs" maxDefaultTtlSeconds s.cache.defaultTtlSeconds)
  if s.writeBehind.maxBatchSize = 0 then throw (notPositive "write_behind.max_batch_size")
  if s.writeBehind.flushIntervalMillis = 0 then
    throw (notPositive "write_behind.flush_interval_ms")
  if maxFlushIntervalMillis < s.writeBehind.flushIntervalMillis then
    throw (tooLarge "write_behind.flush_interval_ms" maxFlushIntervalMillis
      s.writeBehind.flushIntervalMillis)
  let threshold := s.refreshAhead.refreshThreshold
  unless 0.0 < threshold && threshold < 1.0 do
    throw (.invalidSettings ("refresh_ahead.refresh_threshold must be in (0, 1), got " ++
      thresholdText threshold))
  return capacity

/-! ## Caches -/

/-- How long a cached value counts. -/
def defaultTtl (s : Settings) : Duration := .ofSeconds s.cache.defaultTtlSeconds

/-- The time between two flushes. -/
def flushInterval (s : Settings) : Duration := .ofMillis s.writeBehind.flushIntervalMillis

variable {σ K V : Type} [DecidableEq K]

/-- A cache that writes through to its store. -/
def writeThroughCache (s : Settings) (backing : σ) : Except EngineError (WriteThrough σ K V) := do
  let capacity ← s.check
  return { cache := { capacity, defaultTtl := s.defaultTtl }, backing }

/-- A cache that writes to its store later; its flusher is not running. -/
def writeBehindCache (s : Settings) (backing : σ) : Except EngineError (WriteBehind σ K V) := do
  let capacity ← s.check
  return .new capacity s.defaultTtl backing s.writeBehind.maxBatchSize s.flushInterval

/-- A cache that refreshes values before they expire. -/
def refreshAheadCache (s : Settings) (backing : σ) : Except EngineError (RefreshAhead σ K V) := do
  let capacity ← s.check
  return {
    cache := { capacity, defaultTtl := s.defaultTtl }, backing
    isLow := isBelowShare s.refreshAhead.refreshThreshold }

end Settings

end AccessControl
