import NeutralSql.Json.Record

/-!
# Cache configuration

A configuration comes as a record of its own, where a wrong type is an error, or as a
section of a larger settings value, where a wrong type leaves the default in place.
-/

namespace NeutralSql

/-- How a cache behaves. -/
structure CacheConfig where
  /-- Without the cache every statement goes to the database. -/
  enabled : Bool
  /-- The largest number of entries. -/
  max : UInt64
  /-- The milliseconds after which an entry expires. -/
  ttl : UInt64
  /-- A hit makes an entry young again. -/
  updateAgeOnGet : Bool
  /-- An expired entry is handed out once before it is dropped. -/
  allowStale : Bool
  deriving DecidableEq

/-- Why a configuration makes no cache. -/
inductive ConfigError where
  | invalidCapacity
  | invalidTtl
  deriving DecidableEq

/-- The wording of an error. -/
def ConfigError.message : ConfigError → String
  | .invalidCapacity => "Cache capacity (max) must be > 0"
  | .invalidTtl => "Cache ttl must be > 0 milliseconds"

namespace CacheConfig

/-- The configuration where nothing else is asked for. -/
def default : CacheConfig :=
  ⟨true, 500, 300000, false, false⟩

/-- The same configuration with a capacity. -/
def withMax (config : CacheConfig) (max : UInt64) : CacheConfig :=
  { config with max }

/-- The same configuration with a time to live. Parts of a millisecond are dropped, and
what exceeds 64 bits becomes the largest number of milliseconds. -/
def withTtl (config : CacheConfig) (seconds nanoseconds : Nat) : CacheConfig :=
  let milliseconds := seconds * 1000 + nanoseconds / 1000000
  { config with ttl := UInt64.ofNat (min milliseconds (UInt64.size - 1)) }

/-- The time to live in microseconds, the unit of the clock. -/
def ttlMicroseconds (config : CacheConfig) : Nat :=
  config.ttl.toNat * 1000

/-- Check a configuration; the capacity is checked first. -/
def validate (config : CacheConfig) : Except ConfigError Unit :=
  if config.max = 0 then .error .invalidCapacity
  else if config.ttl = 0 then .error .invalidTtl
  else .ok ()

/-- A configuration as JSON. -/
def toJson (config : CacheConfig) : Json :=
  .object
    [("enabled", .bool config.enabled),
     ("max", .int config.max.toNat),
     ("ttl", .int config.ttl.toNat),
     ("updateAgeOnGet", .bool config.updateAgeOnGet),
     ("allowStale", .bool config.allowStale)]

/-- The configuration that a document holds; every field has a default. -/
def ofDocument? (document : Document) : Option CacheConfig := do
  let [enabled, max, ttl, updateAgeOnGet, allowStale] ←
      document.fields? ["enabled", "max", "ttl", "updateAgeOnGet", "allowStale"]
    | none
  return {
    enabled := ← enabled.withDefault? default.enabled Document.asBool?
    max := ← max.withDefault? default.max Document.asUInt64?
    ttl := ← ttl.withDefault? default.ttl Document.asUInt64?
    updateAgeOnGet := ← updateAgeOnGet.withDefault? default.updateAgeOnGet Document.asBool?
    allowStale := ← allowStale.withDefault? default.allowStale Document.asBool? }

/-- A member that is an unsigned integer of 64 bits, or else a default. -/
def numberOr (fallback : UInt64) (key : String) (settings : Json) : UInt64 :=
  match settings.member? key with
  | some (.number (.int value)) =>
    if 0 ≤ value ∧ value < UInt64.size then UInt64.ofNat value.toNat else fallback
  | _ => fallback

/-- A member that is a truth value, or else a default. -/
def flagOr (fallback : Bool) (key : String) (settings : Json) : Bool :=
  match settings.member? key with
  | some (.bool value) => value
  | _ => fallback

/-- The configuration in the section `queryCache` of a settings value, if that section is
an object. -/
def ofSettings? (settings : Json) : Option CacheConfig :=
  match settings.member? "queryCache" with
  | some (.object members) =>
    let fields := Json.object members
    some {
      enabled := flagOr default.enabled "enabled" fields
      max := numberOr default.max "max" fields
      ttl := numberOr default.ttl "ttl" fields
      updateAgeOnGet := flagOr default.updateAgeOnGet "updateAgeOnGet" fields
      allowStale := flagOr default.allowStale "allowStale" fields }
  | _ => none

end CacheConfig

end NeutralSql
