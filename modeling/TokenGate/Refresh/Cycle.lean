import TokenGate.Key.Cache
import TokenGate.Key.Policy
import TokenGate.Settings.Basic

/-! # One refresh of the key cache

A cycle fetches a key set once and applies the result. A set is installed. A document without
usable keys is treated as the policy says. Any other failure leaves the cache as it is. -/

namespace TokenGate

/-- Who refreshes the cache, from where and how. -/
structure Refresher where
  endpoint : String
  interval : Duration := .ofSeconds 900
  emptyPolicy : EmptySetPolicy := .preserveExisting
  cancelPolicy : CancelPolicy := .abandonInFlight
  deriving DecidableEq, Repr

namespace Refresher

/-- The shortest interval between refreshes. -/
def minInterval : Duration := .ofSeconds 1

/-- The refresher with another interval, which is raised to the shortest one. -/
def withInterval (r : Refresher) (interval : Duration) : Refresher :=
  { r with interval := if interval.toNanos < minInterval.toNanos then minInterval else interval }

/-- The refresher of some settings. -/
def ofSettings (endpoint : String) (s : Settings) : Refresher :=
  withInterval { endpoint := endpoint, emptyPolicy := s.emptyPolicy } s.refreshInterval

def describe (r : Refresher) : String :=
  "RefreshLoop \x7b endpoint: " ++ Text.quoted r.endpoint ++ ", interval: " ++ r.interval.describe
    ++ ", empty_policy: " ++ r.emptyPolicy.describe ++ ", cancel_policy: "
    ++ r.cancelPolicy.describe ++ ", .. \x7d"

end Refresher

/-- What refreshing has done so far. -/
structure RefreshStats where
  /-- Fetches begun. -/
  attempts : Nat := 0
  /-- Sets installed, empty ones too. -/
  installs : Nat := 0
  failures : Nat := 0
  /-- Documents without usable keys. -/
  emptyFetches : Nat := 0
  deriving DecidableEq, Repr

/-- How a cycle ended. -/
inductive RefreshOutcome where
  | installed (generation keyCount : Nat)
  | preservedOnEmpty
  | failed
  deriving DecidableEq, Repr

/-- What a fetch yields, and what it logs. -/
abbrev FetchResult := Except FetchError KeySet × Log

/-- The cache under refresh, with the history kept of it. -/
structure RefreshState where
  cache : KeyCache := .new
  stats : RefreshStats := {}
  metrics : Metrics := []
  log : Log := []
  deriving Repr

namespace RefreshState

/-- Something was installed, so the moment of the last install is known. -/
def lastInstallKnown (s : RefreshState) : Bool := 0 < s.stats.installs

def fetchCounter (status : String) : MetricKey :=
  ⟨"keystone_jwks_fetch_total", [("status", status)]⟩

def sizeGauge : MetricKey := ⟨"keystone_key_set_size", []⟩

def attempt (s : RefreshState) : RefreshState :=
  { s with stats := { s.stats with attempts := s.stats.attempts + 1 } }

def logged (s : RefreshState) (records : Log) : RefreshState :=
  { s with log := s.log ++ records }

/-- A set is installed. Only a set with keys counts as a success. -/
def installed (s : RefreshState) (set : KeySet) : RefreshState × RefreshOutcome :=
  let cache := s.cache.install set
  let success := if set.isEmpty then [] else [MetricEvent.count (fetchCounter "success")]
  ({ cache := cache
     stats := { s.stats with installs := s.stats.installs + 1 }
     metrics := s.metrics.applyAll (success ++ [.gauge sizeGauge set.size])
     log := s.log ++ [cache.installRecord, ⟨.info, "Key set refreshed",
       [("generation", toString cache.generation), ("key_count", toString set.size)]⟩] },
    .installed cache.generation set.size)

/-- The fields that name the set in place. -/
def currentFields (set : KeySet) : List (String × String) :=
  [("current_generation", toString set.generation), ("current_keys", toString set.size)]

/-- A document had no usable key among so many entries. An empty set that takes its place is made
at the given time. -/
def emptied (r : Refresher) (s : RefreshState) (candidates : UInt64) (time : SystemTime) :
    RefreshState × RefreshOutcome :=
  let s := { s with
    stats := { s.stats with emptyFetches := s.stats.emptyFetches + 1 }
    metrics := s.metrics.apply (.count (fetchCounter "no_usable_keys")) }
  let fields := [("jwks_uri", r.endpoint), ("candidates", toString candidates.toNat)]
  if r.emptyPolicy == .preserveExisting && !s.cache.current.isEmpty then
    (s.logged [⟨.warn, "JWKS document has no usable signing keys, keeping current key set",
      fields ++ currentFields s.cache.current⟩], .preservedOnEmpty)
  else
    (s.logged [⟨.warn, "JWKS document has no usable signing keys, installing empty key set",
      fields⟩]).installed (.empty time)

def failed (r : Refresher) (s : RefreshState) (reason : FetchError) :
    RefreshState × RefreshOutcome :=
  ({ s with
      stats := { s.stats with failures := s.stats.failures + 1 }
      metrics := s.metrics.apply (.count (fetchCounter reason.kind))
      log := s.log ++ [⟨.error, "JWKS refresh failed, keeping current key set",
        [("jwks_uri", r.endpoint), ("kind", reason.kind)] ++ currentFields s.cache.current⟩] },
    .failed)

/-- The result of a fetch applied at a time. -/
def complete (r : Refresher) (s : RefreshState) (fetch : FetchResult) (time : SystemTime := 0) :
    RefreshState × RefreshOutcome :=
  let s := s.logged fetch.2
  match fetch.1 with
  | .ok set => s.installed set
  | .error (.noUsableKeys candidates) => emptied r s candidates time
  | .error reason => failed r s reason

/-- A whole cycle, its result applied at a time. -/
def refreshOnce (r : Refresher) (s : RefreshState) (fetch : FetchResult) (time : SystemTime := 0) :
    RefreshState × RefreshOutcome :=
  complete r s.attempt fetch time

/-- Cycles one after another, each with the time at which its result is applied. -/
def refreshAll (r : Refresher) (s : RefreshState) (fetches : List (FetchResult × SystemTime)) :
    RefreshState :=
  fetches.foldl (fun s fetch => (refreshOnce r s fetch.1 fetch.2).1) s

/-- A cycle more runs behind the others. -/
theorem refreshAll_concat (r : Refresher) (s : RefreshState)
    (fetches : List (FetchResult × SystemTime)) (fetch : FetchResult) (time : SystemTime) :
    refreshAll r s (fetches ++ [(fetch, time)]) =
      (refreshOnce r (refreshAll r s fetches) fetch time).1 := by
  simp [refreshAll]

end RefreshState

end TokenGate
