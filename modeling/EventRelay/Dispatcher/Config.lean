import EventRelay.Time.Duration

/-!
# The configuration of a dispatcher
-/

namespace EventRelay

/-- How much a dispatcher takes on at once, how often it looks for work, and how long it waits. -/
structure DispatcherConfig where
  /-- The largest number of records that are claimed at once. -/
  batchSize : Nat
  /-- The time between two deliveries of a batch. -/
  tickInterval : Duration
  /-- The time between two recoveries of stuck records. -/
  reapInterval : Duration
  /-- A record that a worker has held for longer is stuck. -/
  staleLockThreshold : Duration
  /-- How long the broker has for the confirmation of one message. -/
  confirmTimeout : Duration
  /-- The time between two removals of published records. -/
  purgeInterval : Duration
  /-- How long published records are kept. -/
  retention : Duration
deriving DecidableEq

/-- After five minutes a worker that holds a record counts as dead. -/
def defaultStaleThreshold : Duration := .ofSeconds 300

def DispatcherConfig.default : DispatcherConfig where
  batchSize := 200
  tickInterval := .ofSeconds 10
  reapInterval := .ofSeconds 60
  staleLockThreshold := .ofSeconds 300
  confirmTimeout := .ofSeconds 5
  purgeInterval := .ofSeconds 3600
  retention := .ofSeconds 604800

instance : Inhabited DispatcherConfig := ⟨.default⟩

end EventRelay
