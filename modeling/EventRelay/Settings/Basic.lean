import EventRelay.Dispatcher.Config
import EventRelay.Policy
import EventRelay.Text.Classes
import EventRelay.Text.Digits

/-!
# The settings of a relay

What an operator can set, in four sections. Settings that cannot work are refused; accepted ones
become the configuration of a dispatcher and a retry policy.
-/

namespace EventRelay

/-- Where the events are kept. -/
inductive StoreKind where
  | memory
  | postgres
deriving DecidableEq, Repr

/-- Where the messages go. -/
inductive BrokerKind where
  | log
  | amqp
deriving DecidableEq, Repr

def StoreKind.named : List (String × StoreKind) := [("memory", .memory), ("postgres", .postgres)]

def StoreKind.name : StoreKind → String
  | .memory => "memory"
  | .postgres => "postgres"

def BrokerKind.named : List (String × BrokerKind) := [("log", .log), ("amqp", .amqp)]

def BrokerKind.name : BrokerKind → String
  | .log => "log"
  | .amqp => "amqp"

/-- The section on the dispatcher. -/
structure DispatcherSettings where
  batchSize : UInt64
  tickIntervalSecs : UInt64
  reapIntervalSecs : UInt64
  staleLockThresholdSecs : UInt64
  confirmTimeoutMs : UInt64
  purgeIntervalSecs : UInt64
  retentionDays : UInt64
  /-- If absent, the worker id is made from the number of the process. -/
  workerId : Option String
deriving DecidableEq

/-- The section on the retry policy. -/
structure PolicySettings where
  maxAttempts : UInt32
  backoffBaseMs : UInt64
  backoffCapMs : UInt64
deriving DecidableEq

/-- The section on the store. -/
structure StoreSettings where
  kind : StoreKind
  url : Option String
deriving DecidableEq

/-- The section on the broker. -/
structure BrokerSettings where
  kind : BrokerKind
  url : Option String
deriving DecidableEq

/-- All sections. -/
structure Settings where
  dispatcher : DispatcherSettings
  policy : PolicySettings
  store : StoreSettings
  broker : BrokerSettings
deriving DecidableEq

/-! ## Defaults -/

def DispatcherSettings.default : DispatcherSettings := ⟨200, 10, 60, 300, 5000, 3600, 7, none⟩

def PolicySettings.default : PolicySettings := ⟨10, 5000, 300000⟩

/-- Events are kept in memory. -/
def StoreSettings.default : StoreSettings := ⟨.memory, none⟩

/-- Messages go to the log. -/
def BrokerSettings.default : BrokerSettings := ⟨.log, none⟩

def Settings.default : Settings := ⟨.default, .default, .default, .default⟩

instance : Inhabited Settings := ⟨.default⟩

/-! ## Refusal -/

/-- A setting that cannot work. -/
structure InvalidSetting where
  field : String
  reason : String
deriving DecidableEq

def InvalidSetting.message (e : InvalidSetting) : String :=
  "invalid setting `" ++ e.field ++ "`: " ++ e.reason

namespace Settings

def positiveFields (d : DispatcherSettings) : List (String × UInt64) :=
  [("dispatcher.batch_size", d.batchSize), ("dispatcher.tick_interval_secs", d.tickIntervalSecs),
    ("dispatcher.reap_interval_secs", d.reapIntervalSecs),
    ("dispatcher.stale_lock_threshold_secs", d.staleLockThresholdSecs),
    ("dispatcher.confirm_timeout_ms", d.confirmTimeoutMs),
    ("dispatcher.purge_interval_secs", d.purgeIntervalSecs)]

/-- Refuses a number that is zero; the first one in order is named. -/
def checkPositive (fields : List (String × UInt64)) : Except InvalidSetting Unit :=
  match fields.find? (·.2 = 0) with
  | some (field, _) => .error ⟨field, "must be greater than 0"⟩
  | none => .ok ()

/-- Refuses a setting unless a condition holds. -/
def demand (condition : Bool) (field reason : String) : Except InvalidSetting Unit :=
  if condition then .ok () else .error ⟨field, reason⟩

/-- Refuses settings that cannot work, naming the first one: numbers that must not be zero, a blank
worker id, a base of the backoff above its cap, and a store or a broker without its address. -/
def validate (s : Settings) : Except InvalidSetting Unit := do
  checkPositive (positiveFields s.dispatcher)
  demand (!(s.dispatcher.workerId.map Text.blank).getD false)
    "dispatcher.worker_id" "must not be blank"
  demand (s.policy.maxAttempts ≠ 0) "policy.max_attempts" "must be greater than 0"
  demand (s.policy.backoffBaseMs ≤ s.policy.backoffCapMs) "policy.backoff_base_ms"
    (String.ofList (Text.decimal s.policy.backoffBaseMs.toNat) ++ " exceeds backoff_cap_ms "
      ++ String.ofList (Text.decimal s.policy.backoffCapMs.toNat))
  demand (s.store.kind ≠ .postgres || s.store.url.isSome)
    "store.url" "required when store.kind is postgres"
  demand (s.broker.kind ≠ .amqp || s.broker.url.isSome)
    "broker.url" "required when broker.kind is amqp"

/-! ## Use -/

/-- The seconds in a number of days, as far as 64 bits hold them. -/
def secondsOfDays (days : UInt64) : UInt64 :=
  if days.toNat * 86400 < 2 ^ 64 then days * 86400 else 0xffffffffffffffff

def dispatcherConfig (s : Settings) : DispatcherConfig where
  batchSize := s.dispatcher.batchSize.toNat
  tickInterval := .ofSeconds s.dispatcher.tickIntervalSecs
  reapInterval := .ofSeconds s.dispatcher.reapIntervalSecs
  staleLockThreshold := .ofSeconds s.dispatcher.staleLockThresholdSecs
  confirmTimeout := .ofMillis s.dispatcher.confirmTimeoutMs
  purgeInterval := .ofSeconds s.dispatcher.purgeIntervalSecs
  retention := .ofSeconds (secondsOfDays s.dispatcher.retentionDays)

def outboxPolicy (s : Settings) : Policy where
  maxAttempts := s.policy.maxAttempts
  backoff := ⟨.ofMillis s.policy.backoffBaseMs, .ofMillis s.policy.backoffCapMs⟩

-- The usual settings give the usual configuration and the usual policy.
example : Settings.default.dispatcherConfig = .default := by decide
example : Settings.default.outboxPolicy = .default := by decide

/-- The defaults pass their own check. -/
theorem validate_default : Settings.default.validate = .ok () := rfl

end Settings
end EventRelay
