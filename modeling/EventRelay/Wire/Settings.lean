import EventRelay.Settings.Basic
import EventRelay.Wire.Scalar

/-!
# Settings in documents

The settings as an object with an object for each section. Whatever is missing has its default.
-/

namespace EventRelay

open Json

def decodeWord (expected : String) : Decoder UInt64 := fun p r =>
  (decodeNatural expected (2 ^ 64) p r).map Nat.toUInt64

namespace DispatcherSettings

def shape : Shape where
  name := "DispatcherSettings"
  fields := [.of "batch_size" (decodeWord "usize"), .of "tick_interval_secs" (decodeWord "u64"),
    .of "reap_interval_secs" (decodeWord "u64"),
    .of "stale_lock_threshold_secs" (decodeWord "u64"),
    .of "confirm_timeout_ms" (decodeWord "u64"), .of "purge_interval_secs" (decodeWord "u64"),
    .of "retention_days" (decodeWord "u64"), .of "worker_id" (decodeOption decodeString)]
  defaults := true

def decoder : Decoder DispatcherSettings := fun p r => do
  let fields ← shape.fieldsOf p r
  let d := DispatcherSettings.default
  let word (name : String) (default : UInt64) := fields.withDefault name default (decodeWord "u64")
  .ok {
    batchSize := ← fields.withDefault "batch_size" d.batchSize (decodeWord "usize")
    tickIntervalSecs := ← word "tick_interval_secs" d.tickIntervalSecs
    reapIntervalSecs := ← word "reap_interval_secs" d.reapIntervalSecs
    staleLockThresholdSecs := ← word "stale_lock_threshold_secs" d.staleLockThresholdSecs
    confirmTimeoutMs := ← word "confirm_timeout_ms" d.confirmTimeoutMs
    purgeIntervalSecs := ← word "purge_interval_secs" d.purgeIntervalSecs
    retentionDays := ← word "retention_days" d.retentionDays
    workerId := ← fields.optional "worker_id" decodeString }

end DispatcherSettings

namespace PolicySettings

def shape : Shape where
  name := "PolicySettings"
  fields := [.of "max_attempts" decodeCount, .of "backoff_base_ms" (decodeWord "u64"),
    .of "backoff_cap_ms" (decodeWord "u64")]
  defaults := true

def decoder : Decoder PolicySettings := fun p r => do
  let fields ← shape.fieldsOf p r
  let d := PolicySettings.default
  .ok {
    maxAttempts := ← fields.withDefault "max_attempts" d.maxAttempts decodeCount
    backoffBaseMs := ← fields.withDefault "backoff_base_ms" d.backoffBaseMs (decodeWord "u64")
    backoffCapMs := ← fields.withDefault "backoff_cap_ms" d.backoffCapMs (decodeWord "u64") }

end PolicySettings

/-- The fields of a section that names a kind and an address. -/
def addressedShape {α : Type} (name : String) (kinds : List (String × α)) : Shape where
  name := name
  fields := [.of "kind" (decodeVariant kinds), .of "url" (decodeOption decodeString)]
  defaults := true

def StoreSettings.decoder : Decoder StoreSettings := fun p r => do
  let fields ← (addressedShape "StoreSettings" StoreKind.named).fieldsOf p r
  .ok {
    kind := ← fields.withDefault "kind" StoreSettings.default.kind (decodeVariant StoreKind.named)
    url := ← fields.optional "url" decodeString }

def BrokerSettings.decoder : Decoder BrokerSettings := fun p r => do
  let fields ← (addressedShape "BrokerSettings" BrokerKind.named).fieldsOf p r
  .ok {
    kind := ← fields.withDefault "kind" BrokerSettings.default.kind (decodeVariant BrokerKind.named)
    url := ← fields.optional "url" decodeString }

namespace Settings

def shape : Shape where
  name := "RelaySettings"
  fields := [.of "dispatcher" DispatcherSettings.decoder, .of "policy" PolicySettings.decoder,
    .of "store" StoreSettings.decoder, .of "broker" BrokerSettings.decoder]
  defaults := true

def decoder : Decoder Settings := fun p r => do
  let fields ← shape.fieldsOf p r
  let d := Settings.default
  .ok {
    dispatcher := ← fields.withDefault "dispatcher" d.dispatcher DispatcherSettings.decoder
    policy := ← fields.withDefault "policy" d.policy PolicySettings.decoder
    store := ← fields.withDefault "store" d.store StoreSettings.decoder
    broker := ← fields.withDefault "broker" d.broker BrokerSettings.decoder }

end Settings
end EventRelay
