import EventRelay.Decimal.Reader
import EventRelay.Settings.LoadError

/-!
# Understanding a tree of settings

A section is a table of its fields or a list of them in order; entries that are no fields are
passed over, and fields that are missing have their defaults. Values are converted where that makes
sense: a number may be written as text, and a text may be given as a number or a truth value.
-/

namespace EventRelay

namespace Setting

/-! ## Values -/

def mistyped (s : Setting) (expected : String) : LoadError :=
  .mistyped s.found expected [] s.origin

def switch? (word : String) : Option Bool :=
  if ["true", "on", "yes"].contains word then some true
  else if ["false", "off", "no"].contains word then some false
  else none

/-- A number of 64 bits. Real numbers are rounded, and truth values are 1 and 0. -/
def toUInt64 (s : Setting) : Except LoadError UInt64 :=
  match s with
  | .scalar (.int n) _ =>
    if 0 ≤ n then .ok n.toNat.toUInt64
    else .error (s.mistyped "an unsigned 64 bit or less integer")
  | .scalar (.real x) _ => .ok x.toUInt64
  | .scalar (.bool b) _ => .ok (if b then 1 else 0)
  | .scalar (.text t) _ =>
    match switch? (Text.lower t), Text.nat64? t.toList with
    | some b, _ => .ok (if b then 1 else 0)
    | none, some n => .ok n
    | none, none => .error (s.mistyped "an integer")
  | _ => .error (s.mistyped "an integer")

def toUInt32 (s : Setting) : Except LoadError UInt32 :=
  match s.toUInt64 with
  | .ok n =>
    if n.toNat < 2 ^ 32 then .ok n.toUInt32
    else .error (.mistyped (.unsigned n) "an unsigned 32 bit integer" [] none)
  | .error e => .error e

/-- A text. Numbers and truth values are printed. -/
def toText (s : Setting) : Except LoadError String :=
  match s with
  | .scalar (.text t) _ => .ok t
  | .scalar (.bool b) _ => .ok (if b then "true" else "false")
  | .scalar (.int n) _ => .ok (String.ofList (Text.signed n))
  | .scalar (.real x) _ => .ok (String.ofList (x.text .setting))
  | _ => .error (s.mistyped "a string")

def toText? (s : Setting) : Except LoadError (Option String) :=
  match s with
  | .scalar .null _ => .ok none
  | s => s.toText.map some

/-- One of some kinds by its name, in any case. It may also be the name of the only entry of a
table. `kinds` names the kinds together. -/
def toKind {α : Type} (kinds : String) (named : List (String × α)) (s : Setting) :
    Except LoadError α :=
  let find (name : String) : Except LoadError α :=
    match named.lookup (Text.lower name) with
    | some kind => .ok kind
    | none => .error (.unknownKind kinds name)
  match s with
  | .scalar (.text name) _ | .table [(name, _)] _ => find name
  | _ => .error (.noKind kinds)

/-! ## Sections -/

/-- The setting of a field, which is the entry of a table or the item of a list, and the step that
leads to it. -/
def field? (s : Setting) (place : Nat) (name : String) : Option (Step × Setting) :=
  match s with
  | .table entries _ => (entries.lookup name).map fun v => (.entry name, v)
  | .list items _ => items[place]?.map fun v => (.item place, v)
  | .scalar _ _ => none

/-- A field, or its default if it is missing. -/
def field {α : Type} (s : Setting) (place : Nat) (name : String) (default : α)
    (convert : Setting → Except LoadError α) : Except LoadError α :=
  match s.field? place name with
  | some (step, v) => (convert v).mapError (·.within step)
  | none => .ok default

/-- A value cannot be a section. -/
def checkSection (s : Setting) (name : String) : Except LoadError Unit :=
  match s with
  | .scalar v _ => .error (.noSection (.value v) name)
  | _ => .ok ()

end Setting

def DispatcherSettings.ofSetting (s : Setting) : Except LoadError DispatcherSettings := do
  s.checkSection "DispatcherSettings"
  let d := DispatcherSettings.default
  .ok {
    batchSize := ← s.field 0 "batch_size" d.batchSize Setting.toUInt64
    tickIntervalSecs := ← s.field 1 "tick_interval_secs" d.tickIntervalSecs Setting.toUInt64
    reapIntervalSecs := ← s.field 2 "reap_interval_secs" d.reapIntervalSecs Setting.toUInt64
    staleLockThresholdSecs :=
      ← s.field 3 "stale_lock_threshold_secs" d.staleLockThresholdSecs Setting.toUInt64
    confirmTimeoutMs := ← s.field 4 "confirm_timeout_ms" d.confirmTimeoutMs Setting.toUInt64
    purgeIntervalSecs := ← s.field 5 "purge_interval_secs" d.purgeIntervalSecs Setting.toUInt64
    retentionDays := ← s.field 6 "retention_days" d.retentionDays Setting.toUInt64
    workerId := ← s.field 7 "worker_id" d.workerId Setting.toText? }

def PolicySettings.ofSetting (s : Setting) : Except LoadError PolicySettings := do
  s.checkSection "PolicySettings"
  let d := PolicySettings.default
  .ok {
    maxAttempts := ← s.field 0 "max_attempts" d.maxAttempts Setting.toUInt32
    backoffBaseMs := ← s.field 1 "backoff_base_ms" d.backoffBaseMs Setting.toUInt64
    backoffCapMs := ← s.field 2 "backoff_cap_ms" d.backoffCapMs Setting.toUInt64 }

def StoreSettings.ofSetting (s : Setting) : Except LoadError StoreSettings := do
  s.checkSection "StoreSettings"
  let d := StoreSettings.default
  .ok {
    kind := ← s.field 0 "kind" d.kind (Setting.toKind "StoreKind" StoreKind.named)
    url := ← s.field 1 "url" d.url Setting.toText? }

def BrokerSettings.ofSetting (s : Setting) : Except LoadError BrokerSettings := do
  s.checkSection "BrokerSettings"
  let d := BrokerSettings.default
  .ok {
    kind := ← s.field 0 "kind" d.kind (Setting.toKind "BrokerKind" BrokerKind.named)
    url := ← s.field 1 "url" d.url Setting.toText? }

def Settings.ofSetting (s : Setting) : Except LoadError Settings := do
  let d := Settings.default
  .ok {
    dispatcher := ← s.field 0 "dispatcher" d.dispatcher DispatcherSettings.ofSetting
    policy := ← s.field 1 "policy" d.policy PolicySettings.ofSetting
    store := ← s.field 2 "store" d.store StoreSettings.ofSetting
    broker := ← s.field 3 "broker" d.broker BrokerSettings.ofSetting }

end EventRelay
