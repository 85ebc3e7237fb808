import EventRelay.Failure
import EventRelay.Settings.Load

/-!
# The fields of settings

Each of the four sections has fields, and each field has a default and a type of its own. Where a
tree stands for settings, every field is read by itself (`Settings.ofSetting_eq_ok_iff`): the entry
of its name in the entry of its section decides it, whatever else the tree holds, and the default
does so if there is no such entry.
-/

namespace EventRelay

/-- A number of 32 bits is one of 64 bits that is small enough. -/
theorem Setting.toOption_toUInt32 (s : Setting) :
    s.toUInt32.toOption =
      s.toUInt64.toOption.bind fun n => if n.toNat < 2 ^ 32 then some n.toUInt32 else none := by
  unfold toUInt32
  cases s.toUInt64 with
  | error e => rfl
  | ok n =>
    simp only [Except.toOption, Option.bind_some]
    by_cases small : n.toNat < 2 ^ 32
    · rw [if_pos small, if_pos small]
    · rw [if_neg small, if_neg small]

namespace Settings

/-! ## Sections and fields -/

/-- The sections. -/
inductive Section where
  | dispatcher
  | policy
  | store
  | broker
deriving DecidableEq

/-- The fields of all sections. -/
inductive Field where
  | batchSize
  | tickIntervalSecs
  | reapIntervalSecs
  | staleLockThresholdSecs
  | confirmTimeoutMs
  | purgeIntervalSecs
  | retentionDays
  | workerId
  | maxAttempts
  | backoffBaseMs
  | backoffCapMs
  | storeKind
  | storeUrl
  | brokerKind
  | brokerUrl
deriving DecidableEq

def Section.name : Section → String
  | .dispatcher => "dispatcher"
  | .policy => "policy"
  | .store => "store"
  | .broker => "broker"

def Section.all : List Section := [.dispatcher, .policy, .store, .broker]

def Section.fields : Section → List Field
  | .dispatcher => [.batchSize, .tickIntervalSecs, .reapIntervalSecs, .staleLockThresholdSecs,
    .confirmTimeoutMs, .purgeIntervalSecs, .retentionDays, .workerId]
  | .policy => [.maxAttempts, .backoffBaseMs, .backoffCapMs]
  | .store => [.storeKind, .storeUrl]
  | .broker => [.brokerKind, .brokerUrl]

namespace Field

def home : Field → Section
  | .maxAttempts | .backoffBaseMs | .backoffCapMs => .policy
  | .storeKind | .storeUrl => .store
  | .brokerKind | .brokerUrl => .broker
  | _ => .dispatcher

def name : Field → String
  | .batchSize => "batch_size"
  | .tickIntervalSecs => "tick_interval_secs"
  | .reapIntervalSecs => "reap_interval_secs"
  | .staleLockThresholdSecs => "stale_lock_threshold_secs"
  | .confirmTimeoutMs => "confirm_timeout_ms"
  | .purgeIntervalSecs => "purge_interval_secs"
  | .retentionDays => "retention_days"
  | .workerId => "worker_id"
  | .maxAttempts => "max_attempts"
  | .backoffBaseMs => "backoff_base_ms"
  | .backoffCapMs => "backoff_cap_ms"
  | .storeKind | .brokerKind => "kind"
  | .storeUrl | .brokerUrl => "url"

def variableName (f : Field) : String :=
  "OUTBOX_RELAY__" ++ (f.home.name ++ "__" ++ f.name).toUpper

@[reducible] def Value : Field → Type
  | .workerId | .storeUrl | .brokerUrl => Option String
  | .maxAttempts => UInt32
  | .storeKind => StoreKind
  | .brokerKind => BrokerKind
  | _ => UInt64

def get (s : Settings) : (f : Field) → f.Value
  | .batchSize => s.dispatcher.batchSize
  | .tickIntervalSecs => s.dispatcher.tickIntervalSecs
  | .reapIntervalSecs => s.dispatcher.reapIntervalSecs
  | .staleLockThresholdSecs => s.dispatcher.staleLockThresholdSecs
  | .confirmTimeoutMs => s.dispatcher.confirmTimeoutMs
  | .purgeIntervalSecs => s.dispatcher.purgeIntervalSecs
  | .retentionDays => s.dispatcher.retentionDays
  | .workerId => s.dispatcher.workerId
  | .maxAttempts => s.policy.maxAttempts
  | .backoffBaseMs => s.policy.backoffBaseMs
  | .backoffCapMs => s.policy.backoffCapMs
  | .storeKind => s.store.kind
  | .storeUrl => s.store.url
  | .brokerKind => s.broker.kind
  | .brokerUrl => s.broker.url

/-- How the setting of a field is understood. -/
def convert : (f : Field) → Setting → Except LoadError f.Value
  | .batchSize | .tickIntervalSecs | .reapIntervalSecs | .staleLockThresholdSecs
  | .confirmTimeoutMs | .purgeIntervalSecs | .retentionDays
  | .backoffBaseMs | .backoffCapMs => Setting.toUInt64
  | .maxAttempts => Setting.toUInt32
  | .workerId | .storeUrl | .brokerUrl => Setting.toText?
  | .storeKind => Setting.toKind "StoreKind" StoreKind.named
  | .brokerKind => Setting.toKind "BrokerKind" BrokerKind.named

/-- What a field is when a value is given for it, if the value can be converted. -/
def read? (f : Field) (v : Scalar) : Option f.Value := (f.convert (.scalar v none)).toOption

/-- What a field is by default. -/
def default (f : Field) : f.Value := f.get Settings.default

/-- What a field is: what the value that is given for it is converted to, or its default if no value
is given. -/
def resolve? (f : Field) : Option Scalar → Option f.Value
  | none => some f.default
  | some v => f.read? v

/-- Where a value comes from does not matter to its conversion. -/
theorem toOption_convert (f : Field) (v : Scalar) (origin : Option String) :
    (f.convert (.scalar v origin)).toOption = f.read? v := by
  have number : (Setting.toUInt64 (.scalar v origin)).toOption =
      (Setting.toUInt64 (.scalar v none)).toOption := by
    cases v with
    | null | bool b | real x => rfl
    | int n =>
      simp only [Setting.toUInt64]
      split <;> rfl
    | text t =>
      simp only [Setting.toUInt64]
      split <;> rfl
  have small : (Setting.toUInt32 (.scalar v origin)).toOption =
      (Setting.toUInt32 (.scalar v none)).toOption := by
    rw [Setting.toOption_toUInt32, Setting.toOption_toUInt32, number]
  have text : (Setting.toText? (.scalar v origin)).toOption =
      (Setting.toText? (.scalar v none)).toOption := by
    cases v <;> rfl
  have kind {α : Type} (kinds : String) (named : List (String × α)) :
      (Setting.toKind kinds named (.scalar v origin)).toOption =
        (Setting.toKind kinds named (.scalar v none)).toOption := by
    cases v <;> rfl
  cases f with
  | maxAttempts => exact small
  | workerId | storeUrl | brokerUrl => exact text
  | storeKind | brokerKind => exact kind _ _
  | _ => exact number

/-- A value that can be read for a field is what a setting with this value converts to. -/
theorem convert_of_read? {f : Field} {v : Scalar} {a : f.Value} (h : f.read? v = some a)
    (origin : Option String) : f.convert (.scalar v origin) = .ok a := by
  rw [← toOption_convert f v origin] at h
  cases converted : f.convert (.scalar v origin) with
  | ok b =>
    rw [converted] at h
    exact congrArg Except.ok (Option.some.inj h)
  | error e =>
    rw [converted] at h
    cases h

end Field

/-- The settings with these values in their fields. -/
def ofFields (values : (f : Field) → f.Value) : Settings where
  dispatcher := {
    batchSize := values .batchSize
    tickIntervalSecs := values .tickIntervalSecs
    reapIntervalSecs := values .reapIntervalSecs
    staleLockThresholdSecs := values .staleLockThresholdSecs
    confirmTimeoutMs := values .confirmTimeoutMs
    purgeIntervalSecs := values .purgeIntervalSecs
    retentionDays := values .retentionDays
    workerId := values .workerId }
  policy := {
    maxAttempts := values .maxAttempts
    backoffBaseMs := values .backoffBaseMs
    backoffCapMs := values .backoffCapMs }
  store := ⟨values .storeKind, values .storeUrl⟩
  broker := ⟨values .brokerKind, values .brokerUrl⟩

/-- Settings that are put together from values have these values. -/
theorem get_ofFields (values : (f : Field) → f.Value) (f : Field) :
    f.get (ofFields values) = values f := by
  cases f <;> rfl

/-- Settings are the same if all fields are. -/
theorem ext_get {s s' : Settings} (h : ∀ f : Field, f.get s = f.get s') : s = s' := by
  obtain ⟨⟨_, _, _, _, _, _, _, _⟩, ⟨_, _, _⟩, ⟨_, _⟩, ⟨_, _⟩⟩ := s
  obtain ⟨⟨_, _, _, _, _, _, _, _⟩, ⟨_, _, _⟩, ⟨_, _⟩, ⟨_, _⟩⟩ := s'
  obtain rfl := h .batchSize
  obtain rfl := h .tickIntervalSecs
  obtain rfl := h .reapIntervalSecs
  obtain rfl := h .staleLockThresholdSecs
  obtain rfl := h .confirmTimeoutMs
  obtain rfl := h .purgeIntervalSecs
  obtain rfl := h .retentionDays
  obtain rfl := h .workerId
  obtain rfl := h .maxAttempts
  obtain rfl := h .backoffBaseMs
  obtain rfl := h .backoffCapMs
  obtain rfl := h .storeKind
  obtain rfl := h .storeUrl
  obtain rfl := h .brokerKind
  obtain rfl := h .brokerUrl
  rfl

end Settings

/-! ## Reading fields -/

/-- A part of settings is what a setting is converted to, or its default if there is none. -/
def Setting.Reads {α : Type} (s : Option Setting) (default : α)
    (convert : Setting → Except LoadError α) (a : α) : Prop :=
  match s with
  | none => a = default
  | some s => convert s = .ok a

def Setting.IsTable (s : Setting) : Prop := ∃ es origin, s = .table es origin

/-- A field of a table is read from its own entry, or it is the default. -/
theorem Setting.field_table_eq_ok_iff {α : Type} {es : List (String × Setting)}
    {origin : Option String} {place : Nat} {name : String} {default a : α}
    {convert : Setting → Except LoadError α} :
    (Setting.table es origin).field place name default convert = .ok a ↔
      Reads ((Setting.table es origin).get? name) default convert a := by
  cases h : es.lookup name with
  | none => simp [field, field?, get?, entries, h, Reads, eq_comm]
  | some v => simp [field, field?, get?, entries, h, Reads, mapError_eq_ok_iff]

open Setting

variable {s : Option Setting}

/-- The section on the dispatcher is read field by field, each from its own entry. -/
theorem DispatcherSettings.reads_ofSetting_iff (table : ∀ t, s = some t → t.IsTable)
    {d : DispatcherSettings} :
    Reads s .default ofSetting d ↔
      Reads (s.bind (·.get? "batch_size")) 200 toUInt64 d.batchSize ∧
      Reads (s.bind (·.get? "tick_interval_secs")) 10 toUInt64 d.tickIntervalSecs ∧
      Reads (s.bind (·.get? "reap_interval_secs")) 60 toUInt64 d.reapIntervalSecs ∧
      Reads (s.bind (·.get? "stale_lock_threshold_secs")) 300 toUInt64 d.staleLockThresholdSecs ∧
      Reads (s.bind (·.get? "confirm_timeout_ms")) 5000 toUInt64 d.confirmTimeoutMs ∧
      Reads (s.bind (·.get? "purge_interval_secs")) 3600 toUInt64 d.purgeIntervalSecs ∧
      Reads (s.bind (·.get? "retention_days")) 7 toUInt64 d.retentionDays ∧
      Reads (s.bind (·.get? "worker_id")) none toText? d.workerId := by
  cases s with
  | none =>
    cases d
    simp [Reads, DispatcherSettings.default]
  | some t =>
    obtain ⟨es, origin, rfl⟩ := table t rfl
    simp only [Reads, ofSetting, checkSection, ok_bind, bind_eq_ok_iff, field_table_eq_ok_iff,
      Option.bind_some]
    constructor
    · rintro ⟨_, h₁, _, h₂, _, h₃, _, h₄, _, h₅, _, h₆, _, h₇, _, h₈, ⟨⟩⟩
      exact ⟨h₁, h₂, h₃, h₄, h₅, h₆, h₇, h₈⟩
    · rintro ⟨h₁, h₂, h₃, h₄, h₅, h₆, h₇, h₈⟩
      exact ⟨_, h₁, _, h₂, _, h₃, _, h₄, _, h₅, _, h₆, _, h₇, _, h₈, rfl⟩

/-- The section on the retry policy is read field by field. -/
theorem PolicySettings.reads_ofSetting_iff (table : ∀ t, s = some t → t.IsTable)
    {p : PolicySettings} :
    Reads s .default ofSetting p ↔
      Reads (s.bind (·.get? "max_attempts")) 10 toUInt32 p.maxAttempts ∧
      Reads (s.bind (·.get? "backoff_base_ms")) 5000 toUInt64 p.backoffBaseMs ∧
      Reads (s.bind (·.get? "backoff_cap_ms")) 300000 toUInt64 p.backoffCapMs := by
  cases s with
  | none =>
    cases p
    simp [Reads, PolicySettings.default]
  | some t =>
    obtain ⟨es, origin, rfl⟩ := table t rfl
    simp only [Reads, ofSetting, checkSection, ok_bind, bind_eq_ok_iff, field_table_eq_ok_iff,
      Option.bind_some]
    constructor
    · rintro ⟨_, h₁, _, h₂, _, h₃, ⟨⟩⟩
      exact ⟨h₁, h₂, h₃⟩
    · rintro ⟨h₁, h₂, h₃⟩
      exact ⟨_, h₁, _, h₂, _, h₃, rfl⟩

/-- The section on the store is read field by field. -/
theorem StoreSettings.reads_ofSetting_iff (table : ∀ t, s = some t → t.IsTable)
    {st : StoreSettings} :
    Reads s .default ofSetting st ↔
      Reads (s.bind (·.get? "kind")) .memory (toKind "StoreKind" StoreKind.named) st.kind ∧
      Reads (s.bind (·.get? "url")) none toText? st.url := by
  cases s with
  | none =>
    cases st
    simp [Reads, StoreSettings.default]
  | some t =>
    obtain ⟨es, origin, rfl⟩ := table t rfl
    simp only [Reads, ofSetting, checkSection, ok_bind, bind_eq_ok_iff, field_table_eq_ok_iff,
      Option.bind_some]
    constructor
    · rintro ⟨_, h₁, _, h₂, ⟨⟩⟩
      exact ⟨h₁, h₂⟩
    · rintro ⟨h₁, h₂⟩
      exact ⟨_, h₁, _, h₂, rfl⟩

/-- The section on the broker is read field by field. -/
theorem BrokerSettings.reads_ofSetting_iff (table : ∀ t, s = some t → t.IsTable)
    {b : BrokerSettings} :
    Reads s .default ofSetting b ↔
      Reads (s.bind (·.get? "kind")) .log (toKind "BrokerKind" BrokerKind.named) b.kind ∧
      Reads (s.bind (·.get? "url")) none toText? b.url := by
  cases s with
  | none =>
    cases b
    simp [Reads, BrokerSettings.default]
  | some t =>
    obtain ⟨es, origin, rfl⟩ := table t rfl
    simp only [Reads, ofSetting, checkSection, ok_bind, bind_eq_ok_iff, field_table_eq_ok_iff,
      Option.bind_some]
    constructor
    · rintro ⟨_, h₁, _, h₂, ⟨⟩⟩
      exact ⟨h₁, h₂⟩
    · rintro ⟨h₁, h₂⟩
      exact ⟨_, h₁, _, h₂, rfl⟩

/-! ## Reading a tree -/

/-- The setting of a field in a tree: the entry of its name in the entry of its section. -/
def Setting.at? (tree : Setting) (f : Settings.Field) : Option Setting :=
  (tree.get? f.home.name).bind (·.get? f.name)

/-- A tree is a table, and its sections are tables as far as there are any. -/
structure Setting.Sectioned (tree : Setting) : Prop where
  table : tree.IsTable
  sections : ∀ (section_ : Settings.Section) (t : Setting),
    tree.get? section_.name = some t → t.IsTable

/-- **Every field is read by itself.** -/
theorem Settings.ofSetting_eq_ok_iff {tree : Setting} (h : tree.Sectioned) {s : Settings} :
    ofSetting tree = .ok s ↔
      ∀ f : Field, Reads (tree.at? f) f.default f.convert (f.get s) := by
  obtain ⟨⟨es, origin, rfl⟩, tables⟩ := h
  have dispatcher := @DispatcherSettings.reads_ofSetting_iff _ (tables .dispatcher)
  have policy := @PolicySettings.reads_ofSetting_iff _ (tables .policy)
  have store := @StoreSettings.reads_ofSetting_iff _ (tables .store)
  have broker := @BrokerSettings.reads_ofSetting_iff _ (tables .broker)
  simp only [Section.name] at dispatcher policy store broker
  simp only [ofSetting, bind_eq_ok_iff, field_table_eq_ok_iff, Settings.default, dispatcher,
    policy, store, broker]
  constructor
  · rintro ⟨d, ⟨d₁, d₂, d₃, d₄, d₅, d₆, d₇, d₈⟩, p, ⟨p₁, p₂, p₃⟩, st, ⟨s₁, s₂⟩, b, ⟨b₁, b₂⟩, ⟨⟩⟩ f
    cases f with
    | batchSize => exact d₁
    | tickIntervalSecs => exact d₂
    | reapIntervalSecs => exact d₃
    | staleLockThresholdSecs => exact d₄
    | confirmTimeoutMs => exact d₅
    | purgeIntervalSecs => exact d₆
    | retentionDays => exact d₇
    | workerId => exact d₈
    | maxAttempts => exact p₁
    | backoffBaseMs => exact p₂
    | backoffCapMs => exact p₃
    | storeKind => exact s₁
    | storeUrl => exact s₂
    | brokerKind => exact b₁
    | brokerUrl => exact b₂
  · intro read
    refine ⟨s.dispatcher, ⟨read .batchSize, read .tickIntervalSecs, read .reapIntervalSecs,
      read .staleLockThresholdSecs, read .confirmTimeoutMs, read .purgeIntervalSecs,
      read .retentionDays, read .workerId⟩, s.policy, ⟨read .maxAttempts, read .backoffBaseMs,
      read .backoffCapMs⟩, s.store, ⟨read .storeKind, read .storeUrl⟩, s.broker,
      ⟨read .brokerKind, read .brokerUrl⟩, rfl⟩

end EventRelay
