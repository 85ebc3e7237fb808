import EventRelay.Failure
import EventRelay.Postgres.Store
import EventRelay.Proofs.Time
import Mathlib.Algebra.Group.Int.Defs
import Mathlib.Data.List.Forall2
import Mathlib.Data.List.Nodup
import Mathlib.Data.List.Perm.Basic
import Mathlib.Data.Set.List

/-!
# Claims in a database

The database answers a claim with rows in any order. A record has one row (`Record.row`), and a row
that the database can hold is that of a record if it can be read (`Row.Decodes.exists_record`). So
the answer to a claim is determined by the set of the rows: their records, the oldest first and of
the same age the smaller id first, where ids are compared byte by byte (`Uuid.bytes_lt_iff`).
-/

namespace EventRelay

/-! ## Ids as bytes -/

namespace Uuid

def bytesOf : Nat → Nat → List UInt8
  | 0, _ => []
  | places + 1, n => (n / 256 ^ places % 256).toUInt8 :: bytesOf places n

def bytes (u : Uuid) : List UInt8 := bytesOf 16 u.value

theorem toNat_byte (n : Nat) : (n % 256).toUInt8.toNat = n % 256 := by
  rw [Nat.toUInt8_eq, UInt8.toNat_ofNat', Nat.mod_mod]

/-- Numbers of so many bytes are in the order of their bytes. -/
theorem bytesOf_lt_iff (places a b : Nat) :
    bytesOf places a < bytesOf places b ↔ a % 256 ^ places < b % 256 ^ places := by
  induction places with
  | zero => simp [bytesOf, Nat.mod_one]
  | succ places ih =>
    have pos : 0 < 256 ^ places := Nat.pow_pos (by decide)
    have la := Nat.mod_lt a pos
    have lb := Nat.mod_lt b pos
    rw [bytesOf, bytesOf, List.cons_lt_cons_iff, ih, UInt8.lt_iff_toNat_lt, ← UInt8.toNat_inj,
      toNat_byte, toNat_byte, Nat.mod_pow_succ, Nat.mod_pow_succ]
    generalize a / 256 ^ places % 256 = high
    generalize b / 256 ^ places % 256 = high'
    constructor
    · rintro (h | ⟨rfl, h⟩)
      · have : 256 ^ places * (high + 1) ≤ 256 ^ places * high' := Nat.mul_le_mul_left _ h
        rw [Nat.mul_succ] at this
        omega
      · omega
    · intro h
      rcases Nat.lt_trichotomy high high' with lt | eq | gt
      · exact .inl lt
      · subst eq
        exact .inr ⟨rfl, by omega⟩
      · have : 256 ^ places * (high' + 1) ≤ 256 ^ places * high := Nat.mul_le_mul_left _ gt
        rw [Nat.mul_succ] at this
        omega

/-- UUIDs compare by their bytes as they do by their numbers. -/
theorem bytes_lt_iff (u v : Uuid) : u.bytes < v.bytes ↔ u.value < v.value := by
  have whole (w : Uuid) : w.value % 256 ^ 16 = w.value :=
    Nat.mod_eq_of_lt (Nat.lt_of_lt_of_le w.value_lt (by decide))
  rw [bytes, bytes, bytesOf_lt_iff, whole, whole]

end Uuid

/-- The record was created earlier, or at the same time with an id that comes first by its bytes. -/
def Record.Before (a b : Record) : Prop :=
  a.createdAt < b.createdAt ∨ a.createdAt = b.createdAt ∧ a.id.bytes < b.id.bytes

/-- Of two records only one can come before the other. -/
theorem Record.Before.asymm {a b : Record} (h : a.Before b) : ¬ b.Before a := by
  unfold Record.Before at *
  rw [Uuid.bytes_lt_iff, Instant.lt_def] at *
  rcases h with h | ⟨h, hid⟩
  · rintro (h' | ⟨h', -⟩)
    · omega
    · rw [h'] at h
      omega
  · rintro (h' | ⟨-, hid'⟩)
    · rw [h] at h'
      omega
    · omega

namespace Postgres

/-! ## Rows -/

/-- A point in time that the database can keep: a whole number of microseconds. -/
def Kept (t : Instant) : Prop := t.Ordinary ∧ t.nano % 1000 = 0

instance (t : Instant) : Decidable (Kept t) := inferInstanceAs (Decidable (_ ∧ _))

/-- A row that the columns of the table can hold. -/
structure Row.Storable (row : Row) : Prop where
  attempts : ∀ n ∈ row.attempts, -2 ^ 31 ≤ n ∧ n < 2 ^ 31
  nextAttemptAt : ∀ t ∈ row.nextAttemptAt, Kept t
  lockedAt : ∀ t ∈ row.lockedAt, Kept t
  occurredAt : ∀ t ∈ row.occurredAt, Kept t
  publishedAt : ∀ t ∈ row.publishedAt, Kept t
  createdAt : ∀ t ∈ row.createdAt, Kept t

/-- All columns that must not be null are there. -/
def Row.Complete (row : Row) : Prop :=
  row.id.isSome ∧ row.aggregateType.isSome ∧ row.aggregateId.isSome ∧ row.eventType.isSome ∧
    row.payload.isSome ∧ row.exchange.isSome ∧ row.routingKey.isSome ∧ row.status.isSome ∧
    row.attempts.isSome ∧ row.nextAttemptAt.isSome ∧ row.occurredAt.isSome ∧ row.createdAt.isSome

/-- A row that can be read: its status is one of the three, and its attempts are not negative. -/
structure Row.Decodes (row : Row) : Prop where
  complete : row.Complete
  status : ∃ s ∈ row.status, s = "pending" ∨ s = "publishing" ∨ s = "published"
  attempts : ∃ n ∈ row.attempts, 0 ≤ n

end Postgres

/-- The row of a record: every field in its column. -/
def Record.row (r : Record) : Postgres.Row where
  id := some r.id
  aggregateType := some r.aggregateType
  aggregateId := some r.aggregateId
  eventType := some r.eventType
  payload := some r.payload
  exchange := some r.exchange
  routingKey := some r.routingKey
  status := some r.status.name
  attempts := some r.attempts.toNat
  nextAttemptAt := some r.nextAttemptAt
  lockedBy := r.lockedBy
  lockedAt := r.lockedAt
  occurredAt := some r.occurredAt
  error := r.error
  publishedAt := r.publishedAt
  dedupeKey := r.dedupeKey
  createdAt := some r.createdAt

/-- The name of a status tells which one it is. -/
theorem Status.name_injective {s s' : Status} (h : s.name = s'.name) : s = s' := by
  have read := (congrArg ofName h).symm.trans (ofName_name s)
  exact (Except.ok.inj ((ofName_name s').symm.trans read)).symm

/-- A row tells everything about its record. -/
theorem Record.row_injective : Function.Injective Record.row := by
  intro a b h
  obtain ⟨⟩ := a
  obtain ⟨⟩ := b
  simp only [row, Postgres.Row.mk.injEq, Option.some.injEq, Int.natCast_inj,
    UInt32.toNat_inj] at h
  obtain ⟨rfl, rfl, rfl, rfl, rfl, rfl, rfl, status, rfl, rfl, rfl, rfl, rfl, rfl, rfl, rfl, rfl⟩ :=
    h
  rw [Status.name_injective status]

/-- A status is read from its name and from nothing else. -/
theorem Status.ofName_eq_ok_iff {name : String} {s : Status} :
    ofName name = .ok s ↔ name = s.name := by
  constructor
  · intro h
    unfold ofName named at h
    cases pending : name == "pending" with
    | true =>
      simp only [List.lookup_cons, pending, Except.ok.injEq] at h
      exact h ▸ eq_of_beq pending
    | false =>
      cases publishing : name == "publishing" with
      | true =>
        simp only [List.lookup_cons, pending, publishing, Except.ok.injEq] at h
        exact h ▸ eq_of_beq publishing
      | false =>
        cases published : name == "published" with
        | true =>
          simp only [List.lookup_cons, pending, publishing, published, Except.ok.injEq] at h
          exact h ▸ eq_of_beq published
        | false => simp [List.lookup_cons, pending, publishing, published] at h
  · rintro rfl
    exact ofName_name s

namespace Postgres

/-- What the database keeps is read back as it is. -/
theorem toMicros_eq_self {t : Instant} (h : Kept t) : toMicros t = t := by
  obtain ⟨ordinary, micros⟩ := h
  have whole : (sinceEpoch t).tdiv 1000 * 1000 = sinceEpoch t := by
    refine Int.tdiv_mul_cancel ?_
    unfold sinceEpoch nanosPerSecond
    omega
  have hs := t.second_ge
  have hs' := t.second_le
  unfold Instant.Ordinary at ordinary
  have second : epochSecond + (sinceEpoch t).fdiv nanosPerSecond = t.second := by
    rw [Int.fdiv_eq_ediv_of_nonneg _ (by decide)]
    unfold sinceEpoch nanosPerSecond at *
    omega
  have nano : ((sinceEpoch t).fmod nanosPerSecond).toNat = t.nano := by
    rw [Int.fmod_eq_emod_of_nonneg _ (by decide)]
    unfold sinceEpoch nanosPerSecond at *
    omega
  unfold toMicros
  simp only [whole, second, nano]
  rw [Instant.ofParts?, dif_pos ⟨hs, hs', by unfold nanosPerSecond at *; omega⟩]
  rfl

theorem map_toMicros_eq_self {o : Option Instant} (h : ∀ t ∈ o, Kept t) : o.map toMicros = o := by
  cases o with
  | none => rfl
  | some t => exact congrArg some (toMicros_eq_self (h t rfl))

/-! ## Reading rows -/

section
variable {α β ε : Type}

/-- A mandatory column has the value that the row has for it. -/
theorem column_eq_ok_iff {name : String} {o : Option α} {a : α} :
    column name o = .ok a ↔ o = some a := by
  cases o with
  | none => exact ⟨nofun, nofun⟩
  | some b =>
    exact ⟨fun h => congrArg some (Except.ok.inj h),
      fun h => congrArg Except.ok (Option.some.inj h)⟩

/-- Results are collected exactly if every member has one; they come in the order of the members. -/
theorem collect_eq_ok_iff {f : α → Except ε β} {as : List α} {bs : List β} :
    collect f as = .ok bs ↔ List.Forall₂ (fun a b => f a = .ok b) as bs := by
  induction as generalizing bs with
  | nil =>
    rw [List.forall₂_nil_left_iff]
    exact ⟨fun h => (Except.ok.inj h).symm, fun h => congrArg Except.ok h.symm⟩
  | cons a rest ih =>
    rw [List.forall₂_cons_left_iff, collect]
    cases f a with
    | error e => simp
    | ok b =>
      simp only [map_eq_ok_iff, ih]
      constructor
      · rintro ⟨bs, h, rfl⟩
        exact ⟨b, bs, rfl, h, rfl⟩
      · rintro ⟨b', bs, hb, h, rfl⟩
        cases hb
        exact ⟨bs, h, rfl⟩

theorem exists_of_collect {f : α → Except ε β} {as : List α} {bs : List β}
    (h : collect f as = .ok bs) {a : α} (ha : a ∈ as) : ∃ b ∈ bs, f a = .ok b := by
  have pairs := collect_eq_ok_iff.1 h
  clear h
  induction pairs with
  | nil => cases ha
  | cons head _ ih =>
    rcases List.mem_cons.1 ha with rfl | ha
    · exact ⟨_, List.mem_cons_self, head⟩
    · obtain ⟨b, hb, hfa⟩ := ih ha
      exact ⟨b, List.mem_cons_of_mem _ hb, hfa⟩

end

/-- A computation whose errors all satisfy a condition. -/
def FailsOnly {α ε : Type} (p : ε → Prop) (x : Except ε α) : Prop := ∀ e, x = .error e → p e

theorem FailsOnly.ok {α ε : Type} {p : ε → Prop} (a : α) : FailsOnly p (.ok a : Except ε α) := nofun

/-- Errors of two steps are errors of one of them. -/
theorem FailsOnly.bind {α β ε : Type} {p : ε → Prop} {x : Except ε α} {f : α → Except ε β}
    (hx : FailsOnly p x) (hf : ∀ a, FailsOnly p (f a)) : FailsOnly p (x >>= f) := by
  intro e h
  cases x with
  | error e' => exact hx e (by cases h; rfl)
  | ok a => exact hf a e h

/-- Errors of a collection are errors of a member. -/
theorem FailsOnly.collect {α β ε : Type} {p : ε → Prop} {f : α → Except ε β}
    (hf : ∀ a, FailsOnly p (f a)) (as : List α) : FailsOnly p (collect f as) := by
  intro e h
  induction as with
  | nil => cases h
  | cons a rest ih =>
    rw [Postgres.collect] at h
    cases hfa : f a with
    | error e' =>
      rw [hfa] at h
      cases h
      exact hf a e hfa
    | ok b =>
      rw [hfa] at h
      cases hrest : Postgres.collect f rest with
      | ok bs =>
        rw [hrest] at h
        cases h
      | error e' =>
        rw [hrest] at h
        exact ih (hrest.trans h)

def IsDatabase (failure : Failure) : Prop := ∃ reason, failure = .database reason

theorem column_failsOnly {α : Type} (name : String) (o : Option α) :
    FailsOnly (fun fault => IsDatabase fault.toFailure) (column name o) := by
  cases o with
  | none => exact fun _ h => ⟨_, congrArg Fault.toFailure (Except.error.inj h).symm⟩
  | some a => exact .ok a

/-- A row without a mandatory column is a failure of the database. -/
theorem Row.full_failsOnly (row : Row) :
    FailsOnly (fun fault => IsDatabase fault.toFailure) row.full := by
  unfold Row.full
  iterate 12 refine .bind (column_failsOnly _ _) fun _ => ?_
  exact .ok _

/-- A row that does not decode is a failure of the database. -/
theorem FullRow.record?_failsOnly (full : FullRow) : FailsOnly IsDatabase full.record? := by
  intro e h
  unfold FullRow.record? at h
  split at h
  · rename_i failure unknown
    cases h
    unfold Status.ofName at unknown
    split at unknown
    · cases unknown
    · exact ⟨_, (Except.error.inj unknown).symm⟩
  · split at h
    · exact ⟨_, (Except.error.inj h).symm⟩
    · cases h

/-- Rows can fail in no other way than by a failure of the database. -/
theorem recordsOf_failsOnly (rows : List Row) : FailsOnly IsDatabase (recordsOf rows) := by
  intro e h
  unfold recordsOf at h
  split at h
  · rename_i fault incomplete
    cases h
    exact FailsOnly.collect Row.full_failsOnly rows fault incomplete
  · exact FailsOnly.collect FullRow.record?_failsOnly _ e h

/-- Only a row that decodes is read. -/
theorem Row.decodes_of_read {row : Row} {full : FullRow} {r : Record} (h : row.full = .ok full)
    (h' : full.record? = .ok r) : row.Decodes := by
  simp only [Row.full, bind_eq_ok_iff, column_eq_ok_iff] at h
  obtain ⟨id, hid, aggregateType, haggregateType, aggregateId, haggregateId, eventType, heventType,
    payload, hpayload, exchange, hexchange, routingKey, hroutingKey, status, hstatus, attempts,
    hattempts, nextAttemptAt, hnextAttemptAt, occurredAt, hoccurredAt, createdAt, hcreatedAt, h⟩ :=
    h
  cases h
  unfold FullRow.record? at h'
  split at h'
  · cases h'
  · rename_i known hknown
    split at h'
    · cases h'
    · rename_i positive
      refine ⟨?_, ⟨status, hstatus, ?_⟩, attempts, hattempts, by simpa using positive⟩
      · simp [Row.Complete, hid, haggregateType, haggregateId, heventType, hpayload, hexchange,
          hroutingKey, hstatus, hattempts, hnextAttemptAt, hoccurredAt, hcreatedAt]
      · have named : status = known.name := Status.ofName_eq_ok_iff.1 hknown
        rw [named]
        cases known <;> simp [Status.name]

end Postgres

def Record.fullRow (r : Record) : Postgres.FullRow :=
  ⟨{ r with status := .pending, attempts := 0 }, r.status.name, r.attempts.toNat⟩

namespace Postgres

/-- The row of a record has all mandatory columns. -/
theorem full_row {r : Record} (storable : r.row.Storable) : r.row.full = .ok r.fullRow := by
  have next := toMicros_eq_self (storable.nextAttemptAt _ rfl)
  have occurred := toMicros_eq_self (storable.occurredAt _ rfl)
  have created := toMicros_eq_self (storable.createdAt _ rfl)
  have locked : r.lockedAt.map toMicros = r.lockedAt := map_toMicros_eq_self storable.lockedAt
  have published : r.publishedAt.map toMicros = r.publishedAt :=
    map_toMicros_eq_self storable.publishedAt
  simp only [Row.full, Record.row, column, ok_bind, next, occurred, created, locked, published]
  rfl

/-- The row of a record decodes to the record. -/
theorem record?_fullRow (r : Record) : r.fullRow.record? = .ok r := by
  have attempts : ((r.attempts.toNat : Int)).toNat.toUInt32 = r.attempts := by simp
  simp only [FullRow.record?, Record.fullRow, Status.ofName_name, attempts]
  rw [if_neg (by omega)]

/-- The rows of records are read back as these records. -/
theorem recordsOf_map_row {records : List Record} (storable : ∀ r ∈ records, r.row.Storable) :
    recordsOf (records.map Record.row) = .ok records := by
  have complete : collect Row.full (records.map Record.row) = .ok (records.map Record.fullRow) := by
    rw [collect_eq_ok_iff, List.forall₂_map_left_iff, List.forall₂_map_right_iff, List.forall₂_same]
    exact fun r hr => full_row (storable r hr)
  have read : collect FullRow.record? (records.map Record.fullRow) = .ok records := by
    rw [collect_eq_ok_iff, List.forall₂_map_left_iff, List.forall₂_same]
    exact fun r _ => record?_fullRow r
  unfold recordsOf
  rw [complete]
  exact read

/-- A row that can be read is the row of a record. -/
theorem Row.Decodes.exists_record {row : Row} (h : row.Decodes) (storable : row.Storable) :
    ∃ r : Record, r.row = row := by
  obtain ⟨complete, ⟨name, hname, known⟩, n, hn, positive⟩ := h
  have range := storable.attempts n hn
  obtain ⟨s, hs⟩ : ∃ s : Status, s.name = name := by
    rcases known with rfl | rfl | rfl
    · exact ⟨.pending, rfl⟩
    · exact ⟨.publishing, rfl⟩
    · exact ⟨.published, rfl⟩
  have attempts : (n.toNat.toUInt32.toNat : Int) = n := by
    rw [Nat.toUInt32_eq, UInt32.toNat_ofNat_of_lt' (by simp only [UInt32.size]; omega)]
    omega
  obtain ⟨id, aggregateType, aggregateId, eventType, payload, exchange, routingKey, status,
    attempts', nextAttemptAt, lockedBy, lockedAt, occurredAt, error, publishedAt, dedupeKey,
    createdAt⟩ := row
  simp only [Row.Complete, Option.isSome_iff_exists] at complete
  obtain ⟨⟨id, rfl⟩, ⟨aggregateType, rfl⟩, ⟨aggregateId, rfl⟩, ⟨eventType, rfl⟩, ⟨payload, rfl⟩,
    ⟨exchange, rfl⟩, ⟨routingKey, rfl⟩, -, -, ⟨nextAttemptAt, rfl⟩, ⟨occurredAt, rfl⟩,
    ⟨createdAt, rfl⟩⟩ := complete
  cases hname
  cases hn
  exact ⟨⟨id, aggregateType, aggregateId, eventType, payload, exchange, routingKey, s,
    n.toNat.toUInt32, nextAttemptAt, lockedBy, lockedAt, occurredAt, error, publishedAt, dedupeKey,
    createdAt⟩, by simp only [Record.row, hs, attempts]⟩

/-- Where a row cannot be read, none is. -/
theorem recordsOf_error {rows : List Row} (h : ∃ row ∈ rows, ¬ row.Decodes) :
    ∃ reason, recordsOf rows = .error (.database reason) := by
  cases hread : recordsOf rows with
  | error failure =>
    obtain ⟨reason, rfl⟩ := recordsOf_failsOnly rows failure hread
    exact ⟨reason, rfl⟩
  | ok records =>
    obtain ⟨row, hrow, undecoded⟩ := h
    unfold recordsOf at hread
    split at hread
    · cases hread
    · rename_i full complete
      obtain ⟨f, hf, hfull⟩ := exists_of_collect complete hrow
      obtain ⟨r, -, hr⟩ := exists_of_collect hread hf
      exact absurd (Row.decodes_of_read hfull hr) undecoded

/-- Rows that can be stored and decoded are the rows of records. -/
theorem exists_records {rows : List Row} (storable : ∀ row ∈ rows, row.Storable)
    (decodes : ∀ row ∈ rows, row.Decodes) :
    ∃ records : List Record, records.map Record.row = rows ∧ recordsOf rows = .ok records := by
  have each : rows ∈ Set.range (List.map Record.row) := by
    rw [Set.range_list_map]
    exact fun row hrow => (decodes row hrow).exists_record (storable row hrow)
  obtain ⟨records, rfl⟩ := each
  exact ⟨records, rfl, recordsOf_map_row fun r hr => storable _ (List.mem_map_of_mem hr)⟩

/-! ## The order of claimed records -/

section
variable {a b c : Record}

/-- Older records come first, and of the same age the one with the smaller id. -/
theorem claimedBefore_iff :
    claimedBefore a b = true ↔
      a.createdAt < b.createdAt ∨ a.createdAt = b.createdAt ∧ a.id.value ≤ b.id.value := by
  simp [claimedBefore]

theorem claimedBefore_trans (a b c : Record) (h : claimedBefore a b = true)
    (h' : claimedBefore b c = true) :
    claimedBefore a c = true := by
  rw [claimedBefore_iff, Instant.lt_def] at *
  rcases h with h | ⟨h, hid⟩ <;> rcases h' with h' | ⟨h', hid'⟩
  · exact .inl (by omega)
  · rw [← h']
    exact .inl h
  · rw [h]
    exact .inl h'
  · exact .inr ⟨h.trans h', Nat.le_trans hid hid'⟩

/-- Any two records can be put in order. -/
theorem claimedBefore_total (a b : Record) : (claimedBefore a b || claimedBefore b a) = true := by
  rw [Bool.or_eq_true, claimedBefore_iff, claimedBefore_iff, Instant.lt_def, Instant.lt_def]
  by_cases same : a.createdAt = b.createdAt
  · rw [same]
    have := Nat.le_total a.id.value b.id.value
    tauto
  · have apart : a.createdAt.second ≠ b.createdAt.second ∨ a.createdAt.nano ≠ b.createdAt.nano := by
      by_contra together
      rw [not_or, not_ne_iff, not_ne_iff] at together
      exact same (Instant.ext together.1 together.2)
    omega

/-- Records in the order of claims whose ids differ stand strictly one before the other. -/
theorem before_of_claimedBefore (h : claimedBefore a b = true) (distinct : a.id ≠ b.id) :
    a.Before b := by
  rcases claimedBefore_iff.1 h with h | ⟨h, hid⟩
  · exact .inl h
  · refine .inr ⟨h, (Uuid.bytes_lt_iff ..).2 (Nat.lt_of_le_of_ne hid fun e => ?_)⟩
    exact distinct (Uuid.ext e)

end

/-! ## Claims -/

/-- The result of a query to which a database replies. -/
def Query.resultWith {α : Type} (database : Statement → Reply) : Query α → α
  | .done a => a
  | .send s next => (next (database s)).resultWith database

def claimStatement (p : Policy) (limit : Nat) (worker : String) : Statement :=
  ⟨claimSql, [.text worker, .number (attemptLimit p), .number (rowLimit limit)]⟩

section
variable {p : Policy} {limit : Nat} {worker : String} {database : Statement → Reply}
  {rows : List Row}

/-- What a claim gives back: the records of the rows in which the database has replied, sorted. -/
theorem claimBatch_resultWith (positive : 0 < limit)
    (replies : database (claimStatement p limit worker) = .rows rows) :
    (claimBatch p limit worker).resultWith database =
      (recordsOf rows).map (·.mergeSort claimedBefore) := by
  unfold claimStatement at replies
  simp only [claimBatch, if_neg (Nat.ne_of_gt positive), Query.resultWith, replies, Reply.rowsOf,
    ok_bind]
  cases recordsOf rows with
  | error failure => rfl
  | ok records => rfl

/-- What a claim answers where the rows can be read: their records in strict order. -/
theorem claimed_of_decodes (positive : 0 < limit)
    (replies : database (claimStatement p limit worker) = .rows rows)
    (storable : ∀ row ∈ rows, row.Storable) (distinct : (rows.map (·.id)).Nodup)
    (decodes : ∀ row ∈ rows, row.Decodes) :
    ∃ records : List Record,
      (claimBatch p limit worker).resultWith database = .ok records ∧
      (records.map Record.row).Perm rows ∧ records.Pairwise Record.Before := by
  obtain ⟨records, rfl, read⟩ := exists_records storable decodes
  have perm := List.mergeSort_perm records claimedBefore
  have ids : (records.mergeSort claimedBefore).Pairwise (·.id ≠ ·.id) := by
    rw [List.map_map] at distinct
    refine (perm.pairwise_iff Ne.symm).2 ?_
    exact (List.pairwise_map.1 distinct).imp fun h e => h (congrArg some e)
  have sorted : (records.mergeSort claimedBefore).Pairwise fun a b => claimedBefore a b = true :=
    List.pairwise_mergeSort claimedBefore_trans claimedBefore_total records
  refine ⟨_, ?_, perm.map Record.row, (sorted.and ids).imp fun h => before_of_claimedBefore h.1 h.2⟩
  rw [claimBatch_resultWith positive replies, read]
  rfl

end

/-- **A claim does not depend on the order of the rows.** Let a database reply with rows that its
columns can hold and whose ids differ. If all of them decode, a claim is answered with their
records, one for each row with every column in its field, strictly ordered by the time of creation
and then by the bytes of the id; and every database that replies with the same rows in another order
is answered for in the same way. If one of them does not decode, the claim has failed in the
database. -/
theorem claim_ignores_row_order (p : Policy) {limit : Nat} (positive : 0 < limit) (worker : String)
    {database : Statement → Reply} {rows : List Row}
    (replies : database (claimStatement p limit worker) = .rows rows)
    (storable : ∀ row ∈ rows, row.Storable) (distinct : (rows.map (·.id)).Nodup) :
    ((∀ row ∈ rows, row.Decodes) → ∃ records : List Record,
      (claimBatch p limit worker).resultWith database = .ok records ∧
      (records.map Record.row).Perm rows ∧ records.Pairwise Record.Before ∧
      ∀ (database' : Statement → Reply) (rows' : List Row), rows'.Perm rows →
        database' (claimStatement p limit worker) = .rows rows' →
        (claimBatch p limit worker).resultWith database' = .ok records) ∧
    ((∃ row ∈ rows, ¬ row.Decodes) → ∃ reason,
      (claimBatch p limit worker).resultWith database = .error (.database reason)) := by
  constructor
  · intro decodes
    obtain ⟨records, claimed, perm, ordered⟩ :=
      claimed_of_decodes positive replies storable distinct decodes
    refine ⟨records, claimed, perm, ordered, fun database' rows' same replies' => ?_⟩
    obtain ⟨records', claimed', perm', ordered'⟩ := claimed_of_decodes positive replies'
      (fun row hrow => storable row (same.mem_iff.1 hrow))
      ((same.map (·.id)).nodup_iff.2 distinct) fun row hrow => decodes row (same.mem_iff.1 hrow)
    have together : records'.Perm records :=
      (List.map_perm_map_iff Record.row_injective).1 ((perm'.trans same).trans perm.symm)
    rw [claimed', together.eq_of_pairwise (fun _ _ _ _ h h' => absurd h' h.asymm) ordered' ordered]
  · intro undecoded
    obtain ⟨reason, failed⟩ := recordsOf_error undecoded
    refine ⟨reason, ?_⟩
    rw [claimBatch_resultWith positive replies, failed]
    rfl

def claimedRow (id : Nat) (createdAt : Instant) (attempts : Int) : Row where
  id := some (.ofNat id)
  aggregateType := some "order"
  aggregateId := some "1"
  eventType := some "created"
  payload := some (.bool true)
  exchange := some "orders"
  routingKey := some "created"
  status := some "publishing"
  attempts := some attempts
  nextAttemptAt := some .epoch
  lockedBy := some "w"
  lockedAt := some (Instant.epoch.later (.ofSeconds 60))
  occurredAt := some createdAt
  createdAt := some createdAt

theorem storable_claimedRow (id : Nat) {createdAt : Instant} (created : Kept createdAt)
    {attempts : Int} (range : -2 ^ 31 ≤ attempts ∧ attempts < 2 ^ 31) :
    (claimedRow id createdAt attempts).Storable := by
  refine ⟨?_, ?_, ?_, ?_, ?_, ?_⟩ <;> rintro _ ⟨⟩
  · exact range
  · decide
  · decide +kernel
  · exact created
  · exact created

/-- A row that has been claimed decodes unless its attempts are negative. -/
theorem decodes_claimedRow_iff (id : Nat) (createdAt : Instant) (attempts : Int) :
    (claimedRow id createdAt attempts).Decodes ↔ 0 ≤ attempts := by
  constructor
  · rintro ⟨-, -, n, ⟨⟩, h⟩
    exact h
  · intro h
    exact ⟨by simp [Row.Complete, claimedRow], ⟨_, rfl, .inr (.inl rfl)⟩, _, rfl, h⟩

def disorderedRows : List Row :=
  [claimedRow 5 (Instant.epoch.later (.ofMillis 1)) 0, claimedRow 256 .epoch 1,
    claimedRow 255 .epoch 2]

def brokenRows : List Row := claimedRow 6 .epoch (-1) :: disorderedRows

/-- Two rows of one age come out by their ids, however they were returned; a row with negative
attempts among them makes the whole claim fail. -/
theorem claim_ignores_row_order_disordered :
    (∃ records : List Record,
      (claimBatch .default 3 "w").resultWith (fun _ => .rows disorderedRows) = .ok records ∧
      (claimBatch .default 3 "w").resultWith (fun _ => .rows disorderedRows.reverse) =
        .ok records ∧
      (records.map Record.row).Perm disorderedRows ∧ records.Pairwise Record.Before) ∧
    ∃ reason, (claimBatch .default 4 "w").resultWith (fun _ => .rows brokenRows) =
      .error (.database reason) := by
  have epoch : Kept .epoch := by decide
  have later : Kept (Instant.epoch.later (.ofMillis 1)) := by decide +kernel
  have distinct : (brokenRows.map (·.id)).Nodup := by decide +kernel
  have storable : ∀ row ∈ brokenRows, row.Storable := by
    simp only [brokenRows, disorderedRows, List.forall_mem_cons]
    exact ⟨storable_claimedRow _ epoch (by omega), storable_claimedRow _ later (by omega),
      storable_claimedRow _ epoch (by omega), storable_claimedRow _ epoch (by omega),
      List.forall_mem_nil _⟩
  have decodes : ∀ row ∈ disorderedRows, row.Decodes := by
    simp only [disorderedRows, List.forall_mem_cons, decodes_claimedRow_iff]
    exact ⟨by decide, by decide, by decide, List.forall_mem_nil _⟩
  have undecoded : ∃ row ∈ brokenRows, ¬ row.Decodes :=
    ⟨_, List.mem_cons_self, by simp [decodes_claimedRow_iff]⟩
  constructor
  · obtain ⟨records, claimed, perm, ordered, others⟩ :=
      (@claim_ignores_row_order .default 3 (by decide) "w" (fun _ => .rows disorderedRows) _ rfl
        (fun row hrow => storable row (List.mem_cons_of_mem _ hrow))
        (List.nodup_cons.1 distinct).2).1 decodes
    exact ⟨records, claimed, others _ _ (List.reverse_perm _) rfl, perm, ordered⟩
  · exact (@claim_ignores_row_order .default 4 (by decide) "w" (fun _ => .rows brokenRows) _ rfl
      storable distinct).2 undecoded

end Postgres
end EventRelay
