import EventRelay.Dispatcher.Rounds
import EventRelay.Policy
import EventRelay.Postgres.Statement

/-!
# A store in a database

The records of this store are the rows of a table, and its clock is the database's. Each operation
is one statement: a claim takes rows that nobody else holds, and an event whose dedupe key is taken
is passed over without ending the transaction that it is part of. Inside a caller's transaction an
event is taken in by the same statement.
-/

namespace EventRelay.Postgres

/-! ## The statements -/

def schema : String :=
  "CREATE TABLE IF NOT EXISTS outbox_events ( id UUID PRIMARY KEY, aggregate_type TEXT NOT NULL, "
    ++ "aggregate_id TEXT NOT NULL, event_type TEXT NOT NULL, payload JSONB NOT NULL, "
    ++ "exchange TEXT NOT NULL, routing_key TEXT NOT NULL, status TEXT NOT NULL DEFAULT 'pending' "
    ++ "CHECK (status IN ('pending', 'publishing', 'published')), "
    ++ "attempts INTEGER NOT NULL DEFAULT 0, "
    ++ "next_attempt_at TIMESTAMPTZ NOT NULL DEFAULT 'epoch', "
    ++ "locked_by TEXT, locked_at TIMESTAMPTZ, "
    ++ "occurred_at TIMESTAMPTZ NOT NULL, error TEXT, published_at TIMESTAMPTZ, dedupe_key TEXT, "
    ++ "created_at TIMESTAMPTZ NOT NULL DEFAULT now() ); "
    ++ "CREATE INDEX IF NOT EXISTS outbox_events_status_next_attempt_idx "
    ++ "ON outbox_events (status, next_attempt_at); "
    ++ "CREATE INDEX IF NOT EXISTS outbox_events_status_locked_at_idx "
    ++ "ON outbox_events (status, locked_at); "
    ++ "CREATE UNIQUE INDEX IF NOT EXISTS outbox_events_dedupe_key_idx "
    ++ "ON outbox_events (dedupe_key);"

/-- Adds a pending row unless its key is taken. -/
def insertSql : String :=
  "INSERT INTO outbox_events (id, aggregate_type, aggregate_id, event_type, payload, exchange, "
    ++ "routing_key, occurred_at, dedupe_key) "
    ++ "VALUES ($1, $2, $3, $4, $5, $6, $7, COALESCE($8, now()), $9) "
    ++ "ON CONFLICT (dedupe_key) DO NOTHING RETURNING *"

/-- Takes the oldest claimable rows that nobody else is taking. -/
def claimSql : String :=
  "UPDATE outbox_events SET status = 'publishing', locked_by = $1, locked_at = now() "
    ++ "WHERE id IN ( SELECT id FROM outbox_events "
    ++ "WHERE status = 'pending' AND next_attempt_at <= now() AND attempts < $2 "
    ++ "ORDER BY created_at, id LIMIT $3 FOR UPDATE SKIP LOCKED ) "
    ++ "AND status = 'pending' RETURNING *"

def markPublishedSql : String :=
  "UPDATE outbox_events SET status = 'published', published_at = now(), error = NULL, "
    ++ "locked_by = NULL, locked_at = NULL WHERE id = $1"

def rescheduleSql : String :=
  "UPDATE outbox_events SET status = 'pending', error = $2, attempts = attempts + 1, "
    ++ "next_attempt_at = now() + ($3::bigint * interval '1 millisecond'), "
    ++ "locked_by = NULL, locked_at = NULL WHERE id = $1 RETURNING attempts"

def recoverSql : String :=
  "UPDATE outbox_events SET status = 'pending', locked_by = NULL, locked_at = NULL "
    ++ "WHERE status = 'publishing' AND locked_at < now() - ($1::bigint * interval '1 millisecond')"

def getSql : String := "SELECT * FROM outbox_events WHERE id = $1"

def purgeSql : String :=
  "DELETE FROM outbox_events WHERE status = 'published' "
    ++ "AND published_at < now() - ($1::bigint * interval '1 millisecond')"

def exhaustedSql : String :=
  "SELECT * FROM outbox_events WHERE status = 'pending' AND attempts >= $1 "
    ++ "ORDER BY created_at, id LIMIT $2"

/-! ## Numbers that the database can hold -/

def maxInt64 : Nat := 2 ^ 63 - 1

/-- The whole milliseconds of a duration, as far as 64 bits hold them. -/
def millis (d : Duration) : Nat := min d.wholeMillis maxInt64

def rowLimit (n : Nat) : Nat := min n maxInt64

def attemptLimit (p : Policy) : Nat := min p.maxAttempts.toNat (2 ^ 31 - 1)

/-! ## Rows and records -/

/-- A row all of whose mandatory columns are there: its record but for the status and the number of
attempts, and these two as the database holds them. -/
structure FullRow where
  record : Record
  status : String
  attempts : Int

def column {α : Type} (name : String) : Option α → Except Fault α
  | some a => .ok a
  | none => .error (.columnNull ("\"" ++ name ++ "\""))

/-- Checks the mandatory columns of a row in their order. -/
def Row.full (r : Row) : Except Fault FullRow := do
  let id ← column "id" r.id
  let aggregateType ← column "aggregate_type" r.aggregateType
  let aggregateId ← column "aggregate_id" r.aggregateId
  let eventType ← column "event_type" r.eventType
  let payload ← column "payload" r.payload
  let exchange ← column "exchange" r.exchange
  let routingKey ← column "routing_key" r.routingKey
  let status ← column "status" r.status
  let attempts ← column "attempts" r.attempts
  let nextAttemptAt ← column "next_attempt_at" r.nextAttemptAt
  let occurredAt ← column "occurred_at" r.occurredAt
  let createdAt ← column "created_at" r.createdAt
  .ok {
    record := {
      id, aggregateType, aggregateId, eventType, payload, exchange, routingKey
      status := .pending
      attempts := 0
      nextAttemptAt := toMicros nextAttemptAt
      lockedBy := r.lockedBy
      lockedAt := r.lockedAt.map toMicros
      occurredAt := toMicros occurredAt
      error := r.error
      publishedAt := r.publishedAt.map toMicros
      dedupeKey := r.dedupeKey
      createdAt := toMicros createdAt }
    status, attempts }

/-- The record of a row: its status must have a name that is known, and its attempts must not be
negative. -/
def FullRow.record? (r : FullRow) : Except Failure Record :=
  match Status.ofName r.status with
  | .error failure => .error failure
  | .ok status =>
    if r.attempts < 0 then
      .error (.database ("negative attempts: " ++ String.ofList (Text.signed r.attempts)))
    else .ok { r.record with status := status, attempts := r.attempts.toNat.toUInt32 }

/-- The results of a function on all members of a list, or its first error. -/
def collect {α β ε : Type} (f : α → Except ε β) : List α → Except ε (List β)
  | [] => .ok []
  | a :: rest =>
    match f a with
    | .error e => .error e
    | .ok b => (collect f rest).map (b :: ·)

/-- The records of rows: first all columns are checked, then what they hold. -/
def recordsOf (rows : List Row) : Except Failure (List Record) :=
  match collect Row.full rows with
  | .error fault => .error fault.toFailure
  | .ok full => collect FullRow.record? full

/-- The order of claimed records: the oldest first, of the same age the smaller id. -/
def claimedBefore (a b : Record) : Bool :=
  a.createdAt < b.createdAt || (a.createdAt == b.createdAt && a.id.value ≤ b.id.value)

/-! ## Operations -/

def Reply.rowsOf : Reply → Except Failure (List Row)
  | .rows found => .ok found
  | .affected _ => .ok []
  | .refused message => .error (Fault.refused message).toFailure

def Reply.affectedOf : Reply → Except Failure Nat
  | .rows _ => .ok 0
  | .affected n => .ok n
  | .refused message => .error (Fault.refused message).toFailure

def Reply.recordOf (r : Reply) : Except Failure (Option Record) :=
  match r.rowsOf with
  | .error failure => .error failure
  | .ok found => (recordsOf (found.take 1)).map List.head?

def migrate : Query (Except Failure Unit) :=
  .send ⟨schema, []⟩ fun r => .done (r.affectedOf.map fun _ => ())

/-- Takes an event in under an id, on any connection; no record if another event owns its key. -/
def enqueue (id : Uuid) (e : Event) : Query (Except Failure (Option Record)) :=
  match e.validate with
  | .error failure => .done (.error failure)
  | .ok () =>
    .send ⟨insertSql, [.uuid id, .text e.aggregateType, .text e.aggregateId, .text e.eventType,
        .document e.payload, .text e.exchange, .text e.routingKey,
        (e.occurredAt.map fun t => Parameter.instant (toMicros t)).getD .null,
        .ofText? e.dedupeKey]⟩
      fun r => .done r.recordOf

/-- Claims records for a worker, at most so many. The database may return them in any order. -/
def claimBatch (p : Policy) (limit : Nat) (worker : String) :
    Query (Except Failure (List Record)) :=
  if limit = 0 then .done (.ok [])
  else
    .send ⟨claimSql, [.text worker, .number (attemptLimit p), .number (rowLimit limit)]⟩ fun r =>
      .done <| do
        let rows ← r.rowsOf
        let records ← recordsOf rows
        .ok (records.mergeSort claimedBefore)

def markPublished (id : Uuid) : Query (Except Failure Unit) :=
  .send ⟨markPublishedSql, [.uuid id]⟩ fun r => .done (r.affectedOf.map fun _ => ())

/-- What the reply to a failed delivery's note says of the attempts of the record. -/
def attemptsOf (r : Reply) : Except Failure (Option Int) :=
  match r.rowsOf with
  | .error failure => .error failure
  | .ok [] => .ok none
  | .ok (row :: _) =>
    match row.attempts with
    | some n => .ok (some n)
    | none => .error (Fault.columnNull "0").toFailure

/-- Notes that a delivery has failed. Tells if the record has no attempts left. -/
def reschedule (p : Policy) (id : Uuid) (error : String) (attempts : UInt32) :
    Query (Except Failure (List Journal.Entry)) :=
  .send ⟨rescheduleSql,
      [.uuid id, .text error, .number (millis (p.backoff.delay attempts))]⟩ fun r =>
    .done <| (attemptsOf r).map fun
      | some n => if attemptLimit p ≤ n then [Journal.attemptsExhausted id n] else []
      | none => []

def recoverStuck (threshold : Duration) : Query (Except Failure Nat) :=
  .send ⟨recoverSql, [.number (millis threshold)]⟩ fun r => .done r.affectedOf

def get? (id : Uuid) : Query (Except Failure (Option Record)) :=
  .send ⟨getSql, [.uuid id]⟩ fun r => .done r.recordOf

def purgePublished (retention : Duration) : Query (Except Failure Nat) :=
  .send ⟨purgeSql, [.number (millis retention)]⟩ fun r => .done r.affectedOf

def exhausted (p : Policy) (limit : Nat) : Query (Except Failure (List Record)) :=
  .send ⟨exhaustedSql, [.number (attemptLimit p), .number (rowLimit limit)]⟩ fun r =>
    .done <| do
      let rows ← r.rowsOf
      recordsOf rows

/-! ## The rounds of a dispatcher -/

/-- A broker, and the journal so far. -/
structure Surroundings where
  broker : Broker
  journal : List Journal.Entry

def Surroundings.note (s : Surroundings) (entry : Journal.Entry) : Surroundings :=
  { s with journal := s.journal ++ [entry] }

/-- A sequence of a dispatcher's calls as statements, with messages going to the broker, which
answers at once. -/
def perform {α : Type} (p : Policy) : Action α → Surroundings → Query (α × Surroundings)
  | .done a, s => .done (a, s)
  | .note entry next, s => perform p next (s.note entry)
  | .claimBatch limit worker next, s =>
    (claimBatch p limit worker).andThen fun r => perform p (next r) s
  | .markPublished id next, s => (markPublished id).andThen fun r => perform p (next r) s
  | .reschedule id error attempts next, s =>
    (reschedule p id error attempts).andThen fun
      | .ok entries => perform p (next (.ok ())) (entries.foldl Surroundings.note s)
      | .error failure => perform p (next (.error failure)) s
  | .recoverStuck threshold next, s =>
    (recoverStuck threshold).andThen fun r => perform p (next r) s
  | .purgePublished retention next, s =>
    (purgePublished retention).andThen fun r => perform p (next r) s
  | .publish m _ next, s =>
    let (r, b) := s.broker.publish m
    perform p (next r) { s with broker := b }

end EventRelay.Postgres
