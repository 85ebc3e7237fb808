import EventRelay.Record

/-!
# Statements and replies

What is said between a store and its database: statements with parameters on one side, rows, counts
and refusals on the other. A query is a sequence of statements in which each may depend on the
replies before it; it says nothing about how the replies come about.

The database keeps points in time in whole microseconds.
-/

namespace EventRelay.Postgres

/-- The second at which the database's time begins, 2000-01-01T00:00:00Z. -/
def epochSecond : Int := 946684800

/-- The nanoseconds since the beginning of the database's time, a leap second counted as the second
after it. -/
def sinceEpoch (t : Instant) : Int := (t.second - epochSecond) * nanosPerSecond + t.nano

/-- A point in time as the database keeps it: in whole microseconds, cut toward the beginning of
its time. -/
def toMicros (t : Instant) : Instant :=
  let n := (sinceEpoch t).tdiv 1000 * 1000
  let second := epochSecond + n.fdiv nanosPerSecond
  (Instant.ofParts? second (n.fmod nanosPerSecond).toNat).getD .latest

/-- A parameter of a statement. -/
inductive Parameter where
  | uuid (id : Uuid)
  | text (s : String)
  | document (j : Json)
  | number (n : Int)
  | instant (t : Instant)
  | null

def Parameter.ofText? : Option String → Parameter
  | some s => .text s
  | none => .null

/-- A statement with its parameters. -/
structure Statement where
  sql : String
  parameters : List Parameter

/-- A row of the table of events; a column is absent where it is null or was not asked for. -/
structure Row where
  id : Option Uuid := none
  aggregateType : Option String := none
  aggregateId : Option String := none
  eventType : Option String := none
  payload : Option Json := none
  exchange : Option String := none
  routingKey : Option String := none
  status : Option String := none
  attempts : Option Int := none
  nextAttemptAt : Option Instant := none
  lockedBy : Option String := none
  lockedAt : Option Instant := none
  occurredAt : Option Instant := none
  error : Option String := none
  publishedAt : Option Instant := none
  dedupeKey : Option String := none
  createdAt : Option Instant := none

/-- What the database replies to a statement. -/
inductive Reply where
  | rows (rows : List Row)
  /-- So many rows were changed. -/
  | affected (n : Nat)
  /-- The statement was refused. -/
  | refused (message : String)

/-- A sequence of statements that ends with a result. -/
inductive Query (α : Type) where
  | done (a : α)
  | send (s : Statement) (next : Reply → Query α)

def Query.andThen {α β : Type} : Query α → (α → Query β) → Query β
  | .done a, f => f a
  | .send s next, f => .send s fun r => (next r).andThen f

instance : Monad Query where
  pure := .done
  bind := .andThen

/-! ## Faults -/

/-- What can go wrong with the database and the way to it. -/
inductive Fault where
  | rowNotFound
  | poolTimedOut
  | poolClosed
  | workerCrashed
  | columnNotFound (name : String)
  /-- A column, as it is named in messages, is null and must not be. -/
  | columnNull (column : String)
  | protocol (text : String)
  | refused (message : String)
  /-- The address of the database cannot be used. -/
  | configuration (reason : String)
deriving DecidableEq

def Fault.message : Fault → String
  | .rowNotFound => "no rows returned by a query that expected to return at least one row"
  | .poolTimedOut => "pool timed out while waiting for an open connection"
  | .poolClosed => "attempted to acquire a connection on a closed pool"
  | .workerCrashed => "attempted to communicate with a crashed background worker"
  | .columnNotFound name => "no column found for name: " ++ name
  | .columnNull column =>
    "error occurred while decoding column " ++ column
      ++ ": unexpected null; try decoding as an `Option`"
  | .protocol text => "encountered unexpected or invalid data: " ++ text
  | .refused message => "error returned from database: " ++ message
  | .configuration reason => "error with configuration: " ++ reason

/-- A missing row is not found; everything else is a failure of the database. -/
def Fault.toFailure : Fault → Failure
  | .rowNotFound => .notFound "row not found"
  | fault => .database fault.message

end EventRelay.Postgres
