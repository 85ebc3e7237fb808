import EventRelay.Event
import EventRelay.Uuid

/-!
# Records

An event in a store. It is *pending* until a worker claims it, *publishing* while the worker holds
it, and *published* in the end:

* `pending → publishing` when it is claimed,
* `publishing → published` when the broker has confirmed it,
* `publishing → pending` when the delivery has failed, with one more attempt counted, and when the
  worker has held it for too long, with the attempts unchanged.
-/

namespace EventRelay

/-- Where a record stands. -/
inductive Status where
  | pending
  | publishing
  | published
deriving DecidableEq, Repr

namespace Status

def name : Status → String
  | .pending => "pending"
  | .publishing => "publishing"
  | .published => "published"

def named : List (String × Status) :=
  [("pending", .pending), ("publishing", .publishing), ("published", .published)]

def ofName (s : String) : Except Failure Status :=
  match named.lookup s with
  | some status => .ok status
  | none => .error (.database ("unknown outbox status: " ++ s))

/-- A state is read back from its name. -/
theorem ofName_name (s : Status) : ofName s.name = .ok s := by
  cases s <;> rfl

end Status

/-- An event in a store, with the state of its delivery. -/
structure Record where
  id : Uuid
  aggregateType : String
  aggregateId : String
  eventType : String
  payload : Json
  exchange : String
  routingKey : String
  status : Status
  attempts : UInt32
  nextAttemptAt : Instant
  lockedBy : Option String
  lockedAt : Option Instant
  occurredAt : Instant
  error : Option String
  publishedAt : Option Instant
  dedupeKey : Option String
  createdAt : Instant

/-- One more, but not beyond the largest number. -/
def countUp (n : UInt32) : UInt32 := if n = 0xffffffff then n else n + 1

/-- The count of attempts stops at its greatest value. -/
theorem toNat_countUp (n : UInt32) : (countUp n).toNat = min (n.toNat + 1) (2 ^ 32 - 1) := by
  unfold countUp
  have := n.toNat_lt
  split
  · subst n; decide
  · rename_i h
    have h' : n.toNat ≠ 2 ^ 32 - 1 := fun e => h (UInt32.toNat_inj.1 (by simpa using e))
    rw [UInt32.toNat_add]
    simp only [UInt32.reduceToNat]
    omega

namespace Record

/-- The record of an event at its start: pending, without attempts, to be delivered at once. -/
def ofEvent (id : Uuid) (e : Event) (now : Instant) : Record where
  id := id
  aggregateType := e.aggregateType
  aggregateId := e.aggregateId
  eventType := e.eventType
  payload := e.payload
  exchange := e.exchange
  routingKey := e.routingKey
  status := .pending
  attempts := 0
  nextAttemptAt := .epoch
  lockedBy := none
  lockedAt := none
  occurredAt := e.occurredAt.getD now
  error := none
  publishedAt := none
  dedupeKey := e.dedupeKey
  createdAt := now

/-- A worker may claim the record: it is pending, due, and has attempts left. -/
def claimable (r : Record) (now : Instant) (maxAttempts : UInt32) : Bool :=
  r.status = .pending && r.nextAttemptAt ≤ now && r.attempts < maxAttempts

/-- A worker has held the record since before the cutoff. -/
def stale (r : Record) (cutoff : Instant) : Bool :=
  r.status = .publishing && (r.lockedAt.map fun since => decide (since < cutoff)).getD false

/-- The record is pending but has no attempts left. -/
def exhausted (r : Record) (maxAttempts : UInt32) : Bool :=
  r.status = .pending && maxAttempts ≤ r.attempts

/-- The record was published before the cutoff. -/
def expired (r : Record) (cutoff : Instant) : Bool :=
  r.status = .published && (r.publishedAt.map fun since => decide (since < cutoff)).getD false

section
variable {r : Record} {now cutoff : Instant} {maxAttempts : UInt32}

/-- Claimable is what is pending and due and has attempts left. -/
theorem claimable_iff : r.claimable now maxAttempts = true ↔
    r.status = .pending ∧ r.nextAttemptAt ≤ now ∧ r.attempts < maxAttempts := by
  simp [claimable, and_assoc]

/-- Stale is what has been locked since before the cutoff. -/
theorem stale_iff : r.stale cutoff = true ↔
    r.status = .publishing ∧ ∃ since, r.lockedAt = some since ∧ since < cutoff := by
  cases h : r.lockedAt with
  | none => simp [stale, h]
  | some since => simp [stale, h]

/-- Exhausted is what is pending and has no attempts left. -/
theorem exhausted_iff : r.exhausted maxAttempts = true ↔
    r.status = .pending ∧ maxAttempts ≤ r.attempts := by
  simp [exhausted]

/-- Expired is what was published before the cutoff. -/
theorem expired_iff : r.expired cutoff = true ↔
    r.status = .published ∧ ∃ since, r.publishedAt = some since ∧ since < cutoff := by
  cases h : r.publishedAt with
  | none => simp [expired, h]
  | some since => simp [expired, h]

end

/-- The record in the hands of a worker. -/
def claim (r : Record) (worker : String) (now : Instant) : Record :=
  { r with status := .publishing, lockedBy := some worker, lockedAt := some now }

def markPublished (r : Record) (now : Instant) : Record :=
  { r with
    status := .published, publishedAt := some now, error := none, lockedBy := none,
    lockedAt := none }

/-- The record after a failed delivery, to be tried again from a point in time on. -/
def reschedule (r : Record) (error : String) (nextAttemptAt : Instant) : Record :=
  { r with
    status := .pending, error := some error, attempts := countUp r.attempts,
    nextAttemptAt := nextAttemptAt, lockedBy := none, lockedAt := none }

/-- The record taken back from its worker. -/
def release (r : Record) : Record :=
  { r with status := .pending, lockedBy := none, lockedAt := none }

end Record
end EventRelay
