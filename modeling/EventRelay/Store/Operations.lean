import EventRelay.Journal
import EventRelay.Store.Contents

/-!
# The operations of a store

A store guards its contents by a lock. An operation that needs the lock fails once it is poisoned,
that is, after a client has died while holding it. What can be decided without the lock comes
first: an invalid event is refused, and a claim of nothing is answered.

An operation takes the reading of the clock, and it answers together with the store afterwards. A
failed operation leaves the store as it was.
-/

namespace EventRelay

/-- Contents behind a lock. -/
structure Store where
  contents : Contents
  poisoned : Bool

namespace Store

def empty : Store := ⟨.empty, false⟩

instance : Inhabited Store := ⟨empty⟩

/-- The failure of everyone who wants the lock after it was poisoned. -/
def lockPoisoned : Failure := .database "in-memory outbox lock poisoned"

/-- The store after a client has died while holding the lock. -/
def poison (s : Store) : Store := { s with poisoned := true }

/-- Changes the contents under the lock. -/
def locked {α : Type} (s : Store) (f : Contents → α × Contents) : Except Failure (α × Store) :=
  if s.poisoned then .error lockPoisoned
  else
    let (a, c) := f s.contents
    .ok (a, { s with contents := c })

/-- Looks at the contents under the lock. -/
def look {α : Type} (s : Store) (f : Contents → α) : Except Failure α :=
  if s.poisoned then .error lockPoisoned else .ok (f s.contents)

/-- Takes an event in under an id; no record if another event owns its key. -/
def enqueue (s : Store) (id : Uuid) (e : Event) (now : Instant) :
    Except Failure (Option Record × Store) :=
  match e.validate with
  | .error failure => .error failure
  | .ok () =>
    let r := Record.ofEvent id e now
    s.locked fun c =>
      match c.insert? r with
      | some c => (some r, c)
      | none => (none, c)

/-- Claims records for a worker, at most so many, the first ones first. -/
def claimBatch (s : Store) (policy : Policy) (limit : Nat) (worker : String) (now : Instant) :
    Except Failure (List Record × Store) :=
  if limit = 0 then .ok ([], s)
  else s.locked (Contents.claimUpTo policy worker now limit)

/-- Notes that the broker has confirmed a record; an unknown id changes nothing. -/
def markPublished (s : Store) (id : Uuid) (now : Instant) : Except Failure (Unit × Store) :=
  s.locked fun c => ((), c.update id (·.markPublished now))

/-- Notes that a delivery has failed. The delay until the next attempt follows from the attempts
that were made before this failure. Tells if the record has no attempts left. -/
def reschedule (s : Store) (policy : Policy) (id : Uuid) (error : String)
    (attemptsAtFailure : UInt32) (now : Instant) : Except Failure (List Journal.Entry × Store) :=
  let next := now.later (policy.backoff.delay attemptsAtFailure)
  s.locked fun c =>
    let c := c.update id (·.reschedule error next)
    match c.get? id with
    | some r =>
      if r.exhausted policy.maxAttempts then ([Journal.attemptsExhausted id r.attempts.toNat], c)
      else ([], c)
    | none => ([], c)

/-- Takes records back from workers that have held them for longer than a threshold. -/
def recoverStuck (s : Store) (threshold : Duration) (now : Instant) :
    Except Failure (Nat × Store) :=
  s.locked (·.recover (now.earlier threshold))

/-- Takes out records that were published longer ago than the retention. -/
def purgePublished (s : Store) (retention : Duration) (now : Instant) :
    Except Failure (Nat × Store) :=
  s.locked (·.purge (now.earlier retention))

def get? (s : Store) (id : Uuid) : Except Failure (Option Record) := s.look (·.get? id)

/-- The pending records without attempts left, at most so many. -/
def exhausted (s : Store) (policy : Policy) (limit : Nat) : Except Failure (List Record) :=
  s.look fun c => (c.records.filter (·.exhausted policy.maxAttempts)).take limit

def snapshot (s : Store) : Except Failure (List Record) := s.look Contents.records

def size (s : Store) : Except Failure Nat := s.look fun c => c.rows.length

end Store
end EventRelay
