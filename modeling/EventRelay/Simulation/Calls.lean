import EventRelay.Simulation.World
import EventRelay.Wire.Message

/-!
# Calls

The operations of a store read the clock. Some of them do so before they take the lock of the store,
and if the clock cannot be read, nothing has happened. Others read it while they hold the lock, and
take the lock with them: it is poisoned then.

A call of a dispatcher is noted when it is made. Then the next plan of its kind is acted out, or,
without one, the call goes through to the store or the publisher.
-/

namespace EventRelay.Simulation

/-- How a call to a store ends: with its answer, or because the clock cannot be read. -/
abbrev Ending (α : Type) := Except ClockFault (Except Failure α)

namespace World

/-- The outcome of a store's operation, with the store put back for a client. -/
def settled {α : Type} (w : World) (n : Nat) :
    Except Failure (α × Store) → Except Failure α × World
  | .ok (a, s) => (.ok a, w.setStoreOf n s)
  | .error f => (.error f, w)

/-- An operation that reads the clock before it takes the lock. -/
def readingFirst {α : Type} (w : World) (n : Nat)
    (operation : Store → Instant → Except Failure (α × Store)) : Ending α × World :=
  match w.clock.read with
  | .error fault => (.error fault, w)
  | .ok now =>
    let (r, w) := w.settled n (operation (w.storeOf n) now)
    (.ok r, w)

/-- An operation that reads the clock while it holds the lock. -/
def readingInside {α : Type} (w : World) (n : Nat)
    (operation : Store → Instant → Except Failure (α × Store)) : Ending α × World :=
  match w.clock.read with
  | .error fault =>
    if (w.storeOf n).poisoned then (.ok (.error Store.lockPoisoned), w)
    else (.error fault, w.setStoreOf n (w.storeOf n).poison)
  | .ok now =>
    let (r, w) := w.settled n (operation (w.storeOf n) now)
    (.ok r, w)

/-! ## Operations of a client -/

/-- Takes an event in. An invalid one is refused without a look at the clock. -/
def enqueueFor (w : World) (client : Nat) (e : Event) : Ending (Option Record) × World :=
  match e.validate with
  | .error failure => (.ok (.error failure), w)
  | .ok () => w.readingFirst client fun s now => s.enqueue (idMade w.made) e now

/-- Claims a batch. The clock is read for every record, and not at all for none. -/
def claimFor (w : World) (client : Nat) (limit : Nat) (worker : String) :
    Ending (List Record) × World :=
  if limit = 0 then (.ok (.ok []), w)
  else
    w.readingInside client fun s now => s.claimBatch (w.client client).policy limit worker now

/-- Notes that a record is published. The clock is read only if there is such a record. -/
def markPublishedFor (w : World) (client : Nat) (id : Uuid) : Ending Unit × World :=
  match (w.storeOf client).get? id with
  | .ok none => (.ok (.ok ()), w)
  | _ => w.readingInside client fun s now => s.markPublished id now

/-- The store's own reaction to a failed delivery, with its journal entries. -/
def rescheduleFor (w : World) (client : Nat) (id : Uuid) (error : String) (attempts : UInt32) :
    Ending Unit × World :=
  let operation (s : Store) (now : Instant) :=
    s.reschedule (w.client client).policy id error attempts now
  match w.readingFirst client operation with
  | (.ok (.ok entries), w) => (.ok (.ok ()), entries.foldl note w)
  | (.ok (.error f), w) => (.ok (.error f), w)
  | (.error fault, w) => (.error fault, w)

def recoverFor (w : World) (client : Nat) (threshold : Duration) : Ending Nat × World :=
  w.readingFirst client fun s now => s.recoverStuck threshold now

def purgeFor (w : World) (client : Nat) (retention : Duration) : Ending Nat × World :=
  w.readingFirst client fun s now => s.purgePublished retention now

/-! ## Calls of dispatchers -/

def claimBatch (w : World) (agent : Nat) (limit : Nat) (worker : String) :
    Ending (List Record) × World :=
  let w := w.noteCall (.claimBatch limit worker)
  let a := w.agent agent
  let planned := w.plans.claimBatch.head?.join
  let w := { w with plans.claimBatch := w.plans.claimBatch.tail }
  match planned with
  | some (.fail f) => (.ok (.error f), w)
  | some (.answer records) => (.ok (.ok records), w)
  | none => w.claimFor a.client limit worker

/-- A call that is noted, and fails if the next plan wants it to, or goes through to the store. -/
def failOr {α : Type} (w : World) (call : Call) (plans : Plans) (planned : Option StorePlan)
    (through : World → Ending α × World) : Ending α × World :=
  let w : World := { w.noteCall call with plans := plans }
  match planned with
  | some (.fail f) => (.ok (.error f), w)
  | _ => through w

def markPublished (w : World) (agent : Nat) (id : Uuid) : Ending Unit × World :=
  w.failOr (.markPublished id) { w.plans with markPublished := w.plans.markPublished.tail }
    w.plans.markPublished.head?.join (·.markPublishedFor (w.agent agent).client id)

def reschedule (w : World) (agent : Nat) (id : Uuid) (error : String) (attempts : UInt32) :
    Ending Unit × World :=
  w.failOr (.reschedule id error attempts) { w.plans with reschedule := w.plans.reschedule.tail }
    w.plans.reschedule.head?.join (·.rescheduleFor (w.agent agent).client id error attempts)

def recoverStuck (w : World) (agent : Nat) (threshold : Duration) : Ending Nat × World :=
  w.failOr (.recoverStuck threshold) { w.plans with recoverStuck := w.plans.recoverStuck.tail }
    w.plans.recoverStuck.head?.join (·.recoverFor (w.agent agent).client threshold)

def purgePublished (w : World) (agent : Nat) (retention : Duration) : Ending Nat × World :=
  w.failOr (.purgePublished retention)
    { w.plans with purgePublished := w.plans.purgePublished.tail }
    w.plans.purgePublished.head?.join (·.purgeFor (w.agent agent).client retention)

/-! ## Publishing -/

/-- Publishes a message at once. -/
def publishTo (w : World) (p : Publisher) (m : Message) : Except Undelivered Unit × World :=
  match p with
  | .broker n =>
    let (result, b) := (w.broker n).publish m
    (result, w.setBroker n b)
  | .journal => (.ok (), w.note (Journal.delivery m m.envelope.toJson.text))

/-- What happens of a publication, and at which millisecond; without a plan it has timed out. -/
structure Attempt where
  wake : Nat
  plan : Option PublishPlan

/-- Begins a publication: notes the call, and finds out from the plan when it ends and how. One
that ends at the very moment of its timeout has not timed out. The delay and the timeout are cut at
`Schedule.horizon`, like every wait. -/
def beginPublish (w : World) (m : Message) (timeout : Duration) : Attempt × World :=
  let w := w.noteCall (.publish m)
  let (delay, plan) := w.plans.publish.head?.getD (0, .deliver)
  let w := { w with plans.publish := w.plans.publish.tail }
  let delay := min delay Schedule.horizon
  let limit := min (ceilMillis timeout.nanos) Schedule.horizon
  if delay = 0 ∨ delay ≤ limit then (⟨w.elapsed + delay, some plan⟩, w)
  else (⟨w.elapsed + limit, none⟩, w)

/-- Ends a publication, with a panic or an outcome. -/
def endPublish (w : World) (agent : Nat) (m : Message) :
    Option PublishPlan → Except String (Except Undelivered Unit) × World
  | none => (.ok (.error .timedOut), w)
  | some (.panic message) => (.error message, w)
  | some (.fail chain) => (.ok (.error (.refused chain)), w)
  | some .deliver =>
    let (result, w) := w.publishTo (w.agent agent).publisher m
    (.ok result, w)

end World
end EventRelay.Simulation
