import EventRelay.Dispatcher.Rounds
import EventRelay.Dispatcher.Schedule
import EventRelay.Store.Transaction
import EventRelay.Time.Clock

/-!
# A world in virtual time

Stores, brokers and dispatchers side by side, under a clock that moves only when it is moved and
while something waits. Time that is spent waiting counts in whole milliseconds and takes no real
time, so that a run of minutes and hours can be looked at in every detail, and runs the same way
each time.

The calls of dispatchers are noted, and plans can have the next calls fail, answer something else,
take their time, or end the run.
-/

namespace EventRelay.Simulation

/-! ## Plans -/

/-- What a planned call to a store does instead. -/
inductive StorePlan where
  | fail (failure : Failure)
  /-- Answers these records to a claim. -/
  | answer (records : List Record)

/-- What a planned publication does after its delay. -/
inductive PublishPlan where
  | deliver
  | fail (chain : List String)
  | panic (message : String)

/-- The plans of the next calls that dispatchers make, one for each call of a kind, whoever makes
it; `none` lets a call through, and so does the end of a list. -/
structure Plans where
  claimBatch : List (Option StorePlan) := []
  markPublished : List (Option StorePlan) := []
  reschedule : List (Option StorePlan) := []
  recoverStuck : List (Option StorePlan) := []
  purgePublished : List (Option StorePlan) := []
  /-- Delays in milliseconds, and what follows them. -/
  publish : List (Nat × PublishPlan) := []

/-! ## The parts of a world -/

/-- A client of a store, with its own policy. -/
structure Client where
  store : Nat
  policy : Policy

/-- Where a dispatcher publishes: on the broker with a number, or in the journal only. -/
inductive Publisher where
  | broker (n : Nat)
  | journal

/-- A dispatcher, with the client of the store that it works on. -/
structure Agent where
  client : Nat
  publisher : Publisher
  worker : String
  config : DispatcherConfig

/-- A call that a dispatcher has made. -/
inductive Call where
  | claimBatch (limit : Nat) (worker : String)
  | publish (m : Message)
  | markPublished (id : Uuid)
  | reschedule (id : Uuid) (error : String) (attempts : UInt32)
  | recoverStuck (threshold : Duration)
  | purgePublished (retention : Duration)

/-- The three loops of a dispatcher. -/
inductive Loop where
  | tick
  | reap
  | purge
deriving DecidableEq, Repr

/-- What a loop is doing. Due times are nanoseconds and wake-up times milliseconds since the
beginning. -/
inductive Activity where
  /-- It has not run yet. -/
  | scheduled
  /-- It waits for its next run. -/
  | waiting (due : Nat)
  /-- It waits inside a run, for a publication and what follows it; its next run is due already. -/
  | publishing (wake : Nat) (m : Message) (plan : Option PublishPlan)
      (next : Except Undelivered Unit → Action Unit) (due : Nat)
  | ended
  | panicked (message : String)

/-- A loop of a dispatcher; it ends when its token is cancelled. -/
structure Task where
  agent : Nat
  token : Nat
  loop : Loop
  activity : Activity

/-- What a producer holds of a dispatcher that runs: the token that stops it, and its tasks. -/
structure Handle where
  token : Nat
  tasks : List Nat

/-- A subscription to a broker, by the place in its log up to which it has been read. -/
structure Subscription where
  broker : Nat
  place : Nat

/-- Stores, brokers and dispatchers under a clock. -/
structure World where
  clock : Clock
  /-- The milliseconds spent waiting. -/
  elapsed : Nat
  /-- The number of ids that were made. -/
  made : Nat
  stores : Stores
  clients : List Client
  transactions : List (String × Transaction)
  /-- The brokers; new dispatchers use the last one. -/
  brokers : List Broker
  subscriptions : List (String × Subscription)
  agents : List Agent
  plans : Plans
  /-- For each token whether it is cancelled. -/
  tokens : List Bool
  tasks : List Task
  handles : List (String × Handle)
  journal : List Journal.Entry
  /-- The calls of dispatchers, with the milliseconds that had passed. -/
  calls : List (Nat × Call)

/-- The n-th id that a world makes. Ids ascend in the order of their making. -/
def idMade (n : Nat) : Uuid := .ofNat (0x019a0000000070008000000000000000 + n)

namespace World

/-- A world with one store, one broker, and a clock. -/
def start (now : Instant) (policy : Policy) : World where
  clock := .ofInstant now
  elapsed := 0
  made := 0
  stores := [.empty]
  clients := [⟨0, policy⟩]
  transactions := []
  brokers := [.default]
  subscriptions := []
  agents := []
  plans := {}
  tokens := []
  tasks := []
  handles := []
  journal := []
  calls := []

def client (w : World) (n : Nat) : Client := w.clients[n]?.getD ⟨0, .default⟩

def storeOf (w : World) (n : Nat) : Store := Transaction.storeAt w.stores (w.client n).store

def setStoreOf (w : World) (n : Nat) (s : Store) : World :=
  { w with stores := w.stores.set (w.client n).store s }

/-- The number of the broker that new dispatchers use. -/
def currentBroker (w : World) : Nat := w.brokers.length - 1

def broker (w : World) (n : Nat) : Broker := w.brokers[n]?.getD .default

def setBroker (w : World) (n : Nat) (b : Broker) : World := { w with brokers := w.brokers.set n b }

def agent (w : World) (n : Nat) : Agent := w.agents[n]?.getD ⟨0, .journal, "", .default⟩

def cancelled (w : World) (token : Nat) : Bool := w.tokens[token]?.getD true

def cancel (w : World) (token : Nat) : World := { w with tokens := w.tokens.set token true }

def note (w : World) (entry : Journal.Entry) : World := { w with journal := w.journal ++ [entry] }

def noteCall (w : World) (call : Call) : World :=
  { w with calls := w.calls ++ [(w.elapsed, call)] }

def nanosElapsed (w : World) : Nat := w.elapsed * nanosPerMilli

/-- The world after waiting up to a point in milliseconds; waiting does not go back. -/
def passUntil (w : World) (millis : Nat) : World :=
  let d := (Duration.ofNanos? ((millis - w.elapsed) * nanosPerMilli)).getD .longest
  { w with clock := w.clock.later d, elapsed := max w.elapsed millis }

end World
end EventRelay.Simulation
