import EventRelay.Proofs.Depot
import EventRelay.Simulation.Tasks

/-!
# Relays

A depot with dispatchers at work. Each round of a dispatcher is a sequence of calls, made one by
one; between two of them anybody may do anything. A call to the store is an operation on the
depot, or it fails and changes nothing, or the round claims its batch record by record. A
publication may end in any way at any time, also with the death of its round. Clients of the
depot act beside the rounds; a call of theirs may fail as well.
-/

namespace EventRelay

open Simulation (Loop)

/-- A round that is under way, with the store it works on and the calls that it has still to
make. -/
structure Round where
  store : Nat
  policy : Policy
  rest : Action Unit

/-- A depot and the rounds on it, by the order in which they were begun. -/
structure Relay where
  depot : Depot
  rounds : List Round

namespace Relay

/-- So many empty stores, and nobody at work. -/
def start (stores : Nat) : Relay := ⟨.start stores, []⟩

/-- The calls of a whole round. -/
def work (config : DispatcherConfig) (worker : String) : Loop → Action Unit
  | .tick => (Dispatcher.tick config worker).andThen fun _ => .done ()
  | .reap => (Dispatcher.reap config).andThen fun _ => .done ()
  | .purge => (Dispatcher.purge config).andThen fun _ => .done ()

/-- The rounds are those that the loops of a dispatcher run in virtual time. -/
theorem round_eq_work (w : Simulation.World) (agent : Nat) (loop : Loop) :
    w.round agent loop = work (w.agent agent).config (w.agent agent).worker loop := by
  cases loop <;> rfl

def goOn (r : Relay) (i : Nat) (round : Round) (rest : Action Unit) : Relay :=
  { r with rounds := r.rounds.set i { round with rest := rest } }

/-- What can happen, as it is seen from outside. -/
inductive Happening where
  /-- A client does an operation. -/
  | client (op : Operation) (a : Answer)
  /-- An operation of a client fails and changes nothing. -/
  | clientFails (op : Operation)
  /-- The commit of a transaction fails; the transaction is over, and nothing is released. -/
  | loses (t : Nat)
  /-- A dispatcher begins a round. -/
  | begins (store : Nat) (policy : Policy) (config : DispatcherConfig) (worker : String)
      (loop : Loop)
  /-- A round writes to the journal. -/
  | notes (i : Nat)
  /-- A round calls its store and has an answer. -/
  | calls (i : Nat) (op : Operation) (a : Answer)
  /-- A round calls its store, and the call fails and changes nothing. -/
  | callFails (i : Nat) (failure : Failure)
  /-- A publication of a round ends: confirmed, refused, or timed out. -/
  | publishes (i : Nat) (m : Message) (outcome : Except Undelivered Unit)
  /-- A round dies in a publication. -/
  | panics (i : Nat)

/-- A round that makes a call to its store goes on after the answer. -/
inductive Answered (n : Nat) (policy : Policy) :
    Action Unit → Operation → Answer → Action Unit → Prop where
  | claimBatch {limit worker next now rs} :
    Answered n policy (.claimBatch limit worker next)
      (.claimBatch n policy limit worker now) (.records rs) (next (.ok rs))
  /-- The first record of a batch is claimed, and the others are still to be claimed. -/
  | claimOne {limit worker next now r} :
    Answered n policy (.claimBatch (limit + 1) worker next)
      (.claimOne n policy worker now) (.record (some r))
      (.claimBatch limit worker fun rs => next (rs.map (r :: ·)))
  | claimNone {limit worker next now} :
    Answered n policy (.claimBatch (limit + 1) worker next)
      (.claimOne n policy worker now) (.record none) (next (.ok []))
  | markPublished {id next now} :
    Answered n policy (.markPublished id next) (.markPublished n id now) .done (next (.ok ()))
  | reschedule {id error attempts next now} :
    Answered n policy (.reschedule id error attempts next)
      (.reschedule n policy id error attempts now) .done (next (.ok ()))
  | recoverStuck {threshold next now k} :
    Answered n policy (.recoverStuck threshold next)
      (.recoverStuck n threshold now) (.count k) (next (.ok k))
  | purgePublished {retention next now k} :
    Answered n policy (.purgePublished retention next)
      (.purgePublished n retention now) (.count k) (next (.ok k))

/-- A round whose call to its store fails goes on after the failure. -/
inductive Failed (failure : Failure) : Action Unit → Action Unit → Prop where
  | claimBatch {limit worker next} :
    Failed failure (.claimBatch limit worker next) (next (.error failure))
  | markPublished {id next} : Failed failure (.markPublished id next) (next (.error failure))
  | reschedule {id error attempts next} :
    Failed failure (.reschedule id error attempts next) (next (.error failure))
  | recoverStuck {threshold next} :
    Failed failure (.recoverStuck threshold next) (next (.error failure))
  | purgePublished {retention next} :
    Failed failure (.purgePublished retention next) (next (.error failure))

/-- What happens in a relay, and what becomes of it. -/
inductive Does (r : Relay) : Happening → Relay → Prop where
  | client {op a d} (hd : r.depot.Does (op, a) d) : Does r (.client op a) { r with depot := d }
  | clientFails {op} : Does r (.clientFails op) r
  | loses {t tx} (htx : r.depot.open? t = some tx) :
    Does r (.loses t)
      { r with depot := { r.depot with transactions := r.depot.transactions.set t none } }
  | begins {n policy config worker loop} :
    Does r (.begins n policy config worker loop)
      { r with rounds := r.rounds ++ [⟨n, policy, work config worker loop⟩] }
  | notes {i round entry next} (hi : r.rounds[i]? = some round)
    (hr : round.rest = .note entry next) : Does r (.notes i) (r.goOn i round next)
  | calls {i round op a d rest} (hi : r.rounds[i]? = some round)
    (hr : Answered round.store round.policy round.rest op a rest) (hd : r.depot.Does (op, a) d) :
    Does r (.calls i op a) { r.goOn i round rest with depot := d }
  | callFails {i round failure rest} (hi : r.rounds[i]? = some round)
    (hr : Failed failure round.rest rest) : Does r (.callFails i failure) (r.goOn i round rest)
  | publishes {i round m timeout next outcome} (hi : r.rounds[i]? = some round)
    (hr : round.rest = .publish m timeout next) :
    Does r (.publishes i m outcome) (r.goOn i round (next outcome))
  | panics {i round m timeout next} (hi : r.rounds[i]? = some round)
    (hr : round.rest = .publish m timeout next) : Does r (.panics i) (r.goOn i round (.done ()))

abbrev Moment := Transition Relay Happening

end Relay
end EventRelay
