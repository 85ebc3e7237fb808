import EventRelay.Broker

/-!
# What a dispatcher does

The work of a dispatcher is a sequence of calls to its store and its publisher, in which each call
may depend on the answers to those before it. It is described here as such a sequence and says
nothing about the store and the publisher: they may be in memory, behind a connection, or any
others.
-/

namespace EventRelay

/-- A sequence of calls that ends with a result. -/
inductive Action (α : Type) where
  | done (a : α)
  /-- Writes an entry to the journal. -/
  | note (entry : Journal.Entry) (next : Action α)
  | claimBatch (limit : Nat) (worker : String) (next : Except Failure (List Record) → Action α)
  /-- Publishes a message and waits for the confirmation, but no longer than the timeout. -/
  | publish (m : Message) (timeout : Duration) (next : Except Undelivered Unit → Action α)
  | markPublished (id : Uuid) (next : Except Failure Unit → Action α)
  | reschedule (id : Uuid) (error : String) (attempts : UInt32)
      (next : Except Failure Unit → Action α)
  | recoverStuck (threshold : Duration) (next : Except Failure Nat → Action α)
  | purgePublished (retention : Duration) (next : Except Failure Nat → Action α)

namespace Action

/-- One sequence of calls after the other. -/
def andThen {α β : Type} : Action α → (α → Action β) → Action β
  | done a, f => f a
  | note entry next, f => .note entry (next.andThen f)
  | claimBatch limit worker next, f => .claimBatch limit worker fun r => (next r).andThen f
  | publish m timeout next, f => .publish m timeout fun r => (next r).andThen f
  | markPublished id next, f => .markPublished id fun r => (next r).andThen f
  | reschedule id error attempts next, f =>
    .reschedule id error attempts fun r => (next r).andThen f
  | recoverStuck threshold next, f => .recoverStuck threshold fun r => (next r).andThen f
  | purgePublished retention next, f => .purgePublished retention fun r => (next r).andThen f

instance : Monad Action where
  pure := .done
  bind := .andThen

end Action
end EventRelay
