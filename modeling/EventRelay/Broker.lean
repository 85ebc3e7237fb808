import EventRelay.Journal
import EventRelay.Message

/-!
# A broker in memory

The broker keeps a log of all messages and can be told to fail. Subscribers follow the log from the
point where they subscribed. They read from a buffer that holds the last messages only, as many as
its capacity; a subscriber that falls behind is told how many messages it has missed and goes on
with the oldest one in the buffer.
-/

namespace EventRelay

/-- Why a message was not delivered: the broker refused it, for a chain of reasons with the
outermost first, or it did not confirm in time. -/
inductive Undelivered where
  | refused (chain : List String)
  | timedOut
deriving DecidableEq

def chainText (chain : List String) : String := ": ".intercalate chain

/-- A broker in memory. -/
structure Broker where
  /-- The number of messages in the buffer of subscribers. -/
  capacity : Nat
  /-- All messages that were published, the oldest first. -/
  log : List Message
  /-- The number of publications that still have to fail. -/
  failures : Nat

namespace Broker

/-- Why there is no broker with a capacity. -/
inductive CapacityFault where
  | zero
  /-- More than half of what 64 bits can number. -/
  | beyondHalf
  /-- The buffer would not fit into memory. -/
  | beyondMemory
deriving DecidableEq

def CapacityFault.message : CapacityFault → String
  | .zero => "broadcast channel capacity cannot be zero"
  | .beyondHalf => "broadcast channel capacity exceeded `usize::MAX / 2`"
  | .beyondMemory => "capacity overflow"

/-- The room that a message takes in the buffer, in bytes. -/
def slotSize : Nat := 248

/-- A broker whose buffer holds at least so many messages: the next power of two. -/
def ofCapacity (capacity : Nat) : Except CapacityFault Broker :=
  if capacity = 0 then .error .zero
  else if 2 ^ 63 ≤ capacity then .error .beyondHalf
  else if 2 ^ 63 ≤ capacity.nextPowerOfTwo * slotSize then .error .beyondMemory
  else .ok ⟨capacity.nextPowerOfTwo, [], 0⟩

def default : Broker := ⟨1024, [], 0⟩

instance : Inhabited Broker := ⟨default⟩

def unavailable : List String := ["broker unavailable"]

/-- The next publications fail, exactly so many. -/
def failNext (b : Broker) (n : Nat) : Broker := { b with failures := n }

/-- Publishes a message, or fails if there are failures left. -/
def publish (b : Broker) (m : Message) : Except Undelivered Unit × Broker :=
  match b.failures with
  | n + 1 => (.error (.refused unavailable), { b with failures := n })
  | 0 => (.ok (), { b with log := b.log ++ [m] })

section
variable {b : Broker}

/-- A broker that owes no failures takes every message, behind all others. -/
theorem publish_of_ready (h : b.failures = 0) (m : Message) :
    b.publish m = (.ok (), { b with log := b.log ++ [m] }) := by
  simp [publish, h]

/-- A failing broker refuses the message and owes one failure less. -/
theorem publish_of_failing {n : Nat} (h : b.failures = n + 1) (m : Message) :
    b.publish m = (.error (.refused unavailable), { b with failures := n }) := by
  simp [publish, h]

end

/-- A subscriber has fallen behind and missed so many messages. -/
def lagged (n : Nat) : Failure :=
  .publish ("channel lagged by " ++ String.ofList (Text.decimal n))

/-- What a subscriber gets who has seen the log up to a place: first the news that it has missed
messages, if the buffer no longer holds all that it has not seen, and then the messages. -/
def receive (b : Broker) (place : Nat) : List (Except Failure Message) :=
  let missed := b.log.length - place - b.capacity
  let messages := (b.log.drop (place + missed)).map .ok
  if missed = 0 then messages else .error (lagged missed) :: messages

end Broker

/-- What is written to the journal in place of a delivery, where there is no broker. -/
def Journal.delivery (m : Message) (body : String) : Journal.Entry :=
  ⟨.info, "[OUTBOX] " ++ m.envelope.eventType,
    [("exchange", .text m.exchange), ("routing_key", .text m.routingKey),
      ("message_id", .text m.options.messageId), ("persistent", .flag m.options.persistent),
      ("body", .text body)]⟩

end EventRelay
