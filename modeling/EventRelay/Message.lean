import EventRelay.Record

/-!
# Messages

What the broker gets of a record: an envelope that tells what happened to which aggregate, and
delivery options. The message id is the record's id, so that a consumer can tell a redelivery from
another event.
-/

namespace EventRelay

/-- The aggregate that an event belongs to. -/
structure Aggregate where
  id : String
  kind : String
deriving DecidableEq

/-- The content of a message. -/
structure Envelope where
  eventType : String
  occurredAt : Instant
  aggregate : Aggregate
  payload : Json

/-- How a message is delivered. -/
structure DeliveryOptions where
  messageId : String
  persistent : Bool
  contentType : String
deriving DecidableEq

/-- A message on its way to an exchange. -/
structure Message where
  exchange : String
  routingKey : String
  envelope : Envelope
  options : DeliveryOptions

def jsonContentType : String := "application/json"

namespace Record

/-- The content that is published of a record. -/
def envelope (r : Record) : Envelope :=
  ⟨r.eventType, r.occurredAt, ⟨r.aggregateId, r.aggregateType⟩, r.payload⟩

def deliveryOptions (r : Record) : DeliveryOptions :=
  ⟨String.ofList r.id.text, true, jsonContentType⟩

/-- The message that a record is published as. -/
def message (r : Record) : Message := ⟨r.exchange, r.routingKey, r.envelope, r.deliveryOptions⟩

end Record
end EventRelay
