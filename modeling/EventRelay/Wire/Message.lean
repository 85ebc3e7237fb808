import EventRelay.Message
import EventRelay.Wire.Scalar

/-!
# Messages in documents

The envelope of a message is the document that consumers get. Its field names are those that the
consumers know: `type`, `occurredAt`, `aggregate`, `payload`.
-/

namespace EventRelay

open Json

namespace Aggregate

def toJson (a : Aggregate) : Json := .obj [("id", .str a.id), ("type", .str a.kind)]

def shape : Shape where
  name := "AggregateRef"
  fields := [.of "id" decodeString, .of "type" decodeString]
  defaults := false

def decoder : Decoder Aggregate := fun p r => do
  let fields ← shape.fieldsOf p r
  .ok { id := ← fields.require "id" decodeString, kind := ← fields.require "type" decodeString }

end Aggregate

namespace Envelope

def toJson (e : Envelope) : Json :=
  .obj [("type", .str e.eventType), ("occurredAt", e.occurredAt.toJson),
    ("aggregate", e.aggregate.toJson), ("payload", e.payload)]

def shape : Shape where
  name := "BrokerEnvelope"
  fields := [.of "type" decodeString, .of "occurredAt" Instant.decoder,
    .of "aggregate" Aggregate.decoder, .of "payload" decodeValue]
  defaults := false

def decoder : Decoder Envelope := fun p r => do
  let fields ← shape.fieldsOf p r
  .ok {
    eventType := ← fields.require "type" decodeString
    occurredAt := ← fields.require "occurredAt" Instant.decoder
    aggregate := ← fields.require "aggregate" Aggregate.decoder
    payload := ← fields.require "payload" decodeValue }

end Envelope

namespace DeliveryOptions

def toJson (o : DeliveryOptions) : Json :=
  .obj [("messageId", .str o.messageId), ("persistent", .bool o.persistent),
    ("contentType", .str o.contentType)]

def shape : Shape where
  name := "DeliveryOptions"
  fields := [.of "messageId" decodeString, .of "persistent" decodeBool,
    .of "contentType" decodeString]
  defaults := false

def decoder : Decoder DeliveryOptions := fun p r => do
  let fields ← shape.fieldsOf p r
  .ok {
    messageId := ← fields.require "messageId" decodeString
    persistent := ← fields.require "persistent" decodeBool
    contentType := ← fields.require "contentType" decodeString }

end DeliveryOptions
end EventRelay
