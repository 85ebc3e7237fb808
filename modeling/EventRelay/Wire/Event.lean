import EventRelay.Event
import EventRelay.Wire.Scalar

/-!
# Events in documents

An event is an object with a field for each of its parts, those that are absent being null or
missing.
-/

namespace EventRelay.Event

open Json

def toJson (e : Event) : Json :=
  .obj [("aggregate_type", .str e.aggregateType), ("aggregate_id", .str e.aggregateId),
    ("event_type", .str e.eventType), ("payload", e.payload), ("exchange", .str e.exchange),
    ("routing_key", .str e.routingKey), ("occurred_at", Instant.toJson? e.occurredAt),
    ("dedupe_key", ofText? e.dedupeKey)]

def shape : Shape where
  name := "NewOutboxEvent"
  fields := [.of "aggregate_type" decodeString, .of "aggregate_id" decodeString,
    .of "event_type" decodeString, .of "payload" decodeValue, .of "exchange" decodeString,
    .of "routing_key" decodeString, .of "occurred_at" (decodeOption Instant.decoder),
    .of "dedupe_key" (decodeOption decodeString)]
  defaults := false

def decoder : Decoder Event := fun p r => do
  let fields ← shape.fieldsOf p r
  .ok {
    aggregateType := ← fields.require "aggregate_type" decodeString
    aggregateId := ← fields.require "aggregate_id" decodeString
    eventType := ← fields.require "event_type" decodeString
    payload := ← fields.require "payload" decodeValue
    exchange := ← fields.require "exchange" decodeString
    routingKey := ← fields.require "routing_key" decodeString
    occurredAt := ← fields.optional "occurred_at" Instant.decoder
    dedupeKey := ← fields.optional "dedupe_key" decodeString }

end EventRelay.Event
