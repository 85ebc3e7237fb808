import EventRelay.Record
import EventRelay.Wire.Scalar

/-!
# Records in documents

A record is an object with a field for each of its parts; a status is written as its name.
-/

namespace EventRelay

open Json

def Status.toJson (s : Status) : Json := .str s.name

def Status.decoder : Decoder Status := decodeVariant Status.named

namespace Record

def toJson (r : Record) : Json :=
  .obj [("id", r.id.toJson), ("aggregate_type", .str r.aggregateType),
    ("aggregate_id", .str r.aggregateId), ("event_type", .str r.eventType),
    ("payload", r.payload), ("exchange", .str r.exchange), ("routing_key", .str r.routingKey),
    ("status", r.status.toJson), ("attempts", .int r.attempts.toNat),
    ("next_attempt_at", r.nextAttemptAt.toJson), ("locked_by", ofText? r.lockedBy),
    ("locked_at", Instant.toJson? r.lockedAt), ("occurred_at", r.occurredAt.toJson),
    ("error", ofText? r.error), ("published_at", Instant.toJson? r.publishedAt),
    ("dedupe_key", ofText? r.dedupeKey), ("created_at", r.createdAt.toJson)]

def shape : Shape where
  name := "OutboxRecord"
  fields := [.of "id" Uuid.decoder, .of "aggregate_type" decodeString,
    .of "aggregate_id" decodeString, .of "event_type" decodeString, .of "payload" decodeValue,
    .of "exchange" decodeString, .of "routing_key" decodeString, .of "status" Status.decoder,
    .of "attempts" decodeCount, .of "next_attempt_at" Instant.decoder,
    .of "locked_by" (decodeOption decodeString), .of "locked_at" (decodeOption Instant.decoder),
    .of "occurred_at" Instant.decoder, .of "error" (decodeOption decodeString),
    .of "published_at" (decodeOption Instant.decoder),
    .of "dedupe_key" (decodeOption decodeString), .of "created_at" Instant.decoder]
  defaults := false

def decoder : Decoder Record := fun p r => do
  let fields ← shape.fieldsOf p r
  .ok {
    id := ← fields.require "id" Uuid.decoder
    aggregateType := ← fields.require "aggregate_type" decodeString
    aggregateId := ← fields.require "aggregate_id" decodeString
    eventType := ← fields.require "event_type" decodeString
    payload := ← fields.require "payload" decodeValue
    exchange := ← fields.require "exchange" decodeString
    routingKey := ← fields.require "routing_key" decodeString
    status := ← fields.require "status" Status.decoder
    attempts := ← fields.require "attempts" decodeCount
    nextAttemptAt := ← fields.require "next_attempt_at" Instant.decoder
    lockedBy := ← fields.optional "locked_by" decodeString
    lockedAt := ← fields.optional "locked_at" Instant.decoder
    occurredAt := ← fields.require "occurred_at" Instant.decoder
    error := ← fields.optional "error" decodeString
    publishedAt := ← fields.optional "published_at" Instant.decoder
    dedupeKey := ← fields.optional "dedupe_key" decodeString
    createdAt := ← fields.require "created_at" Instant.decoder }

end Record
end EventRelay
