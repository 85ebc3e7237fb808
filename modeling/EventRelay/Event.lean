import EventRelay.Failure
import EventRelay.Json.Basic
import EventRelay.Text.Classes
import EventRelay.Time.Instant

/-!
# Events

What a producer hands in: something that has happened to an aggregate, and where to publish it. A
dedupe key makes handing the same event in twice harmless.
-/

namespace EventRelay

/-- An event that is to be published. -/
structure Event where
  aggregateType : String
  aggregateId : String
  eventType : String
  payload : Json
  exchange : String
  routingKey : String
  /-- When it happened; if absent, when it was handed in. -/
  occurredAt : Option Instant
  dedupeKey : Option String

namespace Event

/-- The text fields that must not be blank, in the order in which they are looked at. -/
def required (e : Event) : List (String × String) :=
  [("aggregate_type", e.aggregateType), ("aggregate_id", e.aggregateId),
    ("event_type", e.eventType), ("exchange", e.exchange), ("routing_key", e.routingKey)]

/-- Refuses an event with a blank field, without a payload, or with a blank dedupe key, naming the
first fault in this order. -/
def validate (e : Event) : Except Failure Unit :=
  match e.required.find? fun field => Text.blank field.2 with
  | some (name, _) => .error (.validation (name ++ " is required"))
  | none =>
    if e.payload.isNull then .error (.validation "payload is required")
    else if (e.dedupeKey.map Text.blank).getD false then
      .error (.validation "dedupe_key must not be blank")
    else .ok ()

end Event
end EventRelay
