import EventRelay.Json.Decode
import EventRelay.Time.Rfc3339
import EventRelay.Uuid

/-!
# Points in time and UUIDs in documents

Both are strings: a point in time as RFC 3339 has it, a UUID in its hyphenated form.
-/

namespace EventRelay

open Json

def Instant.toJson (t : Instant) : Json := .str (String.ofList t.text)

def Instant.decoder : Decoder Instant :=
  decodeText "an RFC 3339 formatted date and time string" fun s =>
    (Instant.read s.toList).mapError fun f => f.message.toList

def Uuid.toJson (u : Uuid) : Json := .str (String.ofList u.text)

def Uuid.decoder : Decoder Uuid :=
  decodeText "a formatted UUID string" fun s =>
    (Uuid.read s.toList).mapError fun f => "UUID parsing failed: ".toList ++ f.message

def Instant.toJson? : Option Instant → Json
  | none => .null
  | some t => t.toJson

def decodeCount : Decoder UInt32 := fun p r =>
  (decodeNatural "u32" (2 ^ 32) p r).map Nat.toUInt32

end EventRelay
