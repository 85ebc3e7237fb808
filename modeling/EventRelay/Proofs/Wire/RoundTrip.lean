import EventRelay.Proofs.Wire.Formats

/-!
# Documents are read back

The text of a record, an event, an envelope or delivery options is read back as the same value, and
it is the canonical text of that value (`documents_read_back`). What a value needs for that is
`Format.Fits`; a value that was read has all of it but for the numbers of its payload. The limits
are sharp: a document that is nested as deep as the limit is refused, and a leap second inside a
minute is read back as the second that follows (`documents_beyond_limits`).
-/

namespace EventRelay

open Json

namespace Format

variable {α : Type} {f : Format α}

/-- Values are read back from their texts, and texts that were written once do not change when they
are read and written again. -/
structure RoundTrips (f : Format α) : Prop where
  read_write : ∀ a, f.Fits a → f.read (f.write a) = .ok a
  rewrite_write : ∀ cs a, f.read cs = .ok a → (∀ v ∈ f.payload a, v.Integral) →
    f.Fits a ∧ f.rewrite (f.write a) = .ok (f.write a)

/-- A lawful format reads back what it writes, and writes again what it read. -/
theorem Lawful.roundTrips (h : f.Lawful) : f.RoundTrips where
  read_write _ := h.read_write
  rewrite_write cs a hread integral := by
    have decoded : f.decoder .text (Document.read cs).root = .ok a := by
      unfold read decode at hread
      dsimp only at hread
      split at hread
      · cases hread
      · split at hread
        · cases hread
        · cases hread
          assumption
    obtain ⟨ordered, readable, shallow⟩ := h.fits _ a decoded
    have fits : f.Fits a := ⟨integral, ordered, readable, shallow⟩
    refine ⟨fits, ?_⟩
    rw [rewrite, h.read_write fits]
    rfl

end Format

/-! ## All documents -/

/-- **Documents are read back.** The text of a record, an event, an envelope or delivery options
that fit is read back as the same value, and the text of one that was read, if its numbers are
integers of 64 bits, does not change when it is read and written again. -/
theorem documents_read_back : Record.format.RoundTrips ∧ Event.format.RoundTrips ∧
    Envelope.format.RoundTrips ∧ DeliveryOptions.format.RoundTrips :=
  ⟨Record.lawful.roundTrips, Event.lawful.roundTrips, Envelope.lawful.roundTrips,
    DeliveryOptions.lawful.roundTrips⟩

example : Envelope.format.write ⟨"created", .epoch, ⟨"1", "order"⟩, .bool true⟩ =
    ("\x7b\"type\":\"created\",\"occurredAt\":\"1970-01-01T00:00:00Z\"," ++
      "\"aggregate\":\x7b\"id\":\"1\",\"type\":\"order\"\x7d,\"payload\":true\x7d").toList := by
  decide +kernel

/-- A record from the beginning of time to the leap second at its end, with the largest numbers and
with characters that are escaped. -/
def farRecord : Record where
  id := .ofNat 0x80000000000000000000000000000001
  aggregateType := "order"
  aggregateId := ""
  eventType := "\x00\x1f\n\\"
  payload := .obj [("", .arr [.null, .bool false, .int (-9223372036854775808), .arr []]),
    ("\"", .obj [("ü", .int 18446744073709551615)])]
  exchange := "orders"
  routingKey := "𝄞"
  status := .publishing
  attempts := 4294967295
  nextAttemptAt := { Instant.latest with nano := 1999999999, nano_lt := by decide }
  lockedBy := some "w"
  lockedAt := some .latest
  occurredAt := .earliest
  error := none
  publishedAt := none
  dedupeKey := some "null"
  createdAt := .epoch

theorem documents_read_back_farRecord :
    Record.format.Fits farRecord ∧
      Record.format.read (Record.format.write farRecord) = .ok farRecord ∧
      Record.format.rewrite (Record.format.write farRecord) =
        .ok (Record.format.write farRecord) := by
  have integral : farRecord.payload.Integral := by
    have least : (Json.int (-9223372036854775808)).Integral := .int (by decide) (by decide)
    have greatest : (Json.int 18446744073709551615).Integral := .int (by decide) (by decide)
    simp [farRecord, least, greatest]
  have ordered : farRecord.payload.Ordered := by
    simp only [farRecord, ordered_obj_iff, ordered_arr_iff, List.forall_mem_cons]
    exact ⟨by decide, by simp, by simp [Ascending], by simp⟩
  have fits : Record.format.Fits farRecord := by
    refine ⟨fun v hv => ?_, fun v hv => ?_, by decide +kernel, ?_⟩
    · cases hv
      exact integral
    · cases hv
      exact ordered
    · refine (Record.depth_toJson farRecord).trans_lt ?_
      decide +kernel
  have read := documents_read_back.1.read_write farRecord fits
  exact ⟨fits, read, (documents_read_back.1.rewrite_write _ _ read fits.integral).2⟩

/-! ## Beyond the limits -/

/-- Lists inside each other, so many of them. -/
def nested : Nat → Json
  | 0 => .null
  | n + 1 => .arr [nested n]

theorem integral_nested (n : Nat) : (nested n).Integral := by
  induction n with
  | zero => exact .null
  | succ n ih => simpa [nested] using ih

theorem ordered_nested (n : Nat) : (nested n).Ordered := by
  induction n with
  | zero => exact .null
  | succ n ih => simpa [nested] using ih

theorem depth_nested (n : Nat) : (nested n).depth = n := by
  induction n with
  | zero => rw [nested, depth]
  | succ n ih => simp [nested, depth, depthItems, ih]

/-- Lists that are nested as deep as there is room are malformed. -/
theorem value_nested {n room : Nat} (positive : 0 < room) (deep : room ≤ n) :
    (nested n).toReading.value room = .error .malformed := by
  induction n generalizing room with
  | zero => omega
  | succ n ih =>
    rw [nested, toReading, Reading.value]
    split
    · rfl
    · rw [itemReadings, valueItems, ih (by omega) (by omega)]
      rfl

def deepEvent (n : Nat) (occurredAt : Option Instant) : Event where
  aggregateType := "order"
  aggregateId := "1"
  eventType := "created"
  payload := nested n
  exchange := "orders"
  routingKey := "created"
  occurredAt := occurredAt
  dedupeKey := none

/-- How deep an event is nested does not matter before its text is parsed. -/
theorem read_write_deepEvent (n : Nat) (occurredAt : Option Instant) :
    Event.format.read (Event.format.write (deepEvent n occurredAt)) =
      Event.decoder .text (deepEvent n occurredAt).toJson.toReading := by
  have integral : (deepEvent n occurredAt).toJson.Integral :=
    Event.lawful.integral _ fun v hv => by
      cases hv
      exact integral_nested n
  have document := Json.read_write integral
  have unfolded : Event.format.read (Event.format.write (deepEvent n occurredAt)) =
    decode Event.decoder (deepEvent n occurredAt).toJson.write := rfl
  rw [unfolded, decode, document]
  dsimp only
  split
  · rename_i e he
    exact he.symm
  · rename_i e he
    exact he.symm

/-- The first moment of a leap second after the thirtieth second of a minute. -/
def midMinute : Instant := ⟨30, 1000000000, by decide, by decide, by decide⟩

/-- Two events with integral payloads in order, the one nested as deep as the limit, the other in a
leap second inside a minute: the one is refused, the other read back as the second that follows. -/
theorem documents_beyond_limits :
    (∀ n t, (deepEvent n t).payload.Integral ∧ (deepEvent n t).payload.Ordered) ∧
      (deepEvent 127 none).toJson.depth = nestingLimit ∧
      Event.format.read (Event.format.write (deepEvent 127 none)) = .error (.fault .malformed) ∧
      Event.format.read (Event.format.write (deepEvent 0 (some midMinute))) =
        .ok (deepEvent 0 (some ⟨31, 0, by decide, by decide, by decide⟩)) := by
  refine ⟨fun n t => ⟨integral_nested n, ordered_nested n⟩, ?_, ?_, ?_⟩
  · rw [Event.depth_toJson, deepEvent, depth_nested]
    rfl
  · have payload : decodeValue inDocument (nested 127).toReading = .error (.fault .malformed) := by
      have value : (nested 127).toReading.value inDocument.room = .error .malformed :=
        value_nested (by decide) (by decide)
      simp only [decodeValue, value]
    have inside : Place.text.inside = .ok inDocument := rfl
    rw [read_write_deepEvent]
    simp [Event.decoder, deepEvent, Event.toJson, toReading, entryReadings, Shape.fieldsOf, inside,
      ok_bind, collectEntries, Event.shape, Field.of, decodeString, decodeText, Except.map,
      List.lookup_cons, List.lookup_nil, payload]
    rfl
  · have value : (nested 0).toReading.value inDocument.room = .ok (nested 0) := rfl
    have payload : decodeValue inDocument (nested 0).toReading = .ok (nested 0) := by
      simp only [decodeValue, value]
    have moment : Instant.read midMinute.text =
        .ok ⟨31, 0, by decide, by decide, by decide⟩ := by
      decide +kernel
    have time :
        decodeOption Instant.decoder inDocument (Instant.toJson? (some midMinute)).toReading =
          .ok (some ⟨31, 0, by decide, by decide, by decide⟩) := by
      refine decodeOption_str (decodeText_str ?_)
      rw [String.toList_ofList, moment]
      rfl
    rw [read_write_deepEvent]
    exact Event.decoder_toJson payload time

end EventRelay
