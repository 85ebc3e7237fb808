import EventRelay.Proofs.Json.Documents
import EventRelay.Proofs.Json.Structures
import EventRelay.Proofs.Time.Rfc3339
import EventRelay.Proofs.Uuid
import EventRelay.Wire.Event
import EventRelay.Wire.Message
import EventRelay.Wire.Record

/-!
# Formats

A type is written as the text of a document. `Format.Lawful` says what is to be proved of a type,
about its document alone: that its decoder gives a value back from the reading of its document, and
that every value that was decoded fits. Texts then take care of themselves (`Lawful.read_write`).
The records, the events, the envelopes and the delivery options have lawful formats.
-/

namespace EventRelay

open Json

/-- A type whose values are written as documents: the document of a value, the decoder, and what a
value holds of points in time and of payload. -/
structure Format (α : Type) where
  toJson : α → Json
  decoder : Decoder α
  times : α → List Instant
  payload : α → Option Json

namespace Format

variable {α : Type}

def write (f : Format α) (a : α) : List Char := (f.toJson a).write

def read (f : Format α) (cs : List Char) : Except DecodeError α := decode f.decoder cs

/-- The text of the value that a text holds. -/
def rewrite (f : Format α) (cs : List Char) : Except DecodeError (List Char) :=
  (f.read cs).map f.write

/-- What a value needs to be read back: the numbers of its payload are integers of 64 bits, the keys
of objects ascend, no point in time lies in a leap second inside a minute, and its document stays
below the limit on nesting. -/
structure Fits (f : Format α) (a : α) : Prop where
  integral : ∀ v ∈ f.payload a, v.Integral
  ordered : ∀ v ∈ f.payload a, v.Ordered
  readable : ∀ t ∈ f.times a, t.Readable
  shallow : (f.toJson a).depth < nestingLimit

/-- The document of a value is decoded to the value, and what decodes fits, but for its numbers. -/
structure Lawful (f : Format α) : Prop where
  integral : ∀ a, (∀ v ∈ f.payload a, v.Integral) → (f.toJson a).Integral
  decoded : ∀ a, (∀ v ∈ f.payload a, v.Ordered) → (∀ t ∈ f.times a, t.Readable) →
    (f.toJson a).depth < nestingLimit → f.decoder .text (f.toJson a).toReading = .ok a
  fits : ∀ r a, f.decoder .text r = .ok a → (∀ v ∈ f.payload a, v.Ordered) ∧
    (∀ t ∈ f.times a, t.Readable) ∧ (f.toJson a).depth < nestingLimit

variable {f : Format α}

theorem Lawful.read_write (h : f.Lawful) {a : α} (fits : f.Fits a) :
    f.read (f.write a) = .ok a := by
  have document := Json.read_write (h.integral a fits.integral)
  have decoded := h.decoded a fits.ordered fits.readable fits.shallow
  simp only [read, decode, write, document, decoded, Bool.false_eq_true, if_false]

end Format

/-! ## Scalars -/

section
variable {p : Place}

/-- A readable point in time is read back. -/
theorem Instant.decoder_toJson {t : Instant} (h : t.Readable) :
    Instant.decoder p t.toJson.toReading = .ok t := by
  rw [Instant.toJson, toReading]
  refine decodeText_str ?_
  rw [String.toList_ofList, Instant.read_text h]
  rfl

theorem Instant.decoder_toJson? {t : Option Instant} (h : ∀ x ∈ t, x.Readable) :
    decodeOption Instant.decoder p (Instant.toJson? t).toReading = .ok t := by
  cases t with
  | none => exact decodeOption_null _
  | some t => exact decodeOption_str (Instant.decoder_toJson (h t rfl))

/-- Only points that can be written and read back come from a document. -/
theorem Instant.readable_of_decoder {r : Reading} {t : Instant}
    (h : Instant.decoder p r = .ok t) : t.Readable := by
  unfold Instant.decoder decodeText at h
  split at h
  · split at h
    · rename_i made
      cases h
      exact Instant.readable_of_read (mapError_eq_ok_iff.1 made)
    · cases h
  · cases h

/-- An id is read back from its text. -/
theorem Uuid.decoder_toJson (u : Uuid) : Uuid.decoder p u.toJson.toReading = .ok u := by
  have text : (String.ofList u.text).toList = u.text := String.toList_ofList
  rw [Uuid.toJson, toReading]
  refine decodeText_str ?_
  rw [text, Uuid.read_text]
  rfl

theorem Status.decoder_toJson (s : Status) : Status.decoder p s.toJson.toReading = .ok s := by
  cases s <;> rfl

theorem decodeCount_int (n : UInt32) : decodeCount p (toReading (.int n.toNat)) = .ok n := by
  rw [decodeCount, decodeNatural_int n.toNat_lt]
  exact congrArg Except.ok (UInt32.ofNat_toNat)

end

/-! ## Documents of one level around the payload -/

def inDocument : Place := ⟨true, nestingLimit - 1⟩

def inAggregate : Place := ⟨true, nestingLimit - 2⟩

@[simp] theorem Instant.depth_toJson (t : Instant) : t.toJson.depth = 0 := by
  rw [Instant.toJson, depth]

@[simp] theorem Instant.depth_toJson? (t : Option Instant) : (Instant.toJson? t).depth = 0 := by
  cases t with
  | none => rw [Instant.toJson?, depth]
  | some t => exact t.depth_toJson

@[simp] theorem depth_ofText? (s : Option String) : (ofText? s).depth = 0 := by
  cases s <;> rw [ofText?, depth]

@[simp] theorem Instant.integral_toJson (t : Instant) : t.toJson.Integral := .str _

@[simp] theorem Instant.integral_toJson? (t : Option Instant) : (Instant.toJson? t).Integral := by
  cases t with
  | none => exact .null
  | some t => exact .str _

@[simp] theorem integral_ofText? (s : Option String) : (ofText? s).Integral := by
  cases s with
  | none => exact .null
  | some s => exact .str s

section
variable {shape : Shape} {r : Reading} {fields : Fields} {name : String}

/-- A payload of a document is in order and stays below the limit together with the document. -/
theorem payload_of_require {v : Json} (h : shape.fieldsOf .text r = .ok fields)
    (hv : fields.require name decodeValue = .ok v) : v.Ordered ∧ v.depth + 1 < nestingLimit := by
  obtain ⟨-, positive, room⟩ := room_of_inside rfl (place_of_fieldsOf h)
  obtain ⟨r, hr⟩ := exists_of_require hv
  obtain ⟨ordered, shallow⟩ := ordered_of_decodeValue positive hr
  have limit : Place.text.room = nestingLimit := rfl
  exact ⟨ordered, by omega⟩

theorem Instant.readable_of_require {t : Instant}
    (h : fields.require name Instant.decoder = .ok t) : t.Readable :=
  (exists_of_require h).elim fun _ => Instant.readable_of_decoder

theorem Instant.readable_of_optional {t : Option Instant}
    (h : fields.optional name Instant.decoder = .ok t) : ∀ x ∈ t, x.Readable := by
  rintro x rfl
  exact (exists_of_optional h).elim fun _ => Instant.readable_of_decoder

end

/-! ## Events -/

namespace Event

def format : Format Event where
  toJson := toJson
  decoder := decoder
  times e := e.occurredAt.toList
  payload e := e.payload

/-- A document nests one level deeper than what it carries. -/
theorem depth_toJson (e : Event) : e.toJson.depth = e.payload.depth + 1 := by
  simp [toJson, depth, depthEntries]

/-- An event is decoded with whatever its payload and its time are decoded to. -/
theorem decoder_toJson {e : Event} {v : Json} {t : Option Instant}
    (payload : decodeValue inDocument e.payload.toReading = .ok v)
    (time :
      decodeOption Instant.decoder inDocument (Instant.toJson? e.occurredAt).toReading = .ok t) :
    decoder .text e.toJson.toReading = .ok { e with payload := v, occurredAt := t } := by
  have string (s : String) := decodeString_str (p := inDocument) s
  have key := decodeOption_ofText? (p := inDocument) e.dedupeKey
  have distinct : (shape.fields.map (·.name)).Nodup := by decide
  have matching : Match inDocument shape.fields _ :=
    .cons (string e.aggregateType) <| .cons (string e.aggregateId) <|
    .cons (string e.eventType) <| .cons payload <| .cons (string e.exchange) <|
    .cons (string e.routingKey) <| .cons time <| .cons key .nil
  have fields := fieldsOf_toReading (p := .text) (q := inDocument) rfl distinct matching
  have once := matching.distinct distinct
  rw [decoder, toJson, fields, ok_bind,
    require_ofEntries once 0 rfl, string, ok_bind,
    require_ofEntries once 1 rfl, string, ok_bind,
    require_ofEntries once 2 rfl, string, ok_bind,
    require_ofEntries once 3 rfl, payload, ok_bind,
    require_ofEntries once 4 rfl, string, ok_bind,
    require_ofEntries once 5 rfl, string, ok_bind,
    optional_ofEntries once 6 rfl, time, ok_bind,
    optional_ofEntries once 7 rfl, key, ok_bind]

theorem lawful : format.Lawful where
  integral e h := by
    change e.toJson.Integral
    simp [toJson, h e.payload rfl]
  decoded e ordered readable shallow := by
    have room : e.payload.depth < inDocument.room :=
      Nat.lt_sub_of_add_lt (e.depth_toJson ▸ shallow)
    have payload := decodeValue_toReading (p := inDocument) (ordered e.payload rfl) room
    have time := Instant.decoder_toJson? (p := inDocument) fun t ht =>
      readable t (Option.mem_toList.2 ht)
    exact decoder_toJson payload time
  fits r e h := by
    change decoder .text r = .ok e at h
    simp only [decoder, bind_eq_ok_iff] at h
    obtain ⟨fields, hfields, _, -, _, -, _, -, payload, hpayload, _, -, _, -, time, htime, _, -,
      h⟩ := h
    cases h
    obtain ⟨ordered, shallow⟩ := payload_of_require hfields hpayload
    refine ⟨fun v hv => ?_, fun t ht => ?_, ?_⟩
    · cases hv
      exact ordered
    · exact Instant.readable_of_optional htime t (Option.mem_toList.1 ht)
    · exact (depth_toJson _).trans_lt shallow

end Event

/-! ## Messages -/

namespace Aggregate

theorem depth_toJson (a : Aggregate) : a.toJson.depth = 1 := by
  simp [toJson, depth, depthEntries]

theorem integral_toJson (a : Aggregate) : a.toJson.Integral := by
  simp [toJson]

theorem decoder_toJson (a : Aggregate) : decoder inDocument a.toJson.toReading = .ok a := by
  have string (s : String) := decodeString_str (p := inAggregate) s
  have distinct : (shape.fields.map (·.name)).Nodup := by decide
  have matching : Match inAggregate shape.fields _ :=
    .cons (string a.id) <| .cons (string a.kind) .nil
  have fields := fieldsOf_toReading (p := inDocument) (q := inAggregate) rfl distinct matching
  have once := matching.distinct distinct
  rw [decoder, toJson, fields, ok_bind,
    require_ofEntries once 0 rfl, string, ok_bind,
    require_ofEntries once 1 rfl, string, ok_bind]

end Aggregate

namespace Envelope

def format : Format Envelope where
  toJson := toJson
  decoder := decoder
  times e := [e.occurredAt]
  payload e := e.payload

theorem depth_toJson (e : Envelope) : e.toJson.depth = max 1 e.payload.depth + 1 := by
  simp [toJson, depth, depthEntries, Aggregate.depth_toJson]

/-- An envelope is decoded with whatever its payload is decoded to. -/
theorem decoder_toJson {e : Envelope} {v : Json}
    (payload : decodeValue inDocument e.payload.toReading = .ok v)
    (readable : e.occurredAt.Readable) :
    decoder .text e.toJson.toReading = .ok { e with payload := v } := by
  have time := Instant.decoder_toJson (p := inDocument) readable
  have aggregate := e.aggregate.decoder_toJson
  have string (s : String) := decodeString_str (p := inDocument) s
  have distinct : (shape.fields.map (·.name)).Nodup := by decide
  have matching : Match inDocument shape.fields _ :=
    .cons (string e.eventType) <| .cons time <| .cons aggregate <| .cons payload .nil
  have fields := fieldsOf_toReading (p := .text) (q := inDocument) rfl distinct matching
  have once := matching.distinct distinct
  rw [decoder, toJson, fields, ok_bind,
    require_ofEntries once 0 rfl, string, ok_bind,
    require_ofEntries once 1 rfl, time, ok_bind,
    require_ofEntries once 2 rfl, aggregate, ok_bind,
    require_ofEntries once 3 rfl, payload, ok_bind]

theorem lawful : format.Lawful where
  integral e h := by
    change e.toJson.Integral
    simp [toJson, h e.payload rfl, e.aggregate.integral_toJson]
  decoded e ordered readable shallow := by
    have shallow : max 1 e.payload.depth + 1 < nestingLimit := e.depth_toJson ▸ shallow
    have room : e.payload.depth < inDocument.room := Nat.lt_sub_of_add_lt (by omega)
    have payload := decodeValue_toReading (p := inDocument) (ordered e.payload rfl) room
    exact decoder_toJson payload (readable e.occurredAt List.mem_cons_self)
  fits r e h := by
    change decoder .text r = .ok e at h
    simp only [decoder, bind_eq_ok_iff] at h
    obtain ⟨fields, hfields, _, -, time, htime, _, -, payload, hpayload, h⟩ := h
    cases h
    obtain ⟨ordered, shallow⟩ := payload_of_require hfields hpayload
    refine ⟨fun v hv => ?_, fun t ht => ?_, ?_⟩
    · cases hv
      exact ordered
    · cases List.mem_singleton.1 ht
      exact Instant.readable_of_require htime
    · refine (depth_toJson _).trans_lt ?_
      unfold nestingLimit at *
      dsimp only
      omega

end Envelope

namespace DeliveryOptions

def format : Format DeliveryOptions where
  toJson := toJson
  decoder := decoder
  times _ := []
  payload _ := none

theorem depth_toJson (o : DeliveryOptions) : o.toJson.depth = 1 := by
  simp [toJson, depth, depthEntries]

theorem lawful : format.Lawful where
  integral o _ := by
    change o.toJson.Integral
    simp [toJson]
  decoded o _ _ _ := by
    have string (s : String) := decodeString_str (p := inDocument) s
    have bool := decodeBool_bool (p := inDocument) o.persistent
    have distinct : (shape.fields.map (·.name)).Nodup := by decide
    have matching : Match inDocument shape.fields _ :=
      .cons (string o.messageId) <| .cons bool <| .cons (string o.contentType) .nil
    have fields := fieldsOf_toReading (p := .text) (q := inDocument) rfl distinct matching
    have once := matching.distinct distinct
    change decoder .text o.toJson.toReading = .ok o
    rw [decoder, toJson, fields, ok_bind,
      require_ofEntries once 0 rfl, string, ok_bind,
      require_ofEntries once 1 rfl, bool, ok_bind,
      require_ofEntries once 2 rfl, string, ok_bind]
  fits r o _ :=
    ⟨by simp [format], by simp [format], (depth_toJson o).trans_lt (by decide)⟩

end DeliveryOptions

/-! ## Records -/

namespace Record

def format : Format Record where
  toJson := toJson
  decoder := decoder
  times r := r.nextAttemptAt :: r.occurredAt :: r.createdAt ::
    (r.lockedAt.toList ++ r.publishedAt.toList)
  payload r := r.payload

theorem depth_toJson (r : Record) : r.toJson.depth = r.payload.depth + 1 := by
  simp [toJson, depth, depthEntries, Uuid.toJson, Status.toJson]

/-- A record is decoded with whatever its payload is decoded to. -/
theorem decoder_toJson {r : Record} {v : Json}
    (payload : decodeValue inDocument r.payload.toReading = .ok v)
    (next : r.nextAttemptAt.Readable) (occurred : r.occurredAt.Readable)
    (created : r.createdAt.Readable) (locked : ∀ t ∈ r.lockedAt, t.Readable)
    (published : ∀ t ∈ r.publishedAt, t.Readable) :
    decoder .text r.toJson.toReading = .ok { r with payload := v } := by
  have id := r.id.decoder_toJson (p := inDocument)
  have status := r.status.decoder_toJson (p := inDocument)
  have attempts := decodeCount_int (p := inDocument) r.attempts
  have next := Instant.decoder_toJson (p := inDocument) next
  have lockedBy := decodeOption_ofText? (p := inDocument) r.lockedBy
  have locked := Instant.decoder_toJson? (p := inDocument) locked
  have occurred := Instant.decoder_toJson (p := inDocument) occurred
  have error := decodeOption_ofText? (p := inDocument) r.error
  have published := Instant.decoder_toJson? (p := inDocument) published
  have key := decodeOption_ofText? (p := inDocument) r.dedupeKey
  have created := Instant.decoder_toJson (p := inDocument) created
  have string (s : String) := decodeString_str (p := inDocument) s
  have distinct : (shape.fields.map (·.name)).Nodup := by decide
  have matching : Match inDocument shape.fields _ :=
    .cons id <| .cons (string r.aggregateType) <| .cons (string r.aggregateId) <|
    .cons (string r.eventType) <| .cons payload <| .cons (string r.exchange) <|
    .cons (string r.routingKey) <| .cons status <| .cons attempts <| .cons next <|
    .cons lockedBy <| .cons locked <| .cons occurred <| .cons error <| .cons published <|
    .cons key <| .cons created .nil
  have fields := fieldsOf_toReading (p := .text) (q := inDocument) rfl distinct matching
  have once := matching.distinct distinct
  rw [decoder, toJson, fields, ok_bind,
    require_ofEntries once 0 rfl, id, ok_bind,
    require_ofEntries once 1 rfl, string, ok_bind,
    require_ofEntries once 2 rfl, string, ok_bind,
    require_ofEntries once 3 rfl, string, ok_bind,
    require_ofEntries once 4 rfl, payload, ok_bind,
    require_ofEntries once 5 rfl, string, ok_bind,
    require_ofEntries once 6 rfl, string, ok_bind,
    require_ofEntries once 7 rfl, status, ok_bind,
    require_ofEntries once 8 rfl, attempts, ok_bind,
    require_ofEntries once 9 rfl, next, ok_bind,
    optional_ofEntries once 10 rfl, lockedBy, ok_bind,
    optional_ofEntries once 11 rfl, locked, ok_bind,
    require_ofEntries once 12 rfl, occurred, ok_bind,
    optional_ofEntries once 13 rfl, error, ok_bind,
    optional_ofEntries once 14 rfl, published, ok_bind,
    optional_ofEntries once 15 rfl, key, ok_bind,
    require_ofEntries once 16 rfl, created, ok_bind]

theorem lawful : format.Lawful where
  integral r h := by
    have attempts : (Json.int r.attempts.toNat).Integral := by
      have := r.attempts.toNat_lt
      exact .int (by omega) (by omega)
    change r.toJson.Integral
    simp [toJson, h r.payload rfl, Uuid.toJson, Status.toJson, attempts]
  decoded r ordered readable shallow := by
    have room : r.payload.depth < inDocument.room :=
      Nat.lt_sub_of_add_lt (r.depth_toJson ▸ shallow)
    have payload := decodeValue_toReading (p := inDocument) (ordered r.payload rfl) room
    have readable : (r.nextAttemptAt.Readable ∧ r.occurredAt.Readable ∧ r.createdAt.Readable) ∧
        (∀ t ∈ r.lockedAt, t.Readable) ∧ ∀ t ∈ r.publishedAt, t.Readable := by
      simpa [format, or_imp, forall_and, and_assoc] using readable
    obtain ⟨⟨next, occurred, created⟩, locked, published⟩ := readable
    exact decoder_toJson payload next occurred created locked published
  fits d r h := by
    change decoder .text d = .ok r at h
    simp only [decoder, bind_eq_ok_iff] at h
    obtain ⟨fields, hfields, _, -, _, -, _, -, _, -, payload, hpayload, _, -, _, -, _, -, _, -,
      next, hnext, _, -, locked, hlocked, occurred, hoccurred, _, -, published, hpublished, _, -,
      created, hcreated, h⟩ := h
    cases h
    obtain ⟨ordered, shallow⟩ := payload_of_require hfields hpayload
    refine ⟨fun v hv => ?_, fun t ht => ?_, ?_⟩
    · cases hv
      exact ordered
    · simp only [format, List.mem_cons, List.mem_append, Option.mem_toList] at ht
      rcases ht with rfl | rfl | rfl | ht | ht
      · exact Instant.readable_of_require hnext
      · exact Instant.readable_of_require hoccurred
      · exact Instant.readable_of_require hcreated
      · exact Instant.readable_of_optional hlocked t ht
      · exact Instant.readable_of_optional hpublished t ht
    · exact (depth_toJson _).trans_lt shallow

end Record

end EventRelay
