import EventRelay.Json.Document
import EventRelay.Text.Shown

/-!
# Decoding documents

A decoder makes a value of the domain from a reading. It notices what is wrong in the order of the
text: a value of the wrong type, an unknown variant or a repeated field where it stands, and a
missing field at the end of its object.

A reading comes from a text or from a value that is at hand. They differ in what they say about
surplus items and about variants, and only a text has a limit on nesting.
-/

namespace EventRelay.Json

open Text

/-- Why a reading does not decode: its content does not fit, or its text is no document. -/
inductive DecodeError where
  | data (message : List Char)
  | fault (f : Fault)
deriving DecidableEq

/-- Where a decoder works: on a text or on a value at hand, and inside how many more lists and
objects at most. -/
structure Place where
  streamed : Bool
  room : Nat

def Place.text : Place := ⟨true, nestingLimit⟩

/-- A place in a value at hand. -/
def Place.held : Place := ⟨false, nestingLimit⟩

/-- The place inside a list or an object; a text may not nest them too deeply. -/
def Place.inside (p : Place) : Except DecodeError Place :=
  if ¬ p.streamed then .ok p
  else if p.room ≤ 1 then .error (.fault .malformed)
  else .ok { p with room := p.room - 1 }

abbrev Decoder (α : Type) := Place → Reading → Except DecodeError α

/-! ## Speaking of what is found -/

def Number.describe : Number → List Char
  | .int n => "integer `".toList ++ signed n ++ ['`']
  | .real x => "floating point `".toList ++ x.text .document ++ ['`']

/-- What is found where something else is expected, as far as it is needed to speak of it. -/
inductive Found where
  | null
  | bool (b : Bool)
  | number (n : Number)
  | text (s : String)
  | sequence
  | map

def Found.describe : Found → List Char
  | .null => "null".toList
  | .bool true => "boolean `true`".toList
  | .bool false => "boolean `false`".toList
  | .number n => n.describe
  | .text s => "string ".toList ++ quoted s
  | .sequence => "sequence".toList
  | .map => "map".toList

def Reading.found : Reading → Except Fault Found
  | .null => .ok .null
  | .bool b => .ok (.bool b)
  | .number n => .ok (.number n)
  | .text s => .ok (.text s)
  | .unfit => .error .malformed
  | .broken b => .error b.used
  | .array _ _ => .ok .sequence
  | .object _ _ => .ok .map

def mismatch (expected : String) : Except Fault Found → DecodeError
  | .error f => .fault f
  | .ok found =>
    .data ("invalid type: ".toList ++ found.describe ++ ", expected ".toList ++ expected.toList)

def wrongType {α : Type} (expected : String) (r : Reading) : Except DecodeError α :=
  .error (mismatch expected r.found)

/-! ## Simple values -/

def decodeText {α : Type} (expected : String) (make : String → Except (List Char) α) : Decoder α :=
  fun _ r =>
    match r with
    | .text s =>
      match make s with
      | .ok a => .ok a
      | .error message => .error (.data message)
    | r => wrongType expected r

def decodeString : Decoder String := decodeText "a string" .ok

def decodeBool : Decoder Bool := fun _ r =>
  match r with
  | .bool b => .ok b
  | r => wrongType "a boolean" r

/-- A natural number below a limit; `expected` names the type. -/
def decodeNatural (expected : String) (limit : Nat) : Decoder Nat := fun _ r =>
  match r with
  | .number (.int n) =>
    if 0 ≤ n ∧ n < limit then .ok n.toNat
    else
      .error (.data ("invalid value: ".toList ++ (Number.int n).describe ++ ", expected ".toList
        ++ expected.toList))
  | r => wrongType expected r

def decodeValue : Decoder Json := fun p r =>
  match r.value p.room with
  | .ok v => .ok v
  | .error f => .error (.fault f)

def decodeOption {α : Type} (d : Decoder α) : Decoder (Option α) := fun p r =>
  match r with
  | .null => .ok none
  | r => (d p r).map some

/-! ## Variants -/

def oneOf (names : List String) : List Char :=
  let quote (s : String) := '`' :: s.toList ++ ['`']
  match names with
  | [a] => quote a
  | [a, b] => quote a ++ " or ".toList ++ quote b
  | names => "one of ".toList ++ [',', ' '].intercalate (names.map quote)

def variantNamed {α : Type} (variants : List (String × α)) (name : String) :
    Except DecodeError α :=
  match variants.lookup name with
  | some a => .ok a
  | none =>
    .error (.data ("unknown variant `".toList ++ name.toList ++ "`, expected ".toList
      ++ oneOf (variants.map (·.1))))

/-- One of several values, each with a name: the name, or an object whose only key is the name and
whose only value is null. -/
def decodeVariant {α : Type} (variants : List (String × α)) : Decoder α := fun p r =>
  let unit (value : Reading) : Except DecodeError Unit :=
    match value with
    | .null => .ok ()
    | value => wrongType "unit" value
  match r with
  | .text s => variantNamed variants s
  | .object entries ended =>
    if p.streamed then do
      let _ ← p.inside
      match entries with
      | [] =>
        .error (.fault (ended.getD .malformed))
      | (.text key, value) :: rest => do
        let a ← variantNamed variants key
        unit value
        match rest, ended with
        | [], none => .ok a
        | [], some f => .error (.fault f)
        | _, _ => .error (.fault .malformed)
      | (.broken b, _) :: _ => .error (.fault b.used)
      | _ => .error (.fault .malformed)
    else
      match entries with
      | [(.text key, value)] => do
        let a ← variantNamed variants key
        unit value
        .ok a
      | _ => .error (.data "invalid value: map, expected map with a single key".toList)
  | .broken b => .error (.fault b.named)
  | r => if p.streamed then .error (.fault .malformed) else wrongType "string or map" r

/-! ## Structures -/

/-- A field: its name, and the decoder that its value must satisfy. -/
structure Field where
  name : String
  check : Decoder Unit

/-- A field with the decoder of its type. -/
def Field.of {α : Type} (name : String) (d : Decoder α) : Field :=
  ⟨name, fun p r => (d p r).map fun _ => ()⟩

/-- A structure: its name, its fields in order, and whether fields that are missing from a list
have defaults. -/
structure Shape where
  name : String
  fields : List Field
  defaults : Bool

/-- The values of a structure's fields, each of which satisfies its decoder, and their place. -/
structure Fields where
  place : Place
  found : List (String × Reading)

/-- Goes through the entries of an object in order. Unknown fields are passed over. -/
def collectEntries (fields : List Field) (p : Place) (found : List (String × Reading)) :
    List (Reading × Reading) → Except DecodeError (List (String × Reading))
  | [] => .ok found
  | (.text key, value) :: rest =>
    match fields.find? (·.name == key) with
    | none =>
      match value.passed? with
      | some f => .error (.fault f)
      | none => collectEntries fields p found rest
    | some field =>
      if (found.lookup key).isSome then
        .error (.data ("duplicate field `".toList ++ key.toList ++ ['`']))
      else do
        field.check p value
        collectEntries fields p (found ++ [(key, value)]) rest
  | (.broken b, _) :: _ => .error (.fault b.used)
  | _ :: _ => .error (.fault .malformed)

def collectItems (shape : Shape) (p : Place) (ended : Option Fault) (count : Nat)
    (found : List (String × Reading)) :
    List Field → List Reading → Except DecodeError (List (String × Reading))
  | [], [] =>
    match ended with
    | none => .ok found
    | some f => .error (.fault f)
  | [], surplus =>
    if p.streamed then .error (.fault .malformed)
    else
      .error (.data ("invalid length ".toList ++ decimal (count + surplus.length)
        ++ ", expected fewer elements in array".toList))
  | _ :: _, [] =>
    match ended with
    | some f => .error (.fault f)
    | none =>
      if shape.defaults then .ok found
      else
        .error (.data ("invalid length ".toList ++ decimal count ++ ", expected struct ".toList
          ++ shape.name.toList ++ " with ".toList ++ decimal shape.fields.length
          ++ " elements".toList))
  | field :: fields, item :: items => do
    field.check p item
    collectItems shape p ended (count + 1) (found ++ [(field.name, item)]) fields items

/-- The fields of a structure, from an object or from a list of their values in order. -/
def Shape.fieldsOf (shape : Shape) : Decoder Fields := fun p r =>
  match r with
  | .object entries ended => do
    let p ← p.inside
    let found ← collectEntries shape.fields p [] entries
    match ended with
    | none => .ok ⟨p, found⟩
    | some f => .error (.fault f)
  | .array items ended => do
    let p ← p.inside
    let found ← collectItems shape p ended 0 [] shape.fields items
    .ok ⟨p, found⟩
  | r => wrongType ("struct " ++ shape.name) r

namespace Fields

def get? {α : Type} (fs : Fields) (name : String) (d : Decoder α) :
    Except DecodeError (Option α) :=
  match fs.found.lookup name with
  | some r => (d fs.place r).map some
  | none => .ok none

def require {α : Type} (fs : Fields) (name : String) (d : Decoder α) : Except DecodeError α :=
  match fs.found.lookup name with
  | some r => d fs.place r
  | none => .error (.data ("missing field `".toList ++ name.toList ++ ['`']))

def optional {α : Type} (fs : Fields) (name : String) (d : Decoder α) :
    Except DecodeError (Option α) :=
  (fs.get? name (decodeOption d)).map (·.getD none)

/-- The value of a field that may be missing and is not null. -/
def withDefault {α : Type} (fs : Fields) (name : String) (default : α) (d : Decoder α) :
    Except DecodeError α :=
  (fs.get? name d).map (·.getD default)

end Fields

/-- Decodes a text, behind which nothing may follow. -/
def decode {α : Type} (d : Decoder α) (cs : List Char) : Except DecodeError α :=
  let document := Document.read cs
  match d .text document.root with
  | .error e => .error e
  | .ok a => if document.followed then .error (.fault .malformed) else .ok a

def decodeHeld {α : Type} (d : Decoder α) (v : Json) : Except DecodeError α :=
  d .held v.toReading

end EventRelay.Json
