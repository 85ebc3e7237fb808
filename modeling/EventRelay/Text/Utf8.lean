/-!
# Text as bytes

In UTF-8 a character is written as one to four bytes. The first one tells how many follow it, and
between which limits the second one lies; every further one lies between 0x80 and 0xBF. Bytes that
were not written that way fall into parts too: a character that breaks off is one part, up to the
first byte that cannot belong to it.

`Utf8.decode?` reads bytes that are text, or says where they are not; `Utf8.decodeLossy` reads any
bytes. Others count lengths and places in a text in bytes, and not every number of bytes is the
place of a character.
-/

namespace EventRelay.Text

/-! ## Places in bytes -/

def byteCount (cs : List Char) : Nat := cs.foldr (fun c n => c.utf8Size + n) 0

/-- The text behind a number of bytes, if a character begins or the text ends there. -/
def dropBytes? : Nat → List Char → Option (List Char)
  | 0, cs => some cs
  | _ + 1, [] => none
  | n + 1, c :: rest => if c.utf8Size ≤ n + 1 then dropBytes? (n + 1 - c.utf8Size) rest else none

/-- The text before a number of bytes, if a character begins or the text ends there. -/
def takeBytes? : Nat → List Char → Option (List Char)
  | 0, _ => some []
  | _ + 1, [] => none
  | n + 1, c :: rest =>
    if c.utf8Size ≤ n + 1 then (takeBytes? (n + 1 - c.utf8Size) rest).map (c :: ·) else none

namespace Utf8

/-! ## Reading bytes -/

/-- A part of a list of bytes. -/
inductive Part where
  | char (c : Char)
  /-- A number of bytes that are no character. -/
  | wrong (width : Nat)
  /-- A number of bytes that are the beginning of a character, at the end of the list. -/
  | cut (width : Nat)
deriving DecidableEq

/-- A character of which not all bytes have been read. -/
structure Begun where
  /-- What the bytes so far stand for. -/
  bits : Nat
  /-- The number of bytes so far. -/
  width : Nat
  /-- The number of bytes that are to come. -/
  owed : Nat
  /-- The least that the next byte may be. -/
  low : Nat
  /-- The greatest that the next byte may be. -/
  high : Nat

/-- What a byte begins: a part of its own, or a character of several bytes. -/
def lead (b : Nat) : Part ⊕ Begun :=
  if b < 0x80 then .inl (.char (Char.ofNat b))
  else if b < 0xC2 then .inl (.wrong 1)
  else if b < 0xE0 then .inr ⟨b - 0xC0, 1, 1, 0x80, 0xBF⟩
  else if b < 0xF0 then
    .inr ⟨b - 0xE0, 1, 2, if b = 0xE0 then 0xA0 else 0x80, if b = 0xED then 0x9F else 0xBF⟩
  else if b < 0xF5 then
    .inr ⟨b - 0xF0, 1, 3, if b = 0xF0 then 0x90 else 0x80, if b = 0xF4 then 0x8F else 0xBF⟩
  else .inl (.wrong 1)

/-- The next byte of a character: the whole character, or what is still begun; nothing if the byte
cannot follow. -/
def Begun.next? (p : Begun) (b : Nat) : Option (Char ⊕ Begun) :=
  if p.low ≤ b ∧ b ≤ p.high then
    let bits := p.bits * 64 + (b - 0x80)
    some (if p.owed ≤ 1 then .inl (Char.ofNat bits)
      else .inr ⟨bits, p.width + 1, p.owed - 1, 0x80, 0xBF⟩)
  else none

/-- The parts of a list of bytes behind the beginning of a character, if there is one. -/
def partsFrom : Option Begun → List UInt8 → List Part
  | none, [] => []
  | some p, [] => [.cut p.width]
  | begun, b :: rest =>
    let afresh : List Part :=
      match lead b.toNat with
      | .inl part => part :: partsFrom none rest
      | .inr p => partsFrom (some p) rest
    match begun with
    | none => afresh
    | some p =>
      match p.next? b.toNat with
      | some (.inl c) => .char c :: partsFrom none rest
      | some (.inr p) => partsFrom (some p) rest
      | none => .wrong p.width :: afresh

def parts (bs : List UInt8) : List Part := partsFrom none bs

/-- Why a list of bytes is no text. -/
structure Fault where
  /-- The number of bytes before the first part that is no character. -/
  index : Nat
  /-- The number of its bytes; none if it is the beginning of a character. -/
  width : Option Nat
deriving DecidableEq

def Fault.message (f : Fault) : String :=
  match f.width with
  | some n => "invalid utf-8 sequence of " ++ toString n ++ " bytes from index " ++ toString f.index
  | none => "incomplete utf-8 byte sequence from index " ++ toString f.index

/-- The characters of parts that follow a number of bytes, if all of them are characters. -/
def chars? (index : Nat) : List Part → Except Fault (List Char)
  | [] => .ok []
  | .char c :: rest => do return c :: (← chars? (index + c.utf8Size) rest)
  | .wrong n :: _ => .error ⟨index, some n⟩
  | .cut _ :: _ => .error ⟨index, none⟩

/-- The text that a list of bytes is. -/
def decode? (bs : List UInt8) : Except Fault (List Char) := chars? 0 (parts bs)

/-- The character of a part; U+FFFD stands for what is none. -/
def Part.shown : Part → Char
  | .char c => c
  | .wrong _ | .cut _ => '\ufffd'

/-- The text of a list of bytes, in which U+FFFD stands for each part that is no character. -/
def decodeLossy (bs : List UInt8) : List Char := (parts bs).map Part.shown

end Utf8
end EventRelay.Text
