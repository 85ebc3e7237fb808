import EventRelay.Json.Number
import EventRelay.Json.Printer

/-!
# Reading documents

A text is read into a *reading*: a document as far as the text is well formed, with the faults at
the places where they stand. Whoever decodes a reading meets a fault only when coming to its place,
so that a value of the wrong type before it is noticed first.

Some texts are good enough to be passed over and not to be used: a number out of range, a string
with half a surrogate pair. And a value that is broken may be noticed as malformed by a reader that
uses it and as truncated by one that passes over it, since the second one reads on.
-/

namespace EventRelay.Json

open Text

/-- A fault inside a value, as it is noticed by those who want a name there, by those who use the
value and by those who pass over it. Whoever wants a name looks no further than the quote that a
name begins with. -/
structure Breach where
  named : Fault
  used : Fault
  passed : Fault

def Breach.same (f : Fault) : Breach := ⟨f, f, f⟩

/-- A document as far as its text is well formed. -/
inductive Reading where
  | null
  | bool (b : Bool)
  | number (n : Number)
  | text (s : String)
  /-- Well formed, but malformed for those who use it. -/
  | unfit
  | broken (b : Breach)
  | array (items : List Reading) (ended : Option Fault)
  /-- The keys are readings of strings. -/
  | object (entries : List (Reading × Reading)) (ended : Option Fault)

/-! ## Strings -/

/-- What is read of a string: its characters and the text behind its closing quote, or only the
latter, or faults. -/
inductive StringScan where
  | complete (text rest : List Char)
  | unfit (rest : List Char)
  | broken (used passed : Fault)

def StringScan.cons (c : Char) : StringScan → StringScan
  | .complete text rest => .complete (c :: text) rest
  | scan => scan

def StringScan.loneSurrogate : StringScan → StringScan
  | .complete _ rest => .unfit rest
  | .unfit rest => .unfit rest
  | .broken _ passed => .broken .malformed passed

/-- Four hexadecimal digits. A text of fewer than four bytes is truncated, whatever it holds. -/
def scanHex (cs : List Char) : Except Fault (Nat × List Char) :=
  if (cs.take 4).foldl (fun n c => n + c.utf8Size) 0 < 4 then .error .truncated
  else
    match hexadecimal? (cs.take 4) with
    | some n => .ok (n, cs.drop 4)
    | none => .error .malformed

def unescape? : Char → Option Char
  | '"' => some '"'
  | '\\' => some '\\'
  | '/' => some '/'
  | 'b' => some '\x08'
  | 'f' => some '\x0c'
  | 'n' => some '\n'
  | 'r' => some '\r'
  | 't' => some '\t'
  | _ => none

def isHighSurrogate (n : Nat) : Bool := 0xd800 ≤ n && n < 0xdc00

def isLowSurrogate (n : Nat) : Bool := 0xdc00 ≤ n && n < 0xe000

/-- The rest of a string behind its opening quote. The number of characters bounds the steps. -/
def scanString : Nat → List Char → StringScan
  | 0, _ => .broken .truncated .truncated
  | _ + 1, [] => .broken .truncated .truncated
  | _ + 1, '"' :: rest => .complete [] rest
  | _ + 1, ['\\'] => .broken .truncated .truncated
  | fuel + 1, '\\' :: 'u' :: rest =>
    match scanHex rest with
    | .error f => .broken f f
    | .ok (n, rest) =>
      if isHighSurrogate n then
        match rest with
        | [] | ['\\'] => .broken .truncated .truncated
        | '\\' :: 'u' :: low =>
          match scanHex low with
          | .error f => .broken f f
          | .ok (m, behind) =>
            if isLowSurrogate m then
              (scanString fuel behind).cons
                (Char.ofNat (0x10000 + (n - 0xd800) * 0x400 + (m - 0xdc00)))
            else (scanString fuel rest).loneSurrogate
        | _ => (scanString fuel rest).loneSurrogate
      else if isLowSurrogate n then (scanString fuel rest).loneSurrogate
      else (scanString fuel rest).cons (Char.ofNat n)
  | fuel + 1, '\\' :: c :: rest =>
    match unescape? c with
    | some x => (scanString fuel rest).cons x
    | none => .broken .malformed .malformed
  | fuel + 1, c :: rest =>
    if c.toNat < 0x20 then .broken .malformed .malformed else (scanString fuel rest).cons c

/-! ## Values -/

def isGap (c : Char) : Bool := c == ' ' || c == '\n' || c == '\t' || c == '\r'

/-- The text without the blanks in front of it. -/
def skipGap (cs : List Char) : List Char := cs.dropWhile isGap

/-- A value and the text behind it; nothing stands behind a broken one. -/
abbrev Read := Reading × Option (List Char)

def brokenOff (b : Breach) : Read := (.broken b, none)

def readWord (value : Reading) : List Char → List Char → Read
  | [], rest => (value, some rest)
  | _ :: _, [] => brokenOff ⟨.malformed, .truncated, .truncated⟩
  | w :: word, c :: rest =>
    if w = c then readWord value word rest else brokenOff (.same .malformed)

def readNumber (negative : Bool) (cs : List Char) : Read :=
  match scanNumeral negative cs with
  | .broken used => brokenOff ⟨.malformed, used, .malformed⟩
  | .complete n rest =>
    match n.value? with
    | some v => (.number v, some rest)
    | none => (.unfit, some rest)

/-- A string behind its opening quote. -/
def readString (cs : List Char) : Read :=
  match scanString (cs.length + 1) cs with
  | .complete text rest => (.text (String.ofList text), some rest)
  | .unfit rest => (.unfit, some rest)
  | .broken used passed => brokenOff ⟨used, used, passed⟩

/-- A value that is no list and no object, at a character that is not blank. -/
def readScalar : List Char → Read
  | [] => brokenOff (.same .truncated)
  | c :: rest =>
    if c = 'n' then readWord .null ['u', 'l', 'l'] rest
    else if c = 't' then readWord (.bool true) ['r', 'u', 'e'] rest
    else if c = 'f' then readWord (.bool false) ['a', 'l', 's', 'e'] rest
    else if c = '"' then readString rest
    else if c = '-' then readNumber true rest
    else if isDigit c then readNumber false (c :: rest)
    else brokenOff (.same .malformed)

/-- What stands behind a key: a colon, or a fault. -/
def colon (cs : List Char) : Except Fault (List Char) :=
  match skipGap cs with
  | [] => .error .truncated
  | c :: rest => if c = ':' then .ok rest else .error .malformed

mutual
/-- A value and the text behind it. The number of characters bounds the steps. -/
def readValue : Nat → List Char → Read
  | 0, _ => brokenOff (.same .truncated)
  | fuel + 1, cs =>
    match skipGap cs with
    | '[' :: rest =>
      let (items, ended, behind) := readItems fuel true rest
      (.array items ended, behind)
    | '\x7b' :: rest =>
      let (entries, ended, behind) := readEntries fuel true rest
      (.object entries ended, behind)
    | cs => readScalar cs

/-- The items of a list from one place on, how they end, and the text behind the list. Whatever
follows a comma is an item. -/
def readItems : Nat → Bool → List Char →
    List Reading × Option Fault × Option (List Char)
  | 0, _, _ => ([], some .truncated, none)
  | fuel + 1, first, cs =>
    match skipGap cs with
    | [] => ([], some .truncated, none)
    | c :: rest =>
      if c = ']' then ([], none, some rest)
      else if first || c = ',' then
        match readValue fuel (if first then c :: rest else rest) with
        | (item, none) => ([item], some .malformed, none)
        | (item, some behind) =>
          let (items, ended, behind) := readItems fuel false behind
          (item :: items, ended, behind)
      else ([], some .malformed, none)

/-- The entries of an object from one place on, how they end, and the text behind the object. -/
def readEntries : Nat → Bool → List Char →
    List (Reading × Reading) × Option Fault × Option (List Char)
  | 0, _, _ => ([], some .truncated, none)
  | fuel + 1, first, cs =>
    match skipGap cs with
    | [] => ([], some .truncated, none)
    | c :: rest =>
      if c = '\x7d' then ([], none, some rest)
      else if first || c = ',' then
        match skipGap (if first then c :: rest else rest) with
        | [] => ([], some .truncated, none)
        | '\x7d' :: _ => ([], some .malformed, none)
        | '"' :: rest =>
          match readString rest with
          | (key, none) => ([(key, .broken (.same .malformed))], some .malformed, none)
          | (key, some behind) =>
            match colon behind with
            | .error f => ([(key, .broken (.same f))], some f, none)
            | .ok behind =>
              match readValue fuel behind with
              | (value, none) => ([(key, value)], some .malformed, none)
              | (value, some behind) =>
                let (entries, ended, behind) := readEntries fuel false behind
                ((key, value) :: entries, ended, behind)
        | _ => ([], some .malformed, none)
      else ([], some .malformed, none)
end

/-- A document, and whether something stands behind it. -/
structure Document where
  root : Reading
  followed : Bool

def Document.read (cs : List Char) : Document :=
  match readValue (cs.length + 1) cs with
  | (root, none) => ⟨root, false⟩
  | (root, some rest) => ⟨root, !(skipGap rest).isEmpty⟩

/-! ## Using a reading -/

mutual
def Reading.passed? : Reading → Option Fault
  | .broken b => some b.passed
  | .array items ended => (passedItems? items).or ended
  | .object entries ended => (passedEntries? entries).or ended
  | _ => none

def passedItems? : List Reading → Option Fault
  | [] => none
  | r :: rest => r.passed?.or (passedItems? rest)

def passedEntries? : List (Reading × Reading) → Option Fault
  | [] => none
  | (key, value) :: rest => (key.passed?.or value.passed?).or (passedEntries? rest)
end

/-- The number of lists and objects that may stand around a value, the value itself included. -/
def nestingLimit : Nat := 128

mutual
/-- The value that is read, inside `room` more lists and objects at most; a deeper one is
malformed. -/
def Reading.value (room : Nat) : Reading → Except Fault Json
  | .null => .ok .null
  | .bool b => .ok (.bool b)
  | .number (.int n) => .ok (.int n)
  | .number (.real x) => .ok (.real x)
  | .text s => .ok (.str s)
  | .unfit => .error .malformed
  | .broken b => .error b.used
  | .array items ended =>
    if room ≤ 1 then .error .malformed
    else do
      let vs ← valueItems (room - 1) items
      match ended with
      | none => .ok (.arr vs)
      | some f => .error f
  | .object entries ended =>
    if room ≤ 1 then .error .malformed
    else do
      let es ← valueEntries (room - 1) entries
      match ended with
      | none => .ok (.obj (sortEntries es))
      | some f => .error f

def valueItems (room : Nat) : List Reading → Except Fault (List Json)
  | [] => .ok []
  | r :: rest => do
    let v ← r.value room
    let vs ← valueItems room rest
    .ok (v :: vs)

/-- The entries that are read, in the order of the text. -/
def valueEntries (room : Nat) : List (Reading × Reading) → Except Fault (List (String × Json))
  | [] => .ok []
  | (.text k, value) :: rest => do
    let v ← value.value room
    let es ← valueEntries room rest
    .ok ((k, v) :: es)
  | (.broken b, _) :: _ => .error b.used
  | _ :: _ => .error .malformed
end

mutual
/-- The reading of a value that is at hand already. -/
def toReading : Json → Reading
  | .null => .null
  | .bool b => .bool b
  | .int n => .number (.int n)
  | .real x => .number (.real x)
  | .str s => .text s
  | .arr items => .array (itemReadings items) none
  | .obj entries => .object (entryReadings entries) none

def itemReadings : List Json → List Reading
  | [] => []
  | v :: vs => toReading v :: itemReadings vs

def entryReadings : List (String × Json) → List (Reading × Reading)
  | [] => []
  | (k, v) :: es => (.text k, toReading v) :: entryReadings es
end

/-- The value that a text holds and nothing else. -/
def ofText (cs : List Char) : Except Fault Json :=
  let d := Document.read cs
  match d.root.value nestingLimit with
  | .error f => .error f
  | .ok v => if d.followed then .error .malformed else .ok v

end EventRelay.Json
