import EventRelay.Text.Digits
import EventRelay.Text.Utf8

/-!
# UUIDs

A UUID is a number of 128 bits. It is written in lower case as 32 hexadecimal digits in groups of
8, 4, 4, 4 and 12, set apart by hyphens. It is read in that form, plain or behind `urn:uuid:` or in
braces, or as 32 digits without hyphens, in either case.
-/

namespace EventRelay

/-- A number of 128 bits. -/
structure Uuid where
  value : Nat
  value_lt : value < 2 ^ 128
deriving DecidableEq

namespace Uuid

@[ext] theorem ext {a b : Uuid} (h : a.value = b.value) : a = b := by
  cases a; cases b; simp_all

def zero : Uuid := ⟨0, by decide⟩

instance : Inhabited Uuid := ⟨zero⟩

/-- The UUID with the 128 low bits of a number. -/
def ofNat (n : Nat) : Uuid := ⟨n % 2 ^ 128, Nat.mod_lt _ (by decide)⟩

/-! ## Writing -/

/-- The 32 hexadecimal digits, the most significant first. -/
def digits (u : Uuid) : List Char :=
  (List.range 32).map fun i => Text.hexDigit (u.value / 16 ^ (31 - i) % 16)

/-- Digits in groups of 8, 4, 4, 4 and the rest, set apart by hyphens. -/
def hyphenate (ds : List Char) : List Char :=
  ds.take 8 ++ '-' :: (ds.drop 8).take 4 ++ '-' :: (ds.drop 12).take 4
    ++ '-' :: (ds.drop 16).take 4 ++ '-' :: ds.drop 20

def text (u : Uuid) : List Char := hyphenate u.digits

/-! ## Reading -/

/-- Why a text is no UUID. -/
inductive Fault where
  /-- A character that is neither a hexadecimal digit nor a hyphen, at a place counted in bytes. -/
  | character (found : Char) (place : Nat)
  /-- More bytes than any form has, or digits without hyphens, but not 32 of them. -/
  | length (found : Nat)
  /-- Not five groups. -/
  | groupCount (found : Nat)
  /-- A group of the wrong length. -/
  | groupLength (group expected found : Nat)
deriving DecidableEq, Repr

def Fault.message : Fault → List Char
  | .character c place =>
    "invalid character: found `".toList ++ c :: "` at ".toList ++ Text.decimal place
  | .length n => "invalid length: found ".toList ++ Text.decimal n
  | .groupCount n => "invalid group count: expected 5, found ".toList ++ Text.decimal n
  | .groupLength group expected n =>
    "invalid group length in group ".toList ++ Text.decimal group ++ ": expected ".toList
      ++ Text.decimal expected ++ ", found ".toList ++ Text.decimal n

def ofDigits? (ds : List Char) : Option Uuid :=
  if ds.length = 32 then (Text.hexadecimal? ds).map ofNat else none

def ofHyphenated? (cs : List Char) : Option Uuid :=
  let ds := cs.filter (· != '-')
  if cs = hyphenate ds then ofDigits? ds else none

/-- What stands, in either case, before a UUID that is written as a name. -/
def urn : List Char := "urn:uuid:".toList

/-- The text inside braces or behind `urn:uuid:`, and the number of characters that were taken off
its front; a text that stands alone has lost none. -/
def unwrap (cs : List Char) : List Char × Nat :=
  if cs.head? = some '{' ∧ cs.getLast? = some '}' ∧ 2 ≤ cs.length then
    ((cs.drop 1).dropLast, 1)
  else if (cs.take urn.length).map Char.toLower = urn then (cs.drop urn.length, urn.length)
  else (cs, 0)

/-- The first character that is no part of any UUID, with its place in bytes. -/
def strayCharacter? (place : Nat) : List Char → Option (Char × Nat)
  | [] => none
  | c :: rest =>
    if c = '-' ∨ (Text.hexValue? c).isSome then strayCharacter? (place + 1) rest
    else some (c, place)

def groupLengths : List Nat := [8, 4, 4, 4, 12]

/-- The first group that does not have its length; `lengths` are the groups found. -/
def wrongGroup? (group : Nat) : List Nat → List Nat → Option (Nat × Nat × Nat)
  | expected :: more, found :: rest =>
    if expected = found then wrongGroup? (group + 1) more rest else some (group, expected, found)
  | _, _ => none

/-- The most bytes that any form of a UUID has: a name with `urn:uuid:` and the hyphenated form. -/
def longest : Nat := urn.length + 36

/-- What is wrong with a text that is no UUID: first that it is longer than any form, then any stray
character, then the number of groups, then the length of the first group that is not as it should
be. The length of the last group counts what stands around the UUID. -/
def faultOf (cs : List Char) : Fault :=
  if longest < Text.byteCount cs then .length (Text.byteCount cs)
  else
    let (inner, offset) := unwrap cs
    match strayCharacter? offset inner with
    | some (c, place) => .character c place
    | none =>
      let hyphens := inner.count '-'
      if hyphens = 0 ∧ offset = 0 then .length cs.length
      else if hyphens ≠ 4 then .groupCount (hyphens + 1)
      else
        let lengths := ((inner.splitOn '-').map List.length).take 4
        match wrongGroup? 0 groupLengths lengths with
        | some (group, expected, found) => .groupLength group expected found
        | none => .groupLength 4 12 (cs.length - 24)

/-- The part of a text that should be a hyphenated UUID: 36 bytes that stand alone, in braces or
behind `urn:uuid:`. A fault in it is told as if it stood alone. -/
def core? (cs : List Char) : Option (List Char) :=
  if Text.byteCount cs = 36 then some cs
  else
    let (inner, offset) := unwrap cs
    if offset ≠ 0 ∧ Text.byteCount inner = 36 then some inner else none

def read (cs : List Char) : Except Fault Uuid :=
  if Text.byteCount cs = 32 then
    match ofDigits? cs with
    | some u => .ok u
    | none => .error (faultOf cs)
  else
    match core? cs with
    | none => .error (faultOf cs)
    | some inner =>
      match ofHyphenated? inner with
      | some u => .ok u
      | none => .error (faultOf inner)

end Uuid
end EventRelay
