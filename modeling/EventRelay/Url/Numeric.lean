import EventRelay.Text.Digits

/-!
# Numeric addresses

An address of 128 bits is eight groups of 16 bits in hexadecimal digits with colons between them.
Two colons stand for one or more groups that are zero, at one place at most, and the last two groups
may be four numbers up to 255 with dots between them.

An address of 32 bits has a strict form, which is those four numbers, and a lenient one: one to four
numbers in decimal, octal or hexadecimal digits, of which the last one fills the rest of the
address.
-/

namespace EventRelay.Url

open Text

/-! ## Strict forms -/

/-- A number up to 255 without leading zeros. -/
def isByte (cs : List Char) : Bool :=
  !cs.isEmpty && cs.all isDigit && (cs.length = 1 || cs.head? != some '0') && digitsValue cs < 256

def isIpv4 (cs : List Char) : Bool :=
  let parts := cs.splitOn '.'
  parts.length = 4 && parts.all isByte

/-- One to four hexadecimal digits. -/
def isGroup (cs : List Char) : Bool :=
  !cs.isEmpty && cs.length ≤ 4 && cs.all fun c => (hexValue? c).isSome

/-- The number of groups of 16 bits that parts between colons are. The last part may be an address
of 32 bits, which is two groups. -/
def groupCount? : List (List Char) → Option Nat
  | [] => some 0
  | [last] => if isGroup last then some 1 else if isIpv4 last then some 2 else none
  | part :: rest => if isGroup part then (groupCount? rest).map (· + 1) else none

/-- The text before the first two colons that follow each other, and behind them. -/
def cutAtColons : List Char → Option (List Char × List Char)
  | ':' :: ':' :: rest => some ([], rest)
  | c :: rest => (cutAtColons rest).map fun (before, behind) => (c :: before, behind)
  | [] => none

def colonParts (cs : List Char) : List (List Char) := if cs.isEmpty then [] else cs.splitOn ':'

def isIpv6 (cs : List Char) : Bool :=
  match cutAtColons cs with
  | none => groupCount? (colonParts cs) = some 8
  | some (before, behind) =>
    (colonParts before).all isGroup
      && match groupCount? (colonParts behind) with
        | some n => (colonParts before).length + n ≤ 7
        | none => false

/-! ## Lenient form -/

/-- A number in decimal digits, in octal ones behind a zero, or in hexadecimal ones behind `0x`;
no digits behind such a mark are zero. -/
def lenientNumber? (cs : List Char) : Option Nat :=
  match cs with
  | [] => none
  | '0' :: 'x' :: digits | '0' :: 'X' :: digits => hexadecimal? digits
  | '0' :: c :: rest =>
    if (c :: rest).all fun d => '0' ≤ d && d ≤ '7' then
      some ((c :: rest).foldl (fun n d => n * 8 + digitValue d) 0)
    else none
  | cs => natural? cs

/-- The parts of a name between its dots. A dot may stand behind the last one. -/
def dotParts (cs : List Char) : List (List Char) :=
  let parts := cs.splitOn '.'
  if parts.getLast? = some [] then parts.dropLast else parts

/-- Whether the last part of a name is a number, so that the name has to be an address. -/
def endsInNumber (cs : List Char) : Bool :=
  match (dotParts cs).getLast? with
  | some last => (!last.isEmpty && last.all isDigit) || (lenientNumber? last).isSome
  | none => false

/-- The address of 32 bits that one to four numbers are. Each but the last one is below 256, and the
last one is below what is left. -/
def ofNumbers? (ns : List Nat) : Option Nat :=
  match ns.reverse with
  | [] => none
  | last :: before =>
    let left := 256 ^ (4 - before.length)
    if before.length ≤ 3 && before.all (· < 256) && last < left then
      some (before.reverse.foldl (fun n m => n * 256 + m) 0 * left + last)
    else none

def lenientIpv4? (cs : List Char) : Option Nat :=
  ((dotParts cs).mapM lenientNumber?).bind ofNumbers?

end EventRelay.Url
