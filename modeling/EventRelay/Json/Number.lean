import EventRelay.Decimal.Binary64
import EventRelay.Text.Digits

/-!
# Numbers in documents

A number of a document is an integer if it is written as one and fits 64 bits, signed or unsigned;
`-0` and every other number is a binary number.

A binary number is made from at most as many leading digits as fit 64 unsigned bits: the digits
that follow are dropped, and the number is scaled by a power of ten afterwards. The result may
therefore differ in its last bit from the number nearest to the text.
-/

namespace EventRelay.Json

open Text

/-- How a text fails to be a document: it is malformed at some place, or it ends too early. -/
inductive Fault where
  | malformed
  | truncated
deriving DecidableEq, Repr

/-- A number of a document. -/
inductive Number where
  | int (n : Int)
  | real (x : Binary64)
deriving DecidableEq

/-- A number as it is written: its sign, its digits before and behind the point, and its exponent.
Without a point there are no digits behind it. -/
structure Numeral where
  negative : Bool
  whole : List Char
  places : List Char
  exponent : Option (Bool × List Char)

/-- What is read of a number: a numeral and the text behind it, or a fault. Whoever passes over a
number without using it finds all faults malformed. -/
inductive NumeralScan where
  | complete (n : Numeral) (rest : List Char)
  | broken (used : Fault)

def scanExponent (n : Numeral) (cs : List Char) : NumeralScan :=
  let (negative, cs) :=
    match cs with
    | '+' :: rest => (false, rest)
    | '-' :: rest => (true, rest)
    | rest => (false, rest)
  match cs.takeWhile isDigit with
  | [] => .broken (if cs.isEmpty then .truncated else .malformed)
  | ds => .complete { n with exponent := some (negative, ds) } (cs.dropWhile isDigit)

def scanScale (n : Numeral) : List Char → NumeralScan
  | 'e' :: rest | 'E' :: rest => scanExponent n rest
  | rest => .complete n rest

def scanFraction (n : Numeral) : List Char → NumeralScan
  | '.' :: rest =>
    match rest.takeWhile isDigit with
    | [] => .broken (if rest.isEmpty then .truncated else .malformed)
    | ds => scanScale { n with places := ds } (rest.dropWhile isDigit)
  | rest => scanScale n rest

/-- A numeral behind its sign: a zero alone, or digits that do not begin with one. -/
def scanNumeral (negative : Bool) : List Char → NumeralScan
  | [] => .broken .truncated
  | '0' :: rest =>
    if (rest.head?.map isDigit).getD false then .broken .malformed
    else scanFraction ⟨negative, ['0'], [], none⟩ rest
  | c :: rest =>
    if isDigit c then
      scanFraction ⟨negative, c :: rest.takeWhile isDigit, [], none⟩ (rest.dropWhile isDigit)
    else .broken .malformed

/-! ## The value of a numeral -/

/-- Leading digits as a number of 64 bits, and the number of digits that did not fit. -/
def gather (start : Nat) (ds : List Char) : Nat × Nat :=
  match ds with
  | [] => (start, 0)
  | d :: rest =>
    let next := start * 10 + digitValue d
    if next < 2 ^ 64 then gather next rest else (start, (d :: rest).length)

/-- The power of ten with an exponent up to 308. -/
def powerOfTen (e : Nat) : Float := Float.ofScientific 1 false e

/-- Divides by 10³⁰⁸ until the exponent is at least −308 or nothing is left. -/
def scaleDown (f : Float) (exponent : Int) : Nat → Float
  | 0 => f
  | fuel + 1 =>
    if f == 0.0 then f
    else if exponent < -308 then scaleDown (f / powerOfTen 308) (exponent + 308) fuel
    else f / powerOfTen exponent.natAbs

/-- A number of 64 bits times a power of ten; `none` if it is out of range. -/
def scale? (significand : Nat) (exponent : Int) : Option Float :=
  let f := significand.toUInt64.toFloat
  if exponent < 0 then some (scaleDown f exponent (exponent.natAbs / 308 + 1))
  else if exponent > 308 then if f == 0.0 then some f else none
  else
    let scaled := f * powerOfTen exponent.natAbs
    if scaled.isInf then none else some scaled

/-- Exponents are kept between the ends of 32 signed bits. -/
def clampExponent (e : Int) : Int := max (-2147483648) (min 2147483647 e)

/-- The value of a numeral; `none` if it is out of range. -/
def Numeral.value? (n : Numeral) : Option Number :=
  let (whole, dropped) := gather 0 n.whole
  if n.places.isEmpty && n.exponent.isNone && dropped = 0
      && (if n.negative then whole ≠ 0 && whole ≤ 2 ^ 63 else true) then
    some (.int (if n.negative then -whole else whole))
  else
    let (significand, ignored) := gather whole n.places
    let places : Int := dropped - (n.places.length - ignored : Nat)
    let signed (f : Float) : Number := .real (.ofFloat (if n.negative then -f else f))
    match n.exponent with
    | none => (scale? significand places).map signed
    | some (negative, ds) =>
      let e := digitsValue ds
      if e > 2147483647 then
        if significand ≠ 0 ∧ ¬ negative then none else some (signed 0.0)
      else
        let exponent := clampExponent (if negative then places - e else places + e)
        (scale? significand exponent).map signed

end EventRelay.Json
