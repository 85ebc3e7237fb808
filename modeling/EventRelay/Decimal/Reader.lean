import EventRelay.Decimal.Binary64
import EventRelay.Text.Digits

/-!
# Decimal numbers as text

A decimal number may have a sign, digits on one side of a point only, and an exponent. The words
for infinity and for an undefined result are numbers too, in any case. Every number becomes the
binary number nearest to it.
-/

namespace EventRelay.Binary64

open Text

/-- An exponent behind its letter, with the number of places it is lowered by. -/
def readExponent? (cs : List Char) : Option Int :=
  let (negative, digits) :=
    match cs with
    | '-' :: rest => (true, rest)
    | '+' :: rest => (false, rest)
    | rest => (false, rest)
  (natural? digits).map fun n => if negative then -(n : Int) else n

def scale? : List Char → Option Int
  | [] => some 0
  | c :: rest => if c = 'e' ∨ c = 'E' then readExponent? rest else none

/-- The words that stand for numbers, in lower case: their magnitude, if it is defined. -/
def words : List (List Char × Binary64) :=
  [("inf".toList, ⟨0x7ff0000000000000⟩), ("infinity".toList, ⟨0x7ff0000000000000⟩),
    ("nan".toList, ⟨0x7ff8000000000000⟩)]

def negated (x : Binary64) : Binary64 := ⟨x.bits ^^^ 0x8000000000000000⟩

def readUnsigned? (negative : Bool) (cs : List Char) : Option Binary64 :=
  match words.lookup (cs.map Char.toLower) with
  | some x => some (if negative then x.negated else x)
  | none =>
    let whole := cs.takeWhile isDigit
    let (places, rest) :=
      match cs.dropWhile isDigit with
      | '.' :: rest => (rest.takeWhile isDigit, rest.dropWhile isDigit)
      | rest => ([], rest)
    if whole.isEmpty && places.isEmpty then none
    else
      (scale? rest).map fun exponent =>
        nearest negative (digitsValue (whole ++ places)) (exponent - places.length)

def read? (cs : List Char) : Option Binary64 :=
  match cs with
  | '-' :: rest => readUnsigned? true rest
  | '+' :: rest | rest => readUnsigned? false rest

/-! ## Whole numbers -/

/-- The whole number nearest to a magnitude, a half being rounded up. -/
def roundedMagnitude (x : Binary64) : Nat :=
  if 0 ≤ x.exponent then x.significand * 2 ^ x.exponent.toNat
  else
    let unit := 2 ^ x.exponent.natAbs
    (2 * x.significand + unit) / (2 * unit)

/-- The number of 64 bits nearest to a number, a half being rounded up: 0 for negative and
undefined ones, the largest one for all that are larger. -/
def toUInt64 (x : Binary64) : UInt64 :=
  if x.isNaN || x.isNegative then 0
  else if x.isFinite then (min x.roundedMagnitude (2 ^ 64 - 1)).toUInt64
  else 0xffffffffffffffff

end EventRelay.Binary64
