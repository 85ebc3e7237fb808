import EventRelay.Decimal.Binary64

/-!
# The fewest digits that read back

A finite binary number stands for all the reals that round to it, an interval around it that
includes its ends when the significand is even. Of the decimal numbers in the interval those with
the fewest digits are sought, and of these the nearest one, by exact arithmetic on natural numbers:
on the grid of decimals with a given number of digits only the two neighbours of the number can be
the nearest ones in the interval.
-/

namespace EventRelay

/-- The number `digits · 10 ^ exponent`. -/
structure Decimal where
  digits : Nat
  exponent : Int
deriving DecidableEq, Repr

namespace Decimal

/-- The reals that round to one binary number: those between `low / unit` and `high / unit`, the
number itself being `value / unit`. -/
structure Interval where
  low : Nat
  value : Nat
  high : Nat
  unit : Nat
  closed : Bool

/-- The interval of a finite number other than zero. Its lower half is half as wide where the
significand is the smallest of its binade. -/
def Interval.around (x : Binary64) : Interval :=
  let m := x.significand
  let q := x.exponent - 2
  let below := if x.fractionField = 0 ∧ x.exponentField > 1 then 1 else 2
  let factor := 2 ^ q.toNat
  ⟨(4 * m - below) * factor, 4 * m * factor, (4 * m + 2) * factor, 2 ^ (-q).toNat, m % 2 == 0⟩

def Interval.contains (i : Interval) (d : Decimal) : Bool :=
  let up := 10 ^ (-d.exponent).toNat
  let here := d.digits * 10 ^ d.exponent.toNat * i.unit
  if i.closed then i.low * up ≤ here && here ≤ i.high * up
  else i.low * up < here && here < i.high * up

def Interval.leadingPlace (i : Interval) : Int :=
  if i.value ≥ i.unit then ((Nat.toDigits 10 (i.value / i.unit)).length : Int) - 1
  else
    match (List.range 400).find? fun j => i.unit ≤ i.value * 10 ^ j with
    | some j => -(j : Int)
    | none => 0

/-- The decimal nearest to the number on the grid of multiples of `10 ^ place`, if one of its two
neighbours there lies in the interval. -/
def Interval.onGrid? (i : Interval) (place : Int) : Option Decimal :=
  let up := i.value * 10 ^ (-place).toNat
  let step := i.unit * 10 ^ place.toNat
  let lower : Decimal := ⟨up / step, place⟩
  let upper : Decimal := ⟨up / step + 1, place⟩
  let remainder := up % step
  let lowerNearer := 2 * remainder < step || (2 * remainder == step && lower.digits % 2 == 0)
  match i.contains lower, i.contains upper with
  | true, true => some (if lowerNearer then lower else upper)
  | true, false => some lower
  | false, true => some upper
  | false, false => none

/-- Tries grids that are finer and finer, at most `tries` of them. -/
def Interval.firstOn (i : Interval) (place : Int) : Nat → Decimal
  | 0 => ⟨i.value / i.unit, 0⟩
  | tries + 1 =>
    match i.onGrid? place with
    | some d => d
    | none => i.firstOn (place - 1) tries

/-- The same number without trailing zeros among its digits; `fuel` bounds their number. -/
def stripZeros (d : Decimal) : Nat → Decimal
  | 0 => d
  | fuel + 1 =>
    if d.digits ≠ 0 ∧ d.digits % 10 = 0 then stripZeros ⟨d.digits / 10, d.exponent + 1⟩ fuel else d

/-- The decimal with the fewest digits that rounds to the magnitude of a finite number; seventeen
digits always suffice. -/
def shortest (x : Binary64) : Decimal :=
  if x.significand = 0 then ⟨0, 0⟩
  else
    let i := Interval.around x
    (i.firstOn i.leadingPlace 17).stripZeros 400

end Decimal
end EventRelay
