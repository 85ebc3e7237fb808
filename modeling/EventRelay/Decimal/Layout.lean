import EventRelay.Decimal.Shortest
import EventRelay.Text.Digits

/-!
# Laying out a decimal number

The digits of a number say nothing about where its point goes. A layout decides it: which numbers
are written out in positions and which get an exponent, and whether a whole number ends in `.0`.
-/

namespace EventRelay.Decimal

open Text

/-- The choices in writing a decimal number. -/
structure Layout where
  /-- The places of the leading digit, first and one past the last, for which a number is written
  out; without bounds every number is. -/
  positional : Option (Int × Int)
  /-- Whether `.0` follows a number that has no fraction and no exponent. -/
  wholeMark : Bool

/-- Numbers in documents: positional from 10⁻⁵ up to 10¹⁶, whole numbers with `.0`. -/
def Layout.document : Layout := ⟨some (-5, 16), true⟩

/-- Numbers in messages: always positional, whole numbers with `.0`. -/
def Layout.message : Layout := ⟨none, true⟩

/-- Numbers that become the text of a setting: always positional, whole numbers without a mark. -/
def Layout.setting : Layout := ⟨none, false⟩

/-- The digits with the point after the place with exponent 0. -/
def positionalText (wholeMark : Bool) (d : Decimal) : List Char :=
  let ds := decimal d.digits
  let whole : List Char → List Char := fun cs => if wholeMark then cs ++ ['.', '0'] else cs
  if d.digits = 0 then whole ['0']
  else if 0 ≤ d.exponent then whole (ds ++ List.replicate d.exponent.toNat '0')
  else
    let places := d.exponent.natAbs
    if places < ds.length then
      ds.take (ds.length - places) ++ '.' :: ds.drop (ds.length - places)
    else '0' :: '.' :: List.replicate (places - ds.length) '0' ++ ds

def scientificText (place : Int) (d : Decimal) : List Char :=
  let mantissa :=
    match decimal d.digits with
    | [] => []
    | [c] => [c]
    | c :: more => c :: '.' :: more
  mantissa ++ 'e' :: (if place < 0 then '-' else '+') :: decimal place.natAbs

def text (l : Layout) (d : Decimal) : List Char :=
  let place := (decimal d.digits).length + d.exponent - 1
  match l.positional with
  | some (low, high) =>
    if d.digits = 0 ∨ (low ≤ place ∧ place < high) then positionalText l.wholeMark d
    else scientificText place d
  | none => positionalText l.wholeMark d

end EventRelay.Decimal

namespace EventRelay.Binary64

def text (l : Decimal.Layout) (x : Binary64) : List Char :=
  if x.isNaN then ['N', 'a', 'N']
  else
    let magnitude := if x.isFinite then (Decimal.shortest x).text l else ['i', 'n', 'f']
    if x.isNegative then '-' :: magnitude else magnitude

end EventRelay.Binary64
