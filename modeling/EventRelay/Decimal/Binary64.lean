import EventRelay.Text.Digits

/-!
# Binary numbers of 64 bits

A number in the binary format with 53 significant bits, held as its bits, so that two numbers are
equal exactly when their bits are. A finite number is, up to its sign, `significand · 2 ^ exponent`.
-/

namespace EventRelay

/-- A number in the 64-bit binary format: a sign, 11 bits of exponent and 52 bits of fraction. -/
structure Binary64 where
  bits : UInt64
deriving DecidableEq

namespace Binary64

def toFloat (x : Binary64) : Float := Float.ofBits x.bits

def ofFloat (x : Float) : Binary64 := ⟨x.toBits⟩

def isNegative (x : Binary64) : Bool := x.bits.toNat ≥ 2 ^ 63

def exponentField (x : Binary64) : Nat := x.bits.toNat / 2 ^ 52 % 2 ^ 11

def fractionField (x : Binary64) : Nat := x.bits.toNat % 2 ^ 52

def isFinite (x : Binary64) : Bool := x.exponentField != 2 ^ 11 - 1

def isNaN (x : Binary64) : Bool := !x.isFinite && x.fractionField != 0

/-- The significant bits as a number; a leading bit is implied unless the exponent field is 0. -/
def significand (x : Binary64) : Nat :=
  if x.exponentField = 0 then x.fractionField else x.fractionField + 2 ^ 52

/-- The power of two that the significand is multiplied by. -/
def exponent (x : Binary64) : Int :=
  (if x.exponentField = 0 then 1 else (x.exponentField : Int)) - 1075

/-- The number nearest to `digits · 10 ^ exponent`, infinite beyond the largest. Exponents that
lead far out of range are cut off first, since they change nothing. -/
def nearest (negative : Bool) (digits : Nat) (exponent : Int) : Binary64 :=
  let magnitude : Float :=
    let size : Int := (Nat.toDigits 10 digits).length + exponent
    if digits = 0 || size < -400 then 0.0
    else if size > 400 then 1.0 / 0.0
    else if exponent < 0 then Float.ofScientific digits true exponent.natAbs
    else Float.ofScientific digits false exponent.natAbs
  ofFloat (if negative then -magnitude else magnitude)

end Binary64
end EventRelay
