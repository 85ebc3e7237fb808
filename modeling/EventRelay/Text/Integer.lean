import EventRelay.Text.Digits

/-!
# Integers as text

An integer is written as digits to some base behind an optional sign. The readers here take
nothing else, neither blanks nor separators, and refuse integers that do not fit 64 bits.
-/

namespace EventRelay.Text

/-- The digits of a number to a base up to 16, with the value of those before them. -/
def digitsToBase? (base : Nat) : Nat → List Char → Option Nat
  | n, [] => some n
  | n, c :: rest =>
    match hexValue? c with
    | some d => if d < base then digitsToBase? base (n * base + d) rest else none
    | none => none

/-- A number of one digit or more to a base. -/
def magnitude? (base : Nat) (cs : List Char) : Option Nat :=
  if cs.isEmpty then none else digitsToBase? base 0 cs

def int64? (base : Nat) (cs : List Char) : Option Int :=
  match cs with
  | '-' :: digits =>
    (magnitude? base digits).bind fun n => if n ≤ 2 ^ 63 then some (-(n : Int)) else none
  | '+' :: digits | digits =>
    (magnitude? base digits).bind fun n => if n < 2 ^ 63 then some (n : Int) else none

/-- A number of 64 bits. It may have a plus sign. -/
def nat64? (cs : List Char) : Option UInt64 :=
  match cs with
  | '+' :: digits | digits =>
    (magnitude? 10 digits).bind fun n => if n < 2 ^ 64 then some n.toUInt64 else none

/-- Why a text is no number of some size. -/
inductive NumberFault where
  | empty
  | notDigit
  | tooLarge
deriving DecidableEq

def NumberFault.message : NumberFault → String
  | .empty => "cannot parse integer from empty string"
  | .notDigit => "invalid digit found in string"
  | .tooLarge => "number too large to fit in target type"

/-- The number below a limit that digits spell behind a number; the first character at which it
fails decides why. -/
def numberBelow (limit : Nat) : Nat → List Char → Except NumberFault Nat
  | n, [] => .ok n
  | n, c :: rest =>
    if isDigit c then
      if n * 10 + digitValue c < limit then numberBelow limit (n * 10 + digitValue c) rest
      else .error .tooLarge
    else .error .notDigit

/-- The number below a limit that a text spells. It may have a plus sign before its digits. -/
def readBelow (limit : Nat) : List Char → Except NumberFault Nat
  | [] => .error .empty
  | ['+'] => .error .notDigit
  | '+' :: digits | digits => numberBelow limit 0 digits

end EventRelay.Text
