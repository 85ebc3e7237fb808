import EventRelay.Text.Digits

/-!
# Labels with letters of all scripts

A label of a domain is written in ASCII with Punycode: the ASCII characters of the label come first,
and behind the last hyphen digits tell which other characters stand between them and where. The
digits are letters and decimal digits, 36 in all. They spell numbers of several digits each, the
least significant digit first; how large the last digit of a number can be depends on the numbers
before it.
-/

namespace EventRelay.Url.Punycode

open Text

def digit? (c : Char) : Option Nat :=
  if 'a' ≤ c && c ≤ 'z' then some (c.toNat - 'a'.toNat)
  else if 'A' ≤ c && c ≤ 'Z' then some (c.toNat - 'A'.toNat)
  else if isDigit c then some (digitValue c + 26)
  else none

/-- The least value of a digit behind which the number goes on. `place` is 36 times the place of
the digit, counted from one. -/
def threshold (place bias : Nat) : Nat :=
  if place ≤ bias then 1 else if bias + 26 ≤ place then 26 else place - bias

/-- Divides by 35 while the number is greater than 455, and counts 36 for each division. -/
def shrink : Nat → Nat → Nat → Nat × Nat
  | 0, delta, k => (delta, k)
  | fuel + 1, delta, k => if 455 < delta then shrink fuel (delta / 35) (k + 36) else (delta, k)

/-- The bias for the next number behind a number, with the length of the label. -/
def nextBias (delta length : Nat) (first : Bool) : Nat :=
  let scaled := if first then delta / 700 else delta / 2
  let (delta, k) := shrink scaled (scaled + scaled / length) 0
  k + 36 * delta / (delta + 38)

/-- A label of which the digits are being read. -/
structure Decoding where
  /-- The characters so far. -/
  label : List Char
  /-- The code of the last character that was inserted. -/
  code : Nat := 128
  bias : Nat := 72
  /-- Where the last number began to count. -/
  start : Nat := 0
  /-- The number so far, counted from the place behind the last character inserted. -/
  sum : Nat := 0
  /-- What a digit at the place counts. -/
  weight : Nat := 1
  /-- 36 times the place of the digit, counted from one. -/
  place : Nat := 36

def Decoding.isWhole (s : Decoding) : Bool := s.place = 36

/-- The state behind a digit. With the last digit of a number a character is inserted. -/
def Decoding.push? (s : Decoding) (c : Char) : Option Decoding := do
  let d ← digit? c
  let sum := s.sum + d * s.weight
  let least := threshold s.place s.bias
  if d < least then
    let length := s.label.length + 1
    let code := s.code + sum / length
    let spot := sum % length
    if code.isValidChar then
      some
        { label := s.label.take spot ++ Char.ofNat code :: s.label.drop spot
          code
          bias := nextBias (sum - s.start) length (s.start = 0)
          start := spot + 1
          sum := spot + 1 }
    else none
  else
    some { s with sum, weight := s.weight * (36 - least), place := s.place + 36 }

/-- The characters before the last hyphen, if it is not the first character, and behind it. -/
def cutAtHyphen (cs : List Char) : List Char × List Char :=
  let behind := (cs.reverse.takeWhile (· != '-')).reverse
  if behind.length + 1 < cs.length then (cs.take (cs.length - behind.length - 1), behind)
  else ([], cs)

def decode? (cs : List Char) : Option (List Char) :=
  let (basic, digits) := cutAtHyphen cs
  if basic.all (·.toNat < 128) then
    match digits.foldlM Decoding.push? { label := basic } with
    | some s => if s.isWhole then some s.label else none
    | none => none
  else none

end EventRelay.Url.Punycode
