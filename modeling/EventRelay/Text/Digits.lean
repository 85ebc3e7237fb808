/-!
# Runs of decimal digits

Writing a natural number in base ten, with leading zeros where a column asks for them, and reading
a run of the digits `0` to `9` back.
-/

namespace EventRelay

/-- The powers of natural numbers, above all of ten. Libraries bring an instance of their own, equal
to that of the language but built another way. This one comes first wherever it is in scope, so that
a power written in a definition and the same power written in a statement about it are the same
term. -/
@[default_instance 20000]
instance powNat : Pow Nat Nat := instPowNat

namespace Text

/-- The ten decimal digits of ASCII; no other script's digits count. -/
def isDigit (c : Char) : Bool := '0' ≤ c && c ≤ '9'

def digitValue (c : Char) : Nat := c.toNat - '0'.toNat

def digitsValue (cs : List Char) : Nat := cs.foldl (fun n c => n * 10 + digitValue c) 0

/-- A number in base ten, without leading zeros. -/
def decimal (n : Nat) : List Char := Nat.toDigits 10 n

/-- A number in base ten, filled up with zeros on the left to at least `width` digits. -/
def padded (width n : Nat) : List Char :=
  List.replicate (width - (decimal n).length) '0' ++ decimal n

def signed (n : Int) : List Char :=
  if n < 0 then '-' :: decimal n.natAbs else decimal n.natAbs

/-- The number that a text of one digit or more spells; `none` if anything else stands in it. -/
def natural? (cs : List Char) : Option Nat :=
  if cs.isEmpty || !cs.all isDigit then none else some (digitsValue cs)

def hexValue? (c : Char) : Option Nat :=
  if isDigit c then some (digitValue c)
  else if 'a' ≤ c && c ≤ 'f' then some (c.toNat - 'a'.toNat + 10)
  else if 'A' ≤ c && c ≤ 'F' then some (c.toNat - 'A'.toNat + 10)
  else none

def hexDigit (n : Nat) : Char :=
  if n < 10 then Char.ofNat (48 + n) else Char.ofNat (87 + n)

def hexadecimal? (cs : List Char) : Option Nat :=
  cs.foldl (fun acc c => acc.bind fun n => (hexValue? c).map (n * 16 + ·)) (some 0)

end Text
end EventRelay
