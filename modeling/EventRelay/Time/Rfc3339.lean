import EventRelay.Text.Classes
import EventRelay.Time.Instant

/-!
# Points in time as text

Points are written as RFC 3339 has it, in UTC with a final `Z`, and with the fewest of 0, 3, 6 or 9
fractional digits that are exact; years outside 0 to 9999 carry a sign.

They are read leniently: the fields may have one digit or two, blanks may stand before a field and
around its separators, the offset may be `Z`, `UTC` or hours and minutes with or without a colon,
and digits of the fraction beyond the ninth are dropped.
-/

namespace EventRelay

open Text

/-! ## Writing -/

namespace Instant

/-- A year has at least four digits; outside 0 to 9999 it has a sign. -/
def yearText (year : Int) : List Char :=
  if 0 ≤ year ∧ year ≤ 9999 then padded 4 year.toNat
  else if year < 0 then '-' :: padded 4 year.natAbs
  else '+' :: padded 4 year.natAbs

/-- The fraction of a second: nothing, or a point with 3, 6 or 9 digits. -/
def fractionText (nano : Nat) : List Char :=
  if nano = 0 then []
  else if nano % 1000000 = 0 then '.' :: padded 3 (nano / 1000000)
  else if nano % 1000 = 0 then '.' :: padded 6 (nano / 1000)
  else '.' :: padded 9 nano

def text (t : Instant) : List Char :=
  let date := Calendar.dateOf (t.second / 86400)
  let inDay := (t.second % 86400).toNat
  let second := inDay % 60 + t.nano / nanosPerSecond
  yearText date.year ++ '-' :: padded 2 date.month ++ '-' :: padded 2 date.day
    ++ 'T' :: padded 2 (inDay / 3600) ++ ':' :: padded 2 (inDay / 60 % 60)
    ++ ':' :: padded 2 second ++ fractionText (t.nano % nanosPerSecond) ++ ['Z']

end Instant

/-! ## Reading -/

/-- Why a text is no point in time. -/
inductive TimeFault where
  /-- The text stops before the point is complete. -/
  | tooShort
  /-- A character stands where it cannot. -/
  | invalid
  /-- A field has a value that it cannot have. -/
  | outOfRange
  /-- The offset leads beyond the ends of time. -/
  | impossible
  /-- Something stands behind the point. -/
  | trailing
deriving DecidableEq, Repr

def TimeFault.message : TimeFault → String
  | .tooShort => "premature end of input"
  | .invalid => "input contains invalid characters"
  | .outOfRange => "input is out of range"
  | .impossible => "no possible date and time matching input"
  | .trailing => "trailing input"

namespace Rfc3339

/-- A number of one to `width` digits, blanks before it skipped. -/
def number (width : Nat) (cs : List Char) : Except TimeFault (Nat × List Char) :=
  let cs := dropBlank cs
  match (cs.take width).takeWhile isDigit with
  | [] => .error (if cs.isEmpty then .tooShort else .invalid)
  | digits => .ok (digitsValue digits, cs.drop digits.length)

def field (low high : Nat) (cs : List Char) : Except TimeFault (Nat × List Char) := do
  let (n, rest) ← number 2 cs
  if low ≤ n ∧ n ≤ high then .ok (n, rest) else .error .outOfRange

/-- A run of digits behind the sign of a year. -/
def signedYear (cs : List Char) : Except TimeFault (Nat × List Char) :=
  match cs.takeWhile isDigit with
  | [] => .error (if cs.isEmpty then .tooShort else .invalid)
  | digits => .ok (digitsValue digits, cs.drop digits.length)

def year (cs : List Char) : Except TimeFault (Int × List Char) := do
  let (n, rest) ← match dropBlank cs with
    | '-' :: rest => (signedYear rest).map fun (n, rest) => (-(n : Int), rest)
    | '+' :: rest => (signedYear rest).map fun (n, rest) => ((n : Int), rest)
    | rest => (number 4 rest).map fun (n, rest) => ((n : Int), rest)
  if -2147483648 ≤ n ∧ n ≤ 2147483647 then .ok (n, rest) else .error .outOfRange

/-- A separator, blanks before it skipped. -/
def separator (c : Char) (cs : List Char) : Except TimeFault (List Char) :=
  match dropBlank cs with
  | [] => .error .tooShort
  | x :: rest => if x = c then .ok rest else .error .invalid

/-- The date and the time of day are set apart by `T` of either case or by a space. -/
def dateTimeSeparator : List Char → Except TimeFault (List Char)
  | [] => .error .tooShort
  | c :: rest => if c = 'T' ∨ c = 't' ∨ c = ' ' then .ok rest else .error .invalid

/-- The nanoseconds behind a point, if a point follows; digits beyond the ninth are dropped. -/
def fraction : List Char → Except TimeFault (Nat × List Char)
  | '.' :: rest =>
    match (rest.take 9).takeWhile isDigit with
    | [] => .error (if rest.isEmpty then .tooShort else .invalid)
    | digits =>
      .ok (digitsValue digits * 10 ^ (9 - digits.length),
        (rest.drop digits.length).dropWhile isDigit)
  | rest => .ok (0, rest)

def offsetDigits : List Char → Except TimeFault ((Nat × Nat) × List Char)
  | a :: b :: rest =>
    if isDigit a && isDigit b then .ok ((digitValue a, digitValue b), rest) else .error .invalid
  | [c] => .error (if c.utf8Size ≥ 2 then .invalid else .tooShort)
  | [] => .error .tooShort

def offsetSeconds (cs : List Char) : Except TimeFault (Nat × List Char) := do
  let ((h, h'), rest) ← offsetDigits cs
  let ((m, m'), rest) ← offsetDigits (rest.dropWhile fun c => c == ':' || isBlank c)
  if m ≥ 6 then .error .outOfRange
  else .ok ((h * 10 + h') * 3600 + (m * 10 + m') * 60, rest)

def offset (cs : List Char) : Except TimeFault (Int × List Char) :=
  let signed (rest : List Char) (sign : Int) : Except TimeFault (Int × List Char) :=
    (offsetSeconds rest).map fun (s, rest) => (sign * s, rest)
  match cs with
  | [] => .error .tooShort
  | 'Z' :: rest | 'z' :: rest => .ok (0, rest)
  | '+' :: rest => signed rest 1
  | '-' :: rest | '\u2212' :: rest => signed rest (-1)
  | u :: t :: c :: rest =>
    if u.toLower = 'u' ∧ t.toLower = 't' ∧ c.toLower = 'c' then .ok (0, rest) else .error .invalid
  | _ => .error .invalid

def assemble (date : Calendar.Date) (hour minute second nano : Nat) (offset : Int) :
    Except TimeFault Instant :=
  if ¬ date.valid ∨ date.year < -262143 ∨ 262142 < date.year then .error .outOfRange
  else if offset ≤ -86400 ∨ 86400 ≤ offset then .error .outOfRange
  else
    let inLeap := second = 60
    let inDay := hour * 3600 + minute * 60 + (if inLeap then 59 else second)
    let nano := if inLeap then nano + nanosPerSecond else nano
    match Instant.ofParts? (Calendar.dayNumber date * 86400 + inDay - offset) nano with
    | some t => .ok t
    | none => .error .impossible

end Rfc3339

open Rfc3339 in
def Instant.read (cs : List Char) : Except TimeFault Instant := do
  let (year, rest) ← year cs
  let rest ← separator '-' rest
  let (month, rest) ← field 1 12 rest
  let rest ← separator '-' rest
  let (day, rest) ← field 1 31 rest
  let rest ← dateTimeSeparator rest
  let (hour, rest) ← field 0 23 rest
  let rest ← separator ':' rest
  let (minute, rest) ← field 0 59 rest
  let rest ← separator ':' rest
  let (second, rest) ← field 0 60 rest
  let (nano, rest) ← fraction rest
  let (offset, rest) ← offset (dropBlank rest)
  if (dropBlank rest).isEmpty then assemble ⟨year, month, day⟩ hour minute second nano offset
  else .error .trailing

end EventRelay
