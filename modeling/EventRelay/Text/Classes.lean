/-!
# Classes of characters

A property of characters is kept as a table of runs: the first and the last code of each stretch of
neighbours that all have the property, in ascending order. A character is looked up by halving.

The class of *blank* characters, those with the Unicode property `White_Space`, is small enough to
be written out. A text field of an event counts as missing when it holds nothing but blank
characters, and the reader of points in time skips blank characters between its parts.
-/

namespace EventRelay.Text

/-! ## Tables -/

/-- Looks for the run that holds `n` between the places `low` and `high`, halving the distance at
most `fuel` times. -/
def inRuns (runs : Array (Nat × Nat)) (n : Nat) : Nat → Nat → Nat → Bool
  | 0, _, _ => false
  | fuel + 1, low, high =>
    if low ≥ high then false
    else
      let middle := (low + high) / 2
      match runs[middle]? with
      | none => false
      | some (first, last) =>
        if n < first then inRuns runs n fuel low middle
        else if last < n then inRuns runs n fuel (middle + 1) high
        else true

def isIn (runs : Array (Nat × Nat)) (c : Char) : Bool :=
  inRuns runs c.toNat (runs.size + 1) 0 runs.size

/-! ## Blank text -/

def isBlank (c : Char) : Bool :=
  let n := c.toNat
  (9 ≤ n && n ≤ 13) || n == 0x20 || n == 0x85 || n == 0xa0 || n == 0x1680
    || (0x2000 ≤ n && n ≤ 0x200a) || n == 0x2028 || n == 0x2029 || n == 0x202f
    || n == 0x205f || n == 0x3000

def dropBlank (cs : List Char) : List Char := cs.dropWhile isBlank

def trim (cs : List Char) : List Char := (dropBlank (dropBlank cs).reverse).reverse

/-- A text that holds blank characters only; the empty text is one. -/
def blank (s : String) : Bool := s.toList.all isBlank

end EventRelay.Text
