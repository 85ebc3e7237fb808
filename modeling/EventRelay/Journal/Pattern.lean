import EventRelay.Text.Digits

/-!
# Patterns for the values of fields

A rule of a filter may ask for the value of a field by a pattern. No rule with a pattern ever
applies to an entry, but a filter with a pattern that is not well formed cannot be read. So nothing
is kept of a pattern but whether it is well formed: its groups and sets are closed, every repetition
has something to repeat, and every backslash stands before something that it goes with.

A pattern is taken from between braces and ends before the first comma or closing brace. So no
repetition with counts is ever complete, nor is a class of characters by name.
-/

namespace EventRelay.Journal.Pattern

open Text

def afterHex? (count : Nat) (cs : List Char) : Option (List Char) :=
  let digits := cs.take count
  if digits.length = count ∧ digits.all (hexValue? · |>.isSome) then some (cs.drop count) else none

/-- What stands behind a backslash: a character, or a class of characters, and the rest. -/
def escape? : List Char → Option (Option Char × List Char)
  | [] => none
  | c :: rest =>
    if c ∈ ['d', 'D', 's', 'S', 'w', 'W'] then some (none, rest)
    else if c = 'p' ∨ c = 'P' then
      match rest with
      | d :: rest => if d ∈ ['C', 'L', 'M', 'N', 'P', 'S', 'Z'] then some (none, rest) else none
      | [] => none
    else if c = 'x' ∨ c = 'u' ∨ c = 'U' then
      let count := if c = 'x' then 2 else if c = 'u' then 4 else 8
      match afterHex? count rest, hexadecimal? (rest.take count) with
      | some behind, some n => if n.isValidChar then some (some (Char.ofNat n), behind) else none
      | _, _ => none
    else
      match [('a', '\x07'), ('f', '\x0c'), ('t', '\t'), ('n', '\n'), ('r', '\r'),
          ('v', '\x0b')].lookup c with
      | some x => some (some x, rest)
      | none =>
        if c.toNat < 0x80 ∧ ¬ c.isAlphanum ∧ c ≠ '<' ∧ c ≠ '>' then some (some c, rest) else none

def member? : List Char → Option (Option Char × List Char)
  | [] => none
  | '\\' :: rest => escape? rest
  | c :: rest => some (some c, rest)

/-- The text behind the beginning of a set: an exclusion mark, hyphens, and a bracket that comes
first stand there for themselves. -/
def behindSetStart (cs : List Char) : List Char :=
  let cs := match cs with
    | '^' :: rest | rest => rest
  match cs with
  | '-' :: rest => rest.dropWhile (· == '-')
  | ']' :: rest | rest => rest

/-- The text behind a set, inside `depth` others, some of whose members have been read. The number
of characters bounds the steps. -/
def afterMembers? : Nat → Nat → List Char → Option (List Char)
  | 0, _, _ => none
  | _ + 1, _, [] => none
  | fuel + 1, depth, ']' :: rest =>
    if depth = 0 then some rest else afterMembers? fuel (depth - 1) rest
  | fuel + 1, depth, '[' :: rest => afterMembers? fuel (depth + 1) (behindSetStart rest)
  | fuel + 1, depth, cs =>
    match member? cs with
    | none => none
    | some (first, '-' :: more) =>
      if more.head? = some ']' ∨ more.head? = some '-' then afterMembers? fuel depth more
      else
        match first, member? more with
        | some a, some (some b, rest) => if a ≤ b then afterMembers? fuel depth rest else none
        | _, _ => none
    | some (_, rest) => afterMembers? fuel depth rest

/-- The text behind a set whose bracket has been read. -/
def afterSet? (cs : List Char) : Option (List Char) :=
  afterMembers? (cs.length + 1) 0 (behindSetStart cs)

/-- What stands behind the mark of a special group: whether it opens a group, and the rest. -/
def groupHead? (cs : List Char) : Option (Bool × List Char) :=
  let name? (cs : List Char) : Option (Bool × List Char) :=
    let name := cs.takeWhile (· != '>')
    match cs.dropWhile (· != '>') with
    | '>' :: rest =>
      if name.isEmpty || (name.head?.map Char.isDigit).getD true
          || !name.all fun c => c.isAlphanum || c == '_' || c == '.' then none
      else some (true, rest)
    | _ => none
  match cs with
  | 'P' :: '<' :: rest => name? rest
  | '<' :: rest => name? rest
  | cs =>
    let flags := cs.takeWhile fun c => c ∈ ['i', 'm', 's', 'U', 'u', 'R', 'x', '-']
    match cs.dropWhile fun c => c ∈ ['i', 'm', 's', 'U', 'u', 'R', 'x', '-'] with
    | ':' :: rest => if flags.getLast? = some '-' then none else some (true, rest)
    | ')' :: rest => if flags.isEmpty || flags.getLast? = some '-' then none else some (false, rest)
    | _ => none

/-- Whether the rest of a pattern is well formed, inside `depth` groups; `repeatable` says whether
something to repeat stands before it. The number of characters bounds the steps. -/
def restWellFormed : Nat → Nat → Bool → List Char → Bool
  | _, depth, _, [] => depth == 0
  | 0, _, _, _ :: _ => false
  | fuel + 1, depth, repeatable, c :: rest =>
    if c = '(' then
      match rest with
      | '?' :: more =>
        match groupHead? more with
        | some (true, rest) => restWellFormed fuel (depth + 1) false rest
        | some (false, rest) => restWellFormed fuel depth false rest
        | none => false
      | rest => restWellFormed fuel (depth + 1) false rest
    else if c = ')' then depth != 0 && restWellFormed fuel (depth - 1) true rest
    else if c = '|' then restWellFormed fuel depth false rest
    else if c = '*' ∨ c = '+' ∨ c = '?' then
      repeatable
        && restWellFormed fuel depth true (if rest.head? = some '?' then rest.drop 1 else rest)
    else if c = '\x7b' then false
    else if c = '[' then
      match afterSet? rest with
      | some rest => restWellFormed fuel depth true rest
      | none => false
    else if c = '\\' then
      match rest with
      | 'A' :: rest | 'z' :: rest => restWellFormed fuel depth true rest
      | rest =>
        match escape? rest with
        | some (_, rest) => restWellFormed fuel depth true rest
        | none => false
    else restWellFormed fuel depth true rest

def wellFormed (cs : List Char) : Bool := restWellFormed cs.length 0 false cs

end EventRelay.Journal.Pattern
