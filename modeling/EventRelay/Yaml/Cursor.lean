import EventRelay.Yaml.Fault

/-!
# Places in a YAML text

The meaning of a YAML text depends on its layout. A cursor is a place in a text together with what
the layout depends on: the line, the column, and whether anything but blanks stands before the
place on its line.
-/

namespace EventRelay.Yaml

def isSpace (c : Char) : Bool := c == ' ' || c == '\t'

/-- A line feed or a carriage return; both together are one line break. -/
def isBreak (c : Char) : Bool := c == '\n' || c == '\r'

/-- A character with which collections between brackets are written. -/
def isBracket (c : Char) : Bool :=
  c == ',' || c == '[' || c == ']' || c == '\x7b' || c == '\x7d'

/-- No more characters on the line: a break, or the end of the text. -/
def endsLine : Option Char → Bool
  | some c => isBreak c
  | none => true

/-- No more characters of a word: a blank, a break, or the end of the text. -/
def endsWord : Option Char → Bool
  | some c => isSpace c || isBreak c
  | none => true

def startsBracket : Option Char → Bool
  | some c => isBracket c
  | none => false

/-- A place in a text. -/
structure Cursor where
  /-- The text from the place on. -/
  rest : List Char
  /-- The number of characters before the place. -/
  index : Nat
  line : Nat
  column : Nat
  /-- Only blanks stand before the place on its line. -/
  fresh : Bool
deriving Repr

namespace Cursor

/-- The beginning of a text. A text ends at its first character U+0000. -/
def ofText (s : String) : Cursor := ⟨s.toList.takeWhile (· != '\x00'), 0, 0, 0, true⟩

/-- The place as faults tell it. -/
def mark (c : Cursor) : Mark := ⟨c.index, c.line, c.column⟩

def fail {α : Type} (c : Cursor) (flaw : Flaw) : Except Fault α := c.mark.fail flaw

def peek (c : Cursor) : Option Char := c.rest.head?

def second (c : Cursor) : Option Char := c.rest[1]?

def forward (c : Cursor) (n : Nat) : Cursor where
  rest := c.rest.drop n
  index := c.index + (c.rest.take n).length
  line := c.line
  column := c.column + (c.rest.take n).length
  fresh := c.fresh && (c.rest.take n).all isSpace

def nextLine (c : Cursor) (width : Nat) (rest : List Char) : Cursor :=
  ⟨rest, c.index + width, c.line + 1, 0, true⟩

def step (c : Cursor) : Cursor :=
  match c.rest with
  | '\r' :: '\n' :: rest => c.nextLine 2 rest
  | x :: rest => if isBreak x then c.nextLine 1 rest else c.forward 1
  | [] => c

/-- The characters of one kind that follow, none of them a line break, and the place behind them. -/
def span (kind : Char → Bool) (c : Cursor) : List Char × Cursor :=
  let run := c.rest.takeWhile kind
  (run, c.forward run.length)

def skipSpaces (c : Cursor) : Cursor := (c.span isSpace).2

def toLineEnd (c : Cursor) : Cursor := (c.span (!isBreak ·)).2

/-- The place behind blanks and a comment. A comment must not touch what stands before it. -/
def skipComment (c : Cursor) : Except Fault Cursor :=
  let behind := c.skipSpaces
  if behind.peek = some '#' then
    if behind.index = c.index then c.fail .commentTouches else .ok behind.toLineEnd
  else .ok behind

def atMark (x : Char) (c : Cursor) : Bool :=
  c.column = 0 && c.rest.take 3 == [x, x, x] && endsWord c.rest[3]?

def atDocumentMark (c : Cursor) : Bool := c.atMark '-' || c.atMark '.'

/-- Goes over blanks, breaks and comments, as long as there are any. A tab is refused where it
would be taken for indentation, unless nothing else stands on its line. The number of characters
bounds the steps. -/
def skipBetween (inBlock : Bool) (indent : Int) : Nat → Cursor → Except Fault Cursor
  | 0, c => .ok c
  | fuel + 1, c =>
    match c.peek with
    | none => .ok c
    | some x =>
      if x = '\t' ∧ inBlock = true ∧ c.fresh = true ∧ c.column < indent then do
        let c ← c.skipComment
        if endsLine c.peek then skipBetween inBlock indent fuel c else c.fail .tabIndents
      else if isSpace x || isBreak x then skipBetween inBlock indent fuel c.step
      else if x = '#' then skipBetween inBlock indent fuel c.toLineEnd
      else .ok c

/-- Goes over breaks, comments and blanks other than tabs, as long as there are any. The number of
characters bounds the steps. -/
def skipWithoutTabs : Nat → Cursor → Cursor
  | 0, c => c
  | fuel + 1, c =>
    match c.peek with
    | none => c
    | some x =>
      if x = ' ' || isBreak x then skipWithoutTabs fuel c.step
      else if x = '#' then skipWithoutTabs fuel c.toLineEnd
      else c

/-- The end of a text, which ends the last line too. -/
def closed (c : Cursor) : Cursor :=
  if c.column = 0 then c else { c with line := c.line + 1, column := 0, fresh := true }

end Cursor
end EventRelay.Yaml
