import EventRelay.Text.Digits
import EventRelay.Yaml.Cursor

/-!
# Scalars of a YAML text

A scalar is a piece of text. It is plain, between quotes, or a block of indented lines. Plain and
quoted scalars may go over several lines, which are folded: a single break becomes a blank, and of
several breaks the first one is left out. Each reader takes the place of a scalar and gives its
characters with the place behind it, or tells why the text is not well formed.
-/

namespace EventRelay.Yaml

open Text

/-! ## Gaps -/

/-- What stands between two parts of a scalar. -/
inductive Gap where
  | blanks (cs : List Char)
  /-- A line break and a number of further ones. -/
  | breaks (more : Nat)
  /-- A line break that is escaped and a number of further ones. -/
  | escaped (more : Nat)

namespace Gap

/-- What is left of a gap. -/
def text : Gap → List Char
  | blanks cs => cs
  | breaks 0 => [' ']
  | breaks (n + 1) => List.replicate (n + 1) '\n'
  | escaped n => List.replicate n '\n'

/-- The gap with one more line break behind it; blanks before a break are dropped. -/
def addBreak : Gap → Gap
  | blanks _ => breaks 0
  | breaks n => breaks (n + 1)
  | escaped n => escaped (n + 1)

end Gap

/-- Reads on in a gap. `lowTab` says what becomes of a tab in the indentation of a line. The number
of characters bounds the steps. -/
def readGap (indent : Int) (lowTab : Cursor → Except Fault Cursor) :
    Nat → Cursor → Gap → Except Fault (Gap × Cursor)
  | 0, c, gap => .ok (gap, c)
  | fuel + 1, c, gap =>
    match c.peek with
    | none => .ok (gap, c)
    | some x =>
      if isBreak x then readGap indent lowTab fuel c.step gap.addBreak
      else if isSpace x then
        match gap with
        | .blanks cs => readGap indent lowTab fuel c.step (.blanks (cs ++ [x]))
        | gap =>
          if x = '\t' ∧ c.column < indent then do
            readGap indent lowTab fuel (← lowTab c) gap
          else readGap indent lowTab fuel c.step gap
      else .ok (gap, c)

/-! ## Plain scalars -/

/-- The characters of a plain scalar up to a blank, a break, a colon that ends a key, or, between
brackets, a bracket or a comma. -/
def plainRun (bracketed : Bool) : List Char → List Char
  | [] => []
  | x :: rest =>
    if isSpace x || isBreak x || (bracketed && isBracket x) then []
    else if x = ':' && (endsWord rest.head? || (bracketed && startsBracket rest.head?)) then []
    else x :: plainRun bracketed rest

/-- A tab in the indentation of a plain scalar that begins at a place stands on a line without
content. The break behind a comment on such a line is passed over, so that the line does not
count. -/
def tabOnEmptyLine (start : Mark) (c : Cursor) : Except Fault Cursor := do
  let behind ← c.skipComment
  if endsLine behind.peek then
    .ok (if c.skipSpaces.peek = some '#' then behind.step else behind)
  else start.fail .plainTab

/-- A plain scalar that begins at `start` from one of its parts on, with the text before that part
and the gap between them. The number of characters bounds the steps. -/
def plainParts (start : Mark) (indent : Int) (bracketed : Bool) :
    Nat → Cursor → List Char → Gap → Except Fault (List Char × Cursor)
  | 0, c, text, _ => .ok (text, c)
  | fuel + 1, c, text, gap =>
    if c.atDocumentMark || c.peek = some '#' then .ok (text, c)
    else if bracketed && c.peek = some '-' && startsBracket c.second then c.fail .plainHyphen
    else
      match plainRun bracketed c.rest with
      | [] => .ok (text, c)
      | run => do
        let c := c.forward run.length
        let text := text ++ gap.text ++ run
        if c.rest.isEmpty || !endsWord c.peek then .ok (text, c)
        else
          let (gap, c) ←
            readGap indent (tabOnEmptyLine start) (c.rest.length + 1) c (.blanks [])
          if !bracketed && c.column < indent then .ok (text, c)
          else plainParts start indent bracketed fuel c text gap

/-- A plain scalar, whose lines after the first are indented by `indent`. An empty one is refused,
and so is one between brackets that is not indented. -/
def readPlain (indent : Int) (bracketed : Bool) (c : Cursor) :
    Except Fault (List Char × Cursor) := do
  if bracketed && c.column < indent then c.fail .plainOutdented
  else
    let (text, behind) ←
      plainParts c.mark indent bracketed (c.rest.length + 1) c [] (.blanks [])
    if text.isEmpty then c.fail .plainEmpty else .ok (text, behind)

/-! ## Quoted scalars -/

def letterEscape? (x : Char) : Option Char :=
  [('0', '\x00'), ('a', '\x07'), ('b', '\x08'), ('t', '\t'), ('\t', '\t'), ('n', '\n'),
    ('v', '\x0b'), ('f', '\x0c'), ('r', '\r'), ('e', '\x1b'), (' ', ' '), ('"', '"'), ('/', '/'),
    ('\\', '\\'), ('N', '\u0085'), ('_', '\u00a0'), ('L', '\u2028'), ('P', '\u2029')].lookup x

def codeWidth? (x : Char) : Option Nat := [('x', 2), ('u', 4), ('U', 8)].lookup x

/-- The character that an escape behind its backslash stands for, and the length of the escape. -/
def readEscape : List Char → Except Flaw (Char × Nat)
  | [] => .error .escapeUnknown
  | x :: rest =>
    match letterEscape? x, codeWidth? x with
    | some y, _ => .ok (y, 1)
    | none, none => .error .escapeUnknown
    | none, some width =>
      let digits := rest.take width
      if digits.length < width then .error .escapeDigits
      else
        match hexadecimal? digits with
        | some n => if n.isValidChar then .ok (Char.ofNat n, 1 + width) else .error .escapeInvalid
        | none => .error .escapeDigits

/-- A part of a quoted scalar that begins at `start`, up to a blank, a break or the closing quote,
the place behind it, and whether it ends with an escaped line break. The number of characters bounds
the steps. -/
def quotedRun (start : Mark) (quote : Char) :
    Nat → Cursor → Except Fault (List Char × Cursor × Bool)
  | 0, c => .ok ([], c, false)
  | fuel + 1, c =>
    match c.rest with
    | [] => .ok ([], c, false)
    | x :: rest =>
      if isSpace x || isBreak x then .ok ([], c, false)
      else if x = quote then
        if quote = '\'' ∧ rest.head? = some '\'' then do
          let (run, behind) ← quotedRun start quote fuel (c.forward 2)
          .ok ('\'' :: run, behind)
        else .ok ([], c, false)
      else if x = '\\' ∧ quote = '"' then
        if (rest.head?.map isBreak).getD false then .ok ([], (c.forward 1).step, true)
        else
          match readEscape rest with
          | .error flaw => start.fail flaw
          | .ok (y, width) => do
            let (run, behind) ← quotedRun start quote fuel (c.forward (1 + width))
            .ok (y :: run, behind)
      else do
        let (run, behind) ← quotedRun start quote fuel (c.forward 1)
        .ok (x :: run, behind)

/-- A quoted scalar that begins at `start` from one of its parts on, with the text before that part.
No line of it may be indented less than `indent` or mark a document. The number of characters bounds
the steps. -/
def quotedParts (start : Mark) (quote : Char) (indent : Int) :
    Nat → Cursor → List Char → Except Fault (List Char × Cursor)
  | 0, _, _ => start.fail .quotedUnclosed
  | fuel + 1, c, text =>
    if c.atDocumentMark then start.fail .quotedDocument
    else if c.rest.isEmpty then start.fail .quotedUnclosed
    else if c.column < indent then start.fail .quotedOutdented
    else do
      let (run, c, escapedBreak) ← quotedRun start quote (c.rest.length + 1) c
      if c.peek = some quote then .ok (text ++ run, c.step)
      else
        let gap : Gap := if escapedBreak then .escaped 0 else .blanks []
        let (gap, c) ← readGap indent (·.fail .quotedTab) (c.rest.length + 1) c gap
        quotedParts start quote indent fuel c (text ++ run ++ gap.text)

def readQuoted (quote : Char) (indent : Int) (c : Cursor) : Except Fault (List Char × Cursor) :=
  quotedParts c.mark quote indent (c.rest.length + 1) c.step []

/-! ## Block scalars -/

/-- What becomes of the line breaks at the end of a block scalar. -/
inductive Chomping where
  /-- One break is kept, if there is one. -/
  | clip
  | strip
  | keep
deriving DecidableEq

/-- What the first line of a block scalar says: the treatment of the last breaks, and by how much
the lines are indented; 0 if that is found from the lines. -/
structure BlockHeader where
  chomping : Chomping
  increment : Nat

def chomping? : Option Char → Option Chomping
  | some '+' => some .keep
  | some '-' => some .strip
  | _ => none

/-- An increment of the indentation in the scalar that begins at `start`, if there is one, and the
place behind it; 0 is refused. -/
def readIncrement (start : Mark) (c : Cursor) : Except Fault (Nat × Cursor) :=
  match c.peek with
  | some x =>
    if x = '0' then start.fail .incrementZero
    else .ok (if isDigit x then (digitValue x, c.step) else (0, c))
  | none => .ok (0, c)

/-- The first line of a block scalar that begins at `start`, behind its indicator. The treatment of
the breaks and the increment come in any order. -/
def readHeader (start : Mark) (c : Cursor) : Except Fault (BlockHeader × Cursor) :=
  match chomping? c.peek with
  | some chomping => do
    let (increment, c) ← readIncrement start c.step
    .ok (⟨chomping, increment⟩, c)
  | none => do
    let (increment, c) ← readIncrement start c
    if increment = 0 then .ok (⟨.clip, 0⟩, c)
    else
      match chomping? c.peek with
      | some chomping => .ok (⟨chomping, increment⟩, c.step)
      | none => .ok (⟨.clip, increment⟩, c)

/-- Goes over empty lines and the indentation behind them up to a column, if one is given, counts
the lines, and notes the largest indentation. The number of characters bounds the steps. -/
def skipEmptyLines (limit : Option Nat) : Nat → Cursor → Nat → Nat → Nat × Nat × Cursor
  | 0, c, lines, widest => (lines, widest, c)
  | fuel + 1, c, lines, widest =>
    let blanks := (c.rest.takeWhile (· == ' ')).length
    let c := c.forward (match limit with
      | some n => min blanks (n - c.column)
      | none => blanks)
    let widest := max widest c.column
    if (c.peek.map isBreak).getD false then skipEmptyLines limit fuel c.step (lines + 1) widest
    else (lines, widest, c)

/-- What has been read of a block scalar. -/
structure BlockText where
  text : List Char
  /-- Whether a break ends the last line. -/
  ended : Bool
  /-- The number of empty lines behind that break. -/
  empty : Nat
  /-- The last line begins with a blank. -/
  blankFirst : Bool

/-- The text with the breaks before a next line. In a folded scalar a break between two lines that
do not begin with a blank is folded. -/
def BlockText.joined (folded blankNext : Bool) (b : BlockText) : List Char :=
  let empty := List.replicate b.empty '\n'
  if folded && b.ended && !b.blankFirst && !blankNext then
    b.text ++ (if b.empty = 0 then [' '] else empty)
  else b.text ++ (if b.ended then ['\n'] else []) ++ empty

/-- The lines of a block scalar that are indented by `indent`. The number of characters bounds the
steps. -/
def blockLines (folded : Bool) (indent : Nat) : Nat → Cursor → BlockText → BlockText × Cursor
  | 0, c, b => (b, c)
  | fuel + 1, c, b =>
    if c.rest.isEmpty || c.column ≠ indent || (indent = 0 && c.atMark '.') then (b, c)
    else
      let blank := (c.peek.map isSpace).getD false
      let (line, c) := c.span (!isBreak ·)
      let text := b.joined folded blank ++ line
      if c.rest.isEmpty then (⟨text, false, 0, blank⟩, c)
      else
        let (empty, _, c) := skipEmptyLines (some indent) (c.rest.length + 1) c.step 0 0
        blockLines folded indent fuel c ⟨text, true, empty, blank⟩

/-- The text of a block scalar behind its lines: the last breaks are chomped. A last line that the
end of the text ends counts as ended by a break. -/
def BlockText.chomped (chomping : Chomping) (indent : Nat) (c : Cursor) (b : BlockText) :
    List Char :=
  let cut := c.rest.isEmpty && max indent 1 ≤ c.column
  let last := (if b.ended then ['\n'] else []) ++ (if cut then ['\n'] else [])
  match chomping with
  | .strip => b.text
  | .clip => b.text ++ last
  | .keep => b.text ++ last ++ List.replicate b.empty '\n'

def withoutLines (chomping : Chomping) (broken : Bool) (empty : Nat) : List Char :=
  match chomping with
  | .strip => []
  | .clip => if broken then ['\n'] else []
  | .keep => if broken then List.replicate (max 1 empty) '\n' else []

/-- A block scalar at its indicator. `outer` is the indentation of the collection around it. -/
def readBlock (folded : Bool) (outer : Int) (c : Cursor) : Except Fault (List Char × Cursor) := do
  let start := c.mark
  let (header, c) ← readHeader start c.step
  let c ← c.skipComment
  if !endsLine c.peek then start.fail .headerNotEnded
  else
    let broken := !c.rest.isEmpty
    let c := c.step
    if c.peek = some '\t' then start.fail .blockTab
    else
      let fixed : Nat := (max outer 0).toNat + header.increment
      let limit := if header.increment = 0 then none else some fixed
      let (empty, widest, c) := skipEmptyLines limit (c.rest.length + 1) c 0 0
      let indent :=
        if header.increment = 0 then max widest (max (outer + 1).toNat (if outer > 0 then 1 else 0))
        else fixed
      if c.rest.isEmpty then .ok (withoutLines header.chomping broken empty, c)
      else if c.column < indent && outer < c.column then c.fail .blockOutdented
      else
        let (b, c) := blockLines folded indent (c.rest.length + 1) c ⟨[], false, empty, false⟩
        .ok (b.chomped header.chomping indent c, c)

end EventRelay.Yaml
