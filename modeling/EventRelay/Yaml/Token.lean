import EventRelay.Yaml.Scalar
import EventRelay.Yaml.Tag

/-!
# Tokens of a YAML text

A YAML text is cut into tokens. Apart from the scalars and the characters with a meaning there are
tokens that stand for the layout: where a collection of indented lines begins and ends, and that a
scalar is a key, which shows only at the colon behind it.

`Token.scan` gives the tokens of a text with their places. Where the layout is wrong the tokens end;
those of which it is not settled yet whether a key begins with them are then missing.
-/

namespace EventRelay.Yaml

/-- A part of a text. -/
inductive Token where
  | directive (d : Directive)
  | documentStart
  | documentEnd
  | blockSequence
  | blockMapping
  /-- The end of a collection of indented lines. -/
  | blockEnd
  | flowSequence
  | flowSequenceEnd
  | flowMapping
  | flowMappingEnd
  /-- An item of a sequence of indented lines follows. -/
  | item
  /-- An item or a key of a collection between brackets follows. -/
  | comma
  | key
  | value
  | anchor (name : List Char)
  /-- The node of an anchor. -/
  | reference (name : List Char)
  | tag (handle suffix : List Char)
  | scalar (plain : Bool) (text : List Char)
  | textEnd
deriving DecidableEq

/-- Tokens with their places, and how they end. -/
inductive Tokens where
  | next (t : Token) (mark : Mark) (rest : Tokens)
  /-- The text ends. -/
  | textEnd (mark : Mark)
  /-- The layout of what follows is wrong. -/
  | broken (fault : Fault)

def Tokens.length : Tokens → Nat
  | .next _ _ rest => rest.length + 1
  | _ => 0

def Tokens.head : Tokens → Except Fault (Token × Mark)
  | .next t mark _ => .ok (t, mark)
  | .textEnd mark => .ok (.textEnd, mark)
  | .broken fault => .error fault

def Tokens.tail : Tokens → Tokens
  | .next _ _ rest => rest
  | ts => ts

def Tokens.ofList (ts : List (Token × Mark)) (rest : Tokens) : Tokens :=
  ts.foldr (fun (t, mark) rest => .next t mark rest) rest

namespace Token

/-! ## The state between two tokens -/

/-- Where a key may have begun. -/
structure KeyStart where
  /-- The number of tokens before it. -/
  place : Nat
  mark : Mark
  /-- Nothing but a key can stand there. -/
  required : Bool

/-- An indentation. -/
structure Level where
  /-- The indentation around it. -/
  outer : Int
  /-- It belongs to a collection; otherwise it only keeps the value of a key or an item to the
  right of the collection. -/
  isBlock : Bool

/-- What the meaning of the text from a place on depends on. -/
structure Layout where
  cursor : Cursor
  /-- The tokens so far, the latest first. -/
  tokens : List (Token × Mark)
  indent : Int
  /-- The indentations, the innermost first. -/
  levels : List Level
  /-- What may have been a key. -/
  key : Option KeyStart
  /-- The brackets around the place, the innermost first, each with what may have been a key around
  it. -/
  brackets : List (Option KeyStart)
  /-- A brace or a question mark between brackets has begun a mapping. Pairs between brackets that
  follow are then no mappings of their own. -/
  mappingBegun : Bool
  /-- A pair between brackets has begun that is a mapping of its own. -/
  pairOpen : Bool
  /-- A key may begin at the place. -/
  keyAllowed : Bool
  /-- Where a colon stands right behind something in quotes or brackets. -/
  adjacentAt : Option Nat

namespace Layout

def ofText (s : String) : Layout :=
  ⟨.ofText s, [], -1, [], none, [], false, false, true, none⟩

def inLines (s : Layout) : Bool := s.brackets.isEmpty

def push (s : Layout) (t : Token) (mark : Mark) : Layout :=
  { s with tokens := (t, mark) :: s.tokens }

/-- A token in front of those from a place on. -/
def insertAt (s : Layout) (place : Nat) (t : Token) (mark : Mark) : Layout :=
  let behind := s.tokens.length - place
  { s with tokens := s.tokens.take behind ++ (t, mark) :: s.tokens.drop behind }

/-- Indentations with those that are deeper than a column ended at a place. -/
def endDeeper (column : Int) (mark : Mark) : List Level → Int → List (Token × Mark) →
    List Level × Int × List (Token × Mark)
  | [], indent, tokens => ([], indent, tokens)
  | l :: rest, indent, tokens =>
    if column < indent then
      endDeeper column mark rest l.outer
        (if l.isBlock then (.blockEnd, mark) :: tokens else tokens)
    else (l :: rest, indent, tokens)

def outdent (s : Layout) (column : Int) : Layout :=
  if s.inLines then
    let (levels, indent, tokens) := endDeeper column s.cursor.mark s.levels s.indent s.tokens
    { s with levels, indent, tokens }
  else s

/-- Drops indentations that belong to no collection. -/
def endLoose : List Level → Int → List Level × Int
  | [], indent => ([], indent)
  | l :: rest, indent => if l.isBlock then (l :: rest, indent) else endLoose rest l.outer

/-- The state with the indentation of the innermost collection. -/
def toBlock (s : Layout) : Layout :=
  let (levels, indent) := endLoose s.levels s.indent
  { s with levels, indent }

/-- The state without an indentation that turns out to be that of a collection. -/
def claimLoose (s : Layout) (column : Nat) : Layout :=
  match s.levels with
  | l :: rest =>
    if s.indent ≤ column && !l.isBlock then { s with indent := l.outer, levels := rest } else s
  | [] => s

/-- Begins a collection of lines at a column, unless it has begun already. Its token stands in
front of those from `place` on. -/
def indentAt (s : Layout) (column place : Nat) (t : Token) (mark : Mark) : Layout :=
  if s.inLines then
    let s := s.claimLoose column
    if s.indent < column then
      { s.insertAt place t mark with levels := ⟨s.indent, true⟩ :: s.levels, indent := column }
    else s
  else s

def indentLoose (s : Layout) : Layout :=
  match s.levels with
  | l :: _ =>
    if s.inLines && l.isBlock then
      { s with levels := ⟨s.indent, false⟩ :: s.levels, indent := s.indent + 1 }
    else s
  | [] => s

/-- Notes that a key may begin at the place. It has to be one where the next key of a collection of
lines is due. -/
def noteKey (s : Layout) : Layout :=
  if s.keyAllowed then
    let c := s.cursor
    let required :=
      s.inLines && s.indent = c.column && (s.levels.head?.map Level.isBlock).getD false
    { s with key := some ⟨s.tokens.length, c.mark, required⟩ }
  else s

/-- Whether a key has to be there. -/
def isRequired (key : Option KeyStart) : Bool := (key.map KeyStart.required).getD false

/-- Gives up what may have been a key, unless it has to be one. -/
def dropKey (s : Layout) : Except Fault Layout :=
  if isRequired s.key then s.cursor.fail .keyMissing else .ok { s with key := none }

/-- The number of characters that a key outside of brackets may be away from its colon. -/
def keyReach : Nat := 1024

/-- Gives up what may have been a key where the colon cannot follow any more. -/
def dropStaleKey (s : Layout) : Except Fault Layout :=
  match s.key with
  | some k =>
    if s.inLines && (k.mark.line < s.cursor.line || k.mark.index + keyReach < s.cursor.index) then
      if k.required then s.cursor.fail .colonMissing else .ok { s with key := none }
    else .ok s
  | none => .ok s

/-- Goes on to the next token. A new line allows a key. -/
def skip (s : Layout) : Except Fault Layout := do
  let c := s.cursor
  let behind ← c.skipBetween (!s.levels.isEmpty) s.indent (c.rest.length + 1)
  .ok
    { s with
      cursor := behind
      keyAllowed := s.keyAllowed || (s.inLines && behind.line != c.line) }

/-- Goes on behind the character at the place, and over the blanks and the comment behind it. -/
def step (s : Layout) : Except Fault Layout := do
  .ok { s with cursor := ← s.cursor.step.skipComment }

/-! ## Tokens -/

def directive (s : Layout) : Except Fault Layout := do
  let s ← (s.outdent (-1)).dropKey
  let (d, c) ← readDirective s.cursor
  .ok { s.push (.directive d) s.cursor.mark with cursor := c, keyAllowed := false }

def documentMark (s : Layout) (t : Token) : Except Fault Layout := do
  let s ← (s.outdent (-1)).dropKey
  .ok { s.push t s.cursor.mark with cursor := s.cursor.forward 3, keyAllowed := false }

/-- The mark at the end of a document, which nothing else follows on its line. -/
def documentEnd (s : Layout) : Except Fault Layout := do
  let s ← s.documentMark .documentEnd
  let c ← s.cursor.skipComment
  if endsLine c.peek then .ok { s with cursor := c } else c.fail .afterDocumentEnd

def bracketLimit : Nat := 255

def openBracket (s : Layout) (isSequence : Bool) : Except Fault Layout :=
  if s.brackets.length < bracketLimit then do
    let mark := s.cursor.mark
    let s := s.noteKey.indentLoose
    let s ← step
      { s with
        brackets := s.key :: s.brackets
        mappingBegun := s.mappingBegun || !isSequence
        key := none
        keyAllowed := true }
    .ok (s.push (if isSequence then .flowSequence else .flowMapping) mark)
  else s.cursor.fail .tooManyBrackets

/-- Ends a pair that is a mapping of its own, wherever it began. -/
def endPair (s : Layout) : Layout :=
  if s.pairOpen then
    { s.push .flowMappingEnd s.cursor.mark with pairOpen := false, mappingBegun := false }
  else s

def closeBracket (s : Layout) (isSequence : Bool) : Except Fault Layout := do
  let mark := s.cursor.mark
  let s := (← s.dropKey).endPair
  let outside : Layout :=
    match s.brackets with
    | [] => s
    | outerKey :: rest => { s with brackets := rest, key := outerKey }
  let s ← step { outside with keyAllowed := false }
  .ok
    { s.push (if isSequence then .flowSequenceEnd else .flowMappingEnd) mark with
      adjacentAt := if s.inLines then s.adjacentAt else some s.cursor.index }

def comma (s : Layout) : Except Fault Layout := do
  let mark := s.cursor.mark
  let s := (← s.dropKey).endPair
  let s ← step { s with keyAllowed := true }
  .ok (s.push .comma mark)

/-- The place of an anchor or a tag right before the place, neither of them indented, within a
collection of lines. -/
def outdentedName? (s : Layout) : Option Mark :=
  match s.tokens with
  | (.anchor _, mark) :: _ | (.tag _ _, mark) :: _ =>
    if s.cursor.column = 0 && mark.column = 0 && 0 ≤ s.indent then some mark else none
  | _ => none

def item (s : Layout) : Except Fault Layout :=
  if !s.inLines then s.cursor.fail .itemInBrackets
  else if !s.keyAllowed then s.cursor.fail .itemMisplaced
  else
    match s.outdentedName? with
    | some mark => mark.fail .nameOutdented
    | none => do
      let start := s.cursor
      let c := start.step
      let s := s.indentAt start.column s.tokens.length .blockSequence start.mark
      let behind ← c.skipComment
      if (c.rest.takeWhile isSpace).contains '\t' && behind.peek = some '-'
          && endsWord behind.second then behind.fail .tabBehindItem
      else
        let s := { s with cursor := behind }
        let s :=
          if (behind.peek.map isBreak).getD false || startsBracket behind.peek then s.indentLoose
          else s
        let s ← s.dropKey
        .ok { s.push .item behind.mark with keyAllowed := true }

def explicitKey (s : Layout) : Except Fault Layout :=
  if s.inLines && !s.keyAllowed then s.cursor.fail .keyMisplaced
  else do
    let start := s.cursor
    let s := s.indentAt start.column s.tokens.length .blockMapping start.mark
    let s ← s.dropKey
    let c := start.step
    let behind := c.skipWithoutTabs (c.rest.length + 1)
    if behind.index = c.index then behind.fail .blankMissing
    else if behind.peek = some '\t' then behind.fail .tabBehindKey
    else
      .ok
        { s.push .key start.mark with
          cursor := behind
          keyAllowed := s.inLines
          mappingBegun := s.mappingBegun || !s.inLines }

/-- The place behind a colon. A tab alone must not stand between the colon and a word. -/
def behindColon (c : Cursor) : Except Fault Cursor :=
  if c.peek = some '\t' then do
    let behind ← c.skipComment
    if !(c.rest.takeWhile isSpace).contains ' ' && (behind.peek.map isNameChar).getD false then
      behind.fail .tabBehindColon
    else .ok behind
  else .ok c

/-- A colon behind a key, or before a value that has none. Between brackets it begins a pair that is
a mapping of its own, unless another mapping has begun; the key of such a pair stands on the line of
the colon. -/
def value (s : Layout) : Except Fault Layout := do
  let start := s.cursor.mark
  let pair := !s.inLines && !s.mappingBegun
  let s := { s with cursor := ← behindColon s.cursor.step, pairOpen := pair }
  match s.key with
  | some k =>
    if pair && k.mark.line < start.line then start.fail .colonOnNextLine
    else
      let s := s.insertAt k.place .key k.mark
      let s := if pair then s.insertAt k.place .flowMapping s.cursor.mark else s
      let s := (s.indentAt k.mark.column k.place .blockMapping start).indentLoose
      .ok { s.push .value start with key := none, keyAllowed := false }
  | none =>
    if s.inLines && !s.keyAllowed then start.fail .valueMisplaced
    else
      let s := if pair then s.push .flowMapping start else s
      let s := (s.indentAt start.column s.tokens.length .blockMapping start).indentLoose
      .ok { s.push .value start with keyAllowed := s.inLines }

def reference (s : Layout) : Except Fault Layout := do
  let (name, c) ← readAnchor s.cursor
  .ok { s.noteKey.push (.reference name) s.cursor.mark with cursor := c, keyAllowed := false }

def anchor (s : Layout) : Except Fault Layout := do
  let (name, c) ← readAnchor s.cursor
  .ok { s.noteKey.push (.anchor name) s.cursor.mark with cursor := c, keyAllowed := false }

def tag (s : Layout) : Except Fault Layout := do
  let (handle, suffix, c) ← readTag s.cursor
  if endsWord c.peek || (!s.inLines && startsBracket c.peek) then
    .ok { s.noteKey.push (.tag handle suffix) s.cursor.mark with cursor := c, keyAllowed := false }
  else s.cursor.fail .tagNotEnded

/-- A block scalar. A key may follow it. -/
def block (s : Layout) (folded : Bool) : Except Fault Layout := do
  let s := s.noteKey.toBlock
  let (text, c) ← readBlock folded s.indent s.cursor
  .ok { s.push (.scalar false text) s.cursor.mark with cursor := c, keyAllowed := true }

/-- What may follow a quoted scalar: the end of the line, a colon, or between brackets a comma or
a closing bracket. Outside of brackets a colon does not follow a scalar of several lines. -/
def mayFollowQuoted (s : Layout) (start : Cursor) (c : Cursor) : Bool :=
  match c.peek with
  | none => true
  | some x =>
    isBreak x || (x = ':' && (!s.inLines || start.line = c.line))
      || (!s.inLines && (x = ',' || x = ']' || x = '\x7d'))

def quoted (s : Layout) (quote : Char) : Except Fault Layout := do
  let s := { s.noteKey with keyAllowed := false }
  let start := s.cursor
  let (text, c) ← readQuoted quote s.indent start
  let c ← c.skipComment
  if s.mayFollowQuoted start c then
    let s ← skip { s with cursor := c }
    .ok { s.push (.scalar false text) start.mark with adjacentAt := some s.cursor.index }
  else c.fail .afterQuoted

/-- A plain scalar. A key may follow it on another line. -/
def plain (s : Layout) : Except Fault Layout := do
  let s := s.noteKey.toBlock
  let (text, c) ← readPlain (s.indent + 1) (!s.inLines) s.cursor
  .ok { s.push (.scalar true text) s.cursor.mark with cursor := c, keyAllowed := c.fresh }

/-- Whether the colon at the place stands before a value. -/
def atValue (s : Layout) : Bool :=
  endsWord s.cursor.second
    || (!s.inLines && (startsBracket s.cursor.second || s.adjacentAt = some s.cursor.index))

def tokenAt (s : Layout) (x : Char) : Except Fault Layout :=
  let alone := endsWord s.cursor.second
  if x = '[' then s.openBracket true
  else if x = '\x7b' then s.openBracket false
  else if x = ']' then s.closeBracket true
  else if x = '\x7d' then s.closeBracket false
  else if x = ',' then s.comma
  else if x = '-' && alone then s.item
  else if x = '?' && alone then s.explicitKey
  else if x = ':' && s.atValue then s.value
  else if x = '*' then s.reference
  else if x = '&' then s.anchor
  else if x = '!' then s.tag
  else if x = '|' && s.inLines then s.block false
  else if x = '>' && s.inLines then s.block true
  else if x = '\'' || x = '"' then s.quoted x
  else if x = '%' || x = '@' || x = '\x60' then s.cursor.fail (.character x)
  else s.plain

def token (s : Layout) (x : Char) : Except Fault Layout :=
  let c := s.cursor
  if c.column = 0 && x = '%' then s.directive
  else if c.atMark '-' then s.documentMark .documentStart
  else if c.atMark '.' then s.documentEnd
  else if c.column < s.indent then c.fail .outdented
  else s.tokenAt x

/-- The end of the text, where no key may be missing. -/
def finish (s : Layout) : Except Fault Layout :=
  let s := { s with cursor := s.cursor.closed }
  if (s.key :: s.brackets).any isRequired then s.cursor.fail .keyMissing
  else .ok (s.outdent (-1))

/-- The number of tokens of which it is settled that no key begins with them. -/
def settled (s : Layout) : Nat :=
  ((s.key :: s.brackets).filterMap fun key => key.map KeyStart.place).foldl min s.tokens.length

def next (s : Layout) : Except Fault (Layout ⊕ Layout) := do
  let s ← (← s.skip).dropStaleKey
  let s := s.outdent s.cursor.column
  match s.cursor.peek with
  | none => (s.finish).map .inr
  | some x => (← s.token x).dropStaleKey.map .inl

/-- The tokens of a text from a place on behind those before it. The number of characters bounds the
steps. -/
def toTokens : Nat → Layout → Tokens
  | 0, s => .ofList s.tokens.reverse (.textEnd s.cursor.mark)
  | fuel + 1, s =>
    match s.next with
    | .error fault => .ofList (s.tokens.reverse.take s.settled) (.broken fault)
    | .ok (.inr s) => .ofList s.tokens.reverse (.textEnd s.cursor.mark)
    | .ok (.inl s) => toTokens fuel s

end Layout

def scan (s : String) : Tokens := Layout.toTokens (s.length + 2) (.ofText s)

end Token
end EventRelay.Yaml
