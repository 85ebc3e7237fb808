import EventRelay.Text.Digits
import EventRelay.Yaml.Cursor

/-!
# Names in a YAML text

Anchors give names to nodes. Tags say what kind of node something is: a tag has a handle, which
stands for the beginning of a name, and a suffix. Directives in front of a document say what a
handle stands for. Each reader takes the place of a name and gives it with the place behind it, or
tells why it is not well formed; most faults are told of the place where the anchor, the tag or the
directive begins.
-/

namespace EventRelay.Yaml

open Text

def isNameChar (c : Char) : Bool := c.isAlphanum || c == '_' || c == '-'

def isUriChar (c : Char) : Bool :=
  isNameChar c || isBracket c && c != '\x7b' && c != '\x7d'
    || "#;/?:@&=+$.!~*'()%".toList.contains c

def isSuffixChar (c : Char) : Bool := isUriChar c && !isBracket c && c != '!'

def isAnchorChar (c : Char) : Bool :=
  !isSpace c && !isBreak c && !isBracket c && c != '\ufeff'

def readAnchor (c : Cursor) : Except Fault (List Char × Cursor) :=
  match (c.forward 1).span isAnchorChar with
  | ([], _) => c.fail .anchorEmpty
  | named => .ok named

/-! ## Characters of URIs -/

def octet? (cs : List Char) : Option Nat :=
  match cs.take 3 with
  | '%' :: digits => if digits.length = 2 then hexadecimal? digits else none
  | _ => none

/-- The number of octets that a first octet announces. -/
def octetCount? (first : Nat) : Option Nat :=
  if first < 0x80 then some 1
  else if first / 0x20 = 6 then some 2
  else if first / 0x10 = 14 then some 3
  else if first / 8 = 30 then some 4
  else none

/-- The further octets of a character behind what the ones before them make up together. -/
def readOctets (start : Mark) : Nat → Cursor → Nat → Except Fault (Nat × Cursor)
  | 0, c, code => .ok (code, c)
  | more + 1, c, code =>
    match octet? c.rest with
    | none => start.fail .octetDigits
    | some octet =>
      if octet / 0x40 = 2 then readOctets start more (c.forward 3) (code * 256 + octet)
      else start.fail .octetTrailing

/-- A character that is written as octets. The octets make up its code as digits to the base
256. -/
def readEscaped (start : Mark) (c : Cursor) : Except Fault (Char × Cursor) :=
  match octet? c.rest with
  | none => start.fail .octetDigits
  | some first =>
    match octetCount? first with
    | none => start.fail .octetLeading
    | some count => do
      let (code, c) ← readOctets start (count - 1) (c.forward 3) first
      if code.isValidChar then .ok (Char.ofNat code, c) else start.fail .octetsInvalid

/-- The characters of one kind that follow, a percent sign being one of the kind and beginning an
escaped character. The number of characters bounds the steps. -/
def readUri (start : Mark) (kind : Char → Bool) : Nat → Cursor → Except Fault (List Char × Cursor)
  | 0, c => .ok ([], c)
  | fuel + 1, c =>
    match c.peek with
    | none => .ok ([], c)
    | some x =>
      if kind x then do
        let (y, c) ← if x = '%' then readEscaped start c else .ok (x, c.forward 1)
        let (run, c) ← readUri start kind fuel c
        .ok (y :: run, c)
      else .ok ([], c)

/-! ## Tags -/

def coreNamespace : List Char := "tag:yaml.org,2002:".toList

/-- A handle: `!`, `!!` or a name between exclamation marks. Without the second mark it is the
beginning of a tag and no handle, which a directive does not allow. -/
def readHandle (start : Mark) (inDirective : Bool) (c : Cursor) :
    Except Fault (List Char × Cursor) :=
  if c.peek ≠ some '!' then start.fail .tagMarkMissing
  else
    let (name, c) := (c.forward 1).span isNameChar
    if c.peek = some '!' then .ok ('!' :: name ++ ['!'], c.forward 1)
    else if inDirective && !name.isEmpty then start.fail .handleMarkMissing
    else .ok ('!' :: name, c)

/-- A handle with its second exclamation mark. -/
def isClosedHandle (handle : List Char) : Bool :=
  2 ≤ handle.length && handle.getLast? = some '!'

/-- A tag as a handle and a suffix. A tag between angle brackets has no handle, and neither has the
tag `!`. -/
def readTag (c : Cursor) : Except Fault (List Char × List Char × Cursor) := do
  let start := c.mark
  if c.second = some '<' then
    let (name, c) ← readUri start isUriChar c.rest.length (c.forward 2)
    if c.peek = some '>' then .ok ([], name, c.forward 1) else start.fail .tagBracketMissing
  else
    let (handle, c) ← readHandle start false c
    let (suffix, c) ← readUri start isSuffixChar c.rest.length c
    if isClosedHandle handle then
      if suffix.isEmpty then start.fail .tagEmpty else .ok (handle, suffix, c)
    else
      match handle.drop 1 ++ suffix with
      | [] => .ok ([], ['!'], c)
      | name => .ok (['!'], name, c)

/-! ## Directives -/

/-- What a directive says. -/
inductive Directive where
  /-- The version of the format. -/
  | version
  /-- What a handle stands for. -/
  | handle (name expansion : List Char)
deriving DecidableEq

/-- A number of at most nine digits. -/
def readVersionPart (start : Mark) (c : Cursor) : Except Fault Cursor :=
  match c.span isDigit with
  | ([], _) => start.fail .versionMissing
  | (digits, c) => if digits.length ≤ 9 then .ok c else start.fail .versionTooLong

def readVersion (start : Mark) (c : Cursor) : Except Fault Cursor := do
  let c ← readVersionPart start c.skipSpaces
  if c.peek = some '.' then readVersionPart start (c.forward 1)
  else start.fail .versionPointMissing

def readExpansion (start : Mark) (c : Cursor) : Except Fault (List Char × Cursor) :=
  match c.peek with
  | none => start.fail .expansionCharacter
  | some x =>
    if x = '!' then do
      let (run, c) ← readUri start isUriChar c.rest.length (c.forward 1)
      .ok ('!' :: run, c)
    else if isSuffixChar x then readUri start isUriChar c.rest.length c
    else start.fail .expansionCharacter

def readHandleDirective (start : Mark) (c : Cursor) : Except Fault (Directive × Cursor) := do
  let (handle, c) ← readHandle start true c.skipSpaces
  let (expansion, c) ← readExpansion start c.skipSpaces
  if endsWord c.peek then .ok (.handle handle expansion, c) else start.fail .expansionNotEnded

/-- A directive with its line. Of a directive that is not known only the name is looked at; it
makes earlier ones void like every other one. -/
def readDirective (c : Cursor) : Except Fault (Directive × Cursor) := do
  let start := c.mark
  let (name, behind) := (c.forward 1).span isNameChar
  if name.isEmpty then (c.forward 1).fail .directiveNameMissing
  else if !endsWord behind.peek then (c.forward 1).fail .directiveNameNotEnded
  else
    let (directive, c) ←
      if name = "YAML".toList then (readVersion start behind).map fun c => (Directive.version, c)
      else if name = "TAG".toList then readHandleDirective start behind
      else .ok (.handle [] [], behind.toLineEnd)
    let c ← c.skipComment
    if endsLine c.peek then .ok (directive, c.step) else start.fail .directiveNotEnded

end EventRelay.Yaml
