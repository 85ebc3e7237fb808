/-!
# Why a YAML text is not well formed

A fault is told with the place where it was noticed: the number of characters before the place, the
line and the column. Lines and columns are counted from one when they are told.
-/

namespace EventRelay.Yaml

/-- A place in a text. Lines and columns are counted from zero. -/
structure Mark where
  /-- The number of characters before the place. -/
  index : Nat
  line : Nat
  column : Nat
deriving DecidableEq, Repr

/-- What can be wrong in a text. -/
inductive Flaw where
  /-- A comment begins right behind something else. -/
  | commentTouches
  /-- A tab stands where a line is indented. -/
  | tabIndents
  /-- A line between brackets is not indented as deep as what is around the brackets. -/
  | outdented
  /-- A character that nothing can begin with. -/
  | character (c : Char)
  | afterDocumentEnd
  /-- What stands in the place of a key turns out to be none. -/
  | keyMissing
  /-- No colon follows what stands in the place of a key. -/
  | colonMissing
  | tooManyBrackets
  | itemInBrackets
  | itemMisplaced
  /-- An anchor or a tag of a sequence is not indented as deep as the sequence. -/
  | nameOutdented
  | tabBehindItem
  | keyMisplaced
  | blankMissing
  | tabBehindKey
  | tabBehindColon
  /-- The colon of a pair between brackets is not on the line of its key. -/
  | colonOnNextLine
  | valueMisplaced
  | anchorEmpty
  | tagMarkMissing
  /-- The second exclamation mark of a handle that a directive declares is missing. -/
  | handleMarkMissing
  /-- What a handle stands for begins with a character that no tag can begin with. -/
  | expansionCharacter
  | tagBracketMissing
  | tagEmpty
  | tagNotEnded
  | octetDigits
  | octetLeading
  | octetTrailing
  | octetsInvalid
  | directiveNameMissing
  | directiveNameNotEnded
  | directiveNotEnded
  | versionPointMissing
  | versionTooLong
  | versionMissing
  | expansionNotEnded
  | plainOutdented
  /-- A plain scalar between brackets begins with a hyphen that a bracket or a comma follows. -/
  | plainHyphen
  | plainTab
  | plainEmpty
  | quotedDocument
  | quotedUnclosed
  | quotedOutdented
  | quotedTab
  | escapeUnknown
  | escapeDigits
  | escapeInvalid
  | afterQuoted
  | incrementZero
  | headerNotEnded
  | blockTab
  | blockOutdented
  | versionRepeated
  | documentStartMissing
  | documentEndMissing
  | anchorUnknown
  | handleUnknown
  | nodeMissing
  | keyExpected
  | itemExpected
  | bracketUnclosed
  | braceUnclosed
  /-- A key of a mapping has two values; the key is given as it is told. -/
  | keyRepeated (key : String)
deriving DecidableEq

def Flaw.message : Flaw → String
  | .commentTouches => "comments must be separated from other tokens by whitespace"
  | .tabIndents => "tabs disallowed within this context (block indentation)"
  | .outdented => "invalid indentation"
  | .character c => "unexpected character: `" ++ c.toString ++ "'"
  | .afterDocumentEnd => "invalid content after document end marker"
  | .keyMissing => "simple key expected"
  | .colonMissing => "simple key expect ':'"
  | .tooManyBrackets => "recursion limit exceeded"
  | .itemInBrackets => "\"-\" is only valid inside a block"
  | .itemMisplaced => "block sequence entries are not allowed in this context"
  | .nameOutdented => "invalid indentation for anchor"
  | .tabBehindItem => "'-' must be followed by a valid YAML whitespace"
  | .keyMisplaced => "mapping keys are not allowed in this context"
  | .blankMissing => "expected whitespace"
  | .tabBehindKey => "tabs disallowed in this context"
  | .tabBehindColon => "':' must be followed by a valid YAML whitespace"
  | .colonOnNextLine => "illegal placement of ':' indicator"
  | .valueMisplaced => "mapping values are not allowed in this context"
  | .anchorEmpty =>
    "while scanning an anchor or alias, did not find expected alphabetic or numeric character"
  | .tagMarkMissing => "while scanning a tag, did not find expected '!'"
  | .handleMarkMissing => "while parsing a tag directive, did not find expected '!'"
  | .expansionCharacter => "invalid global tag character"
  | .tagBracketMissing => "while scanning a verbatim tag, did not find the expected '>'"
  | .tagEmpty => "while parsing a tag, did not find expected tag URI"
  | .tagNotEnded => "while scanning a tag, did not find expected whitespace or line break"
  | .octetDigits => "while parsing a tag, found an invalid escape sequence"
  | .octetLeading => "while parsing a tag, found an incorrect leading UTF-8 byte"
  | .octetTrailing => "while parsing a tag, found an incorrect trailing UTF-8 byte"
  | .octetsInvalid => "while parsing a tag, found an invalid UTF-8 codepoint"
  | .directiveNameMissing =>
    "while scanning a directive, could not find expected directive name"
  | .directiveNameNotEnded =>
    "while scanning a directive, found unexpected non-alphabetical character"
  | .directiveNotEnded =>
    "while scanning a directive, did not find expected comment or line break"
  | .versionPointMissing =>
    "while scanning a YAML directive, did not find expected digit or '.' character"
  | .versionTooLong => "while scanning a YAML directive, found extremely long version number"
  | .versionMissing =>
    "while scanning a YAML directive, did not find expected version number"
  | .expansionNotEnded => "while scanning TAG, did not find expected whitespace or line break"
  | .plainOutdented => "invalid indentation in flow construct"
  | .plainHyphen => "plain scalar cannot start with '-' followed by ,[]\x7b\x7d"
  | .plainTab => "while scanning a plain scalar, found a tab"
  | .plainEmpty => "unexpected end of plain scalar"
  | .quotedDocument => "while scanning a quoted scalar, found unexpected document indicator"
  | .quotedUnclosed => "while scanning a quoted scalar, found unexpected end of stream"
  | .quotedOutdented => "invalid indentation in quoted scalar"
  | .quotedTab => "tab cannot be used as indentation"
  | .escapeUnknown => "while parsing a quoted scalar, found unknown escape character"
  | .escapeDigits => "while parsing a quoted scalar, did not find expected hexadecimal number"
  | .escapeInvalid =>
    "while parsing a quoted scalar, found invalid Unicode character escape code"
  | .afterQuoted => "invalid trailing content after double-quoted scalar"
  | .incrementZero =>
    "while scanning a block scalar, found an indentation indicator equal to 0"
  | .headerNotEnded =>
    "while scanning a block scalar, did not find expected comment or line break"
  | .blockTab => "a block scalar content cannot start with a tab"
  | .blockOutdented => "wrongly indented line in block scalar"
  | .versionRepeated => "duplicate version directive"
  | .documentStartMissing => "did not find expected <document start>"
  | .documentEndMissing => "missing explicit document end marker before directive"
  | .anchorUnknown => "while parsing node, found unknown anchor"
  | .handleUnknown => "the handle wasn't declared"
  | .nodeMissing => "while parsing a node, did not find expected node content"
  | .keyExpected => "while parsing a block mapping, did not find expected key"
  | .itemExpected => "while parsing a block collection, did not find expected '-' indicator"
  | .bracketUnclosed => "while parsing a flow sequence, expected ',' or ']'"
  | .braceUnclosed => "while parsing a flow mapping, did not find expected ',' or '\x7d'"
  | .keyRepeated key => key ++ ": duplicated key in mapping"

/-- A flaw with the place where it was noticed. -/
structure Fault where
  flaw : Flaw
  mark : Mark
deriving DecidableEq

def Fault.message (f : Fault) : String :=
  f.flaw.message ++ " at byte " ++ toString f.mark.index ++ " line " ++ toString (f.mark.line + 1)
    ++ " column " ++ toString (f.mark.column + 1)

def Mark.fail {α : Type} (mark : Mark) (flaw : Flaw) : Except Fault α := .error ⟨flaw, mark⟩

end EventRelay.Yaml
