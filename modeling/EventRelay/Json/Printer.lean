import EventRelay.Json.Basic

/-!
# Documents as text

A document is written without blanks. In strings only the double quote, the backslash and the
control characters below U+0020 are escaped. Binary numbers are written with the fewest digits that
read back.
-/

namespace EventRelay.Json

open Text

/-- The escape of a control character that has no letter of its own. -/
def escapeCode (c : Char) : List Char :=
  ['\\', 'u', '0', '0', hexDigit (c.toNat / 16), hexDigit (c.toNat % 16)]

def escapeChar (c : Char) : List Char :=
  if c = '"' then ['\\', '"']
  else if c = '\\' then ['\\', '\\']
  else if c = '\x08' then ['\\', 'b']
  else if c = '\x0c' then ['\\', 'f']
  else if c = '\n' then ['\\', 'n']
  else if c = '\r' then ['\\', 'r']
  else if c = '\t' then ['\\', 't']
  else if c.toNat < 0x20 then escapeCode c
  else [c]

def escape (cs : List Char) : List Char := cs.flatMap escapeChar

def writeString (s : String) : List Char := '"' :: escape s.toList ++ ['"']

mutual
/-- The text of a value. -/
def write : Json → List Char
  | .null => ['n', 'u', 'l', 'l']
  | .bool true => ['t', 'r', 'u', 'e']
  | .bool false => ['f', 'a', 'l', 's', 'e']
  | .int n => signed n
  | .real x => x.text .document
  | .str s => writeString s
  | .arr [] => ['[', ']']
  | .arr (v :: vs) => '[' :: (write v ++ writeItems vs)
  | .obj [] => ['\x7b', '\x7d']
  | .obj ((k, v) :: es) => '\x7b' :: (writeString k ++ ':' :: (write v ++ writeEntries es))

def writeItems : List Json → List Char
  | [] => [']']
  | v :: vs => ',' :: (write v ++ writeItems vs)

def writeEntries : List (String × Json) → List Char
  | [] => ['\x7d']
  | (k, v) :: es => ',' :: (writeString k ++ ':' :: (write v ++ writeEntries es))
end

def text (j : Json) : String := String.ofList j.write

end EventRelay.Json
