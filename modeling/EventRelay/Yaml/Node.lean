import EventRelay.Decimal.Reader
import EventRelay.Text.Integer
import EventRelay.Text.Shown

/-!
# Nodes of a YAML document

What a plain scalar stands for depends on its text, unless a tag says it: the null value, a truth
value, an integer, a real number, or else the text itself. A real number is kept as text.
-/

namespace EventRelay.Yaml

open Text

/-- A part of a document. -/
inductive Node where
  | null
  | bool (b : Bool)
  | int (n : Int)
  | real (text : String)
  | text (s : String)
  | sequence (items : List Node)
  | mapping (entries : List (Node × Node))
  /-- A scalar that is not what its tag says, or the node of an anchor within that node. -/
  | unusable
deriving Inhabited

namespace Node

mutual
/-- Whether two nodes are the same. Real numbers are so if they are written the same way. -/
def same : Node → Node → Bool
  | .null, .null => true
  | .bool a, .bool b => a == b
  | .int a, .int b => a == b
  | .real a, .real b => a == b
  | .text a, .text b => a == b
  | .sequence xs, .sequence ys => sameItems xs ys
  | .mapping xs, .mapping ys => sameEntries xs ys
  | .unusable, .unusable => true
  | _, _ => false

def sameItems : List Node → List Node → Bool
  | [], [] => true
  | x :: xs, y :: ys => same x y && sameItems xs ys
  | _, _ => false

def sameEntries : List (Node × Node) → List (Node × Node) → Bool
  | [], [] => true
  | (k, v) :: xs, (l, w) :: ys => same k l && same v w && sameEntries xs ys
  | _, _ => false
end

def isUnusable : Node → Bool
  | .unusable => true
  | _ => false

/-! ## Scalars -/

/-- The words for infinities and an undefined result that are no decimal numbers. -/
def realWords : List String :=
  [".inf", ".Inf", ".INF", "+.inf", "+.Inf", "+.INF", "-.inf", "-.Inf", "-.INF", ".nan", ".NAN"]

/-- Whether a text stands for a real number. -/
def isReal (cs : List Char) : Bool :=
  realWords.contains (String.ofList cs) || (Binary64.read? cs).isSome

/-- The integer that a text with a mark in front stands for: hexadecimal, octal, or with a plus
sign. -/
def markedInteger? : List Char → Option Int
  | '0' :: 'x' :: digits => int64? 16 digits
  | '0' :: 'o' :: digits => int64? 8 digits
  | '+' :: digits => int64? 10 digits
  | _ => none

def nullWords : List (List Char) := [['~'], "null".toList]

def boolWords : List (List Char × Bool) := [("true".toList, true), ("false".toList, false)]

/-- What a plain scalar without a tag stands for. -/
def ofPlain (cs : List Char) : Node :=
  match (markedInteger? cs), nullWords.contains cs, boolWords.lookup cs with
  | some n, _, _ => .int n
  | none, true, _ => .null
  | none, false, some b => .bool b
  | none, false, none =>
    match int64? 10 cs with
    | some n => .int n
    | none => if isReal cs then .real (String.ofList cs) else .text (String.ofList cs)

def ofTagged (tag cs : List Char) : Node :=
  if tag = "bool".toList then ((boolWords.lookup cs).map .bool).getD .unusable
  else if tag = "int".toList then ((int64? 10 cs).map .int).getD .unusable
  else if tag = "float".toList then
    if isReal cs then .real (String.ofList cs) else .unusable
  else if tag = "null".toList then if nullWords.contains cs then .null else .unusable
  else .text (String.ofList cs)

/-- What the tag of a scalar says: nothing, one of the usual tags, or another tag. -/
inductive Kind where
  | untagged
  | usual (tag : List Char)
  | other
deriving DecidableEq

/-- What a scalar stands for. Only a plain scalar is anything but its text. -/
def ofScalar (plain : Bool) (kind : Kind) (cs : List Char) : Node :=
  match plain, kind with
  | true, .untagged => ofPlain cs
  | true, .usual tag => ofTagged tag cs
  | _, _ => .text (String.ofList cs)

/-! ## Mappings -/

/-- A mapping of which not all nodes have been read. -/
structure Growing where
  /-- The entries, the latest first. -/
  entries : List (Node × Node)
  /-- A key that has no value yet. -/
  key : Option Node

def Growing.empty : Growing := ⟨[], none⟩

def Growing.hasKey (g : Growing) (key : Node) : Bool := g.entries.any fun entry => same entry.1 key

/-- The mapping with a further node: a key, or the value of the last key. A node that cannot be used
is passed over where a key should be. -/
def Growing.push (g : Growing) (n : Node) : Growing :=
  match g.key with
  | some key => ⟨(key, n) :: g.entries, none⟩
  | none => if n.isUnusable then g else { g with key := some n }

def Growing.repeated? (g : Growing) : Option Node :=
  g.key.bind fun key => if g.hasKey key then some key else none

/-- The mapping; a key without a value is left out. -/
def Growing.toNode (g : Growing) : Node := .mapping g.entries.reverse

/-! ## Nodes as faults tell them -/

mutual
def described : Node → List Char
  | .null => "Null".toList
  | .bool b => "Boolean(".toList ++ (if b then "true" else "false").toList ++ [')']
  | .int n => "Integer(".toList ++ signed n ++ [')']
  | .real s => "Real(".toList ++ quoted s ++ [')']
  | .text s => "String(".toList ++ quoted s ++ [')']
  | .sequence items => "Array([".toList ++ describedItems items ++ "])".toList
  | .mapping entries => "Hash(\x7b".toList ++ describedEntries entries ++ "\x7d)".toList
  | .unusable => "BadValue".toList

def describedItems : List Node → List Char
  | [] => []
  | [n] => n.described
  | n :: rest => n.described ++ ", ".toList ++ describedItems rest

def describedEntries : List (Node × Node) → List Char
  | [] => []
  | [(k, v)] => k.described ++ ": ".toList ++ v.described
  | (k, v) :: rest =>
    k.described ++ ": ".toList ++ v.described ++ ", ".toList ++ describedEntries rest
end

end Node
end EventRelay.Yaml
