import EventRelay.Decimal.Layout
import EventRelay.Text.Digits

/-!
# Documents

The values of a JSON document. A payload is such a value; records and messages are written through
it. The entries of an object stand in the order in which they are written.
-/

namespace EventRelay

/-- A value of a JSON document. Whole numbers that fit 64 bits, signed or unsigned, are integers,
and all other numbers are binary numbers. -/
inductive Json where
  | null
  | bool (b : Bool)
  | int (n : Int)
  | real (x : Binary64)
  | str (s : String)
  | arr (items : List Json)
  | obj (entries : List (String × Json))
deriving Inhabited

namespace Json

def isNull : Json → Bool
  | .null => true
  | _ => false

/-- An entry in a list that ascends by key: it replaces the entry with its key, if there is one. -/
def insertEntry (key : String) (value : Json) : List (String × Json) → List (String × Json)
  | [] => [(key, value)]
  | (k, v) :: rest =>
    if key < k then (key, value) :: (k, v) :: rest
    else if key = k then (key, value) :: rest
    else (k, v) :: insertEntry key value rest

/-- The entries in ascending order of their keys; of several with one key the last one stays. -/
def sortEntries (entries : List (String × Json)) : List (String × Json) :=
  entries.foldl (fun sorted entry => insertEntry entry.1 entry.2 sorted) []

def ofText? : Option String → Json
  | none => .null
  | some s => .str s

end Json
end EventRelay
