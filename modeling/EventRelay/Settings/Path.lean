import EventRelay.Settings.Setting
import EventRelay.Text.Integer

/-!
# Paths of settings

A name at the top of a layer may be a path: names with points between them, and places in lists
between square brackets, as in `store.url` or `dispatcher[0]`. Names are made of ASCII letters and
digits, blanks, underscores and hyphens. A name that is no path stands for itself.
-/

namespace EventRelay

/-- A step of a path. -/
inductive Step where
  | entry (name : String)
  /-- A place in a list; a negative one is counted from the end. -/
  | item (place : Int)
deriving DecidableEq

/-- A way through a tree of settings, which begins with the name of an entry. -/
structure Path where
  first : String
  steps : List Step
deriving DecidableEq

namespace Path

/-! ## Paths as text -/

def isNameChar (c : Char) : Bool := c.isAlphanum || c == ' ' || c == '_' || c == '-'

def isBlank (c : Char) : Bool := c == ' ' || c == '\t'

def readPlace? (cs : List Char) : Option (Int × List Char) :=
  let cs := cs.dropWhile isBlank
  let (sign, digits) :=
    match cs with
    | '-' :: rest => (['-'], rest)
    | rest => ([], rest)
  match (digits.dropWhile Text.isDigit).dropWhile isBlank with
  | ']' :: rest => (Text.int64? 10 (sign ++ digits.takeWhile Text.isDigit)).map fun n => (n, rest)
  | _ => none

/-- The steps that a text consists of. The number of characters bounds the steps. -/
def readSteps? : Nat → List Char → Option (List Step)
  | _, [] => some []
  | 0, _ :: _ => none
  | fuel + 1, c :: rest =>
    if c = '.' then
      match rest.takeWhile isNameChar with
      | [] => none
      | name =>
        (readSteps? fuel (rest.dropWhile isNameChar)).map (.entry (String.ofList name) :: ·)
    else if c = '[' then
      match readPlace? rest with
      | some (n, rest) => (readSteps? fuel rest).map (.item n :: ·)
      | none => none
    else none

def read? (cs : List Char) : Option Path :=
  match cs.takeWhile isNameChar with
  | [] => none
  | name =>
    (readSteps? cs.length (cs.dropWhile isNameChar)).map fun steps => ⟨String.ofList name, steps⟩

def ofName (name : String) : Path := (read? name.toList).getD ⟨name, []⟩

def textOfSteps (steps : List Step) : List Char :=
  steps.flatMap fun
    | .entry name => '.' :: name.toList
    | .item place => '[' :: Text.signed place ++ [']']

def text (p : Path) : String := String.ofList (p.first.toList ++ textOfSteps p.steps)

/-! ## Setting along a path -/

/-- Why nothing can be set at a place of a list. -/
inductive PlaceFault where
  /-- The place is counted from the end and lies before the beginning. -/
  | beforeBeginning
  /-- The list would have to be longer than any list can be. -/
  | outOfReach
deriving DecidableEq

/-- The most items that a list can have: each takes 96 bytes, and all of them together take less
than half of what 64 bits address. -/
def mostItems : Nat := (2 ^ 63 - 1) / 96

def placeIn (length : Nat) (place : Int) : Except PlaceFault Nat :=
  let fromBeginning := if 0 ≤ place then place else length + place
  if fromBeginning < 0 then .error .beforeBeginning
  else if mostItems ≤ fromBeginning.toNat then .error .outOfReach
  else .ok fromBeginning.toNat

/-- The items of a list, filled up with nulls so that there is an item at a place. -/
def filledUp (items : List Setting) (place : Nat) : List Setting :=
  items ++ List.replicate (place + 1 - items.length) .null

/-- The items of a list and where it comes from; anything else has none and comes from nowhere. -/
def itemsOf : Option Setting → List Setting × Option String
  | some (.list items origin) => (items, origin)
  | _ => ([], none)

/-- A setting laid over what stands at the end of some steps. Tables and lists are made where the
steps lead through something else. An item of a list is always replaced. -/
def placeAt (value : Setting) : List Step → Option Setting → Except PlaceFault Setting
  | [], below => .ok (value.laidOver below)
  | .entry name :: steps, below => do
    let table := below.getD .emptyTable
    let name := Text.lower name
    let entry ← placeAt value steps (table.get? name)
    .ok (table.set name entry)
  | .item place :: steps, below => do
    let (items, origin) := itemsOf below
    let place ← placeIn items.length place
    let items := filledUp items place
    let item ← if steps.isEmpty then .ok value else placeAt value steps items[place]?
    .ok (.list (items.set place item) origin)

def setAt (p : Path) (value tree : Setting) : Except PlaceFault Setting :=
  placeAt value (.entry p.first :: p.steps) (some tree)

end Path
end EventRelay
