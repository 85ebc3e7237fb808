import EventRelay.Decimal.Binary64
import EventRelay.Text.Lower

/-!
# Settings as a tree

Before settings are understood they are a tree: values, lists, and tables with named entries. The
tree is made of several layers. A later layer is laid over the earlier ones entry by entry: tables
are joined, and everything else is replaced. Names do not depend on case.

A value or a list remembers where it comes from; a table that is joined comes from nowhere in
particular.
-/

namespace EventRelay

/-- A value without parts. -/
inductive Scalar where
  | null
  | bool (b : Bool)
  | int (n : Int)
  | real (x : Binary64)
  | text (s : String)
deriving DecidableEq

/-- A part of the tree. -/
inductive Setting where
  | scalar (value : Scalar) (origin : Option String)
  | list (items : List Setting) (origin : Option String)
  | table (entries : List (String × Setting)) (origin : Option String)
deriving Inhabited

namespace Setting

/-- The setting where none has been made. -/
def null : Setting := .scalar .null none

def emptyTable : Setting := .table [] none

/-- Where a setting comes from. -/
def origin : Setting → Option String
  | .scalar _ origin | .list _ origin | .table _ origin => origin

def entries : Setting → List (String × Setting)
  | .table entries _ => entries
  | _ => []

def setEntry (name : String) (value : Setting) :
    List (String × Setting) → List (String × Setting)
  | [] => [(name, value)]
  | (n, v) :: rest =>
    if n = name then (n, value) :: rest else (n, v) :: setEntry name value rest

def get? (s : Setting) (name : String) : Option Setting := s.entries.lookup name

/-- The table with an entry set; anything else is replaced by a table. -/
def set (s : Setting) (name : String) (value : Setting) : Setting :=
  match s with
  | .table entries origin => .table (setEntry name value entries) origin
  | _ => .table [(name, value)] none

mutual
/-- A setting laid over what stands in its place already, if something does. -/
def laidOver : Setting → Option Setting → Setting
  | .table entries _, below => allLaidOver entries (below.getD emptyTable)
  | .scalar value origin, _ => .scalar value origin
  | .list items origin, _ => .list items origin

def allLaidOver : List (String × Setting) → Setting → Setting
  | [], below => below
  | (name, value) :: rest, below =>
    let name := Text.lower name
    allLaidOver rest (below.set name (laidOver value (below.get? name)))
end

theorem lookup_setEntry_self (name : String) (value : Setting) (es : List (String × Setting)) :
    (setEntry name value es).lookup name = some value := by
  induction es with
  | nil => simp [setEntry]
  | cons e rest ih =>
    obtain ⟨n, v⟩ := e
    by_cases h : n = name
    · simp [setEntry, h]
    · simp [setEntry, h, List.lookup_cons, beq_eq_false_iff_ne.2 (Ne.symm h), ih]

theorem lookup_setEntry_of_ne {name other : String} (value : Setting)
    (es : List (String × Setting)) (h : other ≠ name) :
    (setEntry name value es).lookup other = es.lookup other := by
  induction es with
  | nil => simp [setEntry, h]
  | cons e rest ih =>
    obtain ⟨n, v⟩ := e
    by_cases hn : n = name
    · subst hn
      simp [setEntry, List.lookup_cons, beq_eq_false_iff_ne.2 h]
    · by_cases ho : other = n <;> simp [setEntry, hn, List.lookup_cons, ho, ih]

/-- An entry that has been set is found. -/
@[simp] theorem get?_set_self (s : Setting) (name : String) (value : Setting) :
    (s.set name value).get? name = some value := by
  cases s <;> simp [set, get?, entries, lookup_setEntry_self]

/-- Setting an entry leaves the others as they are. -/
theorem get?_set_of_ne (s : Setting) {name other : String} (value : Setting) (h : other ≠ name) :
    (s.set name value).get? other = s.get? other := by
  cases s <;>
    simp [set, get?, entries, lookup_setEntry_of_ne, List.lookup_cons, h, beq_eq_false_iff_ne.2 h]

end Setting
end EventRelay
