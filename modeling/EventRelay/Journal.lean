import EventRelay.Uuid

/-!
# The journal

Operations report what an operator should know as entries of a journal: a level, a message and
named fields.
-/

namespace EventRelay.Journal

/-- How much an entry matters. -/
inductive Level where
  | debug
  | info
  | warn
  | error
deriving DecidableEq, Repr

def Level.name : Level → String
  | .debug => "DEBUG"
  | .info => "INFO"
  | .warn => "WARN"
  | .error => "ERROR"

/-- The value of a field. -/
inductive Value where
  | text (s : String)
  | number (n : Int)
  | flag (b : Bool)
deriving DecidableEq

/-- An entry of the journal. -/
structure Entry where
  level : Level
  message : String
  fields : List (String × Value)
deriving DecidableEq

def idField (id : Uuid) : String × Value := ("id", .text (String.ofList id.text))

def attemptsExhausted (id : Uuid) (attempts : Int) : Entry :=
  ⟨.warn, "outbox event exhausted its delivery attempts",
    [idField id, ("attempts", .number attempts)]⟩

end EventRelay.Journal
