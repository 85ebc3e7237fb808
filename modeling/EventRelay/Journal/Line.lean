import EventRelay.Journal.Filter
import EventRelay.Text.Digits

/-!
# The journal as lines

An entry of the journal is shown as a line: its level, the part of the program that it comes from,
its message, and its fields.
-/

namespace EventRelay.Journal

/-- A line of the journal, whose fields are text already. -/
structure Line where
  level : Level
  target : String
  message : String
  fields : List (String × String)
deriving DecidableEq

def Value.shown : Value → String
  | .text s => s
  | .number n => String.ofList (Text.signed n)
  | .flag b => if b then "true" else "false"

namespace Line

def ofEntry (target : String) (e : Entry) : Line :=
  ⟨e.level, target, e.message, e.fields.map fun (name, value) => (name, value.shown)⟩

/-- The names of its fields; the message is one of them. -/
def fieldNames (l : Line) : List String := "message" :: l.fields.map (·.1)

def text (l : Line) : String :=
  l.level.name ++ " " ++ l.target ++ ": " ++ l.message
    ++ String.join (l.fields.map fun (name, value) => " " ++ name ++ "=" ++ value)

end Line

def Filter.shown (f : Filter) (lines : List Line) : List Line :=
  lines.filter fun l => f.shows l.target l.level l.fieldNames

end EventRelay.Journal
