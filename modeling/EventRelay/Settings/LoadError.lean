import EventRelay.Decimal.Layout
import EventRelay.Settings.Basic
import EventRelay.Settings.Path
import EventRelay.Text.Shown
import EventRelay.Yaml.Fault

/-!
# Why settings cannot be loaded

A file may be missing or not be readable, a value may not be what is expected in its place, and
settings that are understood may be refused.
-/

namespace EventRelay

/-- What stands in a place instead of what is expected. -/
inductive Found where
  | value (v : Scalar)
  /-- A number without a sign. -/
  | unsigned (n : UInt64)
  | sequence
  | map
deriving DecidableEq

def Setting.found : Setting → Found
  | .scalar v _ => .value v
  | .list _ _ => .sequence
  | .table _ _ => .map

/-- A value as errors show it; `integer` says what whole numbers are called. -/
def Scalar.described (integer : String) : Scalar → String
  | .null => "unit value"
  | .bool b => "boolean `" ++ (if b then "true" else "false") ++ "`"
  | .int n => integer ++ " `" ++ String.ofList (Text.signed n) ++ "`"
  | .real x => "floating point `" ++ String.ofList (x.text .message) ++ "`"
  | .text s => "string " ++ String.ofList (Text.quoted s)

def Found.described (integer : String) : Found → String
  | .value v => v.described integer
  | .unsigned n => "64-bit unsigned integer `" ++ String.ofList (Text.decimal n.toNat) ++ "`"
  | .sequence => "sequence"
  | .map => "map"

/-- Why a text is no document of settings. -/
inductive DocumentFault where
  | malformed (fault : Yaml.Fault)
  /-- There are several documents. -/
  | several (count : Nat)
  /-- A real number is written in a way that is not known. -/
  | unknownNumber (text : String)
  /-- Something else than a table is the root. -/
  | noTable (found : Found)
deriving DecidableEq

/-- Why settings cannot be loaded. -/
inductive LoadError where
  /-- A required file does not exist. -/
  | missingFile (name : String)
  /-- A text is no document of settings. -/
  | unreadable (fault : DocumentFault) (origin : Option String)
  /-- A key of a document is neither a text nor an integer. -/
  | unusableKey
  /-- A path leads to a place that no list has. -/
  | misplaced (fault : Path.PlaceFault)
  /-- A value is not of the kind that its field has. -/
  | mistyped (found : Found) (expected : String) (place : List Step) (origin : Option String)
  /-- A value stands in the place of a section. -/
  | noSection (found : Found) (section_ : String)
  /-- A text is not the name of one of the kinds. -/
  | unknownKind (kinds found : String)
  /-- Neither a text nor a table with one entry stands in the place of a kind. -/
  | noKind (kinds : String)
  /-- The settings are understood and refused. -/
  | invalid (e : InvalidSetting)
deriving DecidableEq

namespace LoadError

def within (step : Step) : LoadError → LoadError
  | mistyped found expected place origin => mistyped found expected (step :: place) origin
  | e => e

/-- Steps as text, without a point in front. -/
def placeText (place : List Step) : String :=
  match Path.textOfSteps place with
  | '.' :: text | text => String.ofList text

def originText (origin : Option String) : String := (origin.map (" in " ++ ·)).getD ""

def documentReason (origin : Option String) : DocumentFault → String
  | .malformed fault => fault.message
  | .several count => "Got " ++ String.ofList (Text.decimal count) ++ " YAML documents, expected 1"
  | .unknownNumber text => "Parsing " ++ text ++ " as floating point number failed"
  | .noTable found =>
    "invalid type: " ++ found.described "64-bit integer" ++ ", expected a map" ++ originText origin

/-- What is wrong, without saying that it was noticed while settings were loaded. -/
def reason : LoadError → String
  | missingFile name => "configuration file \"" ++ name ++ "\" not found"
  | unreadable fault origin => documentReason origin fault ++ originText origin
  | unusableKey => "internal error: entered unreachable code"
  | misplaced .beforeBeginning => "attempt to subtract with overflow"
  | misplaced .outOfReach => "capacity overflow"
  | mistyped found expected place origin =>
    "invalid type: " ++ found.described "64-bit integer" ++ ", expected " ++ expected
      ++ " for key `" ++ placeText place ++ "`" ++ originText origin
  | noSection found name =>
    "invalid type: " ++ found.described "integer" ++ ", expected struct " ++ name
  | unknownKind kinds found => "enum " ++ kinds ++ " does not have variant constructor " ++ found
  | noKind kinds =>
    "value of enum " ++ kinds ++ " should be represented by either string or table with exactly"
      ++ " one key"
  | invalid e => e.message

/-- Whether loading breaks off at once instead of giving the error back. -/
def breaksOff : LoadError → Bool
  | unusableKey | misplaced _ => true
  | _ => false

def message : LoadError → String
  | invalid e => e.message
  | e => if e.breaksOff then e.reason else "failed to load config: " ++ e.reason

end LoadError
end EventRelay
