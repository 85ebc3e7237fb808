import EventRelay.Settings.Decode
import EventRelay.Settings.Folder
import EventRelay.Settings.Layer

/-!
# Loading settings

Settings come from four layers: a file that may be missing, a file that is named where the relay is
started, a file that the environment names, and the variables of the environment. Each one goes
over those before it. What they make up together is understood, and then checked.
-/

namespace EventRelay.Settings

/-- The name of the file that may be missing. -/
def usualFile : String := "relay"

/-- The variable that names a file. -/
def fileVariable : String := "OUTBOX_RELAY_CONFIG"

/-- The settings that layers make up together, if they are accepted. -/
def ofLayers (layers : List (Except LoadError Layer)) : Except LoadError Settings := do
  let s ← ofSetting (← Layer.tree layers)
  match s.validate with
  | .ok () => .ok s
  | .error e => .error (.invalid e)

def ofDocument (text : String) : Except LoadError Settings :=
  ofLayers [Layer.ofDocument none text]

def ofFile (file : FoundFile) : Except LoadError Layer :=
  Layer.ofDocument (some file.name) file.text

/-- The layer of a file that may be missing. `find` gives the file that a name stands for. -/
def optionalFile (find : String → Option FoundFile) (name : String) : Except LoadError Layer :=
  match find name with
  | some file => ofFile file
  | none => .ok .empty

/-- The layer of a file that is required, if one is named. -/
def requiredFile (find : String → Option FoundFile) (name : Option String) :
    Except LoadError Layer :=
  match name with
  | none => .ok .empty
  | some name =>
    match find name with
    | some file => ofFile file
    | none => .error (.missingFile name)

/-- The layers, the lowest first. -/
def layers (find : String → Option FoundFile) (path : Option String)
    (environment : List (String × String)) : List (Except LoadError Layer) :=
  [optionalFile find usualFile, requiredFile find path,
    requiredFile find (environment.lookup fileVariable), .ok (.ofEnvironment environment)]

/-- The settings of a relay that is started with the name of a file, if any, and the variables of
an environment. -/
def load (find : String → Option FoundFile) (path : Option String)
    (environment : List (String × String)) : Except LoadError Settings :=
  ofLayers (layers find path environment)

end EventRelay.Settings
