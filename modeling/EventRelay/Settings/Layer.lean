import EventRelay.Settings.LoadError
import EventRelay.Yaml.Document

/-!
# Layers of settings

A layer sets some settings and leaves the others alone. Its names may be paths. Layers come from
YAML documents and from the environment; the tree of settings is what they make up together, with
later layers over earlier ones.
-/

namespace EventRelay

/-- Settings with the names under which they are set. -/
structure Layer where
  entries : List (String × Setting)

namespace Layer

def empty : Layer := ⟨[]⟩

/-- A layer over a tree. -/
def laidOver (layer : Layer) (tree : Setting) : Except LoadError Setting :=
  layer.entries.foldlM (fun tree entry =>
    ((Path.ofName entry.1).setAt entry.2 tree).mapError .misplaced) tree

/-- The tree that layers make up, the first one being the lowest. The first layer that cannot be
had, or that cannot be laid over those below it, is the one that is spoken of. -/
def tree (layers : List (Except LoadError Layer)) : Except LoadError Setting :=
  layers.foldlM (fun tree layer => layer.bind (·.laidOver tree)) .emptyTable

/-! ## Documents -/

def nameOf : Yaml.Node → Except LoadError String
  | .text s => .ok s
  | .int n => .ok (String.ofList (Text.signed n))
  | _ => .error .unusableKey

mutual
/-- The setting that a node stands for, from some origin. -/
def ofNode (origin : Option String) : Yaml.Node → Except LoadError Setting
  | .null | .unusable => .ok (.scalar .null origin)
  | .bool b => .ok (.scalar (.bool b) origin)
  | .int n => .ok (.scalar (.int n) origin)
  | .real text =>
    match Binary64.read? text.toList with
    | some x => .ok (.scalar (.real x) origin)
    | none => .error (.unreadable (.unknownNumber text) origin)
  | .text s => .ok (.scalar (.text s) origin)
  | .sequence items => do
    let items ← ofItems origin items
    .ok (.list items origin)
  | .mapping pairs => do
    let entries ← ofPairs origin [] pairs
    .ok (.table entries origin)

def ofItems (origin : Option String) : List Yaml.Node → Except LoadError (List Setting)
  | [] => .ok []
  | n :: rest => do
    let s ← ofNode origin n
    let items ← ofItems origin rest
    .ok (s :: items)

/-- The entries that pairs stand for behind some others; the last one of a name counts. -/
def ofPairs (origin : Option String) (entries : List (String × Setting)) :
    List (Yaml.Node × Yaml.Node) → Except LoadError (List (String × Setting))
  | [] => .ok entries
  | (k, v) :: rest => do
    let name ← nameOf k
    let s ← ofNode origin v
    ofPairs origin (Setting.setEntry name s entries) rest
end

/-- The layer of a text with one document at most, whose root is a table. -/
def ofDocument (origin : Option String) (text : String) : Except LoadError Layer :=
  match Yaml.documents text with
  | .error fault => .error (.unreadable (.malformed fault) origin)
  | .ok [] => .ok .empty
  | .ok [root] =>
    match ofNode origin root with
    | .ok (.table entries _) => .ok ⟨entries⟩
    | .ok setting => .error (.unreadable (.noTable setting.found) origin)
    | .error e => .error e
  | .ok roots => .error (.unreadable (.several roots.length) origin)

/-! ## The environment -/

def variableMark : List Char := "outbox_relay__".toList

def environmentOrigin : String := "the environment"

/-- A name with points for double underscores. -/
def withPoints : List Char → List Char
  | '_' :: '_' :: rest => '.' :: withPoints rest
  | c :: rest => c :: withPoints rest
  | [] => []

def variableName? (name : String) : Option String :=
  let name := (Text.lower name).toList
  if variableMark.isPrefixOf name then
    some (String.ofList (withPoints (name.drop variableMark.length)))
  else none

/-- What the text of a variable stands for: a truth value in any case, an integer, a real number,
or else the text itself. -/
def variableValue (text : String) : Scalar :=
  let lowered := Text.lower text
  if lowered = "true" then .bool true
  else if lowered = "false" then .bool false
  else
    match Text.int64? 10 text.toList, Binary64.read? text.toList with
    | some n, _ => .int n
    | none, some x => .real x
    | none, none => .text text

def ofEnvironment (environment : List (String × String)) : Layer :=
  ⟨environment.foldl (fun entries (name, text) =>
    match variableName? name with
    | some name =>
      Setting.setEntry name (.scalar (variableValue text) (some environmentOrigin)) entries
    | none => entries) []⟩

end Layer
end EventRelay
