/-!
# Files of settings

A file is looked for under its name and then with one of the endings of YAML files behind it. Names
are relative to a folder. A name may lead through folders and back out of them, but not out of the
folder that it is relative to.
-/

namespace EventRelay

/-- A file that was found. -/
structure FoundFile where
  /-- Its name, as errors give it. -/
  name : String
  text : String

/-- A folder with all files in it and in the folders below it, by name. -/
structure Folder where
  files : List (String × String)

namespace Folder

def parts (name : String) : List String :=
  (name.toList.splitOn '/').map String.ofList

/-- The parts of a name that matter: neither empty nor a single point. -/
def components (name : String) : List String := (parts name).filter fun p => p ≠ "" ∧ p ≠ "."

def hasFolder (f : Folder) (names : List String) : Bool :=
  names.isEmpty || f.files.any fun file =>
    names.isPrefixOf (components file.1) && names.length < (components file.1).length

def walk? (f : Folder) : List String → List String → Option (List String)
  | names, [] => some names
  | names, [last] => if last = ".." then none else some (names ++ [last])
  | names, next :: rest =>
    if next = ".." then if names.isEmpty then none else walk? f names.dropLast rest
    else if f.hasFolder (names ++ [next]) then walk? f (names ++ [next]) rest
    else none

def text? (f : Folder) (names : List String) : Option String := do
  let found ← f.walk? [] names
  (f.files.find? fun file => components file.1 = found).map (·.2)

def withEnding (ending : String) (names : List String) : List String :=
  names.dropLast ++ (names.getLast?.map (· ++ ending)).toList

/-- The ways in which a file may be named. A name that ends with a slash is not the name of a
file as it stands, and one that leads out of a folder at its end takes no ending. -/
def candidates (name : String) : List (List String) :=
  let found := components name
  (if (parts name).getLast? = found.getLast? then [found] else [])
    ++ if found.getLast? = some ".." then []
      else [withEnding ".yaml" found, withEnding ".yml" found]

/-- The file that a name stands for. -/
def find? (f : Folder) (name : String) : Option FoundFile :=
  if name.toList.head? = some '/' then none
  else
    (candidates name).findSome? fun found =>
      (f.text? found).map fun text => ⟨"/".intercalate found, text⟩

end Folder
end EventRelay
