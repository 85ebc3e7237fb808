import EventRelay.Launch

/-!
# The command line

The program takes the name of a file of settings, if there is one to be used beside the usual one.
It shows the journal on standard output and an error on standard error, and runs until its standard
input ends. Its store is in memory and its own, so that no events come to it while it runs.
-/

namespace EventRelay.CommandLine

def readFile? (name : String) : IO (Option String) := do
  try return some (← IO.FS.readFile name)
  catch _ => return none

/-- The file that a name stands for. -/
def findFile (name : String) : IO (Option FoundFile) := do
  let root := if name.toList.head? = some '/' then "/" else ""
  for found in Folder.candidates name do
    let name := root ++ "/".intercalate found
    if let some text ← readFile? name then return some ⟨name, text⟩
  return none

def environment : IO (List (String × String)) := do
  let text := (← readFile? "/proc/self/environ").getD ""
  return (text.toList.splitOn '\x00').map fun cs =>
    (String.ofList (cs.takeWhile (· != '=')), String.ofList ((cs.dropWhile (· != '=')).drop 1))

def process : IO String := do
  let text := (← readFile? "/proc/self/stat").getD ""
  return String.ofList (text.toList.takeWhile Text.isDigit)

def findFiles (names : List String) : IO (List (String × FoundFile)) := do
  let mut files := []
  for name in names do
    if let some file ← findFile name then files := (name, file) :: files
  return files

end EventRelay.CommandLine

open EventRelay in
def main (arguments : List String) : IO UInt32 := do
  let environment ← CommandLine.environment
  let path := arguments.head?
  let names := [Settings.usualFile] ++ path.toList
    ++ (environment.lookup Settings.fileVariable).toList
  let files ← CommandLine.findFiles names
  let settings := Settings.load (fun name => files.lookup name) path environment
  let filter := Launch.filterOf environment
  let (lines, error) := Launch.start settings (← CommandLine.process)
  for line in filter.shown lines do IO.println line.text
  match error with
  | some e =>
    for line in e.report do IO.eprintln line
    return e.exit.toUInt32
  | none =>
    let input ← IO.getStdin
    repeat
      if (← input.getLine).isEmpty then break
    for line in filter.shown [Launch.stopping] do IO.println line.text
    return 0
