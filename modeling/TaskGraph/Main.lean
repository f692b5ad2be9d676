import TaskGraph.CommandLine
import TaskGraph.World

/-!
# The program

Reads the files that a command names, carries it out on an empty world and prints the outcome.
-/

open TaskGraph

namespace TaskGraph.Program

def readOptional (path : String) : IO (Option String) := do
  try return some (← IO.FS.readFile path) catch _ => return none

def readContent (path : String) : IO (Except String String) := do
  try return .ok (← IO.FS.readFile path)
  catch _ => return .error "No such file or directory (os error 2)"

/-- The config map of the launcher that is mounted at a directory, if there is one. -/
def readLauncher (dir : String) : IO (Option LauncherConfig) := do
  try
    let mut files : Dict String := ∅
    for entry in ← (← IO.FS.realPath dir).readDir do
      if !(← entry.path.isDir) then
        files := files.insert entry.fileName (← IO.FS.readFile entry.path)
    return some (LauncherConfig.ofFiles files)
  catch _ => return none

def services (config : DriverConfig) : IO Services := do
  let launcher ← readLauncher config.launcherConfigDir
  let bytes ← IO.getRandomBytes 16
  let salt := identifierText bytes.toList
  return { launcher := .ok launcher, salt := fun _ => salt }

def finish : Outcome → IO UInt32
  | .report message => do
    IO.eprintln s!"Error: {message}"
    return 1
  | .finished exit output errors => do
    IO.eprint errors
    IO.print output
    return exit.toUInt32

def runCommand (c : Command) : IO UInt32 := do
  let content ← match c.config with
    | some path => readContent path
    | none => pure (.ok "")
  match c.driver content with
  | .error message => finish (.report message)
  | .ok d =>
    let request ← readOptional c.request
    let namespaceFile ← readOptional (c.namespaceFile.getD d.config.namespaceFile)
    let services ← services d.config
    match ((c.execute d request namespaceFile).run services {}).1 with
    | .ok outcome => finish outcome
    | .error e => finish (.report e.message)

end TaskGraph.Program

def main (arguments : List String) : IO UInt32 := do
  match Command.parse arguments with
  | .error fault =>
    IO.eprintln fault.message
    return 2
  | .ok c => Program.runCommand c
