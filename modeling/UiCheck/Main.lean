import Std.Time.DateTime.Timestamp
import UiCheck.CommandLine.Program
import UiCheck.Files.Tree

/-! # The command line

Reads the project from the file system, runs the program on it, and carries out what it printed and changed.
No other program can be started from here and no port is tried, so what needs one ends with a complaint.
-/

namespace UiCheck.CommandLine

open Files

/-- A machine without other programs, on which no port accepts. -/
def bareMachine : Machine Unit where
  shell :=
    { run := fun _ _ _ disk s => (.error .notFound, disk, s)
      start := fun _ _ _ s => (.error .notFound, s) }
  courier := { transfer := fun _ _ s => (.error .notFound, s) }
  helper :=
    { start := fun _ _ s => (.error .notFound, s)
      send := fun _ s => (.error .brokenPipe, s)
      stop := id
      install := fun _ s => (.error .notFound, s) }
  accepts _ _ _ s := (false, s)

/-- The variables that matter to the program and to the commands that it runs. -/
def variableNames : List String :=
  ["BOTINTERN_ORACLE_ENDPOINT", "BOTINTERN_ORACLE_MODEL", "BOTINTERN_API_KEY", "API_KEY",
   "BOTINTERN_ORACLE_MAX_TOKENS", "BOTINTERN_ORACLE_CONNECT_TIMEOUT", "BOTINTERN_ORACLE_TIMEOUT",
   "BOTINTERN_PLAN_FILE", "BOTINTERN_MAX_ITERATIONS", "BOTINTERN_BUILD_COMMAND", "BOTINTERN_DEV_COMMAND",
   "BOTINTERN_STEP_TIMEOUT_MS", "BOTINTERN_SERVER_TIMEOUT", "BOTINTERN_SESSION_DIR", "NO_COLOR", "HOME",
   "PATH"]

/-- Directories that are large and that no order looks into. -/
def unread : List String := [".git", ".next", "node_modules"]

/-- The directory that is worked on. -/
def directoryOf (environment : Environment) (arguments : List String) : String :=
  match Arguments.parse environment arguments with
  | .ok arguments => arguments.dir
  | .error _ => "."

/-- Reads what is at an entry and below it. Links count as the files that they lead to. -/
partial def readNode (entry : IO.FS.DirEntry) : IO (Option Node) := do
  match (← entry.path.symlinkMetadata).type with
  | .dir =>
    let mut entries : Files.Entries := []
    for below in ← entry.path.readDir do
      unless unread.contains below.fileName do
        if let some node ← readNode below then
          entries := Files.Entries.insert below.fileName node entries
    return some (.directory entries)
  | _ =>
    try return some (.file (← IO.FS.readBinFile entry.path))
    catch _ => return none

/-- The disk with the directory of a path, from which relative paths start at another one. -/
def readDisk (here path : String) : IO Disk := do
  let start := placeOf here
  let base := Node.put .empty start .empty
  let node ← try readNode { root := ← IO.FS.realPath path, fileName := "." } catch _ => pure none
  return { tree := node.elim base fun node => Node.put node (placeOf path) base, start }

/-- Carries out an edit. -/
def carryOut : Edit → IO Unit
  | .write path content => IO.FS.writeBinFile path content
  | .makeDirectory path => IO.FS.createDirAll path
  | .removeFile path => IO.FS.removeFile path
  | .removeDirectory path => IO.FS.removeDirAll path

/-- What the program finds when it starts. -/
def readSetting : IO Setting := do
  let environment ← variableNames.filterMapM fun name => do
    return (← IO.getEnv name).map fun text => (name, text)
  let hostName ← try IO.FS.readFile "/proc/sys/kernel/hostname" catch _ => pure ""
  let time := (← Std.Time.Timestamp.now).toMillisecondsSinceUnixEpoch
  return { environment, hostName := hostName.trimAscii.toString, moment := ⟨time.val.toNat⟩ }

end UiCheck.CommandLine

open UiCheck UiCheck.Files UiCheck.CommandLine in
/-- Runs the program. The answer is the exit status. -/
def main (arguments : List String) : IO UInt32 := do
  let setting ← readSetting
  let here := (← IO.currentDir).toString
  let disk ← readDisk here (join here (directoryOf setting.environment arguments))
  let ending := CommandLine.run setting bareMachine arguments { disk, outside := () }
  IO.print ending.output
  for complaint in ending.complaints do
    IO.eprintln complaint
  for edit in edits "" (some disk.tree) ending.scene.disk.tree do
    carryOut edit
  return UInt32.ofNat ending.status
