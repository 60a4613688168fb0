import UiCheck.Rehearsal.Shell.Finder

/-! # Builtin programs that guide the shell

They end the shell, a function or a loop, run a text or a file as commands, put a program in place of the shell,
and look at what names stand for.
-/

/-! ## Starting programs

What a name or a path leads to is started: a utility, or a file that may be run, which is given to the program
that its first line names.
-/

namespace UiCheck.Rehearsal.Shell

open Files UiCheck.Rehearsal.Shell.Action

/-- The program that the first line of a text names, and its argument. -/
def interpreter? (content : String) : Option (String × List String) :=
  match content.toList with
  | '#' :: '!' :: rest =>
    let line := (rest.takeWhile (· != '\n')).dropWhile (· == ' ')
    match splitWords (String.ofList line) with
    | program :: more => some (program, if more.isEmpty then [] else [" ".intercalate more])
    | [] => none
  | _ => none

/-- Writes where programs are, each on a line; the status tells whether one is missing. -/
def tellPlaces : Builtin := fun arguments => do
  let every := arguments.head? == some "-a"
  let names := if every then arguments.tail else arguments
  names.foldlM (fun status name => do
    match (← find name) with
    | .utility _ path | .script path =>
      say (path ++ "\n")
      if every ∧ path.startsWith "/usr/bin/" then say (String.ofList (path.toList.drop 4) ++ "\n")
      return status
    | .forbidden | .missing => return 1) (if names.isEmpty then 1 else 0)

/-- Runs a utility, with a way to start others; `called` is the name that it is called by. -/
def runNamed (go : Runner) (start : Starter) (name called : String) : Builtin := fun arguments => do
  match utilities.lookup name with
  | some utility => runUtility called utility arguments
  | none =>
    match name with
    | "sh" | "dash" | "bash" => shell go arguments
    | "env" => env start arguments
    | "printenv" => printenv arguments
    | "xargs" => xargs start arguments
    | "chmod" => chmod arguments
    | "sleep" => sleep go arguments
    | "nohup" => nohup start arguments
    | "nice" => nice start arguments
    | "setsid" => setsid start arguments
    | "timeout" => timeout start arguments
    | "find" => findFiles start arguments
    | "which" => tellPlaces arguments
    | _ =>
      match plainBuiltins.lookup name with
      | some builtin => withRunning (some name) (builtin arguments)
      | none => return 127

/-- Starts what a name stands for, or tells why there is nothing. -/
def startFound (go : Runner) (start : Starter) (called : String) (found : Found) (arguments : List String) :
    Action Nat := do
  match found with
  | .utility name _ => withRunning none (runNamed go start name called arguments)
  | .script path =>
    match (← disk).read (textOf path) with
    | .error _ => return 126
    | .ok bytes =>
      let content := octetsOf bytes
      match interpreter? content with
      | some (program, more) =>
        match foundAt (← disk) (← machine).runnable program with
        | .utility name _ => withRunning none (runNamed go start name program (more ++ path :: arguments))
        | _ =>
          complain s!"{called}: not found"
          return 127
      | none => withRunning none (runShell go path [] (.text content) arguments)
  | .forbidden =>
    complain s!"{called}: Permission denied"
    return 126
  | .missing =>
    complain (if called.isEmpty then ": Permission denied" else s!"{called}: not found")
    return 127

/-- Starts programs for a utility, up to a depth. Without a path of their own, programs are looked for in the
usual places. -/
def starter (go : Runner) : Nat → Starter
  | 0 => fun _ _ _ => throw .exhausted
  | depth + 1 => fun words name arguments => do
    match (← findIn ((← value? "PATH").getD "/bin:/usr/bin") name) with
    | .missing =>
      report s!"{words}: No such file or directory\n"
      return 127
    | .forbidden =>
      report s!"{words}: Permission denied\n"
      return 126
    | found => startFound go (starter go depth) name found arguments

end UiCheck.Rehearsal.Shell

/-! ## Control -/

namespace UiCheck.Rehearsal.Shell

open Files UiCheck.Rehearsal.Shell.Action

/-- How a builtin program is called: how the shell runs commands, how it starts programs, and whether a failure
is looked at. -/
structure Control where
  go : Runner
  start : Starter
  tested : Bool

namespace Control

/-- Ends the shell. -/
def exit : Builtin := fun arguments => do
  match arguments with
  | argument :: _ => setStatus (← numberArgument argument)
  | [] => change fun process => { process with status := process.eventStatus.getD process.status }
  throw .ended

/-- Ends a function, a file of commands or the shell. -/
def leaveFunction (control : Control) : Builtin := fun arguments => do
  if let argument :: _ := arguments then setStatus (← numberArgument argument)
  let process ← process
  throw (if process.status ≠ 0 && process.switches.contains .stopOnFailure && ! control.tested then .ended else .returned)

/-- Leaves loops or begins their next round; no more of them than there are. -/
def leaveLoops (stop : Nat → Stop) : Builtin := fun arguments => do
  let count ← match arguments with
    | [] => pure 1
    | argument :: _ =>
      let n ← numberArgument argument
      if n = 0 then fail s!"Illegal number: {argument}" else pure n
  setStatus 0
  match min count (← process).loops with
  | 0 => return 0
  | n => throw (stop n)

/-- Runs its arguments as commands. -/
def evaluate (control : Control) : Builtin := fun arguments => do
  match arguments with
  | ["--"] | [] => return 0
  | "--" :: rest | rest =>
    runText control.go control.tested (" ".intercalate rest)
    return (← process).status

/-- Runs a file in this shell. -/
def source (control : Control) : Builtin := fun arguments => do
  let (_, arguments) ← options "" "" arguments
  match arguments with
  | [] => return 0
  | name :: _ =>
    let disk ← disk
    let places := ((← value? "PATH").getD "").splitOn ":"
    let candidates := places.map fun place => if place.isEmpty then name else below place name
    let isFile (path : String) : Bool := match disk.node (textOf path) with
      | .ok (.file _) => true
      | _ => false
    let path ← match if name.contains '/' then some name else candidates.find? isFile with
      | some path => pure path
      | none => fail s!"{name}: not found"
    if path = "/dev/null" then return 0
    match disk.read (textOf path) with
    | .error .isDirectory => return 0
    | .error e => fail s!"cannot open {path}: {openingProblem false e}"
    | .ok bytes =>
      withRunning (some path) do
        match (← stopped? (runText control.go false (octetsOf bytes))) with
        | none | some .returned => return (← process).status
        | some stop => throw stop

/-- Puts a program in place of the shell; without one nothing is done. -/
def replaceShell (control : Control) : Builtin := fun arguments => do
  match arguments with
  | [] => return 0
  | name :: rest =>
    let found ← find name
    let isThere := match found with
      | .utility .. | .script _ => true
      | _ => false
    if isThere then change fun process => { process with traps := process.traps.filter (·.1 ≠ "EXIT") }
    setStatus (← startFound control.go control.start name found rest)
    throw .ended

/-- Tells what a name stands for. -/
def tellCommand : Builtin := fun arguments => do
  let (options, names) ← options "pvV" "" arguments
  match options.reverse.find? (·.1 ≠ 'p'), names with
  | some (letter, _), name :: _ => describe (letter == 'V') name
  | _, _ => return 0

/-- Finds programs, so that they are known. -/
def findPrograms : Builtin := fun arguments => do
  let (_, names) ← options "rv" "" arguments
  names.foldlM (fun status name => do
    if isBuiltin name || ((← process).functions.lookup name).isSome then return status
    else
      match (← find name) with
      | .utility .. | .script _ => return status
      | _ =>
        complain s!"{name}: not found"
        return 1) 0

/-- Tells the time that the shell took, which is none. -/
def tellTimes : Builtin := fun _ => do
  say "0m0.000000s 0m0.000000s\n0m0.000000s 0m0.000000s\n"
  return 0

/-- Names other names for commands. -/
def setAliases : Builtin := fun arguments => do
  if arguments.isEmpty then
    say (String.join ((← process).aliases.map fun (name, value) => s!"{name}={inQuotes value}\n"))
    return 0
  else
    arguments.foldlM (fun status argument => do
      match settingArgument argument with
      | (name, some value) =>
        change fun process =>
          { process with aliases := process.aliases.filter (·.1 ≠ name) ++ [(name, value)] }
        return status
      | (name, none) =>
        match (← process).aliases.lookup name with
        | some value =>
          say s!"{name}={inQuotes value}\n"
          return status
        | none =>
          report s!"alias: {name} not found\n"
          return 1) 0

/-- Forgets other names for commands. -/
def unsetAliases : Builtin := fun arguments => do
  let (options, names) ← options "a" "" arguments
  if ! options.isEmpty then
    change fun process => { process with aliases := [] }
    return 0
  else
    names.foldlM (fun status name => do
      if (← process).aliases.any (·.1 == name) then
        change fun process => { process with aliases := process.aliases.filter (·.1 ≠ name) }
        return status
      else
        report s!"unalias: {name} not found\n"
        return 1) 0

/-- The builtin program of a name. -/
def builtin? (control : Control) (name : String) : Option Builtin :=
  match plainBuiltins.lookup name with
  | some builtin => some builtin
  | none =>
    match name with
    | "exit" => some exit
    | "return" => some control.leaveFunction
    | "break" => some (leaveLoops .leave)
    | "continue" => some (leaveLoops .again)
    | "eval" => some control.evaluate
    | "." => some control.source
    | "exec" => some control.replaceShell
    | "command" => some tellCommand
    | "type" => some describeAll
    | "wait" => some (waitFor control.go)
    | "times" => some tellTimes
    | "hash" => some findPrograms
    | "alias" => some setAliases
    | "unalias" => some unsetAliases
    | "jobs" => some (constant 0)
    | "fg" | "bg" => some fun _ => fail "No current job"
    | _ => none

end Control

end UiCheck.Rehearsal.Shell
