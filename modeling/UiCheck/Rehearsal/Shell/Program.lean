import UiCheck.Rehearsal.Shell.Builtin.Places
import UiCheck.Rehearsal.Shell.Builtin.Signals
import UiCheck.Rehearsal.Shell.Builtin.Variables
import UiCheck.Rehearsal.Shell.Condition
import UiCheck.Rehearsal.Shell.Format
import UiCheck.Rehearsal.Shell.Grammar
import UiCheck.Rehearsal.Shell.Utility.Columns
import UiCheck.Rehearsal.Shell.Utility.Compare
import UiCheck.Rehearsal.Shell.Utility.Dump
import UiCheck.Rehearsal.Shell.Utility.Entries
import UiCheck.Rehearsal.Shell.Utility.Evaluate
import UiCheck.Rehearsal.Shell.Utility.Grep
import UiCheck.Rehearsal.Shell.Utility.LineEditor
import UiCheck.Rehearsal.Shell.Utility.Lines
import UiCheck.Rehearsal.Shell.Utility.Numbers
import UiCheck.Rehearsal.Shell.Utility.Sort
import UiCheck.Rehearsal.Shell.Utility.Translate
import UiCheck.Rehearsal.Shell.Utility.Words

/-! # Programs

A name stands for a builtin program, a function or a utility. Builtin programs that are special stop the shell
if they fail; the others only give a status. Utilities are found through the path that the shell is given.
-/

namespace UiCheck.Rehearsal.Shell

/-! ## The utilities by name -/

/-- The utilities. -/
def utilities : List (String × Utility) :=
  [("arch", teller "x86_64"), ("base64", base64), ("basename", basename), ("cat", cat), ("cmp", cmp),
    ("comm", comm), ("cp", cp), ("cut", cut), ("diff", diff), ("dirname", dirname), ("echo", echoWords),
    ("egrep", grepWith true false), ("expand", expand), ("expr", expr), ("fgrep", grepWith false true),
    ("fold", fold), ("grep", grep), ("groups", groups), ("head", head), ("id", id), ("ln", ln), ("ls", ls),
    ("mkdir", mkdir), ("mv", mv), ("nl", nl), ("od", od), ("paste", paste), ("pwd", workingDirectory),
    ("readlink", readlink), ("realpath", realpath), ("rev", rev), ("rm", rm), ("rmdir", rmdir),
    ("sed", sed), ("seq", seq), ("sort", sort), ("sync", idle), ("tac", tac), ("tail", tail), ("tee", tee),
    ("touch", touch), ("tr", tr), ("tty", tty), ("uname", uname), ("uniq", uniq), ("wc", wc),
    ("whoami", teller "root"), ("yes", yes)]

/-- The utilities that run commands themselves. -/
def runningUtilities : List String :=
  ["sh", "dash", "bash", "env", "printenv", "xargs", "sleep", "chmod", "nohup", "timeout", "nice", "setsid",
    "find", "which"]

/-- The utilities that do what builtin programs of the same name do. -/
def builtinUtilities : List String :=
  ["true", "false", "printf", "test", "[", "kill"]

/-- The name is that of a utility. -/
def isUtility (name : String) : Bool :=
  (utilities.lookup name).isSome || runningUtilities.contains name || builtinUtilities.contains name

/-! ## What names stand for -/

open Files UiCheck.Rehearsal.Shell.Action

/-- Writes its arguments, in which escapes count, with blanks between them. -/
def echo : Builtin := fun arguments => do
  let (arguments, newline) := match arguments with
    | "-n" :: rest => (rest, false)
    | all => (all, true)
  let (text, stopped) := unescaped (" ".intercalate arguments)
  if ← write 1 (bytesOf (if newline && ! stopped then text ++ "\n" else text)) then return 0
  else
    complain "echo: I/O error"
    return 1

/-- Writes its arguments as its first argument says. -/
def printf : Builtin := fun arguments => do
  let (_, arguments) ← options "" "" arguments
  match arguments with
  | [] => fail "usage: printf format [arg ...]"
  | source :: rest =>
    let result := printed source rest
    result.problems.reverse.forM complain
    say (String.ofList result.done.reverse)
    match result.failure with
    | some message => fail message
    | none => return if result.problems.isEmpty then 0 else 1

/-- Judges a condition. -/
def test (brackets : Bool) : Builtin := fun arguments => do
  let words ← if ! brackets then pure arguments
    else if arguments.getLast? = some "]" then pure arguments.dropLast
    else fail "missing ]"
  match judge (← disk) (← machine).runnable words with
  | .ok true => return 0
  | .ok false => return 1
  | .error e => fail e.message

/-- A builtin program that does nothing but give a status. -/
def constant (status : Nat) : Builtin := fun _ => return status

/-- The builtin programs that do not run commands, by name. -/
def plainBuiltins : List (String × Builtin) :=
  [(":", constant 0), ("true", constant 0), ("false", constant 1), ("echo", echo), ("printf", printf),
    ("test", test false), ("[", test true), ("cd", changeDirectory), ("chdir", changeDirectory),
    ("pwd", tellDirectory), ("umask", setMask), ("ulimit", tellLimits), ("export", exportVariables),
    ("readonly", fixVariables), ("local", localVariables), ("unset", unsetNames), ("set", setArguments),
    ("shift", shiftArguments), ("getopts", getOptions), ("read", readVariables), ("kill", sendSignals),
    ("trap", setTraps)]

/-- The builtin programs that run commands or look at what names stand for. -/
def runningBuiltins : List String :=
  [".", "eval", "exec", "exit", "return", "break", "continue", "command", "type", "wait", "times", "hash", "alias",
    "unalias", "jobs", "fg", "bg"]

/-- The name stands for a builtin program. -/
def isBuiltin (name : String) : Bool :=
  (plainBuiltins.lookup name).isSome || runningBuiltins.contains name

/-- The builtin program stops the shell if it fails. -/
def isSpecial (name : String) : Bool :=
  specialBuiltins.contains name

/-- The arguments of the program may be settings, which give one field each. -/
def takesSettings (name : String) : Bool :=
  ["export", "readonly", "local", "alias"].contains name

/-- The directories in which utilities are. -/
def utilityPlaces : List String := ["/usr/local/bin", "/usr/bin", "/bin", "/usr/sbin", "/sbin"]

/-- What a name that is no builtin program and no function stands for. -/
inductive Found where
  | utility (name path : String)
  /-- A file whose text is to be run. -/
  | script (path : String)
  | forbidden
  | missing
  deriving DecidableEq, Inhabited, Repr

/-- The file at a path may be run. -/
def isRunnable (disk : Disk) (runnable : List (List String)) (path : String) : Bool :=
  match disk.locate true (textOf path) with
  | .ok (.present names (.file _)) => runnable.contains names.reverse
  | _ => false

/-- What the path to a program stands for. -/
def foundAt (disk : Disk) (runnable : List (List String)) (path : String) : Found :=
  let name := lastName path
  let directory := String.ofList (path.toList.take (path.length - name.length - 1))
  if ["/usr/bin", "/bin"].contains directory && isUtility name then .utility name path
  else if isRunnable disk runnable path then .script path
  else if disk.exists? (textOf path) then .forbidden
  else .missing

/-- What a name stands for, looked for in directories with colons between them. -/
def findIn (path name : String) : Action Found := do
  let disk ← disk
  let runnable := (← machine).runnable
  if name.contains '/' then return foundAt disk runnable name
  else
    let places := path.splitOn ":"
    let candidates := places.map fun place => (place, if place.isEmpty then name else below place name)
    return (candidates.findSome? fun candidate =>
      if ["/usr/bin", "/bin"].contains candidate.1 && isUtility name then some (.utility name candidate.2)
      else if isRunnable disk runnable candidate.2 then some (.script candidate.2)
      else none).getD .missing

/-- What a name stands for, as the path of the shell leads to it. -/
def find (name : String) : Action Found := do
  findIn ((← value? "PATH").getD "") name

/-- Tells what a name stands for, in full or only how to call it; answers a status. -/
def describe (full : Bool) (name : String) : Action Nat := do
  let tell (long short : String) : Action Nat := do
    say ((if full then s!"{name} is {long}" else short) ++ "\n")
    return 0
  if keywords.contains name then tell "a shell keyword" name
  else if specialBuiltins.contains name then tell "a special shell builtin" name
  else if ((← process).functions.lookup name).isSome then tell "a shell function" name
  else if isBuiltin name then tell "a shell builtin" name
  else
    match (← find name) with
    | .utility _ path | .script path => tell path path
    | .forbidden | .missing =>
      if full then say s!"{name}: not found\n"
      return 127

/-- Tells what names stand for. -/
def describeAll : Builtin := fun names =>
  names.foldlM (fun status name => return max status (← describe true name)) 0

end UiCheck.Rehearsal.Shell
