/-! # Switches

What a shell can be told to do on the way. Each switch has a name, and most have a letter as well.
-/

namespace UiCheck.Rehearsal.Shell

/-- Something that a shell can be told to do. -/
inductive Switch where
  /-- A command that fails ends the shell. -/
  | stopOnFailure
  /-- Patterns are not taken for paths. -/
  | noPaths
  /-- The end of the input does not end the shell. -/
  | ignoreEnd
  /-- Somebody types the commands. -/
  | interactive
  /-- Commands that are not waited for are watched. -/
  | watchJobs
  /-- Commands are only read. -/
  | readOnly
  /-- Commands come from the input. -/
  | readInput
  /-- Commands are told before they run. -/
  | trace
  /-- Lines are told as they are read. -/
  | verbose
  /-- Lines are edited in one of two ways. -/
  | vi
  | emacs
  /-- Files are not emptied by a plain redirection. -/
  | keepFiles
  /-- All variables that are set become visible to other programs. -/
  | exportAll
  /-- The end of a command that is not waited for is told at once. -/
  | notify
  /-- A variable without a value is an error. -/
  | strict
  /-- The rights that the shell was started with are kept. -/
  | privileged
  | noLog
  | debug
  deriving DecidableEq, Inhabited, Repr

/-- What a shell is told to do. -/
abbrev Switches := List Switch

/-- The switches in the order in which they are listed, with their names and letters. -/
def switchTable : List (Switch × String × Option Char) :=
  [(.stopOnFailure, "errexit", some 'e'), (.noPaths, "noglob", some 'f'), (.ignoreEnd, "ignoreeof", some 'I'),
    (.interactive, "interactive", some 'i'), (.watchJobs, "monitor", some 'm'), (.readOnly, "noexec", some 'n'),
    (.readInput, "stdin", some 's'), (.trace, "xtrace", some 'x'), (.verbose, "verbose", some 'v'),
    (.vi, "vi", some 'V'), (.emacs, "emacs", some 'E'), (.keepFiles, "noclobber", some 'C'),
    (.exportAll, "allexport", some 'a'), (.notify, "notify", some 'b'), (.strict, "nounset", some 'u'),
    (.privileged, "privileged", some 'p'), (.noLog, "nolog", none), (.debug, "debug", none)]

namespace Switch

/-- The switch with a letter. -/
def ofLetter? (c : Char) : Option Switch :=
  (switchTable.find? (·.2.2 == some c)).map (·.1)

/-- The switch with a name. -/
def ofName? (name : String) : Option Switch :=
  (switchTable.find? (·.2.1 == name)).map (·.1)

end Switch

namespace Switches

/-- The switches with one of them on or off. -/
def set (switches : Switches) (on : Bool) (switch : Switch) : Switches :=
  if on then switch :: switches.filter (· != switch) else switches.filter (· != switch)

/-- The letters of the switches that are on. -/
def letters (switches : Switches) : String :=
  String.ofList (switchTable.reverse.filterMap fun (switch, _, letter) =>
    if switches.contains switch then letter else none)

/-- All switches as a list for a reader. -/
def report (switches : Switches) : String :=
  let line (name : String) (on : Bool) : String :=
    name ++ String.ofList (List.replicate (16 - name.length) ' ') ++ (if on then "on" else "off") ++ "\n"
  "Current option settings\n"
    ++ String.join (switchTable.map fun (switch, name, _) => line name (switches.contains switch))

/-- All switches as commands that set them. -/
def commands (switches : Switches) : String :=
  String.join (switchTable.map fun (switch, name, _) =>
    (if switches.contains switch then "set -o " else "set +o ") ++ name ++ "\n")

end Switches

end UiCheck.Rehearsal.Shell
