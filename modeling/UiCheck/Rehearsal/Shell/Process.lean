import UiCheck.Files.Disk
import UiCheck.Rehearsal.Shell.Command
import UiCheck.Rehearsal.Shell.Octets
import UiCheck.Rehearsal.Shell.Switch

/-! # Processes

A shell is a process with variables, functions, arguments and a table of descriptors. Processes share the
files, and the streams to which their descriptors lead. A process may stop in the midst of a command: because
it ends, because something failed, or because it leaves a loop or a function.
-/

namespace UiCheck.Rehearsal.Shell

open Files

/-- What a descriptor leads to. -/
inductive Stream where
  /-- Bytes that are kept, and the number of those read so far. -/
  | pipe (content : ByteArray) (position : Nat)
  /-- The file at a place, and where in it the next byte is. -/
  | file (place : List String) (position : Nat) (opening : Opening)
  | directory
  /-- Swallows everything and holds nothing. -/
  | void
  deriving Inhabited

/-- A variable; one without a value may still be marked. -/
structure Variable where
  value : Option String
  /-- Other programs see it. -/
  exported : Bool := false
  /-- Its value cannot change. -/
  fixed : Bool := false
  deriving Inhabited

/-- A shell. -/
structure Process where
  /-- The working directory. -/
  place : List String
  /-- The working directory as it was named. -/
  directory : String
  descriptors : List (Nat × Nat)
  bindings : List (String × Variable) := []
  functions : List (String × Command) := []
  /-- The texts that stand with commands. -/
  documents : Array Word := #[]
  name : String := "sh"
  arguments : List String := []
  /-- Other names for the start of commands. -/
  aliases : List (String × String) := []
  switches : Switches := []
  /-- How the last command ended. -/
  status : Nat := 0
  /-- How the last output that a word needed was made. -/
  outputStatus : Option Nat := none
  /-- The line of the command that runs. -/
  line : Nat := 1
  /-- The builtin program that runs, by which messages name it. -/
  running : Option String := none
  /-- The number of loops around the command that runs. -/
  loops : Nat := 0
  /-- The number of functions that run. -/
  depth : Nat := 0
  /-- The values of variables to go back to, for each function that runs and each setting for one command. -/
  frames : List (List (String × Option Variable)) := []
  /-- What is to be done at an event. -/
  traps : List (String × String) := []
  /-- The number of the process that was last not waited for. -/
  lastJob : Option Nat := none
  /-- The characters of an argument that were already taken as options. -/
  optionOffset : Nat := 0
  /-- The permissions that new files do not get. -/
  mask : Nat := 18
  /-- What is still to be done because a signal came. -/
  pending : List String := []
  /-- The number of the shell; the processes that it starts for its own commands share it. -/
  number : Nat := 100
  /-- A shell started the process for its own commands. -/
  inner : Bool := false
  /-- The numbers of the shells that wait for this one. -/
  parents : List Nat := []
  /-- How the last command ended before what is done at an event began. -/
  eventStatus : Option Nat := none
  deriving Inhabited

/-- A command that is not waited for. -/
structure Job where
  number : Nat
  process : Process
  body : Command
  deriving Inhabited

/-- What processes share. -/
structure Machine where
  tree : Node
  streams : Array Stream
  /-- Jobs that have not run yet. -/
  jobs : List Job := []
  /-- How jobs ended. -/
  ends : List (Nat × Nat) := []
  /-- The number of the next process. -/
  nextNumber : Nat := 101
  /-- Signals on their way, each with the number of the shell that it is for. -/
  signals : List (Nat × Nat) := []
  /-- The time that has been waited for so far, in thousandths of a second. -/
  clock : Nat := 0
  /-- When the program that runs is to be stopped. -/
  deadline : Option Nat := none
  /-- The places of files that may be run. -/
  runnable : List (List String) := []
  deriving Inhabited

/-- A process and all that it shares. -/
structure State where
  machine : Machine
  process : Process
  deriving Inhabited

/-- Why a process does not go on with its commands. -/
inductive Stop where
  | ended
  /-- Something went wrong, which was told. -/
  | failed
  /-- A number of loops is left. -/
  | leave (loops : Nat)
  /-- The next round of the loop so far out begins. -/
  | again (loops : Nat)
  | returned
  | killed (signal : Nat)
  /-- The time that was set for a program is over. -/
  | expired
  /-- The commands take too long. -/
  | exhausted
  deriving DecidableEq, Inhabited, Repr

/-- A step of a process. -/
abbrev Action := EStateM Stop State

namespace Action

/-- The process. -/
def process : Action Process :=
  return (← get).process

/-- The process was told to do something. -/
def isOn (switch : Switch) : Action Bool :=
  return (← process).switches.contains switch

/-- Changes the process. -/
def change (f : Process → Process) : Action Unit :=
  modify fun state => { state with process := f state.process }

/-- What the processes share. -/
def machine : Action Machine :=
  return (← get).machine

/-- Changes what the processes share. -/
def changeMachine (f : Machine → Machine) : Action Unit :=
  modify fun state => { state with machine := f state.machine }

/-- The files as the process sees them. -/
def disk : Action Disk :=
  return { tree := (← machine).tree, start := (← process).place }

/-- Replaces the files. -/
def putDisk (disk : Disk) : Action Unit :=
  changeMachine fun machine => { machine with tree := disk.tree }

/-- Sets the status. -/
def setStatus (status : Nat) : Action Unit :=
  change fun process => { process with status }

/-- Adds a stream and answers its number. -/
def addStream (stream : Stream) : Action Nat := do
  let number := (← machine).streams.size
  changeMachine fun machine => { machine with streams := machine.streams.push stream }
  return number

/-- The number of the stream that a descriptor leads to. -/
def streamNumber? (descriptor : Nat) : Action (Option Nat) :=
  return (← process).descriptors.lookup descriptor

/-- Makes a descriptor lead to a stream. -/
def connect (descriptor stream : Nat) : Action Unit :=
  change fun process =>
    { process with
      descriptors := (descriptor, stream) :: process.descriptors.filter (·.1 ≠ descriptor) }

/-- Closes a descriptor. -/
def disconnect (descriptor : Nat) : Action Unit :=
  change fun process => { process with descriptors := process.descriptors.filter (·.1 ≠ descriptor) }

/-- Replaces a stream. -/
def putStream (number : Nat) (stream : Stream) : Action Unit :=
  changeMachine fun machine => { machine with streams := machine.streams.setIfInBounds number stream }

/-- Bytes with others written over them from a position on. -/
def overwritten (content bytes : ByteArray) (position : Nat) : ByteArray :=
  let gap := position - content.size
  content.extract 0 position ++ ⟨Array.replicate gap 0⟩ ++ bytes
    ++ content.extract (position + bytes.size) content.size

/-- Writes bytes to a descriptor, and answers whether that is possible. -/
def write (descriptor : Nat) (bytes : ByteArray) : Action Bool := do
  match (← streamNumber? descriptor) with
  | none => return false
  | some number =>
    match (← machine).streams[number]? with
    | some (.pipe ..) =>
      changeMachine fun machine =>
        { machine with
          streams := machine.streams.modify number fun stream =>
            match stream with
            | .pipe content position => .pipe (content ++ bytes) position
            | other => other }
      return true
    | some (.file place position opening) =>
      let tree := (← machine).tree
      match tree.get? place with
      | some (.file content) =>
        let start := if opening = .append then content.size else position
        if opening = .read then return false
        else
          changeMachine fun machine =>
            { machine with tree := Node.set (.file (overwritten content bytes start)) place machine.tree }
          putStream number (.file place (start + bytes.size) opening)
          return true
      | _ => return true
    | some .void => return true
    | _ => return false

/-- What is left to read from a descriptor. -/
def remaining (descriptor : Nat) : Action (Except IoError ByteArray) := do
  match (← streamNumber? descriptor) with
  | none => return .error (.other "Bad file descriptor")
  | some number =>
    match (← machine).streams[number]? with
    | some (.pipe content position) => return .ok (content.extract position content.size)
    | some (.file place position _) =>
      match (← machine).tree.get? place with
      | some (.file content) => return .ok (content.extract position content.size)
      | _ => return .ok .empty
    | some .directory => return .error .isDirectory
    | _ => return .ok .empty

/-- Passes a number of bytes of what is left to read from a descriptor. -/
def passInput (descriptor count : Nat) : Action Unit := do
  match (← streamNumber? descriptor) with
  | none => return ()
  | some number =>
    changeMachine fun machine =>
      { machine with
        streams := machine.streams.modify number fun stream =>
          match stream with
          | .pipe content position => .pipe content (position + count)
          | .file place position opening => .file place (position + count) opening
          | other => other }

/-- Writes octets to the output. -/
def say (octets : String) : Action Unit := do
  let _ ← write 1 (bytesOf octets)

/-- Writes octets to the output for problems. -/
def report (octets : String) : Action Unit := do
  let _ ← write 2 (bytesOf octets)

/-- Tells what is wrong. -/
def complain (message : String) : Action Unit := do
  let process ← process
  let running := (process.running.map (· ++ ": ")).getD ""
  report s!"{process.name}: {process.line}: {running}{message}\n"

/-- Tells what is wrong and gives up. -/
def fail {α : Type} (message : String) : Action α := do
  complain message
  setStatus 2
  throw .failed

/-- A variable. -/
def known? (name : String) : Action (Option Variable) :=
  return (← process).bindings.lookup name

/-- The value of a variable. -/
def value? (name : String) : Action (Option String) :=
  return (← known? name).bind (·.value)

/-- Puts a variable in place of another one with its name. -/
def putVariable (name : String) (known : Option Variable) : Action Unit :=
  change fun process =>
    { process with
      bindings := (known.map fun v => (name, v)).toList ++ process.bindings.filter (·.1 ≠ name) }

/-- Fails if the value of a variable cannot change. -/
def requireFree (name : String) : Action Unit := do
  if (← known? name).any (·.fixed) then fail s!"{name}: is read only"

/-- Sets a variable. -/
def assign (name value : String) : Action Unit := do
  requireFree name
  let known := (← known? name).getD { value := none }
  let exported := known.exported || (← isOn .exportAll)
  putVariable name (some { known with value := some value, exported })
  if name = "OPTIND" then change fun process => { process with optionOffset := 0 }

/-- Keeps the value of a variable to go back to it when the function ends. -/
def keep (name : String) : Action Unit := do
  let known ← known? name
  change fun process =>
    match process.frames with
    | frame :: frames =>
      { process with
        frames := (if frame.any (·.1 = name) then frame else (name, known) :: frame) :: frames }
    | [] => process

/-- Takes a step and then another one, however the first one stops. -/
def andThen {α : Type} (action : Action α) (last : Action Unit) : Action α := do
  match (← tryCatch (Except.ok <$> action) fun stop => pure (Except.error stop)) with
  | .ok a =>
    last
    return a
  | .error stop =>
    last
    throw stop

/-- Takes a step after which the variables that it keeps have their values again. -/
def withFrame {α : Type} (action : Action α) : Action α := do
  change fun process => { process with frames := [] :: process.frames }
  action.andThen do
    (← process).frames.headD [] |>.forM fun (name, known) => putVariable name known
    change fun process => { process with frames := process.frames.tail }

/-- Takes a step after which the descriptors lead to where they led. -/
def withDescriptors {α : Type} (action : Action α) : Action α := do
  let descriptors := (← process).descriptors
  action.andThen (change fun process => { process with descriptors })

/-- Takes a step while a builtin program runs. -/
def withRunning {α : Type} (name : Option String) (action : Action α) : Action α := do
  let running := (← process).running
  change fun process => { process with running := name }
  action.andThen (change fun process => { process with running })

/-- The character that separates arguments joined to one text. -/
def joiner : Action String := do
  match (← known? "IFS").bind (·.value) with
  | none => return " "
  | some s => return String.ofList (s.toList.take 1)

/-- The characters that separate fields. -/
def separators : Action (List Char) := do
  return ((← value? "IFS").getD " \t\n").toList

/-- A path that octets name. -/
def path (octets : String) : String := textOf octets

/-- The row in which a variable is kept: the sum of the characters of its name, the first of them counted
seventeen times, up to a multiple of the number of rows. -/
def rowOf (name : String) : Nat :=
  (16 * (name.toList.head?.map Char.toNat).getD 0 + name.toList.foldl (fun n c => n + c.toNat) 0) % 39

/-- The variables that other programs see, row by row, and the older ones of a row first. -/
def environment : Action (List (String × String)) := do
  let seen := (← process).bindings.filterMap fun (name, known) =>
    if known.exported then known.value.map fun value => (name, value) else none
  return seen.reverse.mergeSort fun a b => rowOf a.1 ≤ rowOf b.1

end Action

end UiCheck.Rehearsal.Shell
