import UiCheck.Rehearsal.Shell.Builtin.Options
import UiCheck.Rehearsal.Shell.Expansion

/-! # Signals

A signal ends a process unless the process has said what to do about it. Apart from signals a process may say
what to do when it ends.
-/

namespace UiCheck.Rehearsal.Shell

open UiCheck.Rehearsal.Shell.Action

/-- The names of the signals from number one on. -/
def signalNames : List String :=
  ["HUP", "INT", "QUIT", "ILL", "TRAP", "ABRT", "BUS", "FPE", "KILL", "USR1", "SEGV", "USR2", "PIPE", "ALRM",
    "TERM", "16", "CHLD", "CONT", "STOP", "TSTP", "TTIN", "TTOU", "URG", "XCPU", "XFSZ", "VTALRM", "PROF",
    "WINCH", "IO", "PWR", "SYS", "32", "33"]
    ++ "RTMIN" :: (List.range 15).map (fun n => s!"RTMIN+{n + 1}")
    ++ (List.range 14).map (fun n => s!"RTMAX-{14 - n}") ++ ["RTMAX"]

/-- The name of an event; zero is the end of the process. -/
def eventName (number : Nat) : String :=
  match number with
  | 0 => "EXIT"
  | n + 1 => signalNames[n]?.getD (toString number)

/-- The number of the event that a text names. -/
def event? (text : String) : Option Nat :=
  match wholeNumber? (some 10) false text with
  | some n => if 0 ≤ n ∧ n ≤ signalNames.length then some n.toNat else none
  | none =>
    let upper := String.ofList (text.toList.map Char.toUpper)
    if upper = "EXIT" then some 0 else (signalNames.findIdx? (· == upper)).map (· + 1)

/-- The signals that do nothing to a process that has not said anything. -/
def harmless : List String := ["CHLD", "CONT", "URG", "WINCH", "STOP", "TSTP", "TTIN", "TTOU"]

/-- What a signal does to the process that runs. -/
def receive (number : Nat) : Action Unit := do
  let name := eventName number
  match (← process).traps.lookup name with
  | some action =>
    if name = "KILL" ∨ name = "STOP" then throw (.killed number)
    else if ! action.isEmpty then
      change fun process => { process with pending := process.pending ++ [action] }
  | none => if number = 0 ∨ harmless.contains name then return () else throw (.killed number)

/-- Takes the signals on their way to the process. -/
def receiveAll : Action Unit := do
  let process ← process
  if ! process.inner then
    let signals := (← machine).signals
    changeMachine fun machine => { machine with signals := signals.filter (·.1 ≠ process.number) }
    (signals.reverse.filter (·.1 == process.number)).forM fun signal => receive signal.2

/-- Sends a signal to a process. -/
def send (number target : Nat) : Action Nat := do
  let process ← process
  if target = process.number ∨ process.parents.contains target then
    changeMachine fun machine => { machine with signals := (target, number) :: machine.signals }
    receiveAll
    return 0
  else if (← machine).jobs.any (·.number == target) then
    if number ≠ 0 then
      changeMachine fun machine =>
        { machine with
          jobs := machine.jobs.filter (·.number ≠ target), ends := (target, 128 + number) :: machine.ends }
    return 0
  else
    complain "No such process\n"
    return 1

/-- How signals are sent. -/
def killUsage : String :=
  "Usage: kill [-s sigspec | -signum | -sigspec] [pid | job]... or\nkill -l [exitstatus]"

/-- Names signals. -/
def listSignals : Builtin := fun arguments => do
  match arguments with
  | [] =>
    say (String.join (("0" :: signalNames).map (· ++ "\n")))
    return 0
  | argument :: _ =>
    let n ← numberArgument argument
    let number := if 128 < n then n - 128 else n
    if 0 < number ∧ number ≤ signalNames.length then
      say s!"{eventName number}\n"
      return 0
    else fail s!"invalid signal number or exit status: {argument}"

/-- Sends a signal to the processes that arguments name. -/
def sendAll (number : Nat) (targets : List String) : Action Nat := do
  if targets.isEmpty then fail killUsage
  else
    targets.foldlM (fun status target => do
      let text := if target.startsWith "-" then String.ofList target.toList.tail else target
      let sent ← send number (← numberArgument text)
      return max status sent) 0

/-- Sends signals. -/
def sendSignals : Builtin := fun arguments => do
  match arguments with
  | "-l" :: rest => listSignals rest
  | "-s" :: name :: rest =>
    match event? name with
    | some number => sendAll number rest
    | none => fail s!"invalid signal number or name: {name}"
  | ["-s"] => fail "No arg for -s option"
  | "--" :: rest => sendAll 15 rest
  | first :: rest =>
    match first.toList with
    | '-' :: c :: name =>
      match event? (String.ofList (c :: name)) with
      | some number => sendAll number rest
      | none => fail s!"Illegal option -{c}"
    | _ => sendAll 15 arguments
  | [] => fail killUsage

/-- What is to be done at an event, as a command. -/
def trapLine (action name : String) : String :=
  s!"trap -- {inQuotes action} {name}\n"

/-- The number of an event, by which events are listed. -/
def eventRank (name : String) : Nat :=
  (event? name).getD 0

/-- Says what is to be done at events. -/
def setTraps : Builtin := fun arguments => do
  let (_, arguments) ← options "" "" arguments
  match arguments with
  | [] =>
    let traps := (← process).traps.mergeSort fun a b => eventRank a.1 ≤ eventRank b.1
    say (String.join (traps.map fun (name, action) => trapLine action name))
    return 0
  | first :: rest =>
    let (action, events) :=
      if rest.isEmpty then (none, [first]) else (if first = "-" then none else some first, rest)
    let step (status : Nat) (event : String) : Action Nat := do
      match event? event with
      | none =>
        report s!"trap: {event}: bad trap\n"
        return 1
      | some number =>
        let name := eventName number
        if status ≠ 0 then return status
        else
          change fun process =>
            { process with
              traps := (action.map fun action => (name, action)).toList
                ++ process.traps.filter (·.1 ≠ name) }
          return status
    events.foldlM step 0

end UiCheck.Rehearsal.Shell
