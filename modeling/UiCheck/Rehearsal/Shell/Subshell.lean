import UiCheck.Rehearsal.Shell.Program
import UiCheck.Rehearsal.Shell.Redirect

/-! # Processes within processes

A shell runs some commands in a process of their own, which shares the files and the streams but not the
variables. Such a process gives its status, and its output where that is asked for. A command that is not waited
for runs once the shell waits, or at its end. How a command runs is left open.
-/

namespace UiCheck.Rehearsal.Shell

open Files UiCheck.Rehearsal.Shell.Action

/-- A way to run commands; the flag says that a failure is looked at by the command around it. -/
abbrev Runner := Bool → Command → Action Unit

/-- Takes a step, and answers why it stopped if it did. -/
def stopped? (action : Action Unit) : Action (Option Stop) :=
  tryCatch (do action; return none) fun stop => return some stop

/-- Runs the commands of a text line by line, and answers whether there were any. -/
def runLines (go : Runner) (tested : Bool) : Nat → Bool → Source → Action Bool
  | 0, _, _ => throw .exhausted
  | fuel + 1, ran, source => do
    let before ← process
    match nextCommand.run { source with documents := before.documents, aliases := before.aliases } with
    | .error problem source =>
      change fun process => { process with line := source.line }
      fail s!"Syntax error: {problem.message}"
    | .ok none _ => return ran
    | .ok (some .skip) source => runLines go tested fuel ran source
    | .ok (some command) source =>
      change fun process => { process with documents := source.documents }
      if ! (← isOn .readOnly) then go tested command
      runLines go tested fuel true source

/-- Runs the commands of a text; without any the status is zero. -/
def runText (go : Runner) (tested : Bool) (text : String) : Action Unit := do
  if ! (← runLines go tested (text.length + 2) false { rest := text.toList }) then setStatus 0

/-- Does what the process has said it does at its end. -/
def atEnd (go : Runner) : Action Unit := do
  match (← process).traps.lookup "EXIT" with
  | none => return ()
  | some text =>
    let status := (← process).status
    change fun process =>
      { process with
        traps := process.traps.filter (·.1 ≠ "EXIT"), running := none, eventStatus := some status }
    match (← stopped? (runText go false text)) with
    | some .ended => return ()
    | some (.killed signal) => throw (.killed signal)
    | _ => setStatus status

/-- Does what is to be done because signals came. -/
def runPending (go : Runner) : Nat → Action Unit
  | 0 => return ()
  | fuel + 1 => do
    match (← process).pending with
    | [] => return ()
    | text :: rest =>
      let before ← process
      change fun process => { process with pending := rest, eventStatus := some before.status }
      runText go false text
      change fun process => { process with status := before.status, eventStatus := before.eventStatus }
      runPending go fuel

/-- Runs a process to its end and answers its status. The process that was there before goes on afterwards. -/
def inProcess (go : Runner) (action : Action Unit) : Action Nat := do
  let before ← process
  let stop ← stopped? (do
    match (← stopped? action) with
    | some (.killed signal) => throw (.killed signal)
    | some .exhausted => throw .exhausted
    | some .expired => throw .expired
    | _ => atEnd go)
  let status := (← process).status % 256
  change fun _ => before
  match stop with
  | some (.killed signal) => throw (.killed signal)
  | some .exhausted => throw .exhausted
  | some .expired => throw .expired
  | _ =>
    receiveAll
    return status

/-- Runs commands in a process of their own, which goes on from where this one is. -/
def subshell (go : Runner) (action : Action Unit) : Action Nat :=
  inProcess go do
    change fun process =>
      { process with traps := process.traps.filter (·.2.isEmpty), pending := [], inner := true }
    action

/-- Text without line ends at its end. -/
def withoutEnd (s : String) : String :=
  String.ofList (s.toList.reverse.dropWhile (· == '\n')).reverse

/-- The content of a stream that keeps it. -/
def contentOf (number : Nat) : Action ByteArray := do
  match (← machine).streams[number]? with
  | some (.pipe content _) => return content
  | _ => return .empty

/-- The output of a command, without line ends at its end. -/
def captured (go : Runner) (body : Command) : Action String := do
  let number ← addStream (.pipe .empty 0)
  let status ← subshell go do
    connect 1 number
    go false body
  change fun process => { process with outputStatus := some status }
  let s := octetsOf (← contentOf number)
  return withoutEnd (String.ofList (s.toList.filter fun c => c ≠ Char.ofNat 0))

/-- What is said about a process that a signal ended. -/
def signalReport (signal : Nat) : String :=
  match eventName signal with
  | "HUP" => "Hangup\n"
  | "INT" | "PIPE" => ""
  | "QUIT" => "Quit\n"
  | "ILL" => "Illegal instruction\n"
  | "TRAP" => "Trace/breakpoint trap\n"
  | "ABRT" => "Aborted\n"
  | "BUS" => "Bus error\n"
  | "FPE" => "Floating point exception\n"
  | "KILL" => "Killed\n"
  | "USR1" => "User defined signal 1\n"
  | "SEGV" => "Segmentation fault\n"
  | "USR2" => "User defined signal 2\n"
  | "ALRM" => "Alarm clock\n"
  | "TERM" => "Terminated\n"
  | name => name ++ "\n"

/-- Runs the commands that were not waited for. -/
def runJobs (go : Runner) : Nat → Action Unit
  | 0 => return ()
  | fuel + 1 => do
    match (← machine).jobs with
    | [] => return ()
    | job :: rest =>
      changeMachine fun machine => { machine with jobs := rest }
      let status ← inProcess go do
        change fun _ =>
          { job.process with traps := job.process.traps.filter (·.2.isEmpty), pending := [], inner := true }
        go false job.body
      changeMachine fun machine => { machine with ends := (job.number, status) :: machine.ends }
      runJobs go fuel

/-- Leaves a command to itself. -/
def startJob (body : Command) : Action Unit := do
  let number := (← machine).nextNumber
  let input ← addStream .void
  let process ← process
  let descriptors := (0, input) :: process.descriptors.filter (·.1 ≠ 0)
  changeMachine fun machine =>
    { machine with
      nextNumber := number + 1
      jobs := machine.jobs ++ [{ number, process := { process with descriptors }, body }] }
  change fun process => { process with lastJob := some number, status := 0 }

/-- Waits for commands that were not waited for before. -/
def waitFor (go : Runner) : Builtin := fun arguments => do
  runJobs go ((← machine).jobs.length + 64)
  arguments.foldlM (fun _ argument => do
    if argument.startsWith "%" then
      if (← process).lastJob.isNone then fail s!"No such job: {argument}"
      else return ((← machine).ends.head?.map (·.2)).getD 127
    else
      let number ← numberArgument argument
      match (← machine).ends.lookup number with
      | some status =>
        if 128 < status then report (signalReport (status - 128))
        return status
      | none => return 127) 0

end UiCheck.Rehearsal.Shell
