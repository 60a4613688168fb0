import UiCheck.Build.Command
import UiCheck.Rehearsal.Shell.Call

/-! # Running commands

A command runs in a process, with one unit of fuel for each level of commands in commands and for each round of
a loop. A failure that no other command looks at ends the shell if it was told so. Running a text from its start
gives a status and what was written to the two outputs.
-/

/-! ## The directories of the system

Around the files that a command line is about there are the directories of the system, with the utilities in
one of them. What is left there afterwards is not kept.
-/

namespace UiCheck.Rehearsal.Shell

open Files

/-- The directories of the system. -/
def systemDirectories : List (List String) :=
  [["boot"], ["dev"], ["etc"], ["home"], ["media"], ["mnt"], ["opt"], ["proc"], ["root"], ["run"], ["srv"], ["sys"],
    ["tmp"], ["usr", "bin"], ["usr", "include"], ["usr", "lib"], ["usr", "local", "bin"], ["usr", "sbin"],
    ["usr", "share"], ["var", "log"], ["var", "tmp"]]

/-- The links of the system, and where they lead. -/
def systemLinks : List (String × String) :=
  [("bin", "usr/bin"), ("lib", "usr/lib"), ("sbin", "usr/sbin")]

/-- The names of all utilities. -/
def utilityNames : List String :=
  utilities.map (·.1) ++ runningUtilities ++ builtinUtilities

/-- The directory above all others, with only what belongs to the system. -/
def systemRoot : Node :=
  let program (name : String) : Node → Node := Node.put (.file "\x7fELF".toUTF8) ["usr", "bin", name]
  let directories := systemDirectories.foldl (fun root place => Node.put .empty place root) Node.empty
  let links := systemLinks.foldl (fun root known => Node.put (.link known.2) [known.1] root) directories
  utilityNames.foldl (fun root name => program name root) links

/-- The entries of a directory. -/
def entriesOf : Node → Entries
  | .directory entries => entries
  | _ => []

/-- A tree with what belongs to the system where there is nothing else. -/
def withSystem (tree : Node) : Node :=
  let known := entriesOf tree
  let missing := (entriesOf systemRoot).filter fun entry => (known.lookup entry.1).isNone
  .directory (missing.foldl (fun entries entry => Entries.insert entry.1 entry.2 entries) known)

/-- A tree without what belongs to the system; `before` is the tree that it was added to. -/
def withoutSystem (before tree : Node) : Node :=
  let known := entriesOf before
  let added (name : String) : Bool :=
    ((entriesOf systemRoot).lookup name).isSome && (known.lookup name).isNone
  .directory ((entriesOf tree).filter fun entry => ! added entry.1)

/-- The places of the utilities, which may be run. -/
def utilityFiles : List (List String) :=
  utilityNames.map fun name => ["usr", "bin", name]

end UiCheck.Rehearsal.Shell

namespace UiCheck.Rehearsal.Shell

open Files UiCheck.Rehearsal.Shell.Action

/-- Ends the shell after a failure, if it is to end and no command looks at the failure. -/
def checkFailure (tested : Bool) : Action Unit := do
  let process ← process
  if process.status ≠ 0 && process.switches.contains .stopOnFailure && ! tested then throw .ended

/-- What the end of a round means for its loop. -/
inductive Round where
  | next
  | last
  /-- The loop stops as well, and tells others why. -/
  | beyond (stop : Stop)
  deriving DecidableEq, Inhabited, Repr

/-- What it means for a loop that a command in it stopped. -/
def Round.ofStop : Option Stop → Round
  | none => .next
  | some (.leave n) => if n ≤ 1 then .last else .beyond (.leave (n - 1))
  | some (.again n) => if n ≤ 1 then .next else .beyond (.again (n - 1))
  | some stop => .beyond stop

/-- Takes a step in a loop, which counts as one more. -/
def inLoop (action : Action Unit) : Action Unit := do
  let loops := (← process).loops
  change fun process => { process with loops := loops + 1 }
  action.andThen (change fun process => { process with loops })

/-- Runs rounds of a loop until it ends, and answers the status of the last body that ran. The body runs if
the condition is met. -/
def runRounds (go : Runner) (tested inverted : Bool) (condition body : Command) : Nat → Nat → Action Nat
  | 0, _ => throw .exhausted
  | fuel + 1, last => do
    match (← stopped? (go true condition)) with
    | some stop =>
      match Round.ofStop (some stop) with
      | .next => runRounds go tested inverted condition body fuel last
      | .last => return last
      | .beyond stop => throw stop
    | none =>
      if ((← process).status = 0) = inverted then return last
      else
        let stop ← stopped? (go tested body)
        let last := (← process).status
        match Round.ofStop stop with
        | .next => runRounds go tested inverted condition body fuel last
        | .last => return last
        | .beyond stop => throw stop

/-- Runs a body for each value of a variable, and answers the status of the last one. -/
def runEach (name : String) (body : Action Unit) : Nat → List String → Action Nat
  | last, [] => return last
  | _, value :: rest => do
    assign name value
    let stop ← stopped? body
    let last := (← process).status
    match Round.ofStop stop with
    | .next => runEach name body last rest
    | .last => return last
    | .beyond stop => throw stop

/-- The command of the first branch with a pattern that a text fits. -/
def branch? (output : Command → Action String) (s : String) :
    List (List Word × Command) → Action (Option Command)
  | [] => return none
  | (patterns, command) :: rest => do
    let fits ← patterns.foldlM (fun known word => do
      if known then return true else return (← wordPattern output word).fits s.toList) false
    if fits then return some command else branch? output s rest

/-- Runs commands each of which reads what the one before writes, and answers the status of the last one. Those
before it need not come to an end. -/
def runStages (go : Runner) (tested : Bool) : Option Nat → List Command → Action Nat
  | _, [] => return 0
  | input, [last] =>
    subshell go do
      input.forM (connect 0)
      go tested last
  | input, stage :: rest => do
    let pipe ← addStream (.pipe .empty 0)
    let _ ← tryCatch
      (subshell go do
        input.forM (connect 0)
        connect 1 pipe
        go tested stage)
      fun stop => if stop = .exhausted then return 141 else throw stop
    runStages go tested (some pipe) rest

/-- Runs a command whose parts `go` runs. -/
def runWith (fuel : Nat) (go : Runner) (tested : Bool) : Command → Action Unit
  | .skip => return ()
  | .simple line settings words redirections => runSimple go tested line settings words redirections
  | .redirected line body redirections => do
    change fun process => { process with line }
    let redirections ← redirections.mapM (redirected (captured go))
    withDescriptors do
      if ← redirectAll redirections then go tested body else checkFailure tested
  | .subshell line body redirections => do
    change fun process => { process with line }
    let redirections ← redirections.mapM (redirected (captured go))
    setStatus (← subshell go do if ← redirectAll redirections then go tested body)
  | .background body => startJob body
  | .pipeline stages => do setStatus (← runStages go tested none stages)
  | .not body => do
    go true body
    change fun process => { process with status := if process.status = 0 then 1 else 0 }
  | .both left right => do
    go true left
    if (← process).status = 0 then go tested right
  | .either left right => do
    go true left
    if (← process).status ≠ 0 then go tested right
  | .sequence left right => do
    go tested left
    go tested right
  | .choice condition yes no => do
    go true condition
    if (← process).status = 0 then go tested yes
    else
      match no with
      | some command => go tested command
      | none => setStatus 0
  | .loop inverted condition body =>
    inLoop do setStatus (← runRounds go tested inverted condition body fuel 0)
  | .each line name values body => do
    change fun process => { process with line }
    let values ← values.mapM (wordFields (captured go))
    inLoop do setStatus (← runEach name (go tested body) 0 values.flatten)
  | .select line subject branches => do
    change fun process => { process with line }
    let output := captured go
    match (← branch? output (← wordText output subject) branches) with
    | some .skip | none => setStatus 0
    | some command => go tested command
  | .define _ name body =>
    change fun process =>
      { process with functions := (name, body) :: process.functions.filter (·.1 ≠ name), status := 0 }

/-- A failure of the command may end the shell. -/
def Command.isChecked : Command → Bool
  | .simple .. | .subshell .. | .background _ | .pipeline _ => true
  | _ => false

/-- Runs a command, and afterwards what is to be done because of signals. -/
def run : Nat → Runner
  | 0 => fun _ _ => throw .exhausted
  | fuel + 1 => fun tested command => do
    if ← isOn .readOnly then return ()
    runWith fuel (run fuel) tested command
    if ! (← process).pending.isEmpty then runPending (run fuel) fuel
    if command.isChecked then checkFailure tested

/-- An argument of a program has less bytes than this. -/
def argumentLimit : Nat := 131072

/-- Where a command line starts that is to run in a directory. An error means that the shell cannot be
started. -/
def startingPlace (source directory : String) (disk : Disk) : Except IoError (List String) :=
  if source.toList.contains (Char.ofNat 0) then .error (.other "nul byte found in provided data")
  else
    match disk.locate true directory with
    | .ok (.present names (.directory _)) =>
      if source.utf8ByteSize < argumentLimit then .ok names.reverse
      else .error (.other "Argument list too long (os error 7)")
    | .ok (.present ..) => .error .notDirectory
    | .ok (.vacant ..) => .error .notFound
    | .error e => .error e

/-- The number of commands in commands, and of rounds of a loop, that a command line may take. -/
def greatestWork : Nat := 262144

/-- The variables that a shell starts with. -/
def startingVariables (bindings : List (String × String)) (place : String) : List (String × Variable) :=
  let seen (name value : String) : String × Variable := (name, { value := some value, exported := true })
  let given := (bindings.filter fun known => isName known.1).map fun known =>
    seen (octets known.1) (octets known.2)
  let defaults := [seen "HOME" "/root",
    seen "PATH" "/usr/local/sbin:/usr/local/bin:/usr/sbin:/usr/bin:/sbin:/bin"]
  [seen "PWD" place, ("PPID", { value := some "99" }), ("OPTIND", { value := some "1" }),
      ("IFS", { value := some " \t\n" }), ("PS4", { value := some "+ " }), ("PS1", { value := some "# " }),
      ("PS2", { value := some "> " })]
    ++ (given ++ defaults.filter fun known => ! given.any (·.1 == known.1)).filter fun known =>
      ! ["PWD", "PPID", "OPTIND", "IFS", "PS1", "PS2", "PS4"].contains known.1

/-- A process in which a command line is to run, and what it shares with others. Its input is empty. -/
def startingState (bindings : List (String × String)) (place : List String) (disk : Disk) : State :=
  let directory := octets ("/" ++ "/".intercalate place)
  let machine : Machine := {
    tree := withSystem disk.tree, streams := Array.replicate 3 (.pipe .empty 0), runnable := utilityFiles }
  let bindings := startingVariables bindings directory
  let descriptors := [(0, 0), (1, 1), (2, 2)]
  { machine, process := { place, directory, descriptors, bindings } }

/-- Runs a text to its end, with the commands that it does not wait for, and answers its status. -/
def runWhole (source : String) : Action Nat := do
  let go := run greatestWork
  let stop ← stopped? (do
    setStatus (← inProcess go (runText go false source)))
  let ended := (← process).status
  let status := match stop with
    | some (.killed signal) => 128 + signal
    | _ => ended
  let _ ← stopped? (runJobs go greatestWork)
  return status

/-- Runs a command line in a directory. -/
def execute (bindings : List (String × String)) (source directory : String) (disk : Disk) :
    Except IoError Build.Remains × Disk :=
  match startingPlace source directory disk with
  | .error e => (.error e, disk)
  | .ok place =>
    let (status, state) := match (runWhole (octets source)).run (startingState bindings place disk) with
      | .ok status state => (status, state)
      | .error _ state => (1, state)
    let written (number : Nat) : ByteArray := match state.machine.streams[number]? with
      | some (.pipe content _) => content
      | _ => .empty
    (.ok { status, out := written 1, err := written 2 }, { disk with tree := withoutSystem disk.tree state.machine.tree })

end UiCheck.Rehearsal.Shell

namespace UiCheck.Rehearsal

/-- The shell that a rehearsal runs commands with. It touches nothing but the disk. -/
def shell {σ : Type} : Build.Shell σ where
  run bindings command directory disk s :=
    let (answer, disk) := Shell.execute bindings command directory disk
    (answer, disk, s)
  start command directory disk s := ((Shell.startingPlace command directory disk).map fun _ => (), s)

end UiCheck.Rehearsal
