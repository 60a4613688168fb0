import UiCheck.Rehearsal.Shell.Control

/-! # Calls

A simple command calls a program by the first field that its words give. Settings before it hold for the
program only, unless the program is special or there is none. Its redirections are followed before it starts,
and undone afterwards.
-/

namespace UiCheck.Rehearsal.Shell

open UiCheck.Rehearsal.Shell.Action

/-- The fields of the first word that gives any, and the words behind it. -/
def firstFields (output : Command → Action String) : List Word → Action (List String × List Word)
  | [] => return ([], [])
  | word :: rest => do
    match (← wordFields output word) with
    | [] => firstFields output rest
    | fields => return (fields, rest)

/-- Which program is called. -/
structure Call where
  /-- All fields, as they are told before the command runs. -/
  whole : List String
  /-- The name and the arguments. -/
  fields : List String
  /-- `command` stands before the name, so that no function is meant and no failure ends the shell. -/
  direct : Bool := false
  deriving Inhabited

/-- The options behind `command`; none if they ask for something else than to call a program. -/
def behindCommand? : List String → Option (List String)
  | "--" :: rest => some rest
  | first :: rest =>
    match first.toList with
    | '-' :: c :: letters => if (c :: letters).all (· == 'p') then behindCommand? rest else none
    | _ => some (first :: rest)
  | [] => some []

/-- Takes `command` off the start of fields, and with it its options, with one unit of fuel for each. -/
def withoutCommand : Nat → Bool → List String → Bool × List String
  | fuel + 1, direct, fields =>
    match fields with
    | "command" :: rest =>
      match behindCommand? rest with
      | none | some [] => (direct, fields)
      | some rest => withoutCommand fuel true rest
    | _ => (direct, fields)
  | 0, direct, fields => (direct, fields)

/-- The fields of a word of a program that takes settings. -/
def settingFields (output : Command → Action String) (word : Word) : Action (List String) := do
  match setting? word with
  | some (name, value) => return [s!"{name}={← settingText output value}"]
  | none => wordFields output word

/-- The name behind `command` and its options among words. -/
def calledName : List String → String
  | "command" :: rest => calledName (rest.dropWhile (·.startsWith "-"))
  | name :: _ => name
  | [] => ""
termination_by fields => fields.length
decreasing_by
  have := (List.dropWhile_sublist (fun s : String => s.startsWith "-") (l := rest)).length_le
  simp only [List.length_cons]
  omega

/-- Finds out what words call. -/
def callOf (output : Command → Action String) (words : List Word) : Action Call := do
  let (first, rest) ← firstFields output words
  let known := (rest.map spellings)
  let takes := takesSettings (calledName (first ++ known))
  let rest ← rest.mapM (if takes then settingFields output else wordFields output)
  let whole := first ++ rest.flatten
  if ((← process).functions.lookup "command").isSome then return { whole, fields := whole }
  else
    let (direct, fields) := withoutCommand (whole.length + 1) false whole
    return { whole, fields, direct }

/-- A failure of the program ends the shell. -/
def Call.special (call : Call) : Bool :=
  ! call.direct && call.fields.head?.any isSpecial

/-- The redirections of the call stay. -/
def Call.replaces (call : Call) : Bool :=
  call.fields.head? == some "exec"

/-- Runs a function, which has arguments of its own. -/
def runFunction (go : Runner) (tested : Bool) (body : Command) (arguments : List String) : Action Unit := do
  let before ← process
  if 1000 ≤ before.depth then fail "Maximum function recursion depth (1000) reached"
  change fun process => { process with arguments, loops := 0, depth := before.depth + 1, optionOffset := 0 }
  andThen
    (withFrame do
      keep "OPTIND"
      putVariable "OPTIND" (some { value := some "1" })
      match (← stopped? (go tested body)) with
      | none | some .returned => return ()
      | some stop => throw stop)
    (change fun process =>
      { process with
        arguments := before.arguments, loops := before.loops, depth := before.depth
        optionOffset := before.optionOffset })

/-- Runs a builtin program. Only the failure of a special one goes on. -/
def runBuiltin (special : Bool) (name : String) (builtin : Builtin) (arguments : List String) : Action Unit := do
  let action := withRunning (some name) (builtin arguments)
  setStatus (← if special then action else
    tryCatch action fun stop => if stop = .failed then return 2 else throw stop)

/-- The greatest depth to which utilities start others. -/
def greatestDepth : Nat := 64

/-- Starts what a call names. -/
def Call.run (call : Call) (go : Runner) (tested : Bool) : Action Unit := do
  match call.fields with
  | [] => change fun process => { process with status := process.outputStatus.getD 0 }
  | name :: arguments =>
    let start := starter go greatestDepth
    let functions := (← process).functions
    let function := if call.direct then none else functions.lookup name
    match function, (Control.mk go start tested).builtin? name with
    | some body, _ => runFunction go tested body arguments
    | none, some builtin => runBuiltin call.special name builtin arguments
    | none, none => setStatus (← startFound go start name (← find name) arguments)

/-- Sets variables for a call, and answers what was set. -/
def applySettings (output : Command → Action String) (exporting : Bool) (isLocal : Bool)
    (settings : List (String × Word)) : Action (List String) :=
  settings.mapM fun (name, word) => do
    let value ← settingText output word
    if isLocal then keep name
    assign name value
    if exporting || isLocal then
      putVariable name ((← known? name).map fun known => { known with exported := true })
    return s!"{name}={value}"

/-- Tells a command before it runs, at the output for problems that the shell had before. -/
def tellCall (errors : Option Nat) (texts : List String) : Action Unit := do
  let start := (← value? "PS4").getD "+ "
  match errors with
  | none => return ()
  | some number =>
    withDescriptors do
      connect 2 number
      report (start ++ " ".intercalate texts ++ "\n")

/-- Runs a simple command. -/
def runSimple (go : Runner) (tested : Bool) (line : Nat) (settings : List (String × Word))
    (words : List Word) (redirections : List Redirection) : Action Unit := do
  change fun process => { process with line, outputStatus := none }
  let output := captured go
  let call ← callOf output words
  let redirections ← redirections.mapM (redirected output)
  let errors ← streamNumber? 2
  let isLocal := ! call.fields.isEmpty && ! call.special
  let run : Action Unit := do
    let texts ← applySettings output (call.replaces && 1 < call.fields.length) isLocal settings
    if ← isOn .trace then tellCall errors (texts ++ call.whole)
    call.run go tested
  let body : Action Unit := do
    if ← redirectAll redirections then if isLocal then withFrame run else run
    else if call.special then throw .failed
  if call.replaces then body else withDescriptors body

end UiCheck.Rehearsal.Shell
