import UiCheck.Rehearsal.Shell.Subshell

/-! # Starting utilities and shells

A utility gets what the process has and gives it back changed. A shell that is started as a program knows only
what other programs know, and runs a text, a file or its input.
-/

namespace UiCheck.Rehearsal.Shell

open Files UiCheck.Rehearsal.Shell.Action

/-- Writes for a utility; one that cannot write fails. -/
def deliver (name : String) (writes : List (Bool × String)) : Action Bool := do
  let step (fine : Bool) (one : Bool × String) : Action Bool := do
    let (isProblem, text) := one
    if text.isEmpty then return fine
    else if ← write (if isProblem then 2 else 1) (bytesOf text) then return fine
    else if isProblem then return fine
    else
      report s!"{name}: write error: Bad file descriptor\n"
      return false
  writes.foldlM step true

/-- Runs a utility that starts no other program. -/
def runUtility (name : String) (utility : Utility) (arguments : List String) : Action Nat := do
  let input ← remaining 0
  let inputSize : Option Nat ← do
    match (← streamNumber? 0) with
    | some number =>
      match (← machine).streams[number]? with
      | some (.file place _ _) =>
        match (← machine).tree.get? place with
        | some (.file content) => pure (some content.size)
        | _ => pure none
      | _ => pure none
    | none => pure none
  let done := utility {
    name, arguments, disk := ← disk, input, inputSize
    environment := ← environment, mask := (← process).mask }
  putDisk done.disk
  if done.tookInput then passInput 0 ((input.toOption.map (·.size)).getD 0)
  if ← deliver name done.writes then return done.status else return max 1 done.status

/-- What a shell is asked to run. -/
inductive Program where
  | text (s : String)
  | file (path : String)
  | input
  deriving Inhabited

/-- What the options of a shell say: its switches, and `c` or `s` if a text or the input is to be run. -/
abbrev ShellOptions := Switches × Option Char

/-- Reads the letters of one option of a shell, and answers the arguments left; one letter takes a name from
them. -/
def shellLetters (on : Bool) : List Char → ShellOptions → List String →
    Except String (ShellOptions × List String)
  | [], known, rest => .ok (known, rest)
  | c :: letters, known, rest =>
    let sign := if on then "-" else "+"
    if on ∧ (c = 'c' ∨ c = 's') then
      shellLetters on letters (known.1, known.2.filter (· == 'c') <|> some c) rest
    else if c = 'o' then
      match rest with
      | [] => .ok (known, [])
      | name :: rest =>
        match Switch.ofName? name with
        | some switch => shellLetters on letters (known.1.set on switch, known.2) rest
        | none => .error s!"Illegal option {sign}o {name}"
    else
      match Switch.ofLetter? c with
      | some switch => shellLetters on letters (known.1.set on switch, known.2) rest
      | none => .error s!"Illegal option {sign}{c}"

/-- Reads the arguments of a shell: its options, and what it is to run with which arguments. -/
def shellArguments : Nat → ShellOptions → List String → Except String (ShellOptions × List String)
  | 0, known, rest => .ok (known, rest)
  | fuel + 1, known, arguments =>
    match arguments with
    | [] => .ok (known, [])
    | first :: rest =>
      match first.toList with
      | ['-', '-'] | ['-'] => .ok (known, rest)
      | '-' :: letters =>
        match shellLetters true letters known rest with
        | .ok (known, rest) => shellArguments fuel known rest
        | .error e => .error e
      | '+' :: letters =>
        match shellLetters false letters known rest with
        | .ok (known, rest) => shellArguments fuel known rest
        | .error e => .error e
      | _ => .ok (known, arguments)

/-- Runs a text or a file in a shell that knows only what other programs know. -/
def runShell (go : Runner) (name : String) (switches : Switches) (program : Program)
    (arguments : List String) : Action Nat := do
  let fresh (process : Process) (number : Nat) : Process :=
    { place := process.place, directory := process.directory, descriptors := process.descriptors
      bindings := (process.bindings.filter (·.2.exported)).map fun known => (known.1, { known.2 with fixed := false })
      traps := process.traps.filter (·.2.isEmpty)
      name, arguments, switches, number, mask := process.mask, parents := process.number :: process.parents }
  let number := (← machine).nextNumber
  changeMachine fun machine => { machine with nextNumber := number + 1 }
  let own (action : Action Unit) : Action Nat := do
    let before ← process
    match (← stopped? (do
      let status ← inProcess go do
        change fun process => fresh process number
        action
      setStatus status)) with
    | some (.killed signal) =>
      change fun _ => before
      report (signalReport signal)
      return 128 + signal
    | some stop => throw stop
    | none => return (← process).status
  match program with
  | .text s => own (runText go false s)
  | .input =>
    match (← remaining 0) with
    | .error e =>
      report s!"{name}: 0: {e.reason}\n"
      return 2
    | .ok bytes =>
      passInput 0 bytes.size
      own (runText go false (octetsOf bytes))
  | .file path =>
    match (← disk).read (textOf path) with
    | .ok bytes => own (runText go false (octetsOf bytes))
    | .error e =>
      if e = .isDirectory then return 2
      else
        report s!"sh: 0: cannot open {path}: {openingProblem false e}\n"
        return 2

/-- The shell as a program. -/
def shell (go : Runner) : Builtin := fun arguments => do
  match shellArguments (arguments.length + 1) ([], none) arguments with
  | .error message =>
    report s!"sh: 0: {message}\n"
    return 2
  | .ok ((switches, kind), rest) =>
    match kind, rest with
    | some 'c', [] =>
      report "sh: 0: -c requires an argument\n"
      return 2
    | some 'c', text :: rest => runShell go (rest.headD "sh") switches (.text text) rest.tail
    | some _, rest => runShell go "sh" (switches.set true .readInput) .input rest
    | none, [] => runShell go "sh" (switches.set true .readInput) .input []
    | none, path :: rest => runShell go path switches (.file path) rest

end UiCheck.Rehearsal.Shell
