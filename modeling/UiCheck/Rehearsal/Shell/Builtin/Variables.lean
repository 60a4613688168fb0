import UiCheck.Rehearsal.Shell.Builtin.Options
import UiCheck.Rehearsal.Shell.Field

/-! # Builtin programs for variables

They set, mark and forget variables, take the arguments and options of a script one by one, read a line of
input, and tell the shell how to work.
-/

namespace UiCheck.Rehearsal.Shell

open UiCheck.Rehearsal.Shell.Action

/-- The name and the value, if there is one, of an argument. -/
def settingArgument (argument : String) : String × Option String :=
  match argument.toList.span (· != '=') with
  | (name, _ :: value) => (String.ofList name, some (String.ofList value))
  | (name, []) => (String.ofList name, none)

/-- Fails if a text names no variable. -/
def requireName (name : String) : Action Unit := do
  if ! isName name then fail s!"{name}: bad variable name"

/-- All variables that a condition holds of, sorted. -/
def listed (keep : Variable → Bool) : Action (List (String × Variable)) :=
  return ((← process).bindings.filter fun known => keep known.2).mergeSort fun a b => a.1 ≤ b.1

/-- A variable as a command that sets it. -/
def settingLine (start : String) (known : String × Variable) : String :=
  match known.2.value with
  | some value => s!"{start}{known.1}={inQuotes value}\n"
  | none => s!"{start}{known.1}\n"

/-- Marks variables, and sets those that come with a value. -/
def markVariables (start : String) (keep : Variable → Bool) (mark : Variable → Variable) : Builtin :=
  fun arguments => do
    let (options, names) ← options "p" "" arguments
    if names.isEmpty ∨ ¬ options.isEmpty then
      say (String.join ((← listed keep).map (settingLine start)))
    else
      names.forM fun argument => do
        let (name, value) := settingArgument argument
        requireName name
        if let some value := value then assign name value
        putVariable name (some (mark ((← known? name).getD { value := none })))
    return 0

/-- Makes variables visible to other programs. -/
def exportVariables : Builtin :=
  markVariables "export " (·.exported) fun known => { known with exported := true }

/-- Makes variables keep their values. -/
def fixVariables : Builtin :=
  markVariables "readonly " (·.fixed) fun known => { known with fixed := true }

/-- Makes variables belong to the function that runs. -/
def localVariables : Builtin := fun arguments => do
  if (← process).depth = 0 then fail "not in a function"
  else
    arguments.forM fun argument => do
      let (name, value) := settingArgument argument
      requireName name
      keep name
      if let some value := value then assign name value
    return 0

/-- Forgets variables or functions. -/
def unsetNames : Builtin := fun arguments => do
  let (options, names) ← options "fv" "" arguments
  let functions := options.getLast?.any (·.1 == 'f')
  names.forM fun name => do
    if functions then
      change fun process => { process with functions := process.functions.filter (·.1 ≠ name) }
    else
      requireName name
      requireFree name
      putVariable name none
  return 0

/-- The words for something that the shell cannot be told. -/
def switchProblem (on : Bool) (text : String) : String :=
  let sign := if on then "-" else "+"
  s!"Illegal option {sign}{text}"

/-- Tells the shell how to work. Nobody can watch commands without a terminal. -/
def switchOn (on : Bool) (switch : Switch) : Action Unit := do
  if on ∧ switch = .watchJobs then complain "can't access tty; job control turned off"
  else change fun process => { process with switches := process.switches.set on switch }

/-- Tells the shell how to work, by a letter. -/
def switchLetter (on : Bool) (letter : Char) : Action Unit := do
  match Switch.ofLetter? letter with
  | some switch => switchOn on switch
  | none => fail (switchProblem on (String.singleton letter))

/-- Follows the letters of one argument, and answers the arguments left; one letter takes a name from them. -/
def followLetters (on : Bool) : List Char → List String → Action (List String)
  | [], rest => return rest
  | c :: letters, rest => do
    if c = 'o' then
      match rest with
      | [] =>
        let switches := (← process).switches
        say (if on then switches.report else switches.commands)
        return []
      | name :: rest =>
        match Switch.ofName? name with
        | some switch => switchOn on switch
        | none => fail (switchProblem on s!"o {name}")
        followLetters on letters rest
    else
      switchLetter on c
      followLetters on letters rest

/-- Follows the arguments that tell the shell how to work, and answers those left; without an answer the
arguments of the script stay. -/
def followSwitches : Nat → List String → Action (Option (List String))
  | 0, _ => return none
  | fuel + 1, arguments => do
    match arguments with
    | [] => return none
    | first :: rest =>
      match first.toList with
      | ['-', '-'] => return some rest
      | ['-'] =>
        switchOn false .trace
        return if rest.isEmpty then none else some rest
      | '-' :: letters => followSwitches fuel (← followLetters true letters rest)
      | '+' :: letters => followSwitches fuel (← followLetters false letters rest)
      | _ => return some arguments

/-- Tells the shell how to work, and sets the arguments of the script. -/
def setArguments : Builtin := fun arguments => do
  if arguments.isEmpty then
    say (String.join ((← listed fun known => known.value.isSome).map (settingLine "")))
  else
    match (← followSwitches (arguments.length + 1) arguments) with
    | some arguments => change fun process => { process with arguments }
    | none => pure ()
  return 0

/-- Drops arguments of the script. -/
def shiftArguments : Builtin := fun arguments => do
  let count ← match arguments with
    | [] => pure 1
    | argument :: _ => numberArgument argument
  if (← process).arguments.length < count then fail "can't shift that many"
  else
    change fun process => { process with arguments := process.arguments.drop count, optionOffset := 0 }
    return 0

/-- The options of a script as they are taken one by one. -/
def getOptions : Builtin := fun arguments => do
  match arguments with
  | spec :: name :: given =>
    let process ← process
    let words := if given.isEmpty then process.arguments else given
    let index := (wholeNumber? (some 10) false ((← value? "OPTIND").getD "1")).getD 1 |>.toNat
    let index := max index 1
    let offset := process.optionOffset
    let quiet := spec.startsWith ":"
    -- While the letters of a word are taken, the next word counts as the one to come.
    let position := if offset = 0 then index - 1 else index - 2
    let word := (words[position]?).getD ""
    let finish (index : Nat) : Action Nat := do
      assign "OPTIND" (toString index)
      assign name "?"
      putVariable "OPTARG" none
      return 1
    let place (index offset : Nat) : Action Unit := do
      assign "OPTIND" (toString index)
      change fun process => { process with optionOffset := offset }
    if words.length ≤ position then finish (position + 1)
    else if offset = 0 ∧ word = "--" then finish (position + 2)
    else if offset = 0 ∧ (! word.startsWith "-" ∨ word = "-") then finish (position + 1)
    else
      let letters := word.toList.drop (max offset 1)
      match letters with
      | [] => finish (position + 2)
      | c :: more =>
        let after := if more.isEmpty then 0 else max offset 1 + 1
        match (spec.toList.dropWhile (· == ':')).span (· != c) with
        | (_, _ :: rest) =>
          if rest.head? = some ':' then
            if ! more.isEmpty then
              place (position + 2) 0
              assign "OPTARG" (String.ofList more)
              assign name (String.singleton c)
            else
              match words[position + 1]? with
              | some value =>
                place (position + 3) 0
                assign "OPTARG" value
                assign name (String.singleton c)
              | none =>
                place (position + 2) 0
                if quiet then
                  assign "OPTARG" (String.singleton c)
                  assign name ":"
                else
                  report s!"No arg for -{c} option\n"
                  putVariable "OPTARG" none
                  assign name "?"
          else
            place (position + 2) after
            assign "OPTARG" ""
            assign name (String.singleton c)
          return 0
        | (_, []) =>
          place (position + 2) after
          if quiet then assign "OPTARG" (String.singleton c)
          else
            report s!"Illegal option -{c}\n"
            putVariable "OPTARG" none
          assign name "?"
          return 0
  | _ => fail "Usage: getopts optstring var [arg...]"

/-- Reads the bytes of a line as marked characters, and answers how many were passed and whether the line
came to its end. A backslash takes the meaning off the next character unless `raw` says so. -/
def readLineMarks (raw : Bool) : Nat → Nat → List Mark → List UInt8 → List Mark × Nat × Bool
  | 0, passed, done, _ => (done.reverse, passed, false)
  | _, passed, done, [] => (done.reverse, passed, false)
  | fuel + 1, passed, done, b :: rest =>
    let c := Char.ofNat b.toNat
    if c = '\n' then (done.reverse, passed + 1, true)
    else if c = '\\' ∧ ¬ raw then
      match rest with
      | [] => (done.reverse, passed + 1, false)
      | d :: rest =>
        let d := Char.ofNat d.toNat
        if d = '\n' then readLineMarks raw fuel (passed + 2) done rest
        else readLineMarks raw fuel (passed + 2) (.quoted d :: done) rest
    else readLineMarks raw fuel (passed + 1) (if b = 0 then done else .expanded c :: done) rest

/-- Reads a line of input into variables. -/
def readVariables : Builtin := fun arguments => do
  let (options, names) ← options "r" "p" arguments
  if names.isEmpty then fail "arg count"
  else
    let input ← match (← remaining 0) with
      | .ok bytes => pure bytes.toList
      | .error _ => pure []
    let (marks, passed, whole) := readLineMarks (options.any (·.1 == 'r')) (input.length + 1) 0 [] input
    passInput 0 passed
    let fields := (splitFields (← separators) (some names.length) marks).map textOfMarks
    names.zipIdx.forM fun (name, i) => do
      requireName name
      assign name (fields[i]?.getD "")
    return if whole then 0 else 1

end UiCheck.Rehearsal.Shell
