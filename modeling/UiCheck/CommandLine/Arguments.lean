import UiCheck.Configuration

/-! # Arguments of the command line

A command line names at most one command. Some options stand before or behind the command, others only behind
a command of their own. An option may be given once on either side, and behind the command it counts more.
-/

namespace UiCheck.CommandLine

/-- What the program is asked to do. -/
inductive Verb where
  | test
  | repair
  | generatePlan
  | fix
  | scan
  | checkPlan
  deriving DecidableEq, Inhabited, Repr

/-- The verb that a command names. -/
def Verb.ofText? : String → Option Verb
  | "test" => some .test
  | "loop" => some .repair
  | "generate-plan" => some .generatePlan
  | "fix" => some .fix
  | "scan" => some .scan
  | "check-plan" => some .checkPlan
  | _ => none

/-- The verb takes a prompt. -/
def Verb.takesPrompt : Verb → Bool
  | .repair | .generatePlan => true
  | _ => false

/-- An option. -/
inductive Switch where
  | dir
  | json
  | headed
  | help
  | maxIterations
  | keep
  deriving DecidableEq, Inhabited, Repr

namespace Switch

/-- The option with a long name. -/
def ofName? : String → Option Switch
  | "dir" => some .dir
  | "json" => some .json
  | "headed" => some .headed
  | "help" => some .help
  | "max-iterations" => some .maxIterations
  | "keep" => some .keep
  | _ => none

/-- The option with a letter. -/
def ofLetter? : Char → Option Switch
  | 'd' => some .dir
  | 'h' => some .help
  | 'm' => some .maxIterations
  | 'k' => some .keep
  | _ => none

/-- The option may stand behind a verb, or in front of any. -/
def fits (verb : Option Verb) : Switch → Bool
  | .maxIterations | .keep => verb = some .repair
  | _ => true

/-- The option comes with a value. -/
def takesValue : Switch → Bool
  | .dir | .maxIterations => true
  | _ => false

end Switch

/-- Why there is nothing to do. -/
inductive Refusal where
  /-- Help was asked for. -/
  | help
  /-- The command line is wrong. -/
  | usage
  deriving DecidableEq, Inhabited, Repr

/-- What was given on one side of a verb. -/
structure Given where
  dir : Option String := none
  json : Bool := false
  headed : Bool := false
  maxIterations : Option Nat := none
  keep : Bool := false
  prompt : Option String := none
  /-- An option whose value comes next. -/
  pending : Option Switch := none
  /-- An option whose value came last. It is looked at when something else follows. -/
  latest : Option (Switch × String) := none
  deriving DecidableEq, Inhabited, Repr

/-- The number of iterations that a text gives. -/
def iterations? (text : String) : Option Nat :=
  match Number.signed? 10 (Nat.pow 2 63) text.toList with
  | some n => if 0 ≤ n ∧ n < Number.word32 then some n.toNat else none
  | none => none

namespace Given

/-- Turns on an option that has no value. -/
def turnOn (given : Given) : Switch → Except Refusal Given
  | .json => if given.json then .error .usage else .ok { given with json := true }
  | .headed => if given.headed then .error .usage else .ok { given with headed := true }
  | .keep => if given.keep then .error .usage else .ok { given with keep := true }
  | .help => .error .help
  | .dir | .maxIterations => .error .usage

/-- Sets an option to a value. -/
def set (given : Given) (switch : Switch) (value : String) : Except Refusal Given :=
  match switch with
  | .dir =>
    if given.dir.isSome ∨ value.isEmpty then .error .usage else .ok { given with dir := some value }
  | .maxIterations =>
    match iterations? value with
    | some n => if given.maxIterations.isSome then .error .usage else .ok { given with maxIterations := some n }
    | none => .error .usage
  | _ => .error .usage

/-- Looks at the value that came last. -/
def settle (given : Given) : Except Refusal Given :=
  match given.latest with
  | some (switch, value) => { given with latest := none }.set switch value
  | none => .ok given

/-- Takes in an option by its long name, with its value behind an equals sign. -/
def addLong (verb : Option Verb) (given : Given) (body : List Char) : Except Refusal Given :=
  let (name, value) := match Text.cut? ['='] body with
    | some (name, value) => (name, some (String.ofList value))
    | none => (body, none)
  match (Switch.ofName? (String.ofList name)).filter (·.fits verb), value with
  | none, _ => .error .usage
  | some switch, none => if switch.takesValue then .ok { given with pending := some switch } else given.turnOn switch
  | some switch, some value => given.set switch value

/-- Takes in options by their letters. What follows the letter of an option with a value is the value. -/
def addLetters (verb : Option Verb) (given : Given) : List Char → Except Refusal Given
  | [] => .ok given
  | letter :: rest =>
    match (Switch.ofLetter? letter).filter (·.fits verb) with
    | none => .error .usage
    | some switch =>
      if ! switch.takesValue then
        match given.turnOn switch with
        | .ok given => given.addLetters verb rest
        | .error refusal => .error refusal
      else
        match rest with
        | [] => .ok { given with pending := some switch }
        | '=' :: value => given.set switch (String.ofList value)
        | value => given.set switch (String.ofList value)

/-- Takes in an argument that is no option. -/
def addPrompt (verb : Option Verb) (given : Given) (argument : String) : Except Refusal Given :=
  if verb.any Verb.takesPrompt && given.prompt.isNone then { given with prompt := some argument }.settle
  else .error .usage

/-- Takes in arguments none of which is an option. -/
def addPrompts (verb : Option Verb) (given : Given) : List String → Except Refusal Given
  | [] => .ok given
  | argument :: rest =>
    match given.addPrompt verb argument with
    | .ok given => given.addPrompts verb rest
    | .error refusal => .error refusal

/-- Nothing is missing at the end. -/
def complete (given : Given) : Except Refusal Given :=
  if given.pending.isSome then .error .usage else given.settle

end Given

/-- What an argument looks like. -/
inductive Shape where
  /-- The mark behind which there are no options. -/
  | endOfOptions
  | long (body : List Char)
  | letters (letters : List Char)
  | plain
  deriving DecidableEq, Repr

/-- The shape of an argument. A dash alone is nothing special. -/
def shapeOf (argument : String) : Shape :=
  match argument.toList with
  | ['-', '-'] => .endOfOptions
  | '-' :: '-' :: body => .long body
  | '-' :: c :: rest => .letters (c :: rest)
  | _ => .plain

/-- Reads the arguments on one side of a verb. In front of a verb the answer has the verb, if one comes, and
what follows it. A value right in front of the verb is not looked at yet, so help may still be asked for. -/
def readSide (verb : Option Verb) (given : Given) :
    List String → Except Refusal (Given × Option (Verb × List String))
  | [] => given.complete.map fun given => (given, none)
  | argument :: rest =>
    let next (answer : Except Refusal Given) : Except Refusal (Given × Option (Verb × List String)) :=
      match answer with
      | .ok given => readSide verb given rest
      | .error refusal => .error refusal
    match given.pending, shapeOf argument with
    | some switch, .plain => next (.ok { given with pending := none, latest := some (switch, argument) })
    | some _, _ => .error .usage
    | none, .endOfOptions => ((given.addPrompts verb rest).bind Given.settle).map fun given => (given, none)
    | none, .long body => next (given.settle.bind (·.addLong verb body))
    | none, .letters letters => next (given.settle.bind (·.addLetters verb letters))
    | none, .plain =>
      if verb.isSome then next (given.addPrompt verb argument)
      else
        match Verb.ofText? argument with
        | some verb => .ok (given, some (verb, rest))
        | none =>
          if argument ≠ "help" then .error .usage
          else
            match rest with
            | [] => .error .help
            | [name] => .error (if name = "help" ∨ (Verb.ofText? name).isSome then .help else .usage)
            | _ => .error .usage

/-- A command with its options. -/
inductive Order where
  | test
  | repair (prompt : Option String) (maxIterations : Option Nat) (keep : Bool)
  | generatePlan (prompt : Option String)
  | fix
  | scan
  | checkPlan
  deriving DecidableEq, Inhabited, Repr

/-- A command line. -/
structure Arguments where
  /-- The directory of the project. -/
  dir : String
  json : Bool
  /-- The window of the browser is shown. -/
  headed : Bool
  order : Option Order
  deriving DecidableEq, Inhabited, Repr

/-- The order that a verb and what was given behind it make. The number of iterations may also come from a
variable. -/
def orderOf (env : Environment) (verb : Verb) (given : Given) : Except Refusal Order :=
  match verb with
  | .test => .ok .test
  | .generatePlan => .ok (.generatePlan given.prompt)
  | .fix => .ok .fix
  | .scan => .ok .scan
  | .checkPlan => .ok .checkPlan
  | .repair =>
    match given.maxIterations, env.value? "BOTINTERN_MAX_ITERATIONS" with
    | some n, _ => .ok (.repair given.prompt (some n) given.keep)
    | none, none => .ok (.repair given.prompt none given.keep)
    | none, some text =>
      match iterations? text with
      | some n => .ok (.repair given.prompt (some n) given.keep)
      | none => .error .usage

/-- The command line that arguments make. -/
def Arguments.parse (env : Environment) (arguments : List String) : Except Refusal Arguments :=
  match readSide none {} arguments with
  | .error refusal => .error refusal
  | .ok (front, none) =>
    .ok { dir := front.dir.getD ".", json := front.json, headed := front.headed, order := none }
  | .ok (front, some (verb, rest)) =>
    match readSide (some verb) {} rest with
    | .error refusal => .error refusal
    | .ok (back, _) =>
      match orderOf env verb back, front.settle with
      | .error refusal, _ | _, .error refusal => .error refusal
      | .ok order, .ok front =>
        .ok { dir := (back.dir.or front.dir).getD ".", json := front.json || back.json
              headed := front.headed || back.headed, order := some order }

end UiCheck.CommandLine
