import UiCheck.Files.Disk
import UiCheck.Rehearsal.Shell.Octets

/-! # Utilities

Small programs that do not belong to the shell. Each gets its arguments, the files and the input, and gives
what it writes, a status and the files it leaves behind.
-/

namespace UiCheck.Rehearsal.Shell

open Files

/-- What a utility is given. -/
structure Task where
  /-- The name by which the utility was called. -/
  name : String
  arguments : List String
  disk : Disk
  /-- What is left of the input. -/
  input : Except IoError ByteArray
  /-- The size of the file that the input is, if it is one. -/
  inputSize : Option Nat := none
  /-- The variables that other programs see. -/
  environment : List (String × String)
  /-- The permissions that new files do not get. -/
  mask : Nat := 18
  deriving Inhabited

/-- What a utility did. -/
structure Done where
  disk : Disk
  out : String := ""
  /-- What it says about problems, latest first, and how much it had written before. -/
  err : List (Nat × String) := []
  status : Nat := 0
  /-- What it writes is not kept back until it ends. -/
  immediate : Bool := false
  /-- It has read the input to its end. -/
  tookInput : Bool := false
  deriving Inhabited

/-- A utility. -/
abbrev Utility := Task → Done

/-- Nothing is done yet. -/
def Task.start (task : Task) : Done :=
  { disk := task.disk }

/-- Writes octets. -/
def Done.say (done : Done) (octets : String) : Done :=
  { done with out := done.out ++ octets }

/-- Writes octets for problems. -/
def Done.report (done : Done) (octets : String) : Done :=
  { done with err := (done.out.length, octets) :: done.err }

/-- Writes a line for a problem and sets the status. -/
def Done.complain (done : Done) (message : String) (status : Nat) : Done :=
  { done.report (message ++ "\n") with status := max status done.status }

/-- What was written in turn, each text with a flag for problems. -/
def Done.writes (done : Done) : List (Bool × String) :=
  let problems := done.err.reverse
  if ! done.immediate then problems.map (fun (_, s) => (true, s)) ++ [(false, done.out)]
  else
    let out := done.out.toList
    let (written, all) := problems.foldl (fun (known : Nat × List (Bool × String)) problem =>
      let (written, all) := known
      (problem.1, (true, problem.2) :: (false, String.ofList ((out.take problem.1).drop written)) :: all)) (0, [])
    ((false, String.ofList (out.drop written)) :: all).reverse

/-- A utility that only writes octets. -/
def Task.said (task : Task) (octets : String) : Done :=
  task.start.say octets

/-- A utility that fails with a message. -/
def Task.failed (task : Task) (message : String) (status : Nat) : Done :=
  task.start.complain s!"{task.name}: {message}" status

/-- A utility that fails because of its arguments. -/
def Task.misused (task : Task) (message : String) (status : Nat) : Done :=
  task.failed s!"{message}\nTry '{task.name} --help' for more information." status

/-- The options and the other arguments of a utility. -/
structure Options where
  flags : List (Char × String) := []
  words : List String := []
  deriving Inhabited

/-- The option was given. -/
def Options.has (options : Options) (c : Char) : Bool :=
  options.flags.any (·.1 == c)

/-- One of the options was given. -/
def Options.hasAny (options : Options) (letters : String) : Bool :=
  letters.toList.any options.has

/-- The value of an option; the last one counts. -/
def Options.value? (options : Options) (c : Char) : Option String :=
  (options.flags.reverse.find? (·.1 == c)).map (·.2)

/-- Which options a utility knows. -/
structure Known where
  plain : String := ""
  valued : String := ""
  /-- Options whose value, if there is one, follows at once. -/
  optional : String := ""
  /-- Long options, and the letters that they stand for. -/
  long : List (String × Char) := []
  /-- Options also count behind other arguments. -/
  anywhere : Bool := true
  deriving Inhabited

/-- Why options cannot be read, in the words of a utility. -/
def unknownLetter (c : Char) : String :=
  s!"invalid option -- '{c}'"

/-- Reads the letters of one argument, with the options so far in reverse order; answers them and the
arguments left. -/
def Known.letters (known : Known) :
    List Char → List (Char × String) → List String → Except String (List (Char × String) × List String)
  | [], done, rest => .ok (done, rest)
  | c :: more, done, rest =>
    if known.valued.toList.contains c then
      if more.isEmpty then
        match rest with
        | value :: rest => .ok ((c, value) :: done, rest)
        | [] => .error s!"option requires an argument -- '{c}'"
      else .ok ((c, String.ofList more) :: done, rest)
    else if known.optional.toList.contains c then .ok ((c, String.ofList more) :: done, rest)
    else if known.plain.toList.contains c then known.letters more ((c, "") :: done) rest
    else .error (unknownLetter c)

/-- Reads a long option, which may come with a value. -/
def Known.longOption (known : Known) (text : String) (rest : List String) :
    Except String ((Char × String) × List String) :=
  let (name, value) := match text.toList.span (· != '=') with
    | (name, _ :: value) => (String.ofList name, some (String.ofList value))
    | (name, []) => (String.ofList name, none)
  match known.long.find? fun option => option.1 == name || name.length > 1 && option.1.startsWith name with
  | none => .error s!"unrecognized option '--{text}'"
  | some (full, c) =>
    if known.valued.toList.contains c then
      match value, rest with
      | some value, _ => .ok ((c, value), rest)
      | none, value :: rest => .ok ((c, value), rest)
      | none, [] => .error s!"option '--{full}' requires an argument"
    else .ok ((c, if known.optional.toList.contains c then value.getD "" else ""), rest)

/-- Reads arguments, with what is known so far in reverse order and one unit of fuel for each. -/
def Known.readFrom (known : Known) : Nat → Options → List String → Except String Options
  | 0, options, _ => .ok options
  | fuel + 1, options, arguments =>
    match arguments with
    | [] => .ok options
    | first :: rest =>
      match first.toList with
      | ['-', '-'] => .ok { options with words := rest.reverse ++ options.words }
      | '-' :: '-' :: text =>
        match known.longOption (String.ofList text) rest with
        | .ok (option, rest) => known.readFrom fuel { options with flags := option :: options.flags } rest
        | .error e => .error e
      | '-' :: c :: letters =>
        match known.letters (c :: letters) options.flags rest with
        | .ok (flags, rest) => known.readFrom fuel { options with flags } rest
        | .error e => .error e
      | _ =>
        if known.anywhere then known.readFrom fuel { options with words := first :: options.words } rest
        else .ok { options with words := arguments.reverse ++ options.words }

/-- Reads arguments. -/
def Known.read (known : Known) (arguments : List String) : Except String Options :=
  (known.readFrom (arguments.length + 1) {} arguments).map fun options =>
    { flags := options.flags.reverse, words := options.words.reverse }

/-- A utility that reads its options first; `status` is what wrong options give. -/
def Known.utility (known : Known) (status : Nat) (body : Task → Options → Done) : Utility := fun task =>
  match known.read task.arguments with
  | .ok options => body task options
  | .error e => task.misused e status

/-- The content that a path leads to; a dash leads to the input, and what never ends is cut off. -/
def Task.content (task : Task) (disk : Disk) (path : String) : Except IoError String :=
  if path = "-" ∨ path = "/dev/stdin" then task.input.map octetsOf
  else if path = "/dev/null" then .ok ""
  else if path = "/dev/zero" then .ok (String.ofList (List.replicate 65536 (Char.ofNat 0)))
  else (disk.read (textOf path)).map octetsOf

/-- The path leads to the input. -/
def isInput (path : String) : Bool :=
  path == "-" || path == "/dev/stdin"

/-- Goes through files, or the input if there is none. What cannot be read is told in the words given. -/
def Task.overFiles (task : Task) (paths : List String) (status : Nat)
    (problem : String → IoError → String) (step : Done → String → String → Done) : Done :=
  let paths := if paths.isEmpty then ["-"] else paths
  let done := paths.foldl (fun (done : Done) path =>
    match task.content done.disk path with
    | .ok content => step done path content
    | .error e => done.complain s!"{task.name}: {problem path e}" status) task.start
  { done with tookInput := done.tookInput || paths.any isInput }

/-- The plain words for a file that cannot be read. -/
def plainProblem (path : String) (e : IoError) : String :=
  s!"{path}: {e.reason}"

/-- The lines of octets without their ends, and whether the last one has an end. -/
def linesOf (s : String) : List String × Bool :=
  match (s.splitOn "\n").reverse with
  | "" :: rest => (rest.reverse, true)
  | all => (all.reverse, false)

/-- The lines of a text, each ended by a zero or a line end. -/
def linesEndedBy (zero : Bool) (s : String) : List String :=
  if zero then
    match (s.splitOn "\x00").reverse with
    | "" :: rest => rest.reverse
    | all => all.reverse
  else (linesOf s).1

/-- Lines with their ends. -/
def withEnds (lines : List String) : String :=
  String.join (lines.map (· ++ "\n"))

/-- The number that a text of digits denotes. -/
def digitsOf? (s : String) : Option Nat :=
  if s.isEmpty ∨ ! s.toList.all Char.isDigit then none
  else some (s.toList.foldl (fun n c => 10 * n + (c.toNat - '0'.toNat)) 0)

end UiCheck.Rehearsal.Shell
