import UiCheck.Rehearsal.Shell.Octets
import UiCheck.Rehearsal.Shell.Utility.Basic

/-! # Utilities that write words

They write their arguments, parts of names, or what is known about the machine and its user.
-/

namespace UiCheck.Rehearsal.Shell

/-- The value of hexadecimal digits. -/
def hexValue (digits : List Char) : Nat :=
  digits.foldl (fun n c =>
    16 * n + (if c.isDigit then c.toNat - '0'.toNat else c.toLower.toNat - 'a'.toNat + 10)) 0

/-- A hexadecimal digit. -/
def isHex (c : Char) : Bool :=
  c.isDigit || ('a' ≤ c.toLower && c.toLower ≤ 'f')

/-- The octets of a text with escapes, and whether an escape asked to stop there; with those so far in reverse
order and one unit of fuel for each character. -/
def wordEscapes : Nat → List Char → List Char → List Char × Bool
  | 0, done, _ => (done.reverse, false)
  | _, done, [] => (done.reverse, false)
  | fuel + 1, done, '\\' :: c :: rest =>
    if c = 'c' then (done.reverse, true)
    else if c = '0' then
      let (value, rest) := octal 3 0 rest
      wordEscapes fuel (Char.ofNat (value % 256) :: done) rest
    else if c = 'x' ∧ rest.head?.any isHex then
      let digits := (rest.take 2).takeWhile isHex
      wordEscapes fuel (Char.ofNat (hexValue digits) :: done) (rest.drop digits.length)
    else
      match letterEscape? c with
      | some d => wordEscapes fuel (d :: done) rest
      | none =>
        if '1' ≤ c ∧ c ≤ '7' then
          let (value, rest) := octal 3 0 (c :: rest)
          wordEscapes fuel (Char.ofNat (value % 256) :: done) rest
        else wordEscapes fuel (c :: '\\' :: done) rest
  | fuel + 1, done, c :: rest => wordEscapes fuel (c :: done) rest

/-- The options at the start of the arguments of `echo`: whether the line stays open, and whether escapes
count. -/
def echoOptions : Bool → Bool → List String → Bool × Bool × List String
  | stays, escapes, [] => (stays, escapes, [])
  | stays, escapes, first :: rest =>
    match first.toList with
    | '-' :: c :: letters =>
      if (c :: letters).all fun d => d == 'n' || d == 'e' || d == 'E' then
        let escapes := (c :: letters).foldl (fun known d => if d = 'n' then known else d == 'e') escapes
        echoOptions (stays || (c :: letters).contains 'n') escapes rest
      else (stays, escapes, first :: rest)
    | _ => (stays, escapes, first :: rest)

/-- Writes its arguments with blanks between them. -/
def echoWords : Utility := fun task =>
  let (stays, escapes, words) := echoOptions false false task.arguments
  let text := " ".intercalate words
  if escapes then
    let (text, stopped) := wordEscapes (text.length + 1) [] text.toList
    task.said (String.ofList text ++ if stays || stopped then "" else "\n")
  else task.said (text ++ if stays then "" else "\n")

/-- The path without slashes at its end. -/
def trimSlashes (path : String) : String :=
  match path.toList.reverse.dropWhile (· == '/') with
  | [] => if path.isEmpty then "" else "/"
  | body => String.ofList body.reverse

/-- The last name of a path, with slashes at the end left aside. -/
def lastName (path : String) : String :=
  let body := path.toList.reverse.dropWhile (· == '/')
  if body.isEmpty then (if path.isEmpty then "" else "/")
  else String.ofList (body.takeWhile (· != '/')).reverse

/-- A path without its last name. -/
def leadingPath (path : String) : String :=
  let body := (path.toList.reverse.dropWhile (· == '/')).dropWhile (· != '/')
  if body.isEmpty then (if path.startsWith "/" then "/" else ".")
  else trimSlashes (String.ofList body.reverse)

/-- A name without an end that it has, unless nothing else would be left. -/
def withoutEnding (name ending : String) : String :=
  if name.endsWith ending && name != ending then String.ofList (name.toList.take (name.length - ending.length))
  else name

/-- Writes the last names of paths. -/
def basename : Utility :=
  Known.utility {
    plain := "az", valued := "s", long := [("multiple", 'a'), ("zero", 'z'), ("suffix", 's')]
    anywhere := false } 1 fun task options =>
    let mark := if options.has 'z' then "\x00" else "\n"
    let line (ending path : String) : String := withoutEnding (lastName path) ending ++ mark
    match options.words with
    | [] => task.misused "missing operand" 1
    | words =>
      if options.hasAny "as" then
        task.said (String.join (words.map (line ((options.value? 's').getD ""))))
      else
        match words with
        | [path] => task.said (line "" path)
        | [path, ending] => task.said (line ending path)
        | _ :: _ :: extra :: _ => task.misused s!"extra operand '{extra}'" 1
        | [] => task.start

/-- Writes paths without their last names. -/
def dirname : Utility :=
  Known.utility { plain := "z", long := [("zero", 'z')] } 1 fun task options =>
    if options.words.isEmpty then task.misused "missing operand" 1
    else
      let mark := if options.has 'z' then "\x00" else "\n"
      task.said (String.join (options.words.map fun path => leadingPath path ++ mark))

/-- A utility that writes a line and takes no arguments. -/
def teller (line : String) : Utility :=
  Known.utility {} 1 fun task options =>
    match options.words with
    | [] => task.said (line ++ "\n")
    | extra :: _ => task.misused s!"extra operand '{extra}'" 1

/-- What is known about the machine, by letter. -/
def machineFacts : List (Char × String) :=
  [('s', "Linux"), ('n', "localhost"), ('r', "6.0.0"), ('v', "1"), ('m', "x86_64"), ('o', "GNU/Linux")]

/-- Writes what is known about the machine. -/
def uname : Utility :=
  Known.utility {
    plain := "asnrvmpio"
    long := [("all", 'a'), ("kernel-name", 's'), ("nodename", 'n'), ("kernel-release", 'r'), ("machine", 'm'),
      ("operating-system", 'o')] } 1 fun task options =>
    match options.words with
    | extra :: _ => task.misused s!"extra operand '{extra}'" 1
    | [] =>
      let asked (c : Char) : Bool := options.has 'a' || options.has c || (options.flags.isEmpty && c == 's')
      task.said (" ".intercalate ((machineFacts.filter fun fact => asked fact.1).map (·.2)) ++ "\n")

/-- Writes who the user is. -/
def id : Utility :=
  Known.utility {
    plain := "ugGnrz"
    long := [("user", 'u'), ("group", 'g'), ("groups", 'G'), ("name", 'n'), ("real", 'r')] } 1 fun task options =>
    match options.words.find? fun word => word != "root" && word != "0" with
    | some word => task.failed s!"'{word}': no such user" 1
    | none =>
      if options.hasAny "ugG" then task.said (if options.has 'n' then "root\n" else "0\n")
      else if options.hasAny "nr" then
        task.failed "cannot print only names or real IDs in default format" 1
      else task.said "uid=0(root) gid=0(root) groups=0(root)\n"

/-- Writes the groups of the user. -/
def groups : Utility := fun task =>
  match task.arguments.find? fun word => word != "root" with
  | some word => task.failed s!"'{word}': no such user" 1
  | none => task.said (if task.arguments.isEmpty then "root\n" else "root : root\n")

/-- Tells the terminal of the input, of which there is none. -/
def tty : Utility := fun task =>
  { task.said (if task.arguments.any fun a => a == "-s" || a == "--silent" || a == "--quiet" then "" else "not a tty\n")
    with status := 1 }

/-- Writes the working directory; as the shell names it if that is asked for. -/
def workingDirectory : Utility :=
  Known.utility { plain := "LP", long := [("logical", 'L'), ("physical", 'P')] } 1 fun task options =>
    let place := octets ("/" ++ "/".intercalate task.disk.start)
    let named := (task.environment.lookup "PWD").filter fun path =>
      match task.disk.locate true (textOf path) with
      | .ok (.present names _) => names.reverse == task.disk.start
      | _ => false
    let logical := options.flags.getLast?.any (·.1 == 'L')
    let done := task.said ((if logical then named.getD place else place) ++ "\n")
    if options.words.isEmpty then done
    else done.report s!"{task.name}: ignoring non-option arguments\n"

/-- Does nothing. -/
def idle : Utility := fun task => task.start

end UiCheck.Rehearsal.Shell
