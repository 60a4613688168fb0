import UiCheck.Rehearsal.Shell.Arithmetic
import UiCheck.Rehearsal.Shell.Field

/-! # What words give

A word gives characters once its parameters, outputs and sums are known. Outside quotes the characters are
split into fields, and each field may stand for the paths that it fits. How a command makes its output is left
open.
-/

/-! ## Paths that fit patterns

A pattern may stand for the paths that it fits. It is followed part by part: a part without anything special
is a name, any other part is compared with the names in a directory. Names that start with a dot are only found
by a part that does so too.
-/

namespace UiCheck.Rehearsal.Shell

open Files

/-- The characters of a pattern as they are. -/
def spelled (s : List PatternChar) : String :=
  String.ofList (s.map (·.char))

/-- The names in a directory, with the two for itself and for the one above it. -/
def namesIn (disk : Disk) (directory : String) : List String :=
  match disk.node (if directory.isEmpty then "." else textOf directory) with
  | .ok (.directory entries) => "." :: ".." :: entries.map fun entry => octets entry.1
  | _ => []

/-- There is something at the path, be it a link that leads nowhere. -/
def isThere (disk : Disk) (path : String) : Bool :=
  match disk.locate false (textOf path) with
  | .ok (.present ..) => true
  | _ => false

/-- The paths that start with a text and go on as a pattern says, with one unit of fuel for each part. -/
def pathsFrom (disk : Disk) : Nat → String → Bool → List PatternChar → List String
  | 0, _, _, _ => []
  | fuel + 1, start, sure, s =>
    let slashes := s.takeWhile (·.char == '/')
    let start := start ++ spelled slashes
    let s := s.drop slashes.length
    let part := s.takeWhile (·.char != '/')
    let rest := s.drop part.length
    if part.isEmpty then if (sure && slashes.isEmpty) || isThere disk start then [start] else []
    else
      let pattern := Pattern.ofChars part
      if pattern.isOpen then
        let hidden := part.head?.any (·.char == '.')
        let names := (namesIn disk start).filter fun name =>
          (hidden || ! name.startsWith ".") && pattern.fits name.toList
        names.flatMap fun name => pathsFrom disk fuel (start ++ name) true rest
      else pathsFrom disk fuel (start ++ spelled part) false rest

/-- The paths that a pattern stands for, sorted. -/
def pathsFor (disk : Disk) (s : List PatternChar) : List String :=
  (pathsFrom disk (s.length + 1) "" false s).mergeSort fun a b => a ≤ b

/-- What a field gives: the paths that fit it, or else its characters. -/
def fieldPaths (disk : Disk) (marks : List Mark) : List String :=
  let chars := patternChars marks
  let found := if (Pattern.ofChars chars).isOpen then pathsFor disk chars else []
  if found.isEmpty then [textOfMarks marks] else found

end UiCheck.Rehearsal.Shell

namespace UiCheck.Rehearsal.Shell

open UiCheck.Rehearsal.Shell.Action

/-- The value of a parameter that is not all arguments at once. -/
def parameter? (name : String) : Action (Option String) := do
  let process ← process
  match name with
  | "?" => return some (toString process.status)
  | "#" => return some (toString process.arguments.length)
  | "$" => return some (toString process.number)
  | "!" => return process.lastJob.map toString
  | "-" => return some process.switches.letters
  | "0" => return some process.name
  | _ =>
    match name.toNat? with
    | some n => return process.arguments[n - 1]?
    | none => value? name

/-- What a parameter gives, if it has a value; `splits` says that fields are asked for. -/
def parameterMarks? (quoted splits : Bool) (name : String) : Action (Option (List Mark)) := do
  if name = "@" ∨ name = "*" then
    match (← process).arguments with
    | [] => return none
    | arguments =>
      if quoted && splits && name = "@" then
        return some ([Mark.gap].intercalate (arguments.map fun s => .nothing :: marksOf true s))
      else if quoted || ! splits then return some (marksOf quoted ((← joiner).intercalate arguments))
      else return some ([Mark.softGap].intercalate (arguments.map (marksOf false)))
  else return (← parameter? name).map (marksOf quoted)

/-- A parameter without a value is an error if the shell is strict. -/
def requireValue (name : String) : Action Unit := do
  if (← isOn .strict) ∧ name ≠ "@" ∧ name ≠ "*" then fail s!"{name}: parameter not set"

/-- What stands for a home directory in a text that starts with a tilde, and what follows it. -/
def home? (s : List Char) : Action (Option (String × List Char)) := do
  match s with
  | '~' :: rest =>
    let name := rest.takeWhile (· != '/')
    let after := rest.drop name.length
    if name.isEmpty then return (← value? "HOME").map fun home => (home, after)
    else if name = "root".toList then return some ("/root", after)
    else return none
  | _ => return none

/-- The pieces of a text of which the start may stand for a home directory. -/
def homePieces (last : Bool) (s : List Char) : Action (List Piece) := do
  match (← home? s) with
  | some (home, after) =>
    if after.isEmpty && ! last then return [.plain (String.ofList s)]
    else return .literal home :: if after.isEmpty then [] else [.plain (String.ofList after)]
  | none => return [.plain (String.ofList s)]

/-- The texts between colons. -/
def colonParts (s : List Char) : List (List Char) :=
  (s.splitOn ':')

/-- Puts home directories in place of tildes: at the start of a word, and in settings also behind a colon. -/
def withHomes (setting : Bool) (word : Word) : Action Word := do
  match word with
  | .plain s :: rest =>
    if setting then
      let parts ← (colonParts s.toList).mapM (homePieces rest.isEmpty)
      return [Piece.plain ":"].intercalate parts ++ rest
    else return (← homePieces rest.isEmpty s.toList) ++ rest
  | _ => return word

/-- Works out a sum. -/
def sumOf (source : String) : Action String := do
  let known := (← process).bindings
  let values (name : String) : String := ((known.lookup name).bind (·.value)).getD ""
  match Sum.evaluate values source with
  | .ok (n, settings) =>
    settings.forM fun (name, n) => assign name (toString n)
    return toString n
  | .error e => fail (e.message source)

/-- Takes off an end of a text what a pattern fits. -/
def trimmed (side : Side) (longest : Bool) (pattern : List Mark) (s : String) : String :=
  let pattern := Pattern.ofChars (patternChars pattern)
  String.ofList (match side with
    | .front => pattern.trimFront longest s.toList
    | .back => pattern.trimBack longest s.toList)

/-- What a word is asked for. -/
structure Asked where
  /-- It stands in double quotes. -/
  quoted : Bool
  /-- It is to give fields. -/
  splits : Bool
  /-- It stands in for a parameter, so that its own characters separate fields. -/
  inner : Bool := false
  deriving Inhabited

mutual

/-- What a piece of a word gives. -/
def pieceMarks (output : Command → Action String) (asked : Asked) : Piece → Action (List Mark)
  | .plain s =>
    return s.toList.map fun c => if asked.quoted then .quoted c else if asked.inner then .expanded c else .plain c
  | .literal s => return if s.isEmpty then [.nothing] else marksOf true s
  | .double parts => do
    let marks ← piecesMarks output { asked with quoted := true } parts
    match parts with
    | [.parameter "@" .whole] => return marks
    | _ => return .nothing :: marks
  | .parameter name use => useMarks output asked name use
  | .output body => return marksOf asked.quoted (← output body)
  | .value expression => do
    let source ← piecesMarks output { quoted := true, splits := false } expression
    return marksOf asked.quoted (← sumOf (textOfMarks source))

/-- What pieces give one after the other. -/
def piecesMarks (output : Command → Action String) (asked : Asked) : List Piece → Action (List Mark)
  | [] => return []
  | piece :: rest => do
    let first ← pieceMarks output asked piece
    return first ++ (← piecesMarks output asked rest)

/-- What a parameter gives. -/
def useMarks (output : Command → Action String) (asked : Asked) (name : String) : Use → Action (List Mark)
  | .whole => do
    match (← parameterMarks? asked.quoted asked.splits name) with
    | some marks => return marks
    | none =>
      requireValue name
      return []
  | .length => do
    match (← parameterMarks? true false name) with
    | some marks => return marksOf asked.quoted (toString marks.length)
    | none =>
      requireValue name
      return marksOf asked.quoted "0"
  | .trimmed side longest pattern => do
    match (← parameterMarks? true false name) with
    | some marks =>
      let pattern ← piecesMarks output { quoted := false, splits := false } pattern
      return marksOf asked.quoted (trimmed side longest pattern (textOfMarks marks))
    | none =>
      requireValue name
      return []
  | .standIn kind nullToo word => do
    let known ← parameterMarks? asked.quoted asked.splits name
    let isSet := known.any fun marks => ! (nullToo && (textOfMarks marks).isEmpty)
    match kind, isSet with
    | .alternative, false => return []
    | .fallback, false | .alternative, true => piecesMarks output { asked with inner := true } word
    | _, true => return known.getD []
    | .assignment, false =>
      let text := textOfMarks (← piecesMarks output { asked with splits := false } word)
      if isName name then
        assign name text
        return (← parameterMarks? asked.quoted asked.splits name).getD []
      else fail s!"{name}: bad variable name"
    | .complaint, false =>
      let text := textOfMarks (← piecesMarks output { asked with splits := false } word)
      let text := if word.isEmpty then if nullToo then "parameter not set or null" else "parameter not set" else text
      fail s!"{name}: {text}"
  | .broken => fail "Bad substitution"

end

/-- What a word gives as one text. -/
def wordText (output : Command → Action String) (word : Word) : Action String := do
  return textOfMarks (← piecesMarks output { quoted := false, splits := false } (← withHomes false word))

/-- What the value of a setting gives. -/
def settingText (output : Command → Action String) (word : Word) : Action String := do
  return textOfMarks (← piecesMarks output { quoted := false, splits := false } (← withHomes true word))

/-- What a word gives as a pattern. -/
def wordPattern (output : Command → Action String) (word : Word) : Action Pattern := do
  let marks ← piecesMarks output { quoted := false, splits := false } (← withHomes false word)
  return Pattern.ofChars (patternChars marks)

/-- What a text that stands with commands gives. -/
def documentText (output : Command → Action String) (word : Word) : Action String := do
  return textOfMarks (← piecesMarks output { quoted := true, splits := false } word)

/-- The fields that a word gives. -/
def wordFields (output : Command → Action String) (word : Word) : Action (List String) := do
  let marks ← piecesMarks output { quoted := false, splits := true } (← withHomes false word)
  let fields := splitFields (← separators) none marks
  if ← isOn .noPaths then return fields.map textOfMarks
  else
    let disk ← disk
    return fields.flatMap (fieldPaths disk)

end UiCheck.Rehearsal.Shell
