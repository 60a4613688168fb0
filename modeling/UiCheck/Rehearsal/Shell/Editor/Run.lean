import UiCheck.Rehearsal.Shell.Editor.Script

/-! # Running scripts of the line editor

For each line the steps of a script are taken in turn. What a step does depends on the text of the line, a second
text that is kept between lines, and the lines that follow. At the end of the steps the text is written, and a new
line is read.
-/

namespace UiCheck.Rehearsal.Shell.Editor

open Shell

/-- A line of the input. -/
structure InputLine where
  text : String
  /-- The line has an end. -/
  ended : Bool := true
  /-- The number of the file that the line is from. -/
  file : Nat := 0
  path : String := "-"
  number : Nat
  last : Bool := false
  deriving DecidableEq, Inhabited, Repr

/-- How far a range has come. -/
inductive RangeState where
  | outside
  /-- The range has started; it may be known at which line it ends. -/
  | inside (finish : Option Nat)
  deriving DecidableEq, Inhabited, Repr

/-- A text that grows by lines. -/
structure Output where
  text : String := ""
  /-- The last line has no end yet. -/
  unended : Bool := false
  deriving DecidableEq, Inhabited, Repr

/-- What is written at the end of the steps for a line. -/
inductive Queued where
  | text (s : String)
  | file (path : String)
  deriving DecidableEq, Inhabited, Repr

/-- What does not change while a script runs. -/
structure Setting where
  script : Script
  /-- Lines are only written where a step says so. -/
  quiet : Bool := false
  /-- Each file stands for itself. -/
  separate : Bool := false
  /-- Each file is written anew. -/
  inPlace : Bool := false
  /-- What separates lines. -/
  mark : String := "\n"
  /-- The room for lines that are shown plainly. -/
  width : Nat := 70
  /-- The content of a file. -/
  content : String → Option String

/-- A script at work. -/
structure State where
  text : String := ""
  hold : String := ""
  /-- The line that was read last. -/
  line : InputLine := { text := "", number := 0 }
  input : List InputLine
  ranges : Array RangeState
  out : Output := {}
  /-- What is written aside if files are written anew. -/
  console : Output := {}
  problems : String := ""
  /-- The files that are done, latest first. -/
  finished : List (Nat × String) := []
  /-- What is written behind the line, latest first. -/
  queue : List Queued := []
  replaced : Bool := false
  lastRegex : Option Regex := none
  written : List (String × Output) := []
  /-- What is left of files that are read by lines. -/
  readers : List (String × List String) := []
  /-- A step asked for a pattern that there is not. -/
  failed : Bool := false
  deriving Inhabited

/-- What follows a step. -/
inductive Next where
  | goTo (place : Nat)
  /-- The steps for the line are done; its text may still be written. -/
  | endLine (prints : Bool)
  /-- The steps start again with the text that is left. -/
  | again
  | stop (prints : Bool) (status : Nat)
  deriving DecidableEq, Inhabited, Repr

namespace Output

/-- Adds the end that the last line lacks. -/
def closed (out : Output) : Output :=
  if out.unended then { text := out.text ++ "\n" } else out

/-- Writes a line, which may lack its end. -/
def line (out : Output) (text mark : String) (ended : Bool) : Output :=
  let out := out.closed
  { text := out.text ++ text ++ (if ended then mark else ""), unended := ! ended }

/-- Writes a text as it is. -/
def plain (out : Output) (text : String) : Output :=
  let out := out.closed
  { out with text := out.text ++ text }

end Output

namespace State

/-- Writes the text of the line to the output. -/
def print (setting : Setting) (state : State) (text : String) : State :=
  { state with out := state.out.line text setting.mark state.line.ended }

/-- Writes a text as it is to the output. -/
def say (state : State) (text : String) : State :=
  { state with out := state.out.plain text }

/-- Writes a line to a file. -/
def writeTo (setting : Setting) (state : State) (path text : String) : State :=
  let add (out : Output) : Output := out.line text setting.mark state.line.ended
  if path = "/dev/stdout" then
    if setting.inPlace then { state with console := add state.console } else { state with out := add state.out }
  else if path = "/dev/stderr" then { state with problems := state.problems ++ text ++ "\n" }
  else
    let known := (state.written.lookup path).getD {}
    { state with written := (path, add known) :: state.written.filter (·.1 != path) }

/-- Writes what is queued. -/
def flush (setting : Setting) (state : State) : State :=
  let state := state.queue.reverse.foldl (fun (state : State) queued =>
    match queued with
    | .text s => state.say s
    | .file path => match setting.content path with
      | some s => if s.isEmpty then state else state.say s
      | none => state) state
  { state with queue := [] }

/-- A script before its first line has no range that has started, unless one starts before all lines. -/
def freshRanges (script : Script) : Array RangeState :=
  script.map fun step =>
    match step.address with
    | .range (.line 0) _ => .inside none
    | _ => .outside

/-- Goes on to the file of a line. -/
def enter (setting : Setting) (state : State) (line : InputLine) : State :=
  if ! setting.separate || state.line.number == 0 || line.file == state.line.file then state
  else
    let state := { state with ranges := freshRanges setting.script }
    if setting.inPlace then
      { state with finished := (state.line.file, state.out.text) :: state.finished, out := {} }
    else state

/-- Takes the next line of the input. -/
def read? (setting : Setting) (state : State) : Option (InputLine × State) :=
  match state.input with
  | [] => none
  | line :: input =>
    let state := (state.flush setting).enter setting line
    some (line, { state with replaced := false, line, input })

/-- The pattern fits the text; one without an expression stands for the last one. -/
def fits (state : State) (pattern : LinePattern) : Bool × State :=
  match pattern.regex <|> state.lastRegex with
  | none => (false, { state with failed := true })
  | some r =>
    let subject : Subject := {
      chars := state.text.toList.toArray, ignoreCase := pattern.ignoreCase, byLine := pattern.byLine }
    ((r.find? subject 0).isSome, { state with lastRegex := some r })

/-- The line is at a place. -/
def atPlace (state : State) (place : Place) : Bool × State :=
  let n := state.line.number
  match place with
  | .line k => (n == k, state)
  | .last => (state.line.last, state)
  | .every first step => (first ≤ n && (n - first) % step == 0, state)
  | .fits pattern => state.fits pattern

/-- The range goes on. -/
def setRange (state : State) (index : Nat) (range : RangeState) : State :=
  { state with ranges := state.ranges.setIfInBounds index range }

/-- A range starts at the line. -/
def startRange (state : State) (index : Nat) (finish : RangeEnd) : State :=
  let n := state.line.number
  let till (k : Nat) : State := if k ≤ n then state else state.setRange index (.inside (some k))
  match finish with
  | .at (.line k) => till k
  | .later count => till (n + count)
  | .multiple k => if k = 0 then state else till ((n / k + 1) * k)
  | .at _ => state.setRange index (.inside none)

/-- The line is in a range. -/
def inRange (state : State) (index : Nat) (first : Place) (finish : RangeEnd) : Bool × State :=
  match state.ranges[index]?.getD .outside with
  | .outside =>
    match state.atPlace first with
    | (true, state) => (true, state.startRange index finish)
    | (false, state) => (false, state)
  | .inside (some k) =>
    let n := state.line.number
    (n ≤ k, if k ≤ n then state.setRange index .outside else state)
  | .inside none =>
    match finish with
    | .at place =>
      match state.atPlace place with
      | (true, state) => (true, state.setRange index .outside)
      | (false, state) => (true, state)
    | _ => (true, state)

/-- A step is for the line. -/
def selects (state : State) (index : Nat) (step : Step) : Bool × State :=
  let (found, state) := match step.address with
    | .all => (true, state)
    | .one place => state.atPlace place
    | .range first finish => state.inRange index first finish
  (found != step.inverted, state)

end State

/-- A letter in another case. -/
def LetterCase.apply (case : LetterCase) (c : Char) : Char :=
  match case with
  | .kept => c
  | .upper => c.toUpper
  | .lower => c.toLower

/-- A text in another case, and its first letter in yet another one. -/
def inCase (letters first : LetterCase) (s : List Char) : List Char :=
  match s with
  | [] => []
  | c :: rest => (if first = .kept then letters.apply c else first.apply c) :: rest.map letters.apply

/-- What stands for a part that was found. What happens to a first letter waits for a group that holds one. -/
def replacementFor (parts : List ReplacementPart) (held : Nat → List Char) : List Char :=
  (parts.foldl (fun (known : List Char × LetterCase) part =>
    let (done, waiting) := known
    let first := if part.first = .kept then waiting else part.first
    let done := done ++ inCase part.letters first part.text
    let left : LetterCase := if part.text.isEmpty then first else .kept
    match part.group with
    | none => (done, .kept)
    | some n =>
      let group := held n
      if group.isEmpty then (done, if part.first = .kept then .kept else left)
      else (done ++ inCase part.letters left group, .kept)) ([], LetterCase.kept)).1

/-- The characters of a text between two positions. -/
def between (subject : Subject) (start finish : Nat) : List Char :=
  (subject.chars.extract start finish).toList

/-- Replaces parts from a position on, with one unit of fuel for each: where the last part ended, how many there
were, and what is written so far. -/
def replaceFrom (s : Substitution) (r : Regex) (subject : Subject) :
    Nat → Nat → Option Nat → Nat → Bool → List Char → List Char × Bool
  | 0, start, _, _, replaced, done => (done ++ between subject start subject.chars.size, replaced)
  | fuel + 1, start, last, count, replaced, done =>
    match r.find? subject start with
    | none => (done ++ between subject start subject.chars.size, replaced)
    | some found =>
      let done := done ++ between subject start found.start
      let empty := found.start == found.finish
      let onward (count : Nat) (replaced : Bool) (done : List Char) : List Char × Bool :=
        if empty then
          if subject.chars.size ≤ found.finish then (done, replaced)
          else
            replaceFrom s r subject fuel (found.finish + 1) (some found.finish) count replaced
              (done ++ between subject found.finish (found.finish + 1))
        else replaceFrom s r subject fuel found.finish (some found.finish) count replaced done
      if empty ∧ last = some found.start then onward count replaced done
      else if count + 1 < s.number then
        onward (count + 1) replaced (done ++ between subject found.start found.finish)
      else
        let held (n : Nat) : List Char :=
          if n = 0 then between subject found.start found.finish
          else match found.captures.lookup n with
            | some (start, finish) => between subject start finish
            | none => []
        let done := done ++ replacementFor s.replacement held
        if s.everywhere then onward (count + 1) true done
        else (done ++ between subject found.finish subject.chars.size, true)

/-- Carries out a substitution. -/
def State.substitute (setting : Setting) (state : State) (s : Substitution) : State :=
  match s.pattern.regex <|> state.lastRegex with
  | none => { state with failed := true }
  | some r =>
    let subject : Subject := {
      chars := state.text.toList.toArray, ignoreCase := s.pattern.ignoreCase, byLine := s.pattern.byLine }
    let state := { state with lastRegex := some r }
    match replaceFrom s r subject (subject.chars.size + 2) 0 none 0 false [] with
    | (_, false) => state
    | (text, true) =>
      let state := { state with text := String.ofList text, replaced := true }
      let state := if s.prints then state.print setting state.text else state
      match s.file with
      | some path => state.writeTo setting path state.text
      | none => state

/-- A character as it is shown plainly. -/
def plainly (c : Char) : String :=
  match c with
  | '\\' => "\\\\"
  | '\x07' => "\\a"
  | '\x08' => "\\b"
  | '\x0c' => "\\f"
  | '\n' => "\\n"
  | '\r' => "\\r"
  | '\t' => "\\t"
  | '\x0b' => "\\v"
  | c =>
    if 32 ≤ c.toNat ∧ c.toNat < 127 then String.singleton c
    else
      let digits := Nat.toDigits 8 c.toNat
      "\\" ++ String.ofList (List.replicate (3 - digits.length) '0' ++ digits)

/-- A text as it is shown plainly, in lines of some room. -/
def shownPlainly (width : Nat) (s : String) : String :=
  let (done, _) := s.toList.foldl (fun (known : String × Nat) c =>
    let (done, used) := known
    let part := plainly c
    if 1 < width ∧ width - 1 < used + part.length then (done ++ "\\\n" ++ part, part.length)
    else (done ++ part, used + part.length)) ("", 0)
  done ++ "$\n"

/-- The part of a text up to the end of its first line, and what follows it if there is one. -/
def firstLine (s : String) : String × Option String :=
  match s.toList.span (· != '\n') with
  | (line, _ :: rest) => (String.ofList line, some (String.ofList rest))
  | (line, []) => (String.ofList line, none)

/-- The next line of a file that is read by lines. -/
def State.lineOf (setting : Setting) (state : State) (path : String) : Option String × State :=
  let left := match state.readers.lookup path with
    | some lines => lines
    | none =>
      match ((setting.content path).getD "").splitOn "\n" |>.reverse with
      | "" :: lines => lines.reverse
      | lines => lines.reverse
  match left with
  | [] => (none, state)
  | line :: rest => (some line, { state with readers := (path, rest) :: state.readers.filter (·.1 != path) })

/-- Does what a step for the line asks for, at a place of the script. -/
def State.act (setting : Setting) (state : State) (place : Nat) (action : Action) : State × Next :=
  let on (state : State) : State × Next := (state, .goTo (place + 1))
  match action with
  | .block _ | .nothing => on state
  | .addText s => on { state with queue := .text s :: state.queue }
  | .insertText s => on (if s.isEmpty then state else state.say s)
  | .changeText s =>
    let shown := match state.ranges[place]?.getD .outside with
      | .outside => ! s.isEmpty
      | .inside _ => false
    (if shown then state.say s else state, .endLine false)
  | .jump kind target =>
    let taken := match kind with
      | .always => true
      | .ifReplaced => state.replaced
      | .ifNotReplaced => ! state.replaced
    let state := if kind = .always then state else { state with replaced := false }
    (state, .goTo (if taken then target else place + 1))
  | .delete => (state, .endLine false)
  | .deleteLine =>
    match firstLine state.text with
    | (_, some rest) => ({ state with text := rest }, .again)
    | (_, none) => (state, .endLine false)
  | .print => on (state.print setting state.text)
  | .printLine => on (state.print setting (firstLine state.text).1)
  | .next =>
    if state.input.isEmpty then (state, .stop true 0)
    else
      let state := if setting.quiet then state else state.print setting state.text
      match state.read? setting with
      | some (line, state) => on { state with text := line.text }
      | none => (state, .stop false 0)
  | .appendNext =>
    match state.read? setting with
    | some (line, state) => on { state with text := state.text ++ setting.mark ++ line.text }
    | none => (state, .stop true 0)
  | .toHold => on { state with hold := state.text }
  | .addToHold => on { state with hold := state.hold ++ setting.mark ++ state.text }
  | .fromHold => on { state with text := state.hold }
  | .addFromHold => on { state with text := state.text ++ setting.mark ++ state.hold }
  | .exchange => on { state with text := state.hold, hold := state.text }
  | .lineNumber => on (state.say s!"{state.line.number}\n")
  | .fileName => on (state.say (state.line.path ++ "\n"))
  | .showPlainly width => on (state.say (shownPlainly (width.getD setting.width) state.text))
  | .quit status => (state, .stop true status)
  | .quitSilently status => ({ state with queue := [] }, .stop false status)
  | .readFile path => on { state with queue := .file path :: state.queue }
  | .readLine path =>
    match state.lineOf setting path with
    | (some line, state) => on { state with queue := .text (line ++ "\n") :: state.queue }
    | (none, state) => on state
  | .writeFile path => on (state.writeTo setting path state.text)
  | .writeLine path => on (state.writeTo setting path (firstLine state.text).1)
  | .substitute s => on (state.substitute setting s)
  | .exchangeChars pairs =>
    on { state with text := String.ofList (state.text.toList.map fun c => (pairs.lookup c).getD c) }
  | .clear => on { state with text := "" }

/-- Takes steps from a place on, with one unit of fuel for each. -/
def State.steps (setting : Setting) : Nat → State → Nat → State × Next
  | 0, state, _ => (state, .stop false 1)
  | fuel + 1, state, place =>
    match setting.script[place]? with
    | none => (state, .endLine true)
    | some step =>
      let (selected, state) := state.selects place step
      if state.failed then (state, .stop false 1)
      else
        match selected, step.action with
        | false, .block finish => state.steps setting fuel finish
        | false, _ => state.steps setting fuel (place + 1)
        | true, action =>
          let (state, next) := state.act setting place action
          if state.failed then (state, .stop false 1)
          else
            match next with
            | .goTo place => state.steps setting fuel place
            | next => (state, next)

/-- The most steps for one line. -/
def mostSteps : Nat := 100000

/-- Ends the steps for a line. -/
def State.endLine (setting : Setting) (state : State) (prints : Bool) : State :=
  (if prints && ! setting.quiet then state.print setting state.text else state).flush setting

/-- Takes the steps for the lines that are left, with one unit of fuel for each time, and answers the status. -/
def State.lines (setting : Setting) : Nat → Bool → State → State × Nat
  | 0, _, state => (state, 1)
  | fuel + 1, fresh, state =>
    let started : Option State :=
      if fresh then (state.read? setting).map fun (line, state) => { state with text := line.text } else some state
    match started with
    | none => (state, 0)
    | some state =>
      match state.steps setting mostSteps 0 with
      | (state, .again) => (state.endLine setting false).lines setting fuel false
      | (state, .stop prints status) => (state.endLine setting prints, status)
      | (state, .endLine prints) => (state.endLine setting prints).lines setting fuel true
      | (state, .goTo _) => (state.endLine setting true).lines setting fuel true

/-- Runs a script over lines; answers what is left of it and the status. -/
def run (setting : Setting) (input : List InputLine) : State × Nat :=
  let start : State := { input, ranges := State.freshRanges setting.script }
  let (state, status) := start.lines setting (mostSteps + input.length) true
  if setting.inPlace ∧ 0 < state.line.number then
    ({ state with finished := (state.line.file, state.out.text) :: state.finished, out := {} }, status)
  else (state, status)

end UiCheck.Rehearsal.Shell.Editor
