import UiCheck.Rehearsal.Shell.Editor.Script
import UiCheck.Rehearsal.Shell.Regex.Reader

/-! # Reading scripts of the line editor

Scripts come in pieces, each from an argument or a file, which are read as lines of one text. A problem is told
with the piece and the number of characters up to it.
-/

namespace UiCheck.Rehearsal.Shell.Editor

open Shell

/-- A piece of a script. -/
structure ScriptPiece where
  /-- The file that it is from. -/
  file : Option String := none
  text : String
  deriving DecidableEq, Inhabited, Repr

/-- Why a script cannot be used. -/
inductive ScriptProblem where
  /-- Something is wrong where so many characters have been read. -/
  | found (taken : Nat) (message : String)
  /-- Something is wrong with the script as a whole. -/
  | whole (message : String)
  /-- Nothing is said about the place. -/
  | plain (message : String)
  deriving DecidableEq, Inhabited, Repr

/-- A script that is being read. -/
structure ScriptSource where
  rest : List Char
  taken : Nat := 0
  extended : Bool := false
  /-- The text starts with a line that turns printing off. -/
  quiet : Bool := false
  steps : Array Step := #[]
  /-- The blocks that are open, the innermost first. -/
  blocks : List Nat := []
  labels : List (String × Nat) := []
  /-- The jumps to labels. -/
  jumps : List (Nat × String) := []
  deriving Inhabited

/-- A step that reads. -/
abbrev ScriptReading := EStateM ScriptProblem ScriptSource

namespace ScriptReading

/-- Fails at the place that has been reached. -/
def fail {α : Type} (message : String) : ScriptReading α := do
  throw (.found (← get).taken message)

/-- The next character. -/
def peek? : ScriptReading (Option Char) :=
  return (← get).rest.head?

/-- Takes the next character. -/
def next? : ScriptReading (Option Char) := do
  let source ← get
  match source.rest with
  | [] => return none
  | c :: rest =>
    set { source with rest, taken := source.taken + 1 }
    return some c

/-- Takes characters as long as they are of a kind. -/
def takeWhile (holds : Char → Bool) : ScriptReading (List Char) := do
  let source ← get
  let taken := source.rest.takeWhile holds
  set { source with rest := source.rest.drop taken.length, taken := source.taken + taken.length }
  return taken

/-- A blank within a line. -/
def isBlank (c : Char) : Bool :=
  c == ' ' || c == '\t'

/-- Passes blanks. -/
def passBlanks : ScriptReading Unit := do
  let _ ← takeWhile isBlank

/-- Takes the next character behind blanks. -/
def nextBehindBlanks? : ScriptReading (Option Char) := do
  passBlanks
  next?

/-- Takes digits as a number; none stand for zero. -/
def number : ScriptReading Nat := do
  return ((← takeWhile Char.isDigit).foldl (fun n c => 10 * n + (c.toNat - '0'.toNat)) 0)

/-- Passes the end of a step. -/
def endStep : ScriptReading Unit := do
  passBlanks
  match (← peek?) with
  | none | some '\x7d' | some '#' => return
  | some c =>
    let _ ← next?
    if c = '\n' ∨ c = ';' then return else fail "extra characters after command"

/-- The character that a letter and digits behind a backslash stand for, and how many characters these are. -/
def letterFor? (s : List Char) : Option (Char × Nat) :=
  let digits (radix most : Nat) (s : List Char) : Option (Char × Nat) :=
    let value (c : Char) : Option Nat :=
      if c.isDigit then some (c.toNat - '0'.toNat)
      else if 'a' ≤ c.toLower ∧ c.toLower ≤ 'f' then some (c.toLower.toNat - 'a'.toNat + 10) else none
    let good := (s.take most).takeWhile fun c => (value c).any (· < radix)
    if good.isEmpty then none
    else some (Char.ofNat (good.foldl (fun n c => radix * n + (value c).getD 0) 0 % 256), good.length + 1)
  match s with
  | 'a' :: _ => some ('\x07', 1)
  | 'f' :: _ => some ('\x0c', 1)
  | 'n' :: _ => some ('\n', 1)
  | 'r' :: _ => some ('\r', 1)
  | 't' :: _ => some ('\t', 1)
  | 'v' :: _ => some ('\x0b', 1)
  | 'c' :: c :: _ => some (Char.ofNat (c.toUpper.toNat.xor 64), 2)
  | 'd' :: rest => digits 10 3 rest
  | 'o' :: rest => digits 8 3 rest
  | 'x' :: rest => digits 16 2 rest
  | _ => none

/-- The part of a bracket up to its end, with what is known of it in reverse order and one unit of fuel for each
character, and whether there is an end. -/
def bracketRest : Nat → List Char → List Char → List Char × Bool
  | 0, done, _ | _, done, [] => (done.reverse, false)
  | fuel + 1, done, c :: rest =>
    match c, rest with
    | ']', _ => ((']' :: done).reverse, true)
    | '[', mark :: more =>
      if mark = ':' ∨ mark = '.' ∨ mark = '=' then
        let name := more.takeWhile (· != mark)
        match more.drop name.length with
        | m :: ']' :: after => bracketRest fuel (']' :: m :: (name.reverse ++ mark :: '[' :: done)) after
        | _ => bracketRest fuel ('[' :: done) rest
      else bracketRest fuel ('[' :: done) rest
    | _, _ => bracketRest fuel (c :: done) rest

/-- The part of a bracket up to its end, and whether there is an end. -/
def bracketPart (s : List Char) : List Char × Bool :=
  let start := match s with
    | '^' :: ']' :: _ => 2
    | '^' :: _ => 1
    | ']' :: _ => 1
    | _ => 0
  let (part, ended) := bracketRest (s.length + 1) [] (s.drop start)
  (s.take start ++ part, ended)

/-- A bracket in which escapes stand for their characters. -/
def plainBracket : List Char → List Char
  | '\\' :: rest =>
    match letterFor? rest with
    | some (c, size) => if size = 1 then c :: plainBracket rest.tail else '\\' :: plainBracket rest
    | none => '\\' :: plainBracket rest
  | c :: rest => c :: plainBracket rest
  | [] => []
termination_by s => s.length
decreasing_by all_goals simp_wf; try omega

/-- Reads text up to a mark, with what was read so far in reverse order. In a pattern brackets hide the mark. -/
def readUntil (mark : Char) (pattern : Bool) (message : String) : Nat → List Char → ScriptReading (List Char)
  | 0, _ => fail message
  | fuel + 1, done => do
    match (← peek?) with
    | none | some '\n' => fail message
    | some c =>
      let _ ← next?
      if c = mark then return done.reverse
      else if c = '\\' then
        let rest := (← get).rest
        match rest with
        | [] => fail message
        | d :: _ =>
          if d = mark ∧ (pattern ∨ d ≠ '&') then
            let _ ← next?
            readUntil mark pattern message fuel (d :: done)
          else
            match letterFor? rest with
            | some (made, size) =>
              modify fun source => { source with rest := rest.drop size, taken := source.taken + size }
              let made := if ! pattern ∧ (made = '&' ∨ made = '\\') then [made, '\\'] else [made]
              readUntil mark pattern message fuel (made ++ done)
            | none =>
              let _ ← next?
              readUntil mark pattern message fuel (d :: '\\' :: done)
      else if c = '[' ∧ pattern then
        let (part, ended) := bracketPart (← get).rest
        modify fun source =>
          { source with rest := source.rest.drop part.length, taken := source.taken + part.length }
        if ended then readUntil mark pattern message fuel ((plainBracket part).reverse ++ '[' :: done)
        else fail message
      else readUntil mark pattern message fuel (c :: done)

/-- Reads text up to a mark. -/
def textUntil (mark : Char) (pattern : Bool) (message : String) : ScriptReading (List Char) := do
  readUntil mark pattern message ((← get).rest.length + 1) []

/-- The pattern that a text writes. -/
def patternOf (text : List Char) (ignoreCase byLine : Bool) : ScriptReading LinePattern := do
  if text.isEmpty then return { regex := none, ignoreCase, byLine }
  else
    match Regex.ofText { extended := (← get).extended, strict := true } (String.ofList text) with
    | .ok r => return { regex := some r, ignoreCase, byLine }
    | .error e => fail e.message

/-- Reads the flags behind a pattern of an address. -/
def patternFlags : Nat → Bool → Bool → ScriptReading (Bool × Bool)
  | 0, ignoreCase, byLine => return (ignoreCase, byLine)
  | fuel + 1, ignoreCase, byLine => do
    passBlanks
    match (← peek?) with
    | some 'I' => do
      let _ ← next?
      patternFlags fuel true byLine
    | some 'M' => do
      let _ ← next?
      patternFlags fuel ignoreCase true
    | _ => return (ignoreCase, byLine)

/-- Reads where a range ends, or a place if it stands alone. -/
def readRangeEnd? : ScriptReading (Option RangeEnd) := do
  passBlanks
  match (← peek?) with
  | none => return none
  | some c =>
    if c = '/' ∨ c = '\\' then
      let _ ← next?
      let mark ← if c = '\\' then pure ((← next?).getD '\n') else pure '/'
      let text ← textUntil mark true "unterminated address regex"
      let (ignoreCase, byLine) ← patternFlags ((← get).rest.length + 1) false false
      return some (.at (.fits (← patternOf text ignoreCase byLine)))
    else if c.isDigit then
      let first ← number
      passBlanks
      if (← peek?) = some '~' then
        let _ ← next?
        passBlanks
        let step ← number
        return some (.at (if step = 0 then .line first else .every first step))
      else return some (.at (.line first))
    else if c = '+' ∨ c = '~' then
      let _ ← next?
      passBlanks
      let n ← number
      return some (if c = '+' then .later n else .multiple n)
    else if c = '$' then
      let _ ← next?
      return some (.at .last)
    else return none

/-- Reads the address of a step. -/
def readAddress : ScriptReading Address := do
  match (← readRangeEnd?) with
  | none => return .all
  | some (.later _) | some (.multiple _) => fail "unexpected \x60,'"
  | some (.at first) =>
    passBlanks
    let address : Address ←
      if (← peek?) = some ',' then do
        let _ ← next?
        match (← readRangeEnd?) with
        | some last => pure (.range first last)
        | none =>
          let _ ← next?
          fail "unexpected \x60,'"
      else pure (.one first)
    let usesZero := match address with
      | .range (.line 0) (.at (.fits _)) => false
      | .one (.line 0) | .range (.line 0) _ => true
      | _ => false
    if usesZero then
      let _ ← next?
      fail "invalid usage of line address 0"
    return address

/-- Reads the text of a step up to the end of a line that is not continued. -/
def readText : Nat → List Char → ScriptReading String
  | 0, done => return String.ofList done.reverse
  | fuel + 1, done => do
    match (← next?) with
    | none => return String.ofList (if done.isEmpty then [] else ('\n' :: done).reverse)
    | some '\n' => return String.ofList ('\n' :: done).reverse
    | some '\\' =>
      let rest := (← get).rest
      match letterFor? rest with
      | some (c, size) =>
        modify fun source => { source with rest := rest.drop size, taken := source.taken + size }
        readText fuel (c :: done)
      | none =>
        match (← next?) with
        | some c => readText fuel (c :: done)
        | none => readText fuel done
    | some c => readText fuel (c :: done)

/-- Reads the text of a step behind its letter. -/
def readStepText : ScriptReading String := do
  passBlanks
  match (← get).rest with
  | [] | '\n' :: _ => fail "expected \\ after \x60a', \x60c' or \x60i'"
  | '\\' :: rest =>
    let _ ← next?
    match rest with
    | '\n' :: _ =>
      let _ ← next?
      readText ((← get).rest.length + 1) []
    | c :: _ =>
      -- The first character is itself, unless it is a backslash.
      if c = '\\' then readText ((← get).rest.length + 1) []
      else
        let _ ← next?
        readText ((← get).rest.length + 1) [c]
    | [] => return ""
  | _ => readText ((← get).rest.length + 1) []

/-- The replacement that a text writes: the parts so far in reverse order, the text of the next one in reverse
order, what happens to its letters, and what happens to letters behind it. -/
def replacementFrom : List Char → List ReplacementPart → List Char → LetterCase → LetterCase → List ReplacementPart
  | [], done, text, letters, first => ({ text := text.reverse, letters, first } :: done).reverse
  | '&' :: rest, done, text, letters, first =>
    replacementFrom rest ({ text := text.reverse, group := some 0, letters, first } :: done) [] letters .kept
  | '\\' :: c :: rest, done, text, letters, first =>
    let part : ReplacementPart := { text := text.reverse, letters, first }
    if c.isDigit then
      replacementFrom rest ({ part with group := some (c.toNat - '0'.toNat) } :: done) [] letters .kept
    else
      match c with
      | 'L' => replacementFrom rest (part :: done) [] .lower .kept
      | 'U' => replacementFrom rest (part :: done) [] .upper .kept
      | 'E' => replacementFrom rest (part :: done) [] .kept .kept
      | 'l' => replacementFrom rest (part :: done) [] letters .lower
      | 'u' => replacementFrom rest (part :: done) [] letters .upper
      | _ => replacementFrom rest done (c :: text) letters first
  | c :: rest, done, text, letters, first => replacementFrom rest done (c :: text) letters first

/-- Reads the name of a file, which goes to the end of the line. -/
def readPath : ScriptReading String := do
  passBlanks
  let path ← takeWhile (· != '\n')
  if path.isEmpty then fail "missing filename in r/R/w/W commands" else return String.ofList path

/-- Reads the flags of a substitution. -/
def readFlags : Nat → Substitution → Bool → ScriptReading (Substitution × Bool)
  | 0, s, _ => return (s, false)
  | fuel + 1, s, numbered => do
    match (← peek?) with
    | none | some '\x7d' | some '#' => return (s, numbered)
    | some c =>
      if c.isDigit then
        let n ← number
        if numbered then fail "multiple number options to \x60s' command"
        else if n = 0 then fail "number option to \x60s' command may not be zero"
        else readFlags fuel { s with number := n } true
      else
        let _ ← next?
        match c with
        | '\n' | ';' => return (s, numbered)
        | 'i' | 'I' => readFlags fuel { s with pattern := { s.pattern with ignoreCase := true } } numbered
        | 'm' | 'M' => readFlags fuel { s with pattern := { s.pattern with byLine := true } } numbered
        | 'e' => readFlags fuel s numbered
        | 'p' =>
          if s.prints then fail "multiple \x60p' options to \x60s' command"
          else readFlags fuel { s with prints := true } numbered
        | 'g' =>
          if s.everywhere then fail "multiple \x60g' options to \x60s' command"
          else readFlags fuel { s with everywhere := true } numbered
        | 'w' => return ({ s with file := some (← readPath) }, numbered)
        | _ => if isBlank c || c == '\r' then readFlags fuel s numbered else fail "unknown option to \x60s'"

/-- Reads a substitution behind its letter. -/
def readSubstitution : ScriptReading Action := do
  let message := "unterminated \x60s' command"
  match (← next?) with
  | none => fail message
  | some mark =>
    if mark = '\n' ∨ mark = '\\' then fail message
    let text ← textUntil mark true message
    let replacement := replacementFrom (← textUntil mark false message) [] [] .kept .kept
    let (s, _) ← readFlags ((← get).rest.length + 1) { pattern := { regex := none }, replacement } false
    let pattern ← patternOf text s.pattern.ignoreCase s.pattern.byLine
    let greatest := (replacement.map fun part => part.group.getD 0).foldl max 0
    match pattern.regex with
    | some r => if r.groups < greatest then fail s!"invalid reference \\{greatest} on \x60s' command's RHS"
    | none => pure ()
    return .substitute { s with pattern }

/-- The characters of a set for an exchange. -/
def exchangeSet : List Char → List Char
  | '\\' :: c :: rest => if c = '\\' then '\\' :: exchangeSet rest else '\\' :: exchangeSet (c :: rest)
  | c :: rest => c :: exchangeSet rest
  | [] => []
termination_by s => s.length

/-- Reads an exchange of characters behind its letter. -/
def readExchange : ScriptReading Action := do
  let message := "unterminated \x60y' command"
  match (← next?) with
  | none => fail message
  | some mark =>
    let sources := exchangeSet (← textUntil mark false message)
    let targets := exchangeSet (← textUntil mark false message)
    if sources.length ≠ targets.length then fail "strings for \x60y' command are different lengths"
    endStep
    return .exchangeChars (sources.zip targets)

/-- Reads the name of a label. -/
def readLabel (closes : Bool) : ScriptReading String := do
  passBlanks
  return String.ofList (← takeWhile fun c => ! c.isWhitespace && c != ';' && ! (closes && c == '\x7d'))

/-- Adds a step. -/
def add (step : Step) : ScriptReading Unit :=
  modify fun source => { source with steps := source.steps.push step }

/-- The step that a letter alone stands for. -/
def plainAction? : Char → Option Action
  | '=' => some .lineNumber
  | 'd' => some .delete
  | 'D' => some .deleteLine
  | 'F' => some .fileName
  | 'g' => some .fromHold
  | 'G' => some .addFromHold
  | 'h' => some .toHold
  | 'H' => some .addToHold
  | 'n' => some .next
  | 'N' => some .appendNext
  | 'p' => some .print
  | 'P' => some .printLine
  | 'z' => some .clear
  | 'x' => some .exchange
  | _ => none

/-- Reads a jump behind its letter. -/
def readJump (address : Address) (inverted : Bool) (kind : JumpKind) : ScriptReading Unit := do
  let label ← readLabel true
  modify fun source => { source with jumps := (source.steps.size, label) :: source.jumps }
  add { address, inverted, action := .jump kind 0 }
  endStep

/-- Reads the rest of a step behind its letter. -/
def readAction (address : Address) (inverted : Bool) (c : Char) : ScriptReading Unit := do
  let put (action : Action) : ScriptReading Unit := add { address, inverted, action }
  let addressed := address != .all
  let ranged := match address with
    | .range .. => true
    | _ => false
  let optional : ScriptReading (Option Nat) := do
    passBlanks
    if (← peek?).any Char.isDigit then return some (← number) else return none
  match c with
  | '\x7b' =>
    modify fun source => { source with blocks := source.steps.size :: source.blocks }
    put (.block 0)
  | '\x7d' =>
    let source ← get
    match source.blocks with
    | [] => fail "unexpected \x60\x7d'"
    | start :: blocks =>
      if addressed then fail "\x7d doesn't want any addresses"
      let steps := source.steps.modify start fun step => { step with action := .block source.steps.size }
      set { source with steps, blocks }
      endStep
  | 'a' => put (.addText (← readStepText))
  | 'i' => put (.insertText (← readStepText))
  | 'c' => put (.changeText (← readStepText))
  | ':' =>
    if addressed then fail ": doesn't want any addresses"
    let label ← readLabel false
    if label.isEmpty then fail "\":\" lacks a label"
    modify fun source => { source with labels := (label, source.steps.size) :: source.labels }
  | 'b' => readJump address inverted .always
  | 't' => readJump address inverted .ifReplaced
  | 'T' => readJump address inverted .ifNotReplaced
  | 'q' | 'Q' =>
    if ranged then fail "command only uses one address"
    let status ← optional
    put (if c = 'q' then .quit (status.getD 0) else .quitSilently (status.getD 0))
    endStep
  | 'l' =>
    put (.showPlainly (← optional))
    endStep
  | 'r' => put (.readFile (← readPath))
  | 'R' => put (.readLine (← readPath))
  | 'w' => put (.writeFile (← readPath))
  | 'W' => put (.writeLine (← readPath))
  | 'e' =>
    let _ ← takeWhile (· != '\n')
    put .nothing
  | 'v' =>
    let _ ← readLabel false
    endStep
  | 's' => put (← readSubstitution)
  | 'y' => put (← readExchange)
  | _ =>
    match plainAction? c with
    | some action =>
      put action
      endStep
    | none => fail s!"unknown command: \x60{c}'"

/-- Reads steps to the end of the text. -/
def readSteps : Nat → ScriptReading Unit
  | 0 => return
  | fuel + 1 => do
    let _ ← takeWhile fun c => c.isWhitespace || c == ';'
    if (← peek?).isNone then return
    let address ← readAddress
    passBlanks
    let inverted := (← peek?) == some '!'
    if inverted then
      let _ ← next?
      passBlanks
      if (← peek?) = some '!' then
        let _ ← next?
        fail "multiple \x60!'s"
    match (← next?) with
    | none => fail "missing command"
    | some '#' =>
      if address != .all then fail "comments don't accept any addresses"
      let source ← get
      let line ← takeWhile (· != '\n')
      if source.taken = 1 ∧ line.head? = some 'n' then modify fun source => { source with quiet := true }
    | some c => readAction address inverted c
    readSteps fuel

/-- Leads the jumps to their labels; a jump without a label leads behind the last step. -/
def joinLabels : ScriptReading Unit := do
  let source ← get
  if ! source.blocks.isEmpty then throw (.whole "unmatched \x60\x7b'")
  let missing := source.jumps.reverse.find? fun (_, label) => ! label.isEmpty && (source.labels.lookup label).isNone
  match missing with
  | some (_, label) => throw (.plain s!"can't find label for jump to \x60{label}'")
  | none =>
    let steps := source.jumps.foldl (fun (steps : Array Step) (place, label) =>
      let target := if label.isEmpty then source.steps.size else (source.labels.lookup label).getD 0
      steps.modify place fun step =>
        match step.action with
        | .jump kind _ => { step with action := .jump kind target }
        | _ => step) source.steps
    set { source with steps }

end ScriptReading

/-- Where in its piece a problem was found, with the number of the first piece that is left. -/
def placeIn (message : String) : List ScriptPiece → Nat → Nat → String
  | [], _, _ => message
  | piece :: rest, number, taken =>
    if taken ≤ piece.text.length ∨ rest.isEmpty then
      match piece.file with
      | none => s!"-e expression #{number}, char {taken}: {message}"
      | some path =>
        let line := ((piece.text.toList.take (taken - 1)).filter (· == '\n')).length + 1
        s!"file {path} line {line}: {message}"
    else placeIn message rest (if piece.file.isNone then number + 1 else number) (taken - piece.text.length - 1)

/-- The words for a problem with pieces of a script. -/
def ScriptProblem.message (pieces : List ScriptPiece) : ScriptProblem → String
  | .plain message => message
  | .whole message => s!"-e expression #{max 1 pieces.length}, char 0: {message}"
  | .found taken message => placeIn message pieces 1 taken

/-- The script that pieces make up, and whether it turns printing off. -/
def readScript (extended : Bool) (pieces : List ScriptPiece) : Except String (Script × Bool) :=
  let text := "\n".intercalate (pieces.map (·.text))
  let reading : ScriptReading Unit := do
    ScriptReading.readSteps (text.length + 1)
    ScriptReading.joinLabels
  match reading.run { rest := text.toList, extended } with
  | .ok _ source => .ok (source.steps, source.quiet)
  | .error e _ => .error (e.message pieces)

end UiCheck.Rehearsal.Shell.Editor
