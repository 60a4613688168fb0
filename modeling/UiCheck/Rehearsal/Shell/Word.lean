import UiCheck.Rehearsal.Shell.Source

/-! # Reading words

Single quotes keep everything, double quotes all but parameters, outputs and a few escapes, and a backslash
keeps the next character. Behind an operator of a parameter a word reaches to the closing brace; a sum reaches
to two closing parentheses. How commands are read is left open; the token behind them is held afterwards.
-/

namespace UiCheck.Rehearsal.Shell

open Source

/-- What is being read. -/
inductive Region where
  /-- A word, up to a character that ends it. -/
  | word
  /-- The line that is to end a text: only quotes count. -/
  | mark
  /-- What stands in for a parameter, up to a brace. -/
  | braced (quoted : Bool)
  /-- Double quotes, up to the next one. -/
  | double (braced : Bool)
  /-- An expression, up to two closing parentheses, with the number of those that are open. -/
  | sum (level : Nat)
  /-- A text that stands with commands, up to its end. -/
  | document
  deriving DecidableEq, Inhabited, Repr

/-- The characters of a region mean only themselves. -/
def Region.isQuoted : Region → Bool
  | .word | .mark => false
  | .braced q => q
  | .double _ | .sum _ | .document => true

/-- A backslash takes the meaning off the character; without quotes it does so with any character. -/
def Region.escapes (region : Region) (c : Char) : Bool :=
  match region with
  | .word | .mark | .braced false => true
  | .double inBraces => "\\\x60$\"".toList.contains c || inBraces && c == '\x7d'
  | .braced true => "\\\x60$\"\x7d".toList.contains c
  | .sum _ => "\\\x60$\"".toList.contains c
  | .document => "\\\x60$".toList.contains c

/-- A character that ends a word. -/
def endsWord (c : Char) : Bool :=
  " \t\n;&|<>()".toList.contains c

/-- A parameter with a name of one sign. -/
def isSign (c : Char) : Bool :=
  "?!-*@#$".toList.contains c || c.isDigit

/-- Reads up to a single quote. -/
def readSingle : Nat → List Char → Reading String
  | 0, _ => throw .openQuote
  | fuel + 1, done => do
    match (← peekRaw) with
    | none => throw .openQuote
    | some '\'' =>
      pass
      return String.ofList done.reverse
    | some c =>
      pass
      readSingle fuel (c :: done)

/-- The text of a command between two backquotes. In double quotes a backslash before another double quote
does not count. -/
def readBackquoted (quoted : Bool) : Nat → List Char → Reading (List Char)
  | 0, _ => throw .openBackquote
  | fuel + 1, done => do
    match (← peek) with
    | none => throw .openBackquote
    | some '\x60' =>
      pass
      return done.reverse
    | some '\\' =>
      pass
      match (← peekRaw) with
      | none => throw .openBackquote
      | some c =>
        pass
        if "\\\x60$".toList.contains c || quoted && c == '"' then readBackquoted quoted fuel (c :: done)
        else readBackquoted quoted fuel (c :: '\\' :: done)
    | some c =>
      pass
      readBackquoted quoted fuel (c :: done)

/-- Reads the commands between backquotes, which count as a text of their own. -/
def readOld (commands : Reading Command) (quoted : Bool) : Reading Piece := do
  let text ← readBackquoted quoted (← fuel) []
  let outer ← get
  set { outer with rest := text, held := none, awaited := [] }
  let body ← commands
  modify fun inner => { outer with documents := inner.documents }
  return .output body

/-- Reads the name of a parameter behind its first character. -/
def readName (first : Char) : Reading String := do
  if startsName first then return String.singleton first ++ (← span isNameChar)
  else if first.isDigit then return String.singleton first ++ (← span Char.isDigit)
  else return String.singleton first

/-- Passes the next character and answers it; at the end it answers a line feed. -/
def take : Reading Char := do
  let c := (← peek).getD '\n'
  pass
  return c

/-- Puts a character back. -/
def giveBack (c : Char) : Reading Unit :=
  modify fun source =>
    { source with rest := c :: source.rest, line := if c = '\n' then source.line - 1 else source.line }

/-- The name of the parameter between braces, and whether its length is meant. Without a name the parameter
is not fit for use. -/
def readBraced : Reading (Option String × Bool) := do
  match (← peek) with
  | none => return (none, false)
  | some '\x7d' => return (none, false)
  | some '#' =>
    pass
    match (← peek) with
    | none => return (some "#", false)
    | some c =>
      if isNameChar c then
        pass
        return (some (← readName c), true)
      else
        pass
        match (← peek) with
        | some '\x7d' =>
          if c ≠ '\x7d' then return (if isSign c then some (String.singleton c) else none, isSign c)
          else
            giveBack c
            return (some "#", false)
        | _ =>
          giveBack c
          return (some "#", false)
  | some c =>
    pass
    if startsName c || isSign c then return (some (← readName c), false)
    else return (none, false)

/-- The operators with a word, by their signs. -/
def standIn? : Char → Option StandIn
  | '-' => some .fallback
  | '=' => some .assignment
  | '?' => some .complaint
  | '+' => some .alternative
  | _ => none

mutual

/-- Reads the pieces of a region, with those so far in reverse order. -/
def readParts (commands : Reading Command) : Nat → Region → List Piece → Reading Word
  | 0, _, _ => throw .tooDeep
  | fuel + 1, region, done => do
    match (← peek) with
    | none =>
      match region with
      | .word | .mark | .document => return done.reverse
      | .sum _ => throw .openSum
      | .double _ | .braced true => throw .openQuote
      | .braced false => throw .openBrace
    | some c =>
      let keep : Reading Word := do
        pass
        readParts commands fuel region (addChar region.isQuoted c done)
      match region, c with
      | .double _, '"' =>
        pass
        return done.reverse
      | .braced _, '\x7d' =>
        pass
        return done.reverse
      | .sum level, '(' =>
        pass
        readParts commands fuel (.sum (level + 1)) (addChar true c done)
      | .sum level, ')' =>
        pass
        if 0 < level then readParts commands fuel (.sum (level - 1)) (addChar true c done)
        else if ← passIf ')' then return done.reverse
        else readParts commands fuel region (addChar true c done)
      | _, '\\' =>
        pass
        match (← peekRaw) with
        | none => readParts commands fuel region (addChar true c done)
        | some d =>
          pass
          let done := if region.escapes d then done else addChar true c done
          readParts commands fuel region (addChar true d done)
      | _, '\'' =>
        if region = .word ∨ region = .mark ∨ region = .braced false then do
          pass
          let text ← readSingle (← Source.fuel) []
          readParts commands fuel region (.literal text :: done)
        else keep
      | _, '"' =>
        let isBraced : Bool := match region with
          | .braced _ => true
          | _ => false
        if region = .document then keep
        else if (match region with | .sum _ => true | _ => false) then keep
        else do
          pass
          let parts ← readParts commands fuel (.double isBraced) []
          readParts commands fuel region (.double parts :: done)
      | .mark, _ => if endsWord c then return done.reverse else keep
      | _, '$' =>
        pass
        match (← readDollar commands fuel region) with
        | some piece => readParts commands fuel region (piece :: done)
        | none => readParts commands fuel region (addChar region.isQuoted c done)
      | _, '\x60' =>
        pass
        let piece ← readOld commands region.isQuoted
        readParts commands fuel region (piece :: done)
      | .word, _ => if endsWord c then return done.reverse else keep
      | _, _ => keep

/-- Reads what follows a dollar sign, if it means something. -/
def readDollar (commands : Reading Command) : Nat → Region → Reading (Option Piece)
  | 0, _ => throw .tooDeep
  | fuel + 1, region => do
    match (← peek) with
    | none => return none
    | some '(' =>
      pass
      if ← passIf '(' then return some (.value (← readParts commands fuel (.sum 0) []))
      else
        let outer := (← get).awaited
        modify fun source => { source with awaited := [] }
        let body ← commands
        match (← get).held with
        | some .closing =>
          modify fun source => { source with held := none, awaited := outer }
          return some (.output body)
        | other => throw (.unexpected (other.getD .finish) (some .closing))
    | some '\x7b' =>
      pass
      match (← readBraced) with
      | (none, _) => return some (.parameter "" (← readBroken commands fuel region))
      | (some name, true) =>
        if ← passIf '\x7d' then return some (.parameter name .length)
        else return some (.parameter name (← readBroken commands fuel region))
      | (some name, false) => return some (.parameter name (← readUse commands fuel region))
    | some c =>
      if startsName c then
        pass
        return some (.parameter (← readName c) .whole)
      else if isSign c then
        pass
        return some (.parameter (String.singleton c) .whole)
      else return none

/-- Passes the rest of a parameter that is not fit for use. -/
def readBroken (commands : Reading Command) : Nat → Region → Reading Use
  | 0, _ => throw .tooDeep
  | fuel + 1, region => do
    let _ ← readParts commands fuel (.braced region.isQuoted) []
    return .broken

/-- Reads how a parameter between braces is used. -/
def readUse (commands : Reading Command) : Nat → Region → Reading Use
  | 0, _ => throw .tooDeep
  | fuel + 1, region => do
    let c ← take
    if c = '\x7d' then return .whole
    else if c = '%' ∨ c = '#' then
      let longest ← passIf c
      let pattern ← readParts commands fuel (.braced false) []
      return .trimmed (if c = '#' then .front else .back) longest pattern
    else
      let d ← if c = ':' then take else pure c
      match standIn? d with
      | some kind => return .standIn kind (c = ':') (← readParts commands fuel (.braced region.isQuoted) [])
      | none =>
        if c = ':' ∧ d = '\x7d' then
          -- A brace behind a colon does not close anything, so the word goes on.
          let _ ← readParts commands fuel (.braced region.isQuoted) []
          return .whole
        else readBroken commands fuel region

end

/-- The lines of a text that stands with commands, up to its mark: the characters and what follows the mark.
A line that ends with a backslash goes on in the next one, which then is no mark, unless the text is taken
verbatim; `fresh` says that a line starts here. -/
def cutDocument (awaited : Awaited) : Nat → Bool → List Char → List Char → List Char × List Char
  | 0, _, done, rest => (done.reverse, rest)
  | fuel + 1, fresh, done, rest =>
    let rest := if fresh && awaited.strip then rest.dropWhile (· == '\t') else rest
    let line := rest.takeWhile (· != '\n')
    let after := rest.drop line.length
    if fresh ∧ line = awaited.mark.toList then (done.reverse, after.tail)
    else
      match after with
      | [] => ((line.reverse ++ done).reverse, [])
      | _ :: next =>
        let slashes := (line.reverse.takeWhile (· == '\\')).length
        let goesOn := ! awaited.verbatim && slashes % 2 == 1
        cutDocument awaited fuel (! goesOn) ('\n' :: (line.reverse ++ done)) next

/-- Reads a text that stands with commands. -/
def readDocument (commands : Reading Command) (awaited : Awaited) : Reading Unit := do
  let source ← get
  let (body, rest) := cutDocument awaited (source.rest.length + 1) true [] source.rest
  let passed := source.rest.take (source.rest.length - rest.length)
  let word ← if awaited.verbatim then pure [Piece.literal (String.ofList body)] else do
    set { source with rest := body, held := none, awaited := [] }
    readParts commands (2 * body.length + 2) .document []
  modify fun inner =>
    { source with
      rest, line := source.line + passed.count '\n'
      documents := inner.documents.setIfInBounds awaited.number word }

end UiCheck.Rehearsal.Shell
