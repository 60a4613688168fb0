import UiCheck.Rehearsal.Shell.Word

/-! # The grammar of commands

Commands stand one after the other on a line, depend on each other, feed each other, or are put into
parentheses, braces, choices, loops and functions. A line is read as a whole before any of it runs.
-/

namespace UiCheck.Rehearsal.Shell

open Source

/-- What is to be read. -/
inductive Goal where
  /-- Commands up to a token that ends them. -/
  | body
  /-- The same, but there may be none. -/
  | maybeEmpty
  /-- One command. -/
  | single
  deriving DecidableEq, Inhabited, Repr

/-- A way to read commands that are nested in others. -/
abbrev Nested := Goal → Reading Command

/-- Passes blanks and comments before a token. -/
def passBlanks : Nat → Reading Unit
  | 0 => return ()
  | fuel + 1 => do
    match (← peek) with
    | some c =>
      if c = ' ' ∨ c = '\t' then
        pass
        passBlanks fuel
      else if c = '#' then
        modify fun source => { source with rest := source.rest.dropWhile (· != '\n') }
        passBlanks fuel
      else return ()
    | none => return ()

/-- Reads the sign of a redirection behind a descriptor. -/
def readArrow (descriptor : Option Nat) : Reading Token := do
  if ← passIf '>' then
    let descriptor := descriptor.getD 1
    if ← passIf '>' then return .redirection descriptor (.file .append)
    else if ← passIf '|' then return .redirection descriptor (.file (.write true))
    else if ← passIf '&' then return .redirection descriptor .copy
    else return .redirection descriptor (.file (.write false))
  else
    pass
    let descriptor := descriptor.getD 0
    if ← passIf '<' then return .redirection descriptor (.document (← passIf '-'))
    else if ← passIf '&' then return .redirection descriptor .copy
    else if ← passIf '>' then return .redirection descriptor (.file .readWrite)
    else return .redirection descriptor (.file .read)

/-- The descriptor that a word right before a sign of redirection stands for. -/
def descriptor? (word : Word) : Option (Option Nat) :=
  match word with
  | [] => some none
  | [.plain s] =>
    match s.toList with
    | [d] => if d.isDigit then some (some (d.toNat - '0'.toNat)) else none
    | _ => none
  | _ => none

/-- Reads a word, or a redirection that starts with a digit; `mark` says that only quotes count. -/
def readWordToken (nested : Nested) (mark : Bool) : Reading Token := do
  let word ← readParts (nested .maybeEmpty) (2 * (← fuel)) (if mark then .mark else .word) []
  match (← peekRaw), descriptor? word with
  | some '<', some descriptor | some '>', some descriptor => readArrow descriptor
  | _, _ => return .word word

/-- Reads a token. -/
def readToken (nested : Nested) (mark : Bool) : Reading Token := do
  passBlanks (← fuel)
  match (← peek) with
  | none => return .finish
  | some '\n' =>
    pass
    return .newline
  | some '&' =>
    pass
    return if ← passIf '&' then .doubleAmpersand else .ampersand
  | some '|' =>
    pass
    return if ← passIf '|' then .doubleBar else .bar
  | some ';' =>
    pass
    return if ← passIf ';' then .doubleSemicolon else .semicolon
  | some '(' =>
    pass
    return .opening
  | some ')' =>
    pass
    return .closing
  | some _ => readWordToken nested mark

/-- Reads the texts that stand with the commands of the line that has just ended. -/
def readDocuments (nested : Nested) : Reading Unit := do
  let awaited := (← get).awaited
  modify fun source => { source with awaited := [] }
  awaited.forM (readDocument (nested .maybeEmpty))

/-- The held token, or else the next one. -/
def heldOr (next : Reading Token) : Reading Token := do
  match (← get).held with
  | some token =>
    modify fun source => { source with held := none }
    return token
  | none => next

/-- Holds a token for later. -/
def hold (token : Token) : Reading Unit :=
  modify fun source => { source with held := some token }

/-- Passes line ends. -/
def passLines (nested : Nested) : Nat → Token → Reading Token
  | fuel + 1, .newline => do
    readDocuments nested
    passLines nested fuel (← readToken nested false)
  | _, token => return token

/-- Reads what a word stands for in place of it, if it is another name for the start of a command. The name
counts only as a word while its own text is being read. -/
def aliased (nested : Nested) : Nat → Token → Reading Token
  | 0, token => return token
  | fuel + 1, token => do
    let source ← get
    if source.aliases.isEmpty then return token
    match token with
    | .word [.plain s] =>
      let size := source.rest.length
      let expanding := source.expanding.filter (·.2 ≤ size)
      match source.aliases.lookup s with
      | some value =>
        if keywords.contains s || expanding.any (·.1 == s) then return token
        else
          set { source with rest := value.toList ++ source.rest, expanding := (s, size) :: expanding }
          aliased nested fuel (← readToken nested false)
      | none => return token
    | _ => return token

/-- The token as a keyword, if it is one. -/
def Token.promoted (token : Token) : Token :=
  match token with
  | .word w =>
    match plain? w with
    | some s => if keywords.contains s then .keyword s else token
    | none => token
  | _ => token

/-- The next token where a word is only a word. -/
def next (nested : Nested) : Reading Token :=
  heldOr (readToken nested false)

/-- The next token where a keyword counts; `lines` says that line ends do not. -/
def nextKeyword (nested : Nested) (lines : Bool) : Reading Token := do
  let token ← next nested
  let token ← if lines then passLines nested (← fuel) token else pure token
  return (← aliased nested (← fuel) token).promoted

/-- Fails at a token. -/
def refuse {α : Type} (found : Token) (expected : Option Token) : Reading α :=
  throw (.unexpected found expected)

/-- Passes a token that must come next. -/
def expect (nested : Nested) (expected : Token) : Reading Unit := do
  let token ← next nested
  if token.sameAs expected then return () else refuse token (some expected)

/-- The target of a redirection. -/
def readTarget (nested : Nested) (descriptor : Nat) (arrow : Arrow) : Reading Redirection := do
  let isMark := match arrow with
    | .document _ => true
    | _ => false
  match (← heldOr (readToken nested isMark)) with
  | .word word =>
    match arrow with
    | .file opening => return .file descriptor opening word
    | .copy =>
      match plain? word with
      | some "-" => return .copy descriptor none
      | some s =>
        match s.toList with
        | [d] =>
          if d.isDigit then return .copy descriptor (some (d.toNat - '0'.toNat))
          else return .copyNamed descriptor word
        | _ => return .copyNamed descriptor word
      | none => return .copyNamed descriptor word
    | .document strip =>
      let source ← get
      let number := source.documents.size
      let awaited : Awaited := { mark := spellings word, strip, verbatim := hasQuotes word, number }
      set { source with documents := source.documents.push [], awaited := source.awaited ++ [awaited] }
      return .document descriptor number
  | token => refuse token none

/-- Redirections behind a command, with those so far in reverse order. -/
def readRedirections (nested : Nested) : Nat → List Redirection → Reading (List Redirection)
  | 0, done => return done.reverse
  | fuel + 1, done => do
    match (← nextKeyword nested false) with
    | .redirection descriptor arrow =>
      readRedirections nested fuel ((← readTarget nested descriptor arrow) :: done)
    | token =>
      hold token
      return done.reverse

/-- What has been read of a simple command; everything is in reverse order. -/
structure PartialCommand where
  settings : List (String × Word) := []
  words : List Word := []
  redirections : List Redirection := []
  deriving Inhabited

/-- The command that has been read. -/
def PartialCommand.command (known : PartialCommand) (line : Nat) : Command :=
  .simple line known.settings.reverse known.words.reverse known.redirections.reverse

/-- The builtin programs whose names cannot name a function. -/
def specialBuiltins : List String :=
  [".", ":", "break", "continue", "eval", "exec", "exit", "export", "local", "readonly", "return", "set", "shift",
    "times", "trap", "unset"]

/-- Reads a function behind its opening parenthesis. -/
def readFunction (nested : Nested) (word : Word) : Reading Command := do
  expect nested .closing
  match plain? word with
  | some name =>
    if ! isName name || specialBuiltins.contains name then throw .badFunctionName
    else
      hold (← nextKeyword nested true)
      let line := (← get).line
      return .define line name (← nested .single)
  | none => throw .badFunctionName

/-- Reads a simple command or a function. -/
def readSimple (nested : Nested) (line : Nat) : Nat → PartialCommand → Reading Command
  | 0, known => return known.command line
  | fuel + 1, known => do
    let token ← next nested
    match (← if known.words.isEmpty then aliased nested fuel token else pure token) with
    | .word word =>
      match (if known.words.isEmpty then setting? word else none) with
      | some setting => readSimple nested line fuel { known with settings := setting :: known.settings }
      | none => readSimple nested line fuel { known with words := word :: known.words }
    | .redirection descriptor arrow =>
      let redirection ← readTarget nested descriptor arrow
      readSimple nested line fuel { known with redirections := redirection :: known.redirections }
    | .opening =>
      match known with
      | { settings := [], words := [word], redirections := [] } => readFunction nested word
      | _ =>
        hold .opening
        return known.command line
    | token =>
      hold token
      return known.command line

/-- Reads a choice behind its first word, up to the word that ends it. -/
def readChoice (nested : Nested) : Nat → Reading Command
  | 0 => throw .tooDeep
  | fuel + 1 => do
    let condition ← nested .body
    expect nested (.keyword "then")
    let yes ← nested .body
    match (← next nested) with
    | .keyword "elif" => return .choice condition yes (some (← readChoice nested fuel))
    | .keyword "else" => return .choice condition yes (some (← nested .body))
    | token =>
      hold token
      return .choice condition yes none

/-- Reads words up to another token. -/
def readWords (nested : Nested) : Nat → List Word → Reading (List Word × Token)
  | 0, done => return (done.reverse, .finish)
  | fuel + 1, done => do
    match (← next nested) with
    | .word word => readWords nested fuel (word :: done)
    | token => return (done.reverse, token)

/-- The word that stands for all arguments. -/
def allArguments : Word := [.double [.parameter "@" .whole]]

/-- Reads a loop over values behind its first word, up to its body. -/
def readEach (nested : Nested) (line : Nat) : Reading Command := do
  match (← next nested) with
  | .word word =>
    match (plain? word).filter isName with
    | none => throw .badLoopVariable
    | some name =>
      let values ← do
        match (← nextKeyword nested true) with
        | .keyword "in" =>
          match (← readWords nested (← fuel) []) with
          | (words, .newline) | (words, .semicolon) => pure words
          | (_, token) => refuse token none
        | .semicolon => pure [allArguments]
        | token =>
          hold token
          pure [allArguments]
      match (← nextKeyword nested true) with
      | .keyword "do" => return .each line name values (← nested .body)
      | token => refuse token (some (.keyword "do"))
  | _ => throw .badLoopVariable

/-- The token as a word; a keyword is one as well. -/
def Token.asWord : Token → Word
  | .word w => w
  | .keyword spelling => [.plain spelling]
  | _ => []

/-- Reads the patterns of a branch from the first one on. -/
def readPatterns (nested : Nested) : Nat → List Word → Token → Reading (List Word)
  | 0, _, token => refuse token (some .closing)
  | fuel + 1, done, token => do
    let done := token.asWord :: done
    match (← next nested) with
    | .bar => readPatterns nested fuel done (← next nested)
    | .closing => return done.reverse
    | token => refuse token (some .closing)

/-- Reads the branches of a selection. -/
def readBranches (nested : Nested) :
    Nat → List (List Word × Command) → Reading (List (List Word × Command))
  | 0, done => return done.reverse
  | fuel + 1, done => do
    match (← nextKeyword nested true) with
    | .keyword "esac" => return done.reverse
    | token =>
      let first ← if token.sameAs .opening then next nested else pure token
      let patterns ← readPatterns nested (← Source.fuel) [] first
      let done := (patterns, ← nested .maybeEmpty) :: done
      match (← nextKeyword nested true) with
      | .keyword "esac" => return done.reverse
      | .doubleSemicolon => readBranches nested fuel done
      | token => refuse token (some .doubleSemicolon)

/-- Reads a selection behind its first word. -/
def readSelect (nested : Nested) (line : Nat) : Reading Command := do
  match (← next nested) with
  | .word subject =>
    match (← nextKeyword nested true) with
    | .keyword "in" => return .select line subject (← readBranches nested (← fuel) [])
    | token => refuse token (some (.keyword "in"))
  | token => refuse token (some (.word []))

/-- Puts the redirections behind a command to it. -/
def withRedirections (nested : Nested) (line : Nat) (command : Command) : Reading Command := do
  match command, (← readRedirections nested (← fuel) []) with
  | command, [] => return command
  | .subshell line body _, redirections => return .subshell line body redirections
  | command, redirections => return .redirected line command redirections

/-- Reads a loop with a condition behind its first word. -/
def readLoop (nested : Nested) (inverted : Bool) : Reading Command := do
  let condition ← nested .body
  expect nested (.keyword "do")
  return .loop inverted condition (← nested .body)

/-- Reads one command. -/
def readCommand (nested : Nested) : Reading Command := do
  let line := (← get).line
  let closed (command : Command) (last : Token) : Reading Command := do
    expect nested last
    withRedirections nested line command
  match (← next nested) with
  | .keyword "if" => closed (← readChoice nested (← fuel)) (.keyword "fi")
  | .keyword "while" => closed (← readLoop nested false) (.keyword "done")
  | .keyword "until" => closed (← readLoop nested true) (.keyword "done")
  | .keyword "for" => closed (← readEach nested line) (.keyword "done")
  | .keyword "case" => withRedirections nested line (← readSelect nested line)
  | .opening => closed (.subshell line (← nested .body) []) .closing
  | .keyword "\x7b" => closed (← nested .body) (.keyword "\x7d")
  | .word word =>
    hold (.word word)
    readSimple nested line (← fuel) {}
  | .redirection descriptor arrow =>
    hold (.redirection descriptor arrow)
    readSimple nested line (← fuel) {}
  | token => refuse token none

/-- Reads the commands behind a bar. -/
def readStages (nested : Nested) : Nat → List Command → Reading (List Command)
  | 0, done => return done.reverse
  | fuel + 1, done => do
    match (← next nested) with
    | .bar =>
      hold (← nextKeyword nested true)
      readStages nested fuel ((← readCommand nested) :: done)
    | token =>
      hold token
      return done.reverse

/-- Reads commands that feed each other. -/
def readPipeline (nested : Nested) : Reading Command := do
  let first ← next nested
  let negated := first.sameAs (.keyword "!")
  if negated then hold (← nextKeyword nested false) else hold first
  let command ← match (← readStages nested (← fuel) [← readCommand nested]) with
    | [command] => pure command
    | stages => pure (.pipeline stages)
  return if negated then .not command else command

/-- Reads what depends on the commands so far. -/
def readDependents (nested : Nested) : Nat → Command → Reading Command
  | 0, command => return command
  | fuel + 1, command => do
    match (← next nested) with
    | .doubleAmpersand =>
      hold (← nextKeyword nested true)
      readDependents nested fuel (.both command (← readPipeline nested))
    | .doubleBar =>
      hold (← nextKeyword nested true)
      readDependents nested fuel (.either command (← readPipeline nested))
    | token =>
      hold token
      return command

/-- Reads commands that depend on each other. -/
def readDependent (nested : Nested) : Reading Command := do
  let first ← readPipeline nested
  readDependents nested (← fuel) first

/-- Reads commands up to a token that ends them and is held. At the start a token that ends them counts only
if there may be no commands. -/
def readBody (nested : Nested) : Nat → Bool → Command → Reading Command
  | 0, _, done => return done
  | fuel + 1, mayEnd, done => do
    let token ← nextKeyword nested true
    hold token
    if token.sameAs .finish then
      readDocuments nested
      return done
    else if mayEnd && token.endsList then return done
    else
      let command ← readDependent nested
      let token ← next nested
      let command := if token.sameAs .ampersand then .background command else command
      let done := done.followedBy command
      match token with
      | .ampersand | .semicolon => readBody nested fuel true done
      | .newline | .finish =>
        hold token
        readBody nested fuel true done
      | token =>
        hold token
        return done

/-- Reads what is nested in other commands, at most so deep. -/
def readNested : Nat → Nested
  | 0, _ => throw .tooDeep
  | depth + 1, goal =>
    match goal with
    | .body => do readBody (readNested depth) (← fuel) false .skip
    | .maybeEmpty => do readBody (readNested depth) (← fuel) true .skip
    | .single => readCommand (readNested depth)

/-- Reads the commands of one line. -/
def readLine (nested : Nested) : Nat → Command → Reading Command
  | 0, done => return done
  | fuel + 1, done => do
    match (← nextKeyword nested false) with
    | .newline =>
      readDocuments nested
      return done
    | .finish =>
      readDocuments nested
      return done
    | token =>
      hold token
      let command ← readDependent nested
      let token ← next nested
      let command := if token.sameAs .ampersand then .background command else command
      let done := done.followedBy command
      match token with
      | .ampersand | .semicolon => readLine nested fuel done
      | .newline | .finish =>
        hold token
        readLine nested fuel done
      | token => refuse token none

/-- The command of the next line, unless the source is at its end; a line may hold nothing to do. -/
def nextCommand : Reading (Option Command) := do
  let source ← get
  set { source with held := none, awaited := [] }
  if source.rest.isEmpty then return none
  else return some (← readLine (readNested (source.rest.length + 2)) (source.rest.length + 2) .skip)

end UiCheck.Rehearsal.Shell
