import UiCheck.Rehearsal.Shell.Command

/-! # Sources of commands

A source is a text that is being read as commands. A text that stands with a command follows only behind the
end of the line, so the source keeps a list of those that are still to come. Whatever they hold gets a number,
by which the command knows it.
-/

/-! ## Tokens

What the text of commands is made of: words, the words that have a meaning where a command may start, and
signs. A problem of the text is told by the token that does not fit.
-/

namespace UiCheck.Rehearsal.Shell

/-- The words with a meaning of their own. -/
def keywords : List String :=
  ["!", "case", "do", "done", "elif", "else", "esac", "fi", "for", "if", "in", "then", "until", "while", "\x7b",
    "\x7d"]

/-- What a sign of redirection asks for. -/
inductive Arrow where
  | file (opening : Opening)
  | copy
  /-- A text that stands with the commands; `strip` says that tabs at the start of its lines do not count. -/
  | document (strip : Bool)
  deriving DecidableEq, Inhabited, Repr

/-- A token. -/
inductive Token where
  | finish
  | newline
  | semicolon
  | ampersand
  | doubleAmpersand
  | doubleBar
  | bar
  | opening
  | closing
  | doubleSemicolon
  | redirection (descriptor : Nat) (arrow : Arrow)
  | word (word : Word)
  /-- A word with a meaning of its own. -/
  | keyword (spelling : String)
  deriving Inhabited

/-- The name of a token in messages. -/
def Token.name : Token → String
  | .finish => "end of file"
  | .newline => "newline"
  | .semicolon => "\";\""
  | .ampersand => "\"&\""
  | .doubleAmpersand => "\"&&\""
  | .doubleBar => "\"||\""
  | .bar => "\"|\""
  | .opening => "\"(\""
  | .closing => "\")\""
  | .doubleSemicolon => "\";;\""
  | .redirection .. => "redirection"
  | .word _ => "word"
  | .keyword spelling => "\"" ++ spelling ++ "\""

/-- No further command of a list starts with the token. -/
def Token.endsList : Token → Bool
  | .finish | .closing | .doubleSemicolon => true
  | .keyword spelling => ["do", "done", "elif", "else", "esac", "fi", "then", "\x7d"].contains spelling
  | _ => false

/-- Two tokens are of the same kind. -/
def Token.sameAs (token other : Token) : Bool :=
  token.name == other.name

/-- Why a text cannot be read as commands. -/
inductive SyntaxProblem where
  | unexpected (found : Token) (expected : Option Token)
  | openQuote
  | openBrace
  | openSum
  | openBackquote
  | badLoopVariable
  | badFunctionName
  | tooDeep
  deriving Inhabited

/-- The words for a problem. -/
def SyntaxProblem.message : SyntaxProblem → String
  | .unexpected found none => found.name ++ " unexpected"
  | .unexpected found (some expected) => found.name ++ " unexpected (expecting " ++ expected.name ++ ")"
  | .openQuote => "Unterminated quoted string"
  | .openBrace => "Missing '\x7d'"
  | .openSum => "Missing '))'"
  | .openBackquote => "EOF in backquote substitution"
  | .badLoopVariable => "Bad for loop variable"
  | .badFunctionName => "Bad function name"
  | .tooDeep => "Commands nested too deeply"

end UiCheck.Rehearsal.Shell

/-! ## Reading -/

namespace UiCheck.Rehearsal.Shell

/-- A text that is still to come. -/
structure Awaited where
  /-- The line that ends it. -/
  mark : String
  /-- Tabs at the start of its lines do not count. -/
  strip : Bool
  /-- All of its characters mean only themselves. -/
  verbatim : Bool
  number : Nat
  deriving Inhabited

/-- A text that is being read as commands. -/
structure Source where
  rest : List Char
  line : Nat := 1
  /-- A token that was read too early. -/
  held : Option Token := none
  awaited : List Awaited := []
  /-- The texts that stood with commands, by their numbers. -/
  documents : Array Word := #[]
  /-- Other names for the start of commands, and what they stand for. -/
  aliases : List (String × String) := []
  /-- The names whose texts are being read, each with the length of what is left behind its text. -/
  expanding : List (String × Nat) := []
  deriving Inhabited

/-- A step that reads from a source and may meet a problem. -/
abbrev Reading := EStateM SyntaxProblem Source

namespace Source

/-- Drops what joins two lines: a backslash at the end of the first; with the number of lines so far. -/
def joined : Nat → List Char → Nat × List Char
  | line, '\\' :: '\n' :: rest => joined (line + 1) rest
  | line, rest => (line, rest)

/-- The next character; lines that a backslash joins are one. -/
def peek : Reading (Option Char) := do
  let source ← get
  let (line, rest) := joined source.line source.rest
  set { source with line, rest }
  return rest.head?

/-- The next character as it stands. -/
def peekRaw : Reading (Option Char) :=
  return (← get).rest.head?

/-- Passes a character. -/
def pass : Reading Unit :=
  modify fun source =>
    match source.rest with
    | '\n' :: rest => { source with rest, line := source.line + 1 }
    | rest => { source with rest := rest.tail }

/-- Passes a character if it is the next one. -/
def passIf (c : Char) : Reading Bool := do
  if (← peek) = some c then
    pass
    return true
  else return false

/-- Passes the characters that a condition holds of, with those passed so far in reverse order and one unit
of fuel for each. -/
def passWhile (keep : Char → Bool) : Nat → List Char → Reading String
  | 0, done => return String.ofList done.reverse
  | fuel + 1, done => do
    match (← peek) with
    | some c =>
      if keep c then
        pass
        passWhile keep fuel (c :: done)
      else return String.ofList done.reverse
    | none => return String.ofList done.reverse

/-- Passes the characters that a condition holds of. -/
def span (keep : Char → Bool) : Reading String := do
  passWhile keep (← get).rest.length []

/-- One unit of fuel for each character, and some more. -/
def fuel : Reading Nat :=
  return (← get).rest.length + 2

end Source

end UiCheck.Rehearsal.Shell
