/-! # Commands of the shell

A word is made of pieces, some of which are only known once the shell comes to the word: the value of a
parameter, the output of a command, a sum. A command is a program with its arguments, or it is put together
from other commands.
-/

namespace UiCheck.Rehearsal.Shell

/-- The end of a value at which a pattern is taken off. -/
inductive Side where
  | front
  | back
  deriving DecidableEq, Inhabited, Repr

/-- What a word stands in for, next to a parameter. -/
inductive StandIn where
  /-- The word counts if the parameter has no value. -/
  | fallback
  /-- The word becomes the value if the parameter has none. -/
  | assignment
  /-- The word says what is wrong if the parameter has no value. -/
  | complaint
  /-- The word counts if the parameter has a value. -/
  | alternative
  deriving DecidableEq, Inhabited, Repr

/-- How a file is opened. -/
inductive Opening where
  | read
  /-- The file is emptied, and made if it is not there; `force` says that it may be there in any case. -/
  | write (force : Bool)
  | append
  | readWrite
  deriving DecidableEq, Inhabited, Repr

mutual

/-- A piece of a word. -/
inductive Piece where
  /-- Characters as they stand. -/
  | plain (s : String)
  /-- Characters that mean only themselves. -/
  | literal (s : String)
  /-- Pieces in double quotes. -/
  | double (parts : List Piece)
  | parameter (name : String) (use : Use)
  /-- The output of a command. -/
  | output (body : Command)
  /-- The value of an expression. -/
  | value (expression : List Piece)

/-- What of a parameter is used. -/
inductive Use where
  | whole
  | length
  /-- Part of the value; `longest` says whether the pattern takes off as much as it can. -/
  | trimmed (side : Side) (longest : Bool) (pattern : List Piece)
  /-- A word may stand in; `nullToo` says that an empty value counts as none. -/
  | standIn (kind : StandIn) (nullToo : Bool) (word : List Piece)
  /-- Something that is found out to be wrong when the word is needed. -/
  | broken

/-- Where an input or output of a command leads. -/
inductive Redirection where
  | file (descriptor : Nat) (opening : Opening) (target : List Piece)
  /-- A descriptor becomes what another one is, or is closed. -/
  | copy (descriptor : Nat) (other : Option Nat)
  /-- A descriptor becomes what the one with the number in a word is. -/
  | copyNamed (descriptor : Nat) (other : List Piece)
  /-- A text that stands with the commands, known by a number. -/
  | document (descriptor : Nat) (number : Nat)

/-- A command; a line is where it starts. -/
inductive Command where
  /-- Nothing to do. -/
  | skip
  /-- Settings of variables, and a program with its arguments. -/
  | simple (line : Nat) (settings : List (String × List Piece)) (words : List (List Piece))
      (redirections : List Redirection)
  | redirected (line : Nat) (body : Command) (redirections : List Redirection)
  /-- A command in a process of its own. -/
  | subshell (line : Nat) (body : Command) (redirections : List Redirection)
  /-- A command that is not waited for. -/
  | background (body : Command)
  /-- Commands that each read what the one before writes. -/
  | pipeline (stages : List Command)
  | not (body : Command)
  /-- The second command is for the case that the first one succeeds. -/
  | both (left right : Command)
  /-- The second command is for the case that the first one fails. -/
  | either (left right : Command)
  | sequence (left right : Command)
  | choice (condition yes : Command) (no : Option Command)
  /-- The body runs as long as the condition succeeds, or fails if `inverted` says so. -/
  | loop (inverted : Bool) (condition body : Command)
  /-- The body runs for each value of a variable. -/
  | each (line : Nat) (name : String) (values : List (List Piece)) (body : Command)
  /-- The first branch with a fitting pattern runs. -/
  | select (line : Nat) (subject : List Piece) (branches : List (List (List Piece) × Command))
  | define (line : Nat) (name : String) (body : Command)

end

instance : Inhabited Piece := ⟨.plain ""⟩

instance : Inhabited Command := ⟨.skip⟩

instance : Inhabited Redirection := ⟨.copy 0 none⟩

/-- A word is what its pieces give together. -/
abbrev Word := List Piece

/-- Adds a character to pieces in reverse order; `quoted` says whether it means only itself. -/
def addChar (quoted : Bool) (c : Char) : List Piece → List Piece
  | .plain s :: rest => if quoted then .literal (String.singleton c) :: .plain s :: rest else .plain (s.push c) :: rest
  | .literal s :: rest =>
    if quoted then .literal (s.push c) :: rest else .plain (String.singleton c) :: .literal s :: rest
  | rest => (if quoted then .literal (String.singleton c) else .plain (String.singleton c)) :: rest

/-- The characters of a word without quotes and without pieces that are yet to be known. -/
def plain? (word : Word) : Option String :=
  match word with
  | [.plain s] => some s
  | _ => none

mutual

/-- The characters of a piece, with quotes removed. -/
def Piece.spelling : Piece → String
  | .plain s | .literal s => s
  | .double parts => spellings parts
  | .parameter name _ => name
  | .output _ | .value _ => ""

/-- The characters of pieces, with quotes removed. -/
def spellings : List Piece → String
  | [] => ""
  | piece :: rest => piece.spelling ++ spellings rest

end

/-- Some of the word is in quotes. -/
def hasQuotes (word : Word) : Bool :=
  word.any fun piece =>
    match piece with
    | .literal _ | .double _ => true
    | _ => false

/-- A character that may start the name of a variable. -/
def startsName (c : Char) : Bool :=
  c.isAlpha || c == '_'

/-- A character of the name of a variable. -/
def isNameChar (c : Char) : Bool :=
  c.isAlphanum || c == '_'

/-- The text may name a variable. -/
def isName (s : String) : Bool :=
  s.toList.head?.any startsName && s.toList.all isNameChar

/-- The setting of a variable that a word is, if it is one. -/
def setting? (word : Word) : Option (String × Word) :=
  match word with
  | .plain s :: rest =>
    match s.toList.span isNameChar with
    | (c :: name, '=' :: value) =>
      if startsName c then
        some (String.ofList (c :: name), if value.isEmpty then rest else .plain (String.ofList value) :: rest)
      else none
    | _ => none
  | _ => none

/-- The commands one after the other; nothing to do is left out. -/
def Command.followedBy (first next : Command) : Command :=
  match first with
  | .skip => next
  | _ => .sequence first next

end UiCheck.Rehearsal.Shell
