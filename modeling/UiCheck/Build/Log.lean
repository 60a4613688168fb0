import UiCheck.Text.Case
import UiCheck.Text.Search

/-! # Build logs

The escape sequences with which a terminal colours a log are removed; then the first path of a source file
that the log names can be found.
-/

namespace UiCheck.Build

/-- A character that ends an escape sequence. -/
def isFinal (c : Char) : Bool :=
  c.isDigit || ('A' ≤ c && c ≤ 'O') || c == 'R' || c == 'Z' || c == 'c' || ('f' ≤ c && c ≤ 'n') ||
    c == 'q' || c == 'r' || c == 'y' || c == '=' || c == '>' || c == '<'

/-- A character that can stand between the start of an escape sequence and its parameters. -/
def isIntermediate (c : Char) : Bool :=
  c == '[' || c == '(' || c == ')' || c == '#' || c == ';' || c == '?'

/-- What follows the character that ends an escape sequence. -/
def afterFinal? : List Char → Option (List Char)
  | c :: rest => if isFinal c then some rest else none
  | [] => none

/-- Goes on behind as many characters as possible, at most `n`. -/
def behindMost (next : List Char → Option (List Char)) (s : List Char) : Nat → Option (List Char)
  | 0 => next s
  | n + 1 =>
    match next (s.drop (n + 1)) with
    | some rest => some rest
    | none => behindMost next s n

/-- The number of digits of a parameter at the start of a text. -/
def parameterWidth (s : List Char) : Nat :=
  min 4 (s.takeWhile Char.isDigit).length

/-- What follows the further parameters, which may be empty, and the end of an escape sequence, with one unit
of fuel for each parameter. -/
def afterParameters? : Nat → List Char → Option (List Char)
  | 0, s => afterFinal? s
  | fuel + 1, s =>
    match s with
    | ';' :: rest => behindMost (afterParameters? fuel) rest (parameterWidth rest)
    | _ => afterFinal? s

/-- What follows an escape sequence at the start of a text. A digit may end a sequence, so a parameter is cut
short if nothing else ends it. -/
def afterEscape? : List Char → Option (List Char)
  | [] => none
  | c :: s =>
    if c = '\x1b' ∨ c.toNat = 0x9B then
      let s := s.dropWhile isIntermediate
      match parameterWidth s with
      | 0 => afterFinal? s
      | n + 1 =>
        match s with
        | [] => none
        | _ :: s =>
          match behindMost (afterParameters? s.length) s n with
          | some rest => some rest
          | none => some s
    else none

/-- Removes escape sequences, with the output so far reversed and one unit of fuel for each character. -/
def removeEscapes : Nat → List Char → List Char → List Char
  | 0, done, s => done.reverse ++ s
  | fuel + 1, done, s =>
    match afterEscape? s with
    | some rest => removeEscapes fuel done rest
    | none =>
      match s with
      | [] => done.reverse
      | c :: rest => removeEscapes fuel (c :: done) rest

/-- A text without escape sequences. -/
def stripEscapes (text : String) : String :=
  String.ofList (removeEscapes text.length [] text.toList)

/-- The directories in which source files are looked for. -/
def sourceDirectories : List String := ["app", "src", "components", "pages", "lib"]

/-- The extensions of source files; a longer one comes before its start. -/
def sourceEndings : List String := ["tsx", "ts", "jsx", "js"]

/-- A character of a path below a source directory. -/
def isPathChar (c : Char) : Bool :=
  Text.isFoldedLetter c || c.isDigit || c == '_' || c == '-' || c == '/'

/-- What follows the path of a source file at the start of a text. Letters count in either case. -/
def afterSourcePath? (s : List Char) : Option (List Char) :=
  match Text.after? ['.', '/'] s with
  | none => none
  | some s =>
    match sourceDirectories.findSome? fun name => Text.afterFolded? (name ++ "/").toList s with
    | none => none
    | some s =>
      match s.takeWhile isPathChar, s.dropWhile isPathChar with
      | _ :: _, '.' :: rest => sourceEndings.findSome? fun ending => Text.afterFolded? ending.toList rest
      | _, _ => none

/-- The first path of a source file in a text. -/
def findSourcePath? : List Char → Option (List Char)
  | [] => none
  | c :: s =>
    match afterSourcePath? (c :: s) with
    | some rest => some ((c :: s).take ((c :: s).length - rest.length))
    | none => findSourcePath? s

/-- The first source file that a log names. -/
def errorFile? (logs : String) : Option String :=
  (findSourcePath? (stripEscapes logs).toList).map String.ofList

end UiCheck.Build
