import UiCheck.Rehearsal.Shell.Arithmetic
import UiCheck.Rehearsal.Shell.Process

/-! # Arguments of builtin programs

Options are letters behind a dash, some of which take a value; two dashes end them. A number is a whole one
that is not negative.
-/

namespace UiCheck.Rehearsal.Shell

open UiCheck.Rehearsal.Shell.Action

/-- A builtin program gets its arguments and answers a status. -/
abbrev Builtin := List String → Action Nat

/-- Reads the options in the letters of one argument, latest first; `valued` are those with a value. Also
answers the arguments left. -/
def lettersOf (plain valued : List Char) :
    List Char → List (Char × String) → List String → Action (List (Char × String) × List String)
  | [], done, rest => return (done, rest)
  | c :: letters, done, rest => do
    if valued.contains c then
      if letters.isEmpty then
        match rest with
        | value :: rest => return ((c, value) :: done, rest)
        | [] => fail s!"No arg for -{c} option"
      else return ((c, String.ofList letters) :: done, rest)
    else if plain.contains c then lettersOf plain valued letters ((c, "") :: done) rest
    else fail s!"Illegal option -{c}"

/-- Splits arguments into options and the others, with one unit of fuel for each. -/
def optionsFrom (plain valued : List Char) :
    Nat → List (Char × String) → List String → Action (List (Char × String) × List String)
  | 0, done, arguments => return (done.reverse, arguments)
  | fuel + 1, done, arguments => do
    match arguments with
    | [] => return (done.reverse, [])
    | first :: rest =>
      match first.toList with
      | ['-', '-'] => return (done.reverse, rest)
      | '-' :: c :: letters =>
        let (done, rest) ← lettersOf plain valued (c :: letters) done rest
        optionsFrom plain valued fuel done rest
      | _ => return (done.reverse, arguments)

/-- Splits arguments into options and the others. -/
def options (plain valued : String) (arguments : List String) :
    Action (List (Char × String) × List String) :=
  optionsFrom plain.toList valued.toList (arguments.length + 1) [] arguments

/-- The number that an argument denotes. -/
def numberArgument (argument : String) : Action Nat := do
  match wholeNumber? (some 10) false argument with
  | some n => if 0 ≤ n ∧ n < Nat.pow 2 31 then return n.toNat else fail s!"Illegal number: {argument}"
  | none => fail s!"Illegal number: {argument}"

/-- A text in single quotes, but with its single quotes in double ones; with one unit of fuel for each
character. -/
def quotedFrom : Nat → List Char → List Char
  | 0, _ => []
  | fuel + 1, s =>
    let text := s.takeWhile (· != '\'')
    let quotes := (s.drop text.length).takeWhile (· == '\'')
    let rest := s.drop (text.length + quotes.length)
    let tail := if quotes.isEmpty then [] else '"' :: quotes ++ '"' :: if rest.isEmpty then [] else quotedFrom fuel rest
    '\'' :: text ++ '\'' :: tail

/-- A text in quotes, as the shell would read it. -/
def inQuotes (s : String) : String :=
  String.ofList (quotedFrom (s.length + 1) s.toList)

end UiCheck.Rehearsal.Shell
