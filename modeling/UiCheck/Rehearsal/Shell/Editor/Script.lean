import UiCheck.Rehearsal.Shell.Regex.Basic

/-! # Scripts of the line editor

A script is a list of steps that are taken for each line. Steps stand in one row: a block is a step that leads
behind its end where it is not taken, and a jump leads to the place of a label.
-/

namespace UiCheck.Rehearsal.Shell.Editor

open Shell

/-- A pattern for lines; without an expression it is the one that was used last. -/
structure LinePattern where
  regex : Option Regex
  ignoreCase : Bool := false
  /-- The edges are those of the lines within the text. -/
  byLine : Bool := false
  deriving DecidableEq, Inhabited, Repr

/-- Which lines a place means. -/
inductive Place where
  | line (n : Nat)
  | last
  | fits (pattern : LinePattern)
  | every (first step : Nat)
  deriving DecidableEq, Inhabited, Repr

/-- Where a range of lines ends. -/
inductive RangeEnd where
  | at (place : Place)
  /-- So many lines later. -/
  | later (count : Nat)
  /-- At the next multiple of a number. -/
  | multiple (n : Nat)
  deriving DecidableEq, Inhabited, Repr

/-- The lines that a step is for. -/
inductive Address where
  | all
  | one (place : Place)
  | range (first : Place) (last : RangeEnd)
  deriving DecidableEq, Inhabited, Repr

/-- What happens to the case of letters. -/
inductive LetterCase where
  | kept
  | upper
  | lower
  deriving DecidableEq, Inhabited, Repr

/-- A part of a replacement: a text, and what a group holds behind it. -/
structure ReplacementPart where
  text : List Char
  group : Option Nat := none
  letters : LetterCase := .kept
  /-- What happens to the first letter alone. -/
  first : LetterCase := .kept
  deriving DecidableEq, Inhabited, Repr

/-- What is written instead of parts of a line. -/
structure Substitution where
  pattern : LinePattern
  replacement : List ReplacementPart
  everywhere : Bool := false
  /-- The first part that is replaced. -/
  number : Nat := 1
  prints : Bool := false
  file : Option String := none
  deriving DecidableEq, Inhabited, Repr

/-- When a jump is taken. -/
inductive JumpKind where
  | always
  | ifReplaced
  | ifNotReplaced
  deriving DecidableEq, Inhabited, Repr

/-- What a step does. -/
inductive Action where
  /-- Starts a block, which ends right before a place. -/
  | block (finish : Nat)
  | nothing
  | addText (text : String)
  | insertText (text : String)
  | changeText (text : String)
  | jump (kind : JumpKind) (target : Nat)
  | delete
  | deleteLine
  | print
  | printLine
  | next
  | appendNext
  | toHold
  | addToHold
  | fromHold
  | addFromHold
  | exchange
  | lineNumber
  | fileName
  | showPlainly (width : Option Nat)
  | quit (status : Nat)
  | quitSilently (status : Nat)
  | readFile (path : String)
  | readLine (path : String)
  | writeFile (path : String)
  | writeLine (path : String)
  | substitute (s : Substitution)
  | exchangeChars (pairs : List (Char × Char))
  | clear
  deriving DecidableEq, Inhabited, Repr

/-- A step of a script. -/
structure Step where
  address : Address := .all
  /-- The step is for the other lines. -/
  inverted : Bool := false
  action : Action
  deriving DecidableEq, Inhabited, Repr

/-- A script. -/
abbrev Script := Array Step

/-- The files that a script writes to. -/
def files (script : Script) : List String :=
  script.toList.filterMap fun step =>
    match step.action with
    | .writeFile path | .writeLine path => some path
    | .substitute s => s.file
    | _ => none

end UiCheck.Rehearsal.Shell.Editor
