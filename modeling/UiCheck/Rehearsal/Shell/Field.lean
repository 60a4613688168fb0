import UiCheck.Rehearsal.Shell.Pattern
import UiCheck.Rehearsal.Shell.Process

/-! # Fields

What a word gives is a row of marked characters. Those that came from an expansion outside quotes may separate
fields: a separator that is a blank separates together with its neighbours, any other one by itself. Characters
in quotes never separate, and are no part of a pattern.
-/

namespace UiCheck.Rehearsal.Shell

/-- A marked character, or a mark without one. -/
inductive Mark where
  /-- A character of the word as it stands. -/
  | plain (c : Char)
  | quoted (c : Char)
  /-- A character of an expansion outside quotes. -/
  | expanded (c : Char)
  /-- A place that makes a field even if nothing else does. -/
  | nothing
  /-- The end of an argument in a row of arguments in quotes. -/
  | gap
  /-- The end of an argument in a row of arguments outside quotes. -/
  | softGap
  deriving DecidableEq, Inhabited, Repr

/-- The marks of a text. -/
def marksOf (quoted : Bool) (s : String) : List Mark :=
  s.toList.map fun c => if quoted then .quoted c else .expanded c

/-- The character of a mark. -/
def Mark.char? : Mark → Option Char
  | .plain c | .quoted c | .expanded c => some c
  | .nothing => none
  | .gap | .softGap => some ' '

/-- The characters of marks. -/
def textOfMarks (marks : List Mark) : String :=
  String.ofList (marks.filterMap Mark.char?)

/-- The characters of marks as those of a pattern. -/
def patternChars (marks : List Mark) : List PatternChar :=
  marks.filterMap fun mark =>
    match mark with
    | .plain c | .expanded c => some ⟨c, false⟩
    | .quoted c => some ⟨c, true⟩
    | _ => none

/-- A separator that does not count more than once. -/
def isBlankSeparator (c : Char) : Bool :=
  c == ' ' || c == '\t' || c == '\n'

/-- What is known while a row of marks is split. -/
structure Splitting where
  /-- The fields so far, latest first. -/
  fields : List (List Mark) := []
  /-- The field in progress, in reverse order. -/
  current : List Mark := []
  /-- Blanks have just ended a field. -/
  afterBlank : Bool := false
  /-- The number of fields that may still be started, if it is limited. -/
  left : Option Nat := none
  /-- The last field as it is without separators at its end. -/
  cut : Option (List Mark) := none
  deriving Inhabited

/-- The field in progress ends. -/
def Splitting.endField (known : Splitting) : Splitting :=
  { known with fields := known.current.reverse :: known.fields, current := [] }

/-- A separator is met, which is a blank or not. -/
def Splitting.separate (known : Splitting) (mark : Mark) (blank : Bool) : Splitting :=
  if known.afterBlank then { known with current := [], afterBlank := blank }
  else if known.current.isEmpty && blank then known
  else
    match known.left with
    | some 1 =>
      { known with left := some 0, cut := some known.current, current := mark :: known.current, afterBlank := blank }
    | left => { known.endField with left := left.map (· - 1), afterBlank := blank }

/-- The mark is one of the characters that separate, or a place where fields part. -/
def Mark.separates (separators : List Char) : Mark → Bool
  | .expanded c => separators.contains c
  | .softGap => true
  | _ => false

/-- A mark is met behind the last field that may be started. -/
def Splitting.extend (known : Splitting) (mark : Mark) (separator blank : Bool) : Splitting :=
  if blank then { known with cut := known.cut <|> some known.current, current := mark :: known.current }
  else
    { known with
      cut := if separator && known.afterBlank then known.cut else none
      current := mark :: known.current, afterBlank := false }

/-- A mark is met where more fields may be started. -/
def Splitting.add (known : Splitting) (mark : Mark) (separator blank : Bool) : Splitting :=
  if mark = .gap then { known.endField with afterBlank := false }
  else if separator then known.separate mark blank
  else if known.afterBlank then { known with current := [mark], afterBlank := false }
  else { known with current := mark :: known.current }

/-- A mark is met; `separators` are the characters that may separate. -/
def Splitting.meet (separators : List Char) (known : Splitting) (mark : Mark) : Splitting :=
  let separator := mark.separates separators
  let blank := separator && (mark.char?).any isBlankSeparator
  if known.left = some 0 then known.extend mark separator blank else known.add mark separator blank

/-- The fields of a row of marks, at most so many if there is a limit. -/
def splitFields (separators : List Char) (limit : Option Nat) (marks : List Mark) : List (List Mark) :=
  let known := marks.foldl (Splitting.meet separators) { left := limit }
  let last := known.cut.getD known.current
  ((if last.isEmpty then [] else [last.reverse]) ++ known.fields).reverse

end UiCheck.Rehearsal.Shell
