/-! # Searching and splitting

Occurrences of one text in another. The first occurrence is the one that starts earliest; the last
one is the one that starts latest.
-/

namespace UiCheck.Text

/-- What follows `pat` in a text that starts with it. -/
def after? : List Char → List Char → Option (List Char)
  | [], s => some s
  | _ :: _, [] => none
  | p :: pat, c :: s => if p = c then after? pat s else none

/-- The text starts with `pat`. -/
def startsWith (pat s : List Char) : Bool :=
  (after? pat s).isSome

/-- What precedes `pat` in a text that ends with it. -/
def before? (pat s : List Char) : Option (List Char) :=
  (after? pat.reverse s.reverse).map List.reverse

/-- The text ends with `pat`. -/
def endsWith (pat s : List Char) : Bool :=
  (before? pat s).isSome

/-- Searches a text for the first place at which `behind?` tells what follows, with the characters already passed, latest
first. -/
def cutWhere (behind? : List Char → Option (List Char)) (passed s : List Char) : Option (List Char × List Char) :=
  match behind? s with
  | some rest => some (passed.reverse, rest)
  | none =>
    match s with
    | [] => none
    | c :: rest => cutWhere behind? (c :: passed) rest

/-- What precedes and what follows the first occurrence of `pat`. -/
def cut? (pat s : List Char) : Option (List Char × List Char) :=
  cutWhere (after? pat) [] s

/-- What precedes and what follows the last occurrence of `pat`. -/
def cutLast? (pat s : List Char) : Option (List Char × List Char) :=
  (cut? pat.reverse s.reverse).map fun (behind, ahead) => (ahead.reverse, behind.reverse)

/-- `pat` occurs in the text. -/
def contains (pat s : List Char) : Bool :=
  (cut? pat s).isSome

/-- Replaces the occurrences of a non-empty `pat` from left to right, with the output so far reversed
and one unit of fuel for each character. -/
def replaceFrom (pat new : List Char) : Nat → List Char → List Char → List Char
  | 0, done, s => done.reverse ++ s
  | fuel + 1, done, s =>
    match after? pat s with
    | some rest => replaceFrom pat new fuel (new.reverse ++ done) rest
    | none =>
      match s with
      | [] => done.reverse
      | c :: rest => replaceFrom pat new fuel (c :: done) rest

/-- Replaces every occurrence of `pat`, from left to right and without overlap. An empty `pat` is
replaced nowhere. -/
def replaceAll (pat new s : List Char) : List Char :=
  if pat.isEmpty then s else replaceFrom pat new s.length [] s

/-- The text `pat` is part of `s`. -/
def occursIn (pat s : String) : Bool :=
  contains pat.toList s.toList

/-! ## Lines

A raw line runs up to and including its line feed; only the last one may lack it. A line is a raw line
without its end, which is a line feed or a carriage return followed by a line feed.
-/

/-- The first raw line and what follows it. -/
def cutLine (s : List Char) : List Char × List Char :=
  match s.span (· != '\n') with
  | (line, feed :: rest) => (line ++ [feed], rest)
  | (line, []) => (line, [])

/-- The raw lines, with the latest first in `done` and one unit of fuel for each character. -/
def rawLinesFrom : Nat → List (List Char) → List Char → List (List Char)
  | 0, done, _ => done.reverse
  | _ + 1, done, [] => done.reverse
  | fuel + 1, done, c :: s =>
    let (line, rest) := cutLine (c :: s)
    rawLinesFrom fuel (line :: done) rest

/-- The raw lines of a text; together they are the text. -/
def rawLines (s : List Char) : List (List Char) :=
  rawLinesFrom s.length [] s

/-- A raw line without its end. A carriage return counts as part of the end only before a line
feed. -/
def withoutLineEnd (line : List Char) : List Char :=
  match line.reverse with
  | '\n' :: '\r' :: body => body.reverse
  | '\n' :: body => body.reverse
  | _ => line

/-- The lines of a text without their ends. -/
def lines (s : List Char) : List (List Char) :=
  (rawLines s).map withoutLineEnd

end UiCheck.Text
