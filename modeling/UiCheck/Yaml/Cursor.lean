import UiCheck.Yaml.Error

/-! # A place in the text of a document

The text still to be read, together with its mark. A line ends with a line feed, a carriage return,
both, or one of the three line separators of Unicode; the end of the text counts as neither a blank nor a
line end. Text is taken block by block, and a block with a forbidden character cannot be looked into: who
needs to see a character of it fails, even if the character is an allowed one.
-/

namespace UiCheck.Yaml

/-- The characters that a document may hold. -/
def isAllowed (c : Char) : Bool :=
  let n := c.toNat
  n == 9 || n == 10 || n == 13 || (0x20 ≤ n && n ≤ 0x7E) || n == 0x85 || (0xA0 ≤ n && n ≤ 0xD7FF) ||
    (0xE000 ≤ n && n ≤ 0xFFFD) || 0x10000 ≤ n

/-- How many bytes of a text are taken at once. -/
def blockSize : Nat := 16384

/-- Splits a text in front of the block that holds a forbidden character, and reports that character. Text is
taken in blocks, and a character that does not fit into one begins the next. Characters taken so far are
kept latest first, those of the block that begins at `start` apart. -/
def readableFrom (done block : List Char) (start offset : Nat) : List Char → List Char × Option Error
  | [] => ((block ++ done).reverse, none)
  | c :: rest =>
    let (done, block, start) :=
      if start + blockSize < offset + c.utf8Size then (block ++ done, [], offset) else (done, block, start)
    if isAllowed c then readableFrom done (c :: block) start (offset + c.utf8Size) rest
    else (done.reverse, some (.control offset))

/-- What can be read of a text, and why not more. -/
def readable (text : List Char) : List Char × Option Error :=
  readableFrom [] [] 0 0 text

/-- A space or a tabulator. -/
def isBlank (c : Char) : Bool :=
  c == ' ' || c == '\t'

/-- A character that ends a line. -/
def isBreak (c : Char) : Bool :=
  c == '\n' || c == '\r' || c.toNat == 0x85 || c.toNat == 0x2028 || c.toNat == 0x2029

/-- A character of a directive name, an anchor or a tag handle. -/
def isNameChar (c : Char) : Bool :=
  c.isAlphanum || c == '_' || c == '-'

/-- A place in the text of a document. -/
structure Cursor where
  rest : List Char
  /-- How long the whole text is; what is left of it is not longer. -/
  size : Nat
  mark : Mark
  /-- Why nothing can be read behind `rest`, unless the text ends there. -/
  barrier : Option Error
  deriving Inhabited

namespace Cursor

/-- The place before a text. -/
def ofText (text : List Char) : Cursor :=
  let (rest, barrier) := readable text
  { rest, size := rest.length, mark := Mark.start, barrier }

/-- Makes sure that so many characters can be looked at, as far as the text has them. -/
def need (c : Cursor) (count : Nat) : Except Error Unit :=
  match c.barrier with
  | none => .ok ()
  | some e => if (c.rest.drop (count - 1)).isEmpty then .error e else .ok ()

/-- The character at a distance from the place. -/
def at? (c : Cursor) (distance : Nat) : Option Char :=
  c.rest[distance]?

/-- The character at a distance is the given one. -/
def has (c : Cursor) (distance : Nat) (char : Char) : Bool :=
  c.at? distance == some char

/-- A blank stands at a distance. -/
def blankAt (c : Cursor) (distance : Nat) : Bool :=
  (c.at? distance).any isBlank

/-- A line ends at a distance. -/
def breakAt (c : Cursor) (distance : Nat) : Bool :=
  (c.at? distance).any isBreak

/-- The text is at its end. -/
def atEnd (c : Cursor) : Bool :=
  c.rest.isEmpty

/-- A line or the text ends at the place. -/
def lineEnds (c : Cursor) : Bool :=
  (c.at? 0).all isBreak

/-- A blank or a line end stands at a distance, or the text ends before it. -/
def gapAt (c : Cursor) (distance : Nat) : Bool :=
  (c.at? distance).all fun char => isBlank char || isBreak char

/-- The place behind characters of the same line, given what follows them. -/
def behind (c : Cursor) (moved rest : List Char) : Cursor :=
  let width := moved.foldl (fun sum char => sum + char.utf8Size) 0
  { c with rest, mark := { c.mark with index := c.mark.index + width, column := c.mark.column + moved.length } }

/-- Moves over characters of the same line. -/
def advance (c : Cursor) (count : Nat) : Cursor :=
  c.behind (c.rest.take count) (c.rest.drop count)

/-- Moves over one character of the same line. -/
def skip (c : Cursor) : Cursor :=
  c.advance 1

/-- The characters of a class at the place, none of which ends a line, and the place behind them. -/
def run (c : Cursor) (p : Char → Bool) : Except Error (List Char × Cursor) := do
  let moved := c.rest.takeWhile p
  let next := c.behind moved (c.rest.dropWhile p)
  next.need 1
  return (moved, next)

/-- Moves over the characters of a class; none of them ends a line. -/
def skipWhile (c : Cursor) (p : Char → Bool) : Except Error Cursor := do
  return (← c.run p).2

/-- Moves over a line end and tells which character stands for it in a scalar: a line feed, or the
line or paragraph separator itself. -/
def takeBreak (c : Cursor) : List Char × Cursor :=
  let behind (width : Nat) (rest : List Char) : Cursor :=
    { c with rest, mark := { index := c.mark.index + width, line := c.mark.line + 1, column := 0 } }
  match c.rest with
  | '\r' :: '\n' :: rest => (['\n'], behind 2 rest)
  | char :: rest =>
    if isBreak char then
      ([if char.toNat == 0x2028 || char.toNat == 0x2029 then char else '\n'], behind char.utf8Size rest)
    else ([], c)
  | [] => ([], c)

/-- Reads a line end. -/
def readBreak (c : Cursor) : Except Error (List Char × Cursor) := do
  c.need 2
  return c.takeBreak

/-- Moves over a line end, if there is one. -/
def skipBreak (c : Cursor) : Except Error Cursor := do
  if c.breakAt 0 then return (← c.readBreak).2 else return c

/-- Moves over a comment up to the end of its line. -/
def skipComment (c : Cursor) : Except Error Cursor :=
  if c.has 0 '#' then c.skipWhile (! isBreak ·) else .ok c

/-- Three equal characters at the start of a line with a gap behind them. -/
def documentMarker (c : Cursor) (char : Char) : Bool :=
  c.mark.column == 0 && c.has 0 char && c.has 1 char && c.has 2 char && c.gapAt 3

/-- A problem at the place. -/
def fail {α : Type} (c : Cursor) (activity : Activity) (origin : Mark) (problem : Problem) : Except Error α :=
  .error (.malformed problem c.mark (some (activity, origin)))

end Cursor

end UiCheck.Yaml
