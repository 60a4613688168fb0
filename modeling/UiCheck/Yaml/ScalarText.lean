import UiCheck.Yaml.Cursor

/-! # The text of a scalar

How the three kinds of scalars are read: plain ones, quoted ones, and block scalars. Line ends inside a
plain or quoted scalar are folded: one becomes a space, and of several the first is dropped.
-/

namespace UiCheck.Yaml

/-- How a scalar was written. -/
inductive Style where
  | plain
  | singleQuoted
  | doubleQuoted
  | literal
  | folded
  deriving DecidableEq, Inhabited

/-- A tag, as the bytes that its characters and its escapes stand for. -/
structure Tag where
  octets : List UInt8
  deriving DecidableEq, Inhabited

namespace Tag

/-- The tag with a text. -/
def ofText (text : String) : Tag :=
  ⟨text.toUTF8.toList⟩

/-- A tag of one's own, which starts with an exclamation mark. -/
def isLocal (tag : Tag) : Bool :=
  tag.octets.head? == some 0x21

/-- The name of a tag of one's own: what follows the exclamation mark, or the mark itself if nothing does. Bytes
that are no text name nothing. -/
def localName? (tag : Tag) : Option String :=
  match tag.octets with
  | [0x21] => some "!"
  | 0x21 :: name => String.fromUTF8? name.toByteArray
  | _ => none

end Tag

/-- What separates two words of a scalar: blanks on one line, or line ends. -/
structure Gap where
  /-- A line end has been met. -/
  broken : Bool
  /-- The blanks, latest first, as long as no line end has been met. -/
  blanks : List Char
  /-- The first line end. -/
  first : List Char
  /-- The further line ends, latest first. -/
  more : List Char

/-- No separation at all. -/
def Gap.empty : Gap := ⟨false, [], [], []⟩

/-- The text that stands for a gap. -/
def Gap.text (gap : Gap) : List Char :=
  if gap.broken then
    if gap.first = ['\n'] then (if gap.more.isEmpty then [' '] else gap.more.reverse)
    else gap.first ++ gap.more.reverse
  else gap.blanks.reverse

/-- Reads the blanks and line ends at a place into a gap. A tabulator behind a line end and left of
column `tabLimit` is refused in a plain scalar that began at `start`. One unit of fuel for each character. -/
def readGap (tabLimit : Nat) (start : Mark) : Nat → Gap → Cursor → Except Error (Gap × Cursor)
  | 0, gap, c => .ok (gap, c)
  | fuel + 1, gap, c => do
    c.need 1
    match c.at? 0 with
    | none => return (gap, c)
    | some char =>
      if isBlank char then
        if gap.broken && c.mark.column < tabLimit && char == '\t' then
          c.fail .plainScalar start .tabViolatesIndent
        else if gap.broken then readGap tabLimit start fuel gap c.skip
        else readGap tabLimit start fuel { gap with blanks := char :: gap.blanks } c.skip
      else if isBreak char then
        let (feed, next) ← c.readBreak
        if gap.broken then readGap tabLimit start fuel { gap with more := feed.reverse ++ gap.more } next
        else
          readGap tabLimit start fuel { broken := true, blanks := [], first := feed, more := gap.more } next
      else return (gap, c)

/-- Why a word of a plain scalar ends. -/
inductive WordEnd where
  | here
  | unexpectedColon

/-- Inside a flow collection these characters separate. -/
def isFlowSeparator (c : Char) : Bool :=
  c == ',' || c == '[' || c == ']' || c == '{' || c == '}'

/-- Reads a word of a plain scalar, latest character first. -/
def plainWord (inFlow : Bool) (word : List Char) : List Char → List Char × WordEnd
  | [] => (word, .here)
  | c :: rest =>
    if isBlank c || isBreak c then (word, .here)
    else
      let next := rest.head?
      if inFlow && c == ':' && next.any (fun n => isFlowSeparator n || n == '?') then
        (word, .unexpectedColon)
      else if c == ':' && next.all (fun n => isBlank n || isBreak n) then (word, .here)
      else if inFlow && isFlowSeparator c then (word, .here)
      else plainWord inFlow (c :: word) rest

/-- What is known of a plain scalar behind some of its words. -/
structure PlainText where
  /-- The text so far, latest character first. -/
  text : List Char
  /-- The gap behind the last word. -/
  gap : Gap
  /-- The place behind the last word. -/
  stop : Mark

/-- Reads the words of a plain scalar; the words of later lines stand at `indent` or further right. -/
def readPlain (inFlow : Bool) (indent : Nat) (start : Mark) :
    Nat → PlainText → Cursor → Except Error (PlainText × Cursor)
  | 0, done, c => .ok (done, c)
  | fuel + 1, done, c => do
    c.need 4
    if c.documentMarker '-' || c.documentMarker '.' || c.has 0 '#' then return (done, c)
    else
      let (word, ending) := plainWord inFlow [] c.rest
      let next := c.advance word.length
      next.need 2
      match ending with
      | .unexpectedColon => next.fail .plainScalar start .unexpectedColon
      | .here =>
        let done :=
          if word.isEmpty then done
          else { text := word ++ (done.gap.text.reverse ++ done.text), gap := .empty, stop := next.mark }
        if next.blankAt 0 || next.breakAt 0 then
          let (gap, after) ← readGap indent start (next.size + 1) done.gap next
          let done := { done with gap }
          if ! inFlow && after.mark.column < indent then return (done, after)
          else readPlain inFlow indent start fuel done after
        else return (done, next)

/-- The number of digits of an escape by code point. -/
def escapeWidth (c : Char) : Option Nat :=
  match c with
  | 'x' => some 2
  | 'u' => some 4
  | 'U' => some 8
  | _ => none

/-- The character that a letter stands for behind a backslash. -/
def escapeLetter (c : Char) : Option Char :=
  match c with
  | '0' => some '\x00'
  | 'a' => some '\x07'
  | 'b' => some '\x08'
  | 't' => some '\t'
  | '\t' => some '\t'
  | 'n' => some '\n'
  | 'v' => some '\x0b'
  | 'f' => some '\x0c'
  | 'r' => some '\r'
  | 'e' => some '\x1b'
  | ' ' => some ' '
  | '"' => some '"'
  | '/' => some '/'
  | '\\' => some '\\'
  | 'N' => some '\u0085'
  | '_' => some '\u00a0'
  | 'L' => some '\u2028'
  | 'P' => some '\u2029'
  | _ => none

/-- The value of a hexadecimal digit. -/
def hexValue? (c : Char) : Option Nat :=
  (Number.digitValue? c).filter (· < 16)

/-- Reads the character at an escape, from its backslash on. -/
def readEscape (start : Mark) (c : Cursor) : Except Error (Char × Cursor) := do
  match c.at? 1 with
  | none => c.fail .quotedScalarBody start .unknownEscape
  | some letter =>
    match escapeLetter letter, escapeWidth letter with
    | some char, _ => return (char, c.advance 2)
    | none, none => c.fail .quotedScalarBody start .unknownEscape
    | none, some width =>
      let next := c.advance 2
      next.need width
      let digits := (next.rest.take width).filterMap hexValue?
      if digits.length < width then next.fail .quotedScalarBody start .noHexDigit
      else
        let code := digits.foldl (fun n digit => 16 * n + digit) 0
        if (0xD800 ≤ code && code ≤ 0xDFFF) || 0x10FFFF < code then
          next.fail .quotedScalarBody start .badCodePoint
        else return (Char.ofNat code, next.advance width)

/-- Reads a word of a quoted scalar up to a blank, a line end, the closing quote or an escaped line
end. The text is kept latest character first; the answer tells whether a line end was escaped. -/
def quotedWord (single : Bool) (start : Mark) :
    Nat → List Char → Cursor → Except Error (List Char × Bool × Cursor)
  | 0, text, c => .ok (text, false, c)
  | fuel + 1, text, c => do
    c.need 2
    match c.rest with
    | [] => return (text, false, c)
    | char :: rest =>
      if isBlank char || isBreak char then return (text, false, c)
      else if single then
        if char == '\'' then
          if rest.head? == some '\'' then quotedWord single start fuel ('\'' :: text) (c.advance 2)
          else return (text, false, c)
        else quotedWord single start fuel (char :: text) c.skip
      else if char == '"' then return (text, false, c)
      else if char == '\\' then
        if c.breakAt 1 then
          c.need 3
          return (text, true, c.skip.takeBreak.2)
        else
          let (decoded, next) ← readEscape start c
          quotedWord single start fuel (decoded :: text) next
      else quotedWord single start fuel (char :: text) c.skip

/-- Reads the words of a quoted scalar up to its closing quote, latest character first. -/
def readQuoted (single : Bool) (start : Mark) : Nat → List Char → Cursor → Except Error (List Char × Cursor)
  | 0, _, c => c.fail .quotedScalar start .unexpectedEnd
  | fuel + 1, text, c => do
    c.need 4
    if c.documentMarker '-' || c.documentMarker '.' then c.fail .quotedScalar start .documentIndicator
    else if c.atEnd then c.fail .quotedScalar start .unexpectedEnd
    else
      let (text, escaped, next) ← quotedWord single start (c.size + 1) text c
      next.need 1
      if next.has 0 (if single then '\'' else '"') then return (text, next.skip)
      else
        let (gap, after) ← readGap 0 start (next.size + 1) { Gap.empty with broken := escaped } next
        readQuoted single start fuel (gap.text.reverse ++ text) after

/-- How the line ends behind a block scalar are kept. -/
inductive Chomp where
  | strip
  | clip
  | keep

/-- The mark at the place that tells how to chomp. -/
def chomp? (c : Cursor) : Option Chomp :=
  if c.has 0 '+' then some .keep else if c.has 0 '-' then some .strip else none

/-- The decimal digit at the place. -/
def indentDigit? (c : Cursor) : Option Nat :=
  (c.at? 0).bind fun d => if d.isDigit then hexValue? d else none

/-- Reads the header of a block scalar: how to chomp, and how far the text is indented. -/
def blockHeader (start : Mark) (c : Cursor) : Except Error (Chomp × Nat × Cursor) := do
  c.need 1
  match chomp? c with
  | some chomp =>
    c.skip.need 1
    match indentDigit? c.skip with
    | some 0 => c.skip.fail .blockScalar start .zeroIndent
    | some n => return (chomp, n, c.skip.skip)
    | none => return (chomp, 0, c.skip)
  | none =>
    match indentDigit? c with
    | some 0 => c.fail .blockScalar start .zeroIndent
    | some n =>
      c.skip.need 1
      match chomp? c.skip with
      | some chomp => return (chomp, n, c.skip.skip)
      | none => return (.clip, n, c.skip)
    | none => return (.clip, 0, c)

/-- Reads indentation and empty lines of a block scalar. The indentation is still unknown if `indent` is
zero; `widest` is the widest indentation seen. The line ends are kept latest first. -/
def blockBreaks (start : Mark) (indent : Nat) :
    Nat → Nat → List Char → Mark → Cursor → Except Error (Nat × List Char × Mark × Cursor)
  | 0, widest, breaks, stop, c => .ok (widest, breaks, stop, c)
  | fuel + 1, widest, breaks, stop, c => do
    let spaces := (c.rest.takeWhile (· == ' ')).length
    let next := c.advance (if indent = 0 then spaces else min spaces (indent - c.mark.column))
    next.need 1
    let widest := max widest next.mark.column
    if (indent = 0 || next.mark.column < indent) && next.has 0 '\t' then
      next.fail .blockScalar start .tabIndent
    else if next.breakAt 0 then
      let (feed, after) ← next.readBreak
      blockBreaks start indent fuel widest (feed.reverse ++ breaks) after.mark after
    else return (widest, breaks, stop, next)

/-- What is known of a block scalar behind some of its lines, latest character first. -/
structure BlockText where
  text : List Char
  /-- The line end of the last line. -/
  leading : List Char
  /-- The empty lines behind it. -/
  trailing : List Char
  /-- The last line started with a blank. -/
  leadingBlank : Bool
  stop : Mark

/-- Reads the lines of a block scalar whose text stands at column `indent`. -/
def blockLines (literal : Bool) (start : Mark) (indent : Nat) :
    Nat → BlockText → Cursor → Except Error (BlockText × Cursor)
  | 0, done, c => .ok (done, c)
  | fuel + 1, done, c => do
    if c.mark.column = indent && ! c.atEnd then
      let blank := c.blankAt 0
      let joined :=
        if ! literal && done.leading == ['\n'] && ! done.leadingBlank && ! blank then
          (if done.trailing.isEmpty then [' '] else [])
        else done.leading
      let (line, next) ← c.run (! isBreak ·)
      let text := line.reverse ++ (done.trailing ++ (joined ++ done.text))
      let (feed, after) ← next.readBreak
      let (_, trailing, stop, next) ← blockBreaks start indent (after.size + 1) 0 [] after.mark after
      blockLines literal start indent fuel { text, leading := feed, trailing, leadingBlank := blank, stop } next
    else return (done, c)

/-- Reads a block scalar behind its indicator; `parent` is the indentation of the collection around
it. -/
def readBlock (literal : Bool) (parent : Int) (start : Mark) (c : Cursor) :
    Except Error (List Char × Mark × Cursor) := do
  let (chomp, increment, c) ← blockHeader start c
  c.need 1
  let c ← (← c.skipWhile isBlank).skipComment
  if ! c.lineEnds then c.fail .blockScalar start .noLineEnd
  else
    let c ← c.skipBreak
    let given := if increment = 0 then 0 else parent.toNat + increment
    let (widest, breaks, stop, next) ← blockBreaks start given (c.size + 1) 0 [] c.mark c
    let indent := if given = 0 then max (max widest (parent + 1).toNat) 1 else given
    let initial : BlockText := { text := [], leading := [], trailing := breaks, leadingBlank := false, stop }
    let (done, after) ← blockLines literal start indent (next.size + 1) initial next
    let tail := match chomp with
      | .strip => []
      | .clip => done.leading
      | .keep => done.trailing ++ done.leading
    return ((tail ++ done.text).reverse, done.stop, after)

end UiCheck.Yaml
