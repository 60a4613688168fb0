import UiCheck.Yaml.ScalarText

/-! # Tokens

The tokens of a document, and a lexer that produces them on demand. A token may have to be put in front of
tokens that were found before it, because a colon makes a key of the scalar or collection in front of
it. So the lexer keeps the places where such a key may have begun, and hands out its first token only
when no such place can change it any more.
-/

namespace UiCheck.Yaml

/-- The kinds of tokens. -/
inductive TokenKind where
  | streamStart
  | streamEnd
  | versionDirective (major minor : Nat)
  | tagDirective (handle : List Char) (uri : List UInt8)
  | documentStart
  | documentEnd
  | blockSequenceStart
  | blockMappingStart
  | blockEnd
  | flowSequenceStart
  | flowSequenceEnd
  | flowMappingStart
  | flowMappingEnd
  | blockEntry
  | flowEntry
  | key
  | value
  | alias (name : List Char)
  | anchor (name : List Char)
  | tag (handle : List Char) (suffix : List UInt8)
  | scalar (text : List Char) (style : Style)
  deriving Inhabited, DecidableEq

/-- A token with the places where it starts and stops. -/
structure Token where
  kind : TokenKind
  start : Mark
  stop : Mark
  deriving Inhabited

/-- A place where a key may have begun. -/
structure KeyPlace where
  /-- A key may still begin here. -/
  possible : Bool
  /-- Something must turn out to be a key here. -/
  required : Bool
  /-- The number of the token that begins here, counted from the start of the document. -/
  number : Nat
  mark : Mark
  deriving Inhabited

/-- No place of a key. -/
def KeyPlace.none : KeyPlace := ⟨false, false, 0, Mark.start⟩

/-- The state of the lexer. -/
structure Lexer where
  cursor : Cursor
  /-- Tokens not yet handed out. -/
  queue : List Token
  /-- How many tokens have been handed out. -/
  taken : Nat
  started : Bool
  /-- How many flow collections are open. -/
  flowLevel : Nat
  /-- The column of the innermost block collection, and of those around it. -/
  indent : Int
  indents : List Int
  /-- A key may begin at the place. -/
  keyAllowed : Bool
  /-- The places of keys, one for each open flow collection, innermost first. -/
  keys : List KeyPlace
  deriving Inhabited

namespace Lexer

/-- The lexer before the first character of a text. -/
def ofText (text : List Char) : Lexer :=
  { cursor := .ofText text, queue := [], taken := 0, started := false, flowLevel := 0,
    indent := -1, indents := [], keyAllowed := false, keys := [] }

/-- The place of the lexer. -/
def mark (l : Lexer) : Mark := l.cursor.mark

/-- Some flow collection is open. -/
def inFlow (l : Lexer) : Bool := l.flowLevel != 0

/-- A problem at the place of the lexer, met in no particular activity. -/
def refuse {α : Type} (l : Lexer) (problem : Problem) : Except Error α :=
  .error (.malformed problem l.mark none)

/-- Adds a token at the end. -/
def push (l : Lexer) (kind : TokenKind) (start stop : Mark) : Lexer :=
  { l with queue := l.queue ++ [⟨kind, start, stop⟩] }

/-- Puts a token in front of the token of the given number. -/
def insertAt (l : Lexer) (number : Nat) (kind : TokenKind) (place : Mark) : Lexer :=
  let before := number - l.taken
  { l with queue := l.queue.take before ++ ⟨kind, place, place⟩ :: l.queue.drop before }

/-- Moves over `count` characters and adds a token for them. -/
def pushAdvance (l : Lexer) (kind : TokenKind) (count : Nat) : Lexer :=
  let next := l.cursor.advance count
  { l.push kind l.mark next.mark with cursor := next }

/-- A required key that did not come. -/
def missingKey {α : Type} (l : Lexer) (key : KeyPlace) : Except Error α :=
  l.cursor.fail .simpleKey key.mark .noColon

/-- Gives up the innermost place of a key. -/
def dropKey (l : Lexer) : Except Error Lexer :=
  match l.keys with
  | [] => .ok l
  | key :: rest =>
    if key.possible && key.required then l.missingKey key
    else .ok { l with keys := { key with possible := false } :: rest }

/-- Notes that a key may begin at the place. -/
def saveKey (l : Lexer) : Except Error Lexer := do
  if l.keyAllowed then
    let required := ! l.inFlow && l.indent == (l.mark.column : Int)
    let key : KeyPlace := { possible := true, required, number := l.taken + l.queue.length, mark := l.mark }
    let l ← l.dropKey
    return { l with keys := key :: l.keys.drop 1 }
  else return l

/-- A key must stand on one line and within 1024 bytes; gives up those that do not. -/
def dropStaleKeys (l : Lexer) : Except Error Lexer := do
  let keys ← l.keys.reverse.mapM fun key =>
    if key.possible && (key.mark.line < l.mark.line || key.mark.index + 1024 < l.mark.index) then
      if key.required then l.missingKey key else .ok { key with possible := false }
    else .ok key
  return { l with keys := keys.reverse }

/-- Opens a block collection at a column to the right of the open ones. The token goes to the end, or in
front of the token of the given number. -/
def openBlock (l : Lexer) (column : Nat) (number : Option Nat) (kind : TokenKind) (place : Mark) : Lexer :=
  if l.inFlow || (column : Int) ≤ l.indent then l
  else
    let l := { l with indents := l.indent :: l.indents, indent := column }
    match number with
    | none => l.push kind place place
    | some number => l.insertAt number kind place

/-- Closes the block collections to the right of a column, innermost first. -/
def closeBlocks (column : Int) : List Int → Lexer → Lexer
  | indents, l =>
    if l.inFlow || l.indent ≤ column then l
    else
      let l := l.push .blockEnd l.mark l.mark
      match indents with
      | [] => { l with indent := -1, indents := [] }
      | indent :: rest => closeBlocks column rest { l with indent, indents := rest }

/-- Closes the block collections to the right of a column. -/
def closeTo (l : Lexer) (column : Int) : Lexer :=
  closeBlocks column l.indents l

/-- Moves over blanks, comments and line ends. A byte order mark may start a line. A tabulator is a blank only
where no key may begin. -/
def skipToToken : Nat → Lexer → Except Error Lexer
  | 0, l => .ok l
  | fuel + 1, l => do
    let c := l.cursor
    c.need 1
    let c := if c.mark.column = 0 && c.has 0 '\ufeff' then c.skip else c
    c.need 1
    let tabs := l.inFlow || ! l.keyAllowed
    let c ← (← c.skipWhile fun char => char == ' ' || (tabs && char == '\t')).skipComment
    if c.breakAt 0 then
      skipToToken fuel { l with cursor := ← c.skipBreak, keyAllowed := l.keyAllowed || ! l.inFlow }
    else return { l with cursor := c }

/-- Reads a version number; it has at most nine digits. -/
def versionNumber (start : Mark) (c : Cursor) : Except Error (Nat × Cursor) := do
  let digits := c.rest.takeWhile Char.isDigit
  if 9 < digits.length then (c.advance 9).fail .versionDirective start .longVersion
  else
    let (digits, next) ← c.run Char.isDigit
    match Number.ofDigits? 10 digits with
    | none => c.fail .versionDirective start .noVersion
    | some n => return (n, next)

/-- Reads a tag handle: an exclamation mark, name characters, and a second exclamation mark. The second
one may be missing outside of a directive. -/
def tagHandle (directive : Bool) (start : Mark) (c : Cursor) : Except Error (List Char × Cursor) := do
  if ! c.has 0 '!' then c.fail (if directive then .directive else .tag) start .noExclamation
  else
    let (name, next) ← c.skip.run isNameChar
    if next.has 0 '!' then return ('!' :: name ++ ['!'], next.skip)
    else if directive && ! name.isEmpty then next.fail .directiveBody start .noExclamation
    else return ('!' :: name, next)

/-- A character of a tag; some stand only between angle brackets. -/
def isTagChar (verbatim : Bool) (c : Char) : Bool :=
  isNameChar c || ";/?:@&=+$.%!~*'()".toList.contains c || (verbatim && (c == ',' || c == '[' || c == ']'))

/-- The number of bytes of the character that a leading byte starts. -/
def octetWidth (octet : Nat) : Nat :=
  if octet < 0x80 then 1
  else if octet / 0x20 = 6 then 2
  else if octet / 0x10 = 14 then 3
  else if octet / 8 = 30 then 4
  else 0

/-- Reads the further bytes of an escaped character, each as a percent sign and two digits. -/
def uriOctets (activity : Activity) (start : Mark) :
    Nat → List UInt8 → Cursor → Except Error (List UInt8 × Cursor)
  | 0, octets, c => .ok (octets, c)
  | count + 1, octets, c => do
    c.need 3
    match (c.at? 1).bind hexValue?, (c.at? 2).bind hexValue? with
    | some high, some low =>
      if ! c.has 0 '%' then c.fail activity start .noEscapedOctet
      else
        let octet := 16 * high + low
        if octet / 0x40 != 2 then c.fail activity start .badTrailingOctet
        else uriOctets activity start count (octets ++ [UInt8.ofNat octet]) (c.advance 3)
    | _, _ => c.fail activity start .noEscapedOctet

/-- Reads the bytes of one escaped character of a tag. -/
def uriEscape (activity : Activity) (start : Mark) (c : Cursor) : Except Error (List UInt8 × Cursor) := do
  c.need 3
  match (c.at? 1).bind hexValue?, (c.at? 2).bind hexValue? with
  | some high, some low =>
    let octet := 16 * high + low
    let width := octetWidth octet
    if width = 0 then c.fail activity start .badLeadingOctet
    else uriOctets activity start (width - 1) [UInt8.ofNat octet] (c.advance 3)
  | _, _ => c.fail activity start .noEscapedOctet

/-- Reads the bytes of a tag, latest first. -/
def uriBytes (verbatim : Bool) (activity : Activity) (start : Mark) :
    Nat → List UInt8 → Cursor → Except Error (List UInt8 × Cursor)
  | 0, bytes, c => .ok (bytes, c)
  | fuel + 1, bytes, c => do
    c.need 1
    match c.at? 0 with
    | none => return (bytes, c)
    | some char =>
      if ! isTagChar verbatim char then return (bytes, c)
      else if char == '%' then
        let (octets, next) ← uriEscape activity start c
        uriBytes verbatim activity start fuel (octets.reverse ++ bytes) next
      else uriBytes verbatim activity start fuel (String.utf8EncodeChar char ++ bytes) c.skip

/-- Reads a tag behind `head`, the part of it that was taken for a handle. It is not empty, but `head` may be
all of it. A zero byte ends it. -/
def tagUri (verbatim directive : Bool) (head : List Char) (start : Mark) (c : Cursor) :
    Except Error (List UInt8 × Cursor) := do
  let activity := if directive then .tagDirectiveBody else .tagBody
  let (bytes, next) ← uriBytes verbatim activity start (c.size + 1) [] c
  if head.isEmpty && bytes.isEmpty then next.fail activity start .noTagUri
  else
    let whole := (head.drop 1).flatMap String.utf8EncodeChar ++ bytes.reverse
    return (whole.takeWhile (· != 0), next)

/-- Reads a directive. -/
def directive (c : Cursor) : Except Error (TokenKind × Mark × Cursor) := do
  let start := c.mark
  let (name, next) ← c.skip.run isNameChar
  if name.isEmpty then next.fail .directive start .noDirectiveName
  else if ! next.gapAt 0 then next.fail .directive start .nonAlphabetic
  else
    let (kind, c) ←
      if name == "YAML".toList then do
        let (major, c) ← versionNumber start (← next.skipWhile isBlank)
        if ! c.has 0 '.' then c.fail .versionDirective start .noVersionDot
        else
          let (minor, c) ← versionNumber start c.skip
          pure (TokenKind.versionDirective major minor, c)
      else if name == "TAG".toList then do
        let (handle, c) ← tagHandle true start (← next.skipWhile isBlank)
        c.need 1
        if ! c.blankAt 0 then c.fail .tagDirective start .noWhitespace
        else
          let (uri, c) ← tagUri true true [] start (← c.skipWhile isBlank)
          if ! c.gapAt 0 then c.fail .tagDirective start .noWhitespaceOrBreak
          else pure (TokenKind.tagDirective handle uri, c)
      else next.fail .directive start .unknownDirective
    let stop := c.mark
    let c ← (← c.skipWhile isBlank).skipComment
    if ! c.lineEnds then c.fail .directive start .noLineEnd
    else return (kind, stop, ← c.skipBreak)

/-- Reads the name of an anchor or an alias. -/
def anchorName (activity : Activity) (c : Cursor) : Except Error (List Char × Cursor) := do
  let start := c.mark
  let (name, next) ← c.skip.run isNameChar
  let ends := next.gapAt 0 ||
    (next.at? 0).any fun char => "?:,]\x7d%@".toList.contains char || char == '\x60'
  if name.isEmpty || ! ends then next.fail activity start .noAnchorName else return (name, next)

/-- Reads a tag: between angle brackets, with a handle, or plain. -/
def tag (inFlow : Bool) (c : Cursor) : Except Error (TokenKind × Cursor) := do
  let start := c.mark
  c.need 2
  let (kind, c) ←
    if c.has 1 '<' then do
      let (uri, c) ← tagUri true false [] start (c.advance 2)
      if ! c.has 0 '>' then c.fail .tag start .noTagClose else pure (TokenKind.tag [] uri, c.skip)
    else do
      let (handle, c) ← tagHandle false start c
      if 1 < handle.length && handle.getLast? == some '!' then do
        let (suffix, c) ← tagUri false false [] start c
        pure (TokenKind.tag handle suffix, c)
      else do
        let (suffix, c) ← tagUri false false handle start c
        pure (if suffix.isEmpty then TokenKind.tag [] [0x21] else TokenKind.tag ['!'] suffix, c)
  c.need 1
  if (! inFlow || ! c.has 0 ',') && ! c.gapAt 0 then c.fail .tag start .noWhitespaceOrBreak
  else return (kind, c)

/-- Starts a document, its end or a directive: all block collections close. -/
def atDocumentLevel (l : Lexer) : Except Error Lexer := do
  let l ← (l.closeTo (-1)).dropKey
  return { l with keyAllowed := false }

/-- Reads the end of the text. -/
def fetchEnd (l : Lexer) : Except Error Lexer := do
  let mark := l.mark
  let mark := if mark.column = 0 then mark else { mark with line := mark.line + 1, column := 0 }
  let l ← atDocumentLevel { l with cursor := { l.cursor with mark } }
  return l.push .streamEnd mark mark

/-- Reads a flow collection's opening bracket. -/
def fetchFlowStart (l : Lexer) (kind : TokenKind) : Except Error Lexer := do
  let l ← l.saveKey
  let l := { l with keys := KeyPlace.none :: l.keys, flowLevel := l.flowLevel + 1, keyAllowed := true }
  return l.pushAdvance kind 1

/-- Reads a flow collection's closing bracket. -/
def fetchFlowEnd (l : Lexer) (kind : TokenKind) : Except Error Lexer := do
  let l ← l.dropKey
  let l := if l.inFlow then { l with keys := l.keys.drop 1, flowLevel := l.flowLevel - 1 } else l
  return ({ l with keyAllowed := false }).pushAdvance kind 1

/-- Reads a comma between the items of a flow collection. -/
def fetchFlowEntry (l : Lexer) : Except Error Lexer := do
  let l ← l.dropKey
  return ({ l with keyAllowed := true }).pushAdvance .flowEntry 1

/-- Reads the dash of a block sequence. -/
def fetchBlockEntry (l : Lexer) : Except Error Lexer := do
  if ! l.inFlow && ! l.keyAllowed then l.refuse .entryNotAllowed
  else
    let l ← (l.openBlock l.mark.column none .blockSequenceStart l.mark).dropKey
    return ({ l with keyAllowed := true }).pushAdvance .blockEntry 1

/-- Reads the question mark of a key. -/
def fetchKey (l : Lexer) : Except Error Lexer := do
  if ! l.inFlow && ! l.keyAllowed then l.refuse .keyNotAllowed
  else
    let l ← (l.openBlock l.mark.column none .blockMappingStart l.mark).dropKey
    return ({ l with keyAllowed := ! l.inFlow }).pushAdvance .key 1

/-- Reads the colon of a value. If a key may have begun at an earlier place, it did. -/
def fetchValue (l : Lexer) : Except Error Lexer :=
  match l.keys with
  | key :: rest =>
    if key.possible then
      let l := (l.insertAt key.number .key key.mark).openBlock key.mark.column (some key.number)
        .blockMappingStart key.mark
      .ok (({ l with keys := { key with possible := false } :: rest, keyAllowed := false }).pushAdvance
        .value 1)
    else plainValue l
  | [] => plainValue l
where
  /-- Reads the colon of a value behind a question mark, or of a value without a key. -/
  plainValue (l : Lexer) : Except Error Lexer :=
    if ! l.inFlow && ! l.keyAllowed then l.refuse .valueNotAllowed
    else
      let l := l.openBlock l.mark.column none .blockMappingStart l.mark
      .ok (({ l with keyAllowed := ! l.inFlow }).pushAdvance .value 1)

/-- Reads an anchor or an alias. -/
def fetchAnchor (l : Lexer) (activity : Activity) (kind : List Char → TokenKind) : Except Error Lexer := do
  let l ← l.saveKey
  let (name, c) ← anchorName activity l.cursor
  return { l.push (kind name) l.mark c.mark with cursor := c, keyAllowed := false }

/-- Reads a tag. -/
def fetchTag (l : Lexer) : Except Error Lexer := do
  let l ← l.saveKey
  let (kind, c) ← tag l.inFlow l.cursor
  return { l.push kind l.mark c.mark with cursor := c, keyAllowed := false }

/-- Reads a block scalar. -/
def fetchBlockScalar (l : Lexer) (literal : Bool) : Except Error Lexer := do
  let l ← l.dropKey
  let (text, stop, c) ← readBlock literal l.indent l.mark l.cursor.skip
  let kind := TokenKind.scalar text (if literal then .literal else .folded)
  return { l.push kind l.mark stop with cursor := c, keyAllowed := true }

/-- Reads a quoted scalar. -/
def fetchQuoted (l : Lexer) (single : Bool) : Except Error Lexer := do
  let l ← l.saveKey
  let (text, c) ← readQuoted single l.mark (l.cursor.size + 1) [] l.cursor.skip
  let kind := TokenKind.scalar text.reverse (if single then .singleQuoted else .doubleQuoted)
  return { l.push kind l.mark c.mark with cursor := c, keyAllowed := false }

/-- Reads a plain scalar. -/
def fetchPlain (l : Lexer) : Except Error Lexer := do
  let l ← l.saveKey
  let initial : PlainText := { text := [], gap := .empty, stop := l.mark }
  let (done, c) ← readPlain l.inFlow (l.indent + 1).toNat l.mark (l.cursor.size + 1) initial l.cursor
  return { l.push (.scalar done.text.reverse .plain) l.mark done.stop with
    cursor := c, keyAllowed := done.gap.broken }

/-- A plain scalar can begin at the place. -/
def plainBegins (l : Lexer) : Bool :=
  let c := l.cursor
  let special := c.gapAt 0 ||
    (c.at? 0).any fun char => "-?:,[]\x7b\x7d#&*!|>'\"%@".toList.contains char || char == '\x60'
  ! special || (c.has 0 '-' && ! c.blankAt 1) ||
    (! l.inFlow && (c.has 0 '?' || c.has 0 ':') && ! c.gapAt 1)

/-- Reads one token, and with it the tokens that it implies. -/
def fetchNext (l : Lexer) : Except Error Lexer := do
  l.cursor.need 1
  if ! l.started then
    return { l.push .streamStart l.mark l.mark with started := true, keyAllowed := true, keys := [KeyPlace.none] }
  let l ← (← skipToToken (l.cursor.size + 1) l).dropStaleKeys
  let l := l.closeTo l.mark.column
  let c := l.cursor
  c.need 4
  let separate := l.inFlow || c.gapAt 1
  match c.at? 0 with
  | none => l.fetchEnd
  | some char =>
    if c.mark.column = 0 && char == '%' then
      let l ← l.atDocumentLevel
      let (kind, stop, next) ← directive l.cursor
      return { l.push kind l.mark stop with cursor := next }
    else if c.documentMarker '-' then return (← l.atDocumentLevel).pushAdvance .documentStart 3
    else if c.documentMarker '.' then return (← l.atDocumentLevel).pushAdvance .documentEnd 3
    else if char == '[' then l.fetchFlowStart .flowSequenceStart
    else if char == '{' then l.fetchFlowStart .flowMappingStart
    else if char == ']' then l.fetchFlowEnd .flowSequenceEnd
    else if char == '}' then l.fetchFlowEnd .flowMappingEnd
    else if char == ',' then l.fetchFlowEntry
    else if char == '-' && c.gapAt 1 then l.fetchBlockEntry
    else if char == '?' && separate then l.fetchKey
    else if char == ':' && separate then l.fetchValue
    else if char == '*' then l.fetchAnchor .alias .alias
    else if char == '&' then l.fetchAnchor .anchor .anchor
    else if char == '!' then l.fetchTag
    else if char == '|' && ! l.inFlow then l.fetchBlockScalar true
    else if char == '>' && ! l.inFlow then l.fetchBlockScalar false
    else if char == '\'' then l.fetchQuoted true
    else if char == '"' then l.fetchQuoted false
    else if l.plainBegins then l.fetchPlain
    else c.fail .nextToken l.mark .badStart

/-- Reads tokens until the first one is sure to be the first: no place of a key could still put a token in
front of it. -/
def fill : Nat → Lexer → Except Error Lexer
  | 0, l => .ok l
  | fuel + 1, l => do
    if l.queue.isEmpty then fill fuel (← l.fetchNext)
    else
      let l ← l.dropStaleKeys
      if l.keys.any fun key => key.possible && key.number == l.taken then fill fuel (← l.fetchNext)
      else return l

/-- The first token that has not been taken yet. -/
def peek (l : Lexer) : Except Error (Token × Lexer) := do
  let l ← l.fill (2 * l.cursor.size + 8)
  return (l.queue.headD default, l)

/-- Takes the first token. -/
def take (l : Lexer) : Lexer :=
  { l with queue := l.queue.drop 1, taken := l.taken + 1 }

end Lexer

end UiCheck.Yaml
