import UiCheck.Decode.Mismatch
import UiCheck.Json.Printer
import UiCheck.Text.Utf8

/-! # Reading the parts of a document

A cursor moves through a document byte by byte and knows its place. A problem is reported at the last byte
taken, or at the byte that comes next. Every mark of the format is an ASCII character, so bytes are looked at
as characters; only the content of a string has to be a text.
-/

/-! ## Errors

Where a document is wrong and what is wrong with it there. Lines are counted from one; a column is the
number of bytes of the line up to and including the place.
-/

namespace UiCheck.Json

/-- A place in a document. -/
structure Place where
  line : Nat
  column : Nat
  deriving DecidableEq, Inhabited, Repr

/-- What is wrong at a place. -/
inductive Problem where
  | endInList
  | endInObject
  | endInString
  | endInValue
  | noColon
  | noListEnd
  | noObjectEnd
  | noIdentifier
  | noValue
  | badEscape
  | badNumber
  | numberTooLarge
  | badCodePoint
  | controlCharacter
  | keyNotText
  | loneSurrogate
  | trailingComma
  | trailingCharacters
  | endOfEscape
  | tooDeep
  | mismatch (cause : Decode.Mismatch)

/-- How mismatches are worded for JSON documents. -/
def wording : Decode.Wording :=
  { nullName := "null", floatText := fun x => String.ofList (floatText x) }

/-- The words for a problem. -/
def Problem.describe : Problem → String
  | .endInList => "EOF while parsing a list"
  | .endInObject => "EOF while parsing an object"
  | .endInString => "EOF while parsing a string"
  | .endInValue => "EOF while parsing a value"
  | .noColon => "expected `:`"
  | .noListEnd => "expected `,` or `]`"
  | .noObjectEnd => "expected `,` or `\x7d`"
  | .noIdentifier => "expected ident"
  | .noValue => "expected value"
  | .badEscape => "invalid escape"
  | .badNumber => "invalid number"
  | .numberTooLarge => "number out of range"
  | .badCodePoint => "invalid unicode code point"
  | .controlCharacter => "control character (\\u0000-\\u001F) found while parsing a string"
  | .keyNotText => "key must be a string"
  | .loneSurrogate => "lone leading surrogate in hex escape"
  | .trailingComma => "trailing comma"
  | .trailingCharacters => "trailing characters"
  | .endOfEscape => "unexpected end of hex escape"
  | .tooDeep => "recursion limit exceeded"
  | .mismatch cause => cause.message wording

/-- Why a document cannot be read. A mismatch may have no place. -/
structure Error where
  problem : Problem
  place : Option Place

/-- The message of an error. -/
def Error.message (e : Error) : String :=
  match e.place with
  | some place => s!"{e.problem.describe} at line {place.line} column {place.column}"
  | none => e.problem.describe

/-- The end of the text came too early. -/
def Error.isEnd (e : Error) : Bool :=
  match e.problem with
  | .endInList | .endInObject | .endInString | .endInValue => true
  | _ => false

end UiCheck.Json

/-! ## The cursor -/

namespace UiCheck.Json

/-- The rest of a document and the place before it. -/
structure Cursor where
  rest : List UInt8
  place : Place
  /-- How long the whole document is; what is left of it is not longer. -/
  size : Nat
  deriving Inhabited

namespace Cursor

/-- The start of a document. -/
def start (bytes : List UInt8) : Cursor :=
  { rest := bytes, place := ⟨1, 0⟩, size := bytes.length }

end Cursor

/-- The character that a byte is looked at as. -/
def charOf (b : UInt8) : Char :=
  Char.ofNat b.toNat

/-- The place behind a byte. -/
def Place.behind (place : Place) (b : UInt8) : Place :=
  if b = 10 then ⟨place.line + 1, 0⟩ else ⟨place.line, place.column + 1⟩

/-- A reader: it answers or fails, and leaves the cursor where it stopped. -/
abbrev Reader := ExceptT Error (StateM Cursor)

namespace Reader

/-- The next character, which is not taken. -/
def peek? : Reader (Option Char) :=
  return (← get).rest.head?.map charOf

/-- Takes the next byte and answers it. -/
def takeByte? : Reader (Option UInt8) := do
  match (← get).rest with
  | [] => return none
  | b :: rest =>
    modify fun cursor => { cursor with rest, place := cursor.place.behind b }
    return some b

/-- Takes the next character and answers it. -/
def take? : Reader (Option Char) :=
  return (← takeByte?).map charOf

/-- Takes the next character. -/
def skip : Reader Unit := do
  let _ ← takeByte?

/-- Fails at the last character taken. -/
def failHere {α : Type} (problem : Problem) : Reader α := do
  throw ⟨problem, some (← get).place⟩

/-- Fails at the next character. -/
def failNext {α : Type} (problem : Problem) : Reader α := do
  let cursor ← get
  throw ⟨problem, some <| match cursor.rest with
    | [] => cursor.place
    | b :: _ => cursor.place.behind b⟩

/-- Fails with a mismatch that has no place yet. -/
def refuse {α : Type} (cause : Decode.Mismatch) : Reader α :=
  throw ⟨.mismatch cause, none⟩

/-- Gives an error without a place the place of the last character taken. -/
def placed {α : Type} (reader : Reader α) : Reader α :=
  tryCatch reader fun e =>
    match e.place with
    | some _ => throw e
    | none => failHere e.problem

/-- A blank between the parts of a document. -/
def isSpace (c : Char) : Bool :=
  c == ' ' || c == '\n' || c == '\t' || c == '\r'

/-- What follows the blanks that come next, and the place before it. -/
def behindSpaces : List UInt8 → Place → List UInt8 × Place
  | [], place => ([], place)
  | b :: rest, place => if isSpace (charOf b) then behindSpaces rest (place.behind b) else (b :: rest, place)

/-- Skips blanks and answers the next character, which is not taken. -/
def next? : Reader (Option Char) := do
  modify fun cursor =>
    let (rest, place) := behindSpaces cursor.rest cursor.place
    { cursor with rest, place }
  peek?

/-- Takes the rest of a word whose first character was taken. -/
def word : List Char → Reader Unit
  | [] => pure ()
  | expected :: more => do
    match ← take? with
    | none => failHere .endInValue
    | some c => if c = expected then word more else failHere .noIdentifier

/-! ## Numbers -/

/-- A number as it is written: a whole number of at most sixty-four bits, or any other. -/
inductive Numeral where
  | int (n : Int)
  | float (x : Number.Binary64)

/-- The value of the next character as a digit, which is not taken. -/
def digit? : Reader (Option Nat) := do
  match ← peek? with
  | some c => return if c.isDigit then some (c.toNat - '0'.toNat) else none
  | none => return none

/-- Takes digits as long as there are any and answers how many, with one unit of fuel for each. -/
def digits : Nat → Nat → Reader Nat
  | 0, count => pure count
  | fuel + 1, count => do
    match ← digit? with
    | none => return count
    | some _ => do
      skip
      digits fuel (count + 1)

/-- The number of bytes of the document, which bounds the number of those that are left. -/
def size : Reader Nat :=
  return (← get).size

/-- A power of ten as a number of double precision. -/
def powerOfTen (n : Nat) : Number.Binary64 :=
  .ofRatio false (Nat.pow 10 n) 1

/-- Scales a number by a power of ten, in steps that stay within the range of double precision; one unit of
fuel for each step. None if the result is too large. -/
def scale? (x : Number.Binary64) (exponent : Int) : Nat → Option Number.Binary64
  | 0 => some x
  | fuel + 1 =>
    if exponent.natAbs ≤ 308 then
      let power := powerOfTen exponent.natAbs
      if 0 ≤ exponent then
        let scaled := x.mul power
        if scaled.isFinite then some scaled else none
      else some (x.div power)
    else if x.bits = 0 then some x
    else if 0 ≤ exponent then none
    else scale? (x.div (powerOfTen 308)) (exponent + 308) fuel

/-- The number with the other sign. -/
def negated (x : Number.Binary64) : Number.Binary64 :=
  ⟨x.bits ^^^ ((1 : UInt64) <<< 63)⟩

/-- The number of a sign, digits and a power of ten. -/
def scaled (negative : Bool) (significand : Nat) (exponent : Int) : Reader Numeral := do
  match scale? (.ofNat significand) exponent 12 with
  | none => failHere .numberTooLarge
  | some x => return .float (if negative then negated x else x)

/-- The greatest exponent of ten that is kept exactly. -/
def exponentLimit : Nat := Nat.pow 2 31 - 1

/-- Keeps an exponent within its limits. -/
def clampExponent (n : Int) : Int :=
  max (-2147483648) (min n 2147483647)

/-- Takes the further digits of an exponent, with one unit of fuel for each; none if it is too large. -/
def exponentDigits : Nat → Nat → Reader (Option Nat)
  | 0, value => pure (some value)
  | fuel + 1, value => do
    match ← digit? with
    | none => return some value
    | some d => do
      skip
      if exponentLimit < 10 * value + d then return none else exponentDigits fuel (10 * value + d)

/-- Takes an exponent, whose mark comes next. -/
def exponent (negative : Bool) (significand : Nat) (start : Int) : Reader Numeral := do
  skip
  let upward ← match ← peek? with
    | some '+' => do
      skip
      pure true
    | some '-' => do
      skip
      pure false
    | _ => pure true
  match ← take? with
  | none => failHere .endInValue
  | some c =>
    if ! c.isDigit then failHere .badNumber
    else
      match ← exponentDigits (← size) (c.toNat - '0'.toNat) with
      | some value =>
        scaled negative significand (clampExponent (if upward then start + value else start - value))
      | none =>
        if significand ≠ 0 ∧ upward then failHere .numberTooLarge
        else
          let _ ← digits (← size) 0
          return .float (Number.Binary64.assemble negative 0)

/-- Takes an exponent if one comes next. -/
def maybeExponent (negative : Bool) (significand : Nat) (start : Int) : Reader Numeral := do
  match ← peek? with
  | some 'e' | some 'E' => exponent negative significand start
  | _ => scaled negative significand start

/-- Takes the digits behind a point and answers the significand, how many digits it got, and how many were
taken at all. What does not fit into sixty-four bits is dropped. -/
def fractionDigits : Nat → Nat → Nat → Reader (Nat × Nat)
  | 0, significand, count => pure (significand, count)
  | fuel + 1, significand, count => do
    match ← digit? with
    | none => return (significand, count)
    | some d =>
      if Number.word64 ≤ 10 * significand + d then
        let _ ← digits (fuel + 1) 0
        return (significand, count)
      else
        skip
        fractionDigits fuel (10 * significand + d) (count + 1)

/-- Takes a fraction, whose point comes next. -/
def fraction (negative : Bool) (significand : Nat) (start : Int) : Reader Numeral := do
  skip
  match ← digit? with
  | none =>
    match ← peek? with
    | some _ => failNext .badNumber
    | none => failNext .endInValue
  | some _ =>
    let (significand, count) ← fractionDigits (← size) significand 0
    maybeExponent negative significand (start - count)

/-- Takes what may follow the whole digits of a number that fits into sixty-four bits. -/
def afterWhole (negative : Bool) (significand : Nat) : Reader Numeral := do
  match ← peek? with
  | some '.' => fraction negative significand 0
  | some 'e' | some 'E' => exponent negative significand 0
  | _ =>
    if ! negative then return .int significand
    else if significand = 0 ∨ Nat.pow 2 63 < significand then
      return .float (negated (.ofNat significand))
    else return .int (-(significand : Int))

/-- Takes further whole digits. What does not fit into sixty-four bits counts as a power of ten. -/
def wholeDigits (negative : Bool) : Nat → Nat → Reader Numeral
  | 0, significand => afterWhole negative significand
  | fuel + 1, significand => do
    match ← digit? with
    | none => afterWhole negative significand
    | some d =>
      if Number.word64 ≤ 10 * significand + d then
        let count ← digits (fuel + 1) 0
        match ← peek? with
        | some '.' => fraction negative significand count
        | _ => maybeExponent negative significand count
      else
        skip
        wholeDigits negative fuel (10 * significand + d)

/-- Takes a number whose sign was taken. -/
def numeral (negative : Bool) : Reader Numeral := do
  match ← take? with
  | none => failHere .endInValue
  | some '0' =>
    match ← digit? with
    | some _ => failNext .badNumber
    | none => afterWhole negative 0
  | some c =>
    if c.isDigit then wholeDigits negative (← size) (c.toNat - '0'.toNat)
    else failHere .badNumber

/-! ## Strings -/

/-- Takes the four digits of an escape. If there are fewer bytes than that, they are all taken. -/
def unit16 : Reader Nat := do
  let cursor ← get
  let digits := cursor.rest.take 4
  set { cursor with rest := cursor.rest.drop 4, place := digits.foldl Place.behind cursor.place }
  if digits.length < 4 then failHere .endInString
  else
    match Number.ofDigits? 16 (digits.map charOf) with
    | some n => return n
    | none => failHere .badEscape

/-- Takes a given character behind the first half of a pair of escapes. -/
def pairMark (mark : Char) : Reader Unit := do
  match ← take? with
  | none => failHere .endInString
  | some c => if c = mark then pure () else failHere .endOfEscape

/-- Takes an escape by code point, whose letter was taken. Beyond sixteen bits it takes two of them. -/
def codePoint : Reader Char := do
  let high ← unit16
  if 0xDC00 ≤ high ∧ high ≤ 0xDFFF then failHere .loneSurrogate
  else if high < 0xD800 ∨ 0xDBFF < high then return Char.ofNat high
  else
    pairMark '\\'
    pairMark 'u'
    let low ← unit16
    if low < 0xDC00 ∨ 0xDFFF < low then failHere .loneSurrogate
    else return Char.ofNat ((high - 0xD800) * 0x400 + (low - 0xDC00) + 0x10000)

/-- Takes the character behind a backslash and answers what both stand for. -/
def escaped : Reader Char := do
  match ← take? with
  | none => failHere .endInString
  | some '"' => return '"'
  | some '\\' => return '\\'
  | some '/' => return '/'
  | some 'b' => return '\x08'
  | some 'f' => return '\x0c'
  | some 'n' => return '\n'
  | some 'r' => return '\r'
  | some 't' => return '\t'
  | some 'u' => codePoint
  | some _ => failHere .badEscape

/-- The text that the bytes of a string stand for. If they are no text, as many bytes as do not belong to its
longest start lie between the place of the problem and the end of the string. -/
def content (bytes : List UInt8) : Reader String := do
  match String.fromUTF8? bytes.toByteArray with
  | some text => return text
  | none =>
    let place := (← get).place
    let (_, rest) := Text.decodeStart bytes.length [] bytes
    throw ⟨.badCodePoint, some { place with column := place.column - rest.length }⟩

/-- Takes the rest of a string, with the bytes so far reversed and one unit of fuel for each. -/
def stringFrom : Nat → List UInt8 → Reader String
  | 0, _ => failHere .endInString
  | fuel + 1, done => do
    match ← takeByte? with
    | none => failHere .endInString
    | some b =>
      if b = 0x22 then content done.reverse
      else if b = 0x5C then
        let c ← escaped
        stringFrom fuel ((String.utf8EncodeChar c).reverse ++ done)
      else if b < 32 then failHere .controlCharacter
      else stringFrom fuel (b :: done)

/-- Takes the rest of a string whose first quote was taken. -/
def string : Reader String := do
  stringFrom ((← size) + 1) []

end Reader

end UiCheck.Json
