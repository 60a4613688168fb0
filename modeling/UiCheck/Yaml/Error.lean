import UiCheck.Decode.Mismatch

/-! # Errors of YAML documents

Where a document is wrong, what is wrong with it there, and the text that reports it. Lines and columns
are counted from zero and shown from one; a position at the very start of a document is not shown.
-/

namespace UiCheck.Yaml

/-- A place in a document. -/
structure Mark where
  /-- How many bytes stand before the place. -/
  index : Nat
  line : Nat
  column : Nat
  deriving DecidableEq, Inhabited, Repr

/-- The place before the first character. -/
def Mark.start : Mark := ⟨0, 0, 0⟩

/-- The very beginning of the first line. -/
def Mark.isOrigin (mark : Mark) : Bool :=
  mark.line == 0 && mark.column == 0

/-- A place as a reader of the message counts it. -/
def Mark.describe (mark : Mark) : String :=
  s!"line {mark.line + 1} column {mark.column + 1}"

/-- What was being read when a problem was met. -/
inductive Activity where
  | nextToken
  | simpleKey
  | directive
  | versionDirective
  | tagDirective
  | directiveBody
  | tagDirectiveBody
  | anchor
  | alias
  | tag
  | tagBody
  | blockScalar
  | quotedScalar
  | quotedScalarBody
  | plainScalar
  | node
  | blockNode
  | flowNode
  | blockCollection
  | blockMapping
  | flowSequence
  | flowMapping

/-- The words for an activity. -/
def Activity.describe : Activity → String
  | .nextToken => "while scanning for the next token"
  | .simpleKey => "while scanning a simple key"
  | .directive => "while scanning a directive"
  | .versionDirective => "while scanning a %YAML directive"
  | .tagDirective => "while scanning a %TAG directive"
  | .directiveBody => "while parsing a directive"
  | .tagDirectiveBody => "while parsing a %TAG directive"
  | .anchor => "while scanning an anchor"
  | .alias => "while scanning an alias"
  | .tag => "while scanning a tag"
  | .tagBody => "while parsing a tag"
  | .blockScalar => "while scanning a block scalar"
  | .quotedScalar => "while scanning a quoted scalar"
  | .quotedScalarBody => "while parsing a quoted scalar"
  | .plainScalar => "while scanning a plain scalar"
  | .node => "while parsing a node"
  | .blockNode => "while parsing a block node"
  | .flowNode => "while parsing a flow node"
  | .blockCollection => "while parsing a block collection"
  | .blockMapping => "while parsing a block mapping"
  | .flowSequence => "while parsing a flow sequence"
  | .flowMapping => "while parsing a flow mapping"

/-- What is wrong at a place of a document. -/
inductive Problem where
  | badStart
  | noColon
  | entryNotAllowed
  | keyNotAllowed
  | valueNotAllowed
  | noDirectiveName
  | nonAlphabetic
  | unknownDirective
  | noLineEnd
  | noVersionDot
  | longVersion
  | noVersion
  | noWhitespace
  | noWhitespaceOrBreak
  | noAnchorName
  | noTagClose
  | noExclamation
  | noTagUri
  | noEscapedOctet
  | badLeadingOctet
  | badTrailingOctet
  | zeroIndent
  | tabIndent
  | documentIndicator
  | unexpectedEnd
  | unknownEscape
  | noHexDigit
  | badCodePoint
  | unexpectedColon
  | tabViolatesIndent
  | noStreamStart
  | noDocumentStart
  | duplicateVersion
  | incompatible
  | duplicateTag
  | undefinedHandle
  | noNode
  | noDash
  | noKey
  | noSequenceEnd
  | noMappingEnd

/-- The words for a problem. -/
def Problem.describe : Problem → String
  | .badStart => "found character that cannot start any token"
  | .noColon => "could not find expected ':'"
  | .entryNotAllowed => "block sequence entries are not allowed in this context"
  | .keyNotAllowed => "mapping keys are not allowed in this context"
  | .valueNotAllowed => "mapping values are not allowed in this context"
  | .noDirectiveName => "could not find expected directive name"
  | .nonAlphabetic => "found unexpected non-alphabetical character"
  | .unknownDirective => "found unknown directive name"
  | .noLineEnd => "did not find expected comment or line break"
  | .noVersionDot => "did not find expected digit or '.' character"
  | .longVersion => "found extremely long version number"
  | .noVersion => "did not find expected version number"
  | .noWhitespace => "did not find expected whitespace"
  | .noWhitespaceOrBreak => "did not find expected whitespace or line break"
  | .noAnchorName => "did not find expected alphabetic or numeric character"
  | .noTagClose => "did not find the expected '>'"
  | .noExclamation => "did not find expected '!'"
  | .noTagUri => "did not find expected tag URI"
  | .noEscapedOctet => "did not find URI escaped octet"
  | .badLeadingOctet => "found an incorrect leading UTF-8 octet"
  | .badTrailingOctet => "found an incorrect trailing UTF-8 octet"
  | .zeroIndent => "found an indentation indicator equal to 0"
  | .tabIndent => "found a tab character where an indentation space is expected"
  | .documentIndicator => "found unexpected document indicator"
  | .unexpectedEnd => "found unexpected end of stream"
  | .unknownEscape => "found unknown escape character"
  | .noHexDigit => "did not find expected hexadecimal number"
  | .badCodePoint => "found invalid Unicode character escape code"
  | .unexpectedColon => "found unexpected ':'"
  | .tabViolatesIndent => "found a tab character that violates indentation"
  | .noStreamStart => "did not find expected <stream-start>"
  | .noDocumentStart => "did not find expected <document start>"
  | .duplicateVersion => "found duplicate %YAML directive"
  | .incompatible => "found incompatible YAML document"
  | .duplicateTag => "found duplicate %TAG directive"
  | .undefinedHandle => "found undefined tag handle"
  | .noNode => "did not find expected node content"
  | .noDash => "did not find expected '-' indicator"
  | .noKey => "did not find expected key"
  | .noSequenceEnd => "did not find expected ',' or ']'"
  | .noMappingEnd => "did not find expected ',' or '\x7d'"

/-- Why a document cannot be read. -/
inductive Error where
  /-- A character that no document may hold, at an offset in bytes. -/
  | control (offset : Nat)
  /-- The text is malformed at a place; the activity began at another. -/
  | malformed (problem : Problem) (place : Mark) (activity : Option (Activity × Mark))
  /-- An alias names no anchor. -/
  | unknownAnchor (place : Mark)
  /-- Collections are nested too deeply. -/
  | tooDeep (place : Mark)
  /-- Aliases repeat too much. -/
  | tooManyRepetitions
  /-- The text ends before the value does. -/
  | endOfStream
  /-- A second document follows. -/
  | secondDocument
  /-- The document is well formed but does not hold what was asked for. -/
  | mismatch (cause : Decode.Mismatch) (place : Mark) (path : String)

/-- Floating point numbers stand with their point in place, however large. -/
def floatText (x : Number.Binary64) : String :=
  match x.denotation with
  | .finite negative mantissa exponent =>
    let layout : Number.Layout := { lowest := -400, highest := 400, plus := false }
    String.ofList (layout.write negative mantissa exponent)
  | .infinite true => "-inf.0"
  | .infinite false => "inf.0"
  | .notANumber => "NaN.0"

/-- How mismatches are worded for YAML documents. -/
def wording : Decode.Wording :=
  { nullName := "unit value", floatText }

/-- A place behind a message; the origin is left out. -/
def atMark (mark : Mark) : String :=
  if mark.isOrigin then "" else s!" at {mark.describe}"

/-- The message of an error. -/
def Error.message : Error → String
  | .control offset =>
    "control characters are not allowed" ++ (if offset = 0 then "" else s!" at position {offset}")
  | .malformed problem place activity =>
    let behind := match activity with
      | none => ""
      | some (activity, origin) =>
        let sameSpot := origin.line == place.line && origin.column == place.column
        s!", {activity.describe}" ++ (if sameSpot then "" else atMark origin)
    problem.describe ++ atMark place ++ behind
  | .unknownAnchor place => "unknown anchor" ++ atMark place
  | .tooDeep place => "recursion limit exceeded" ++ atMark place
  | .tooManyRepetitions => "repetition limit exceeded"
  | .endOfStream => "EOF while parsing a value"
  | .secondDocument =>
    "deserializing from YAML containing more than one document is not supported"
  | .mismatch cause place path =>
    (if path == "." then "" else s!"{path}: ") ++ cause.message wording ++ atMark place

end UiCheck.Yaml
