import UiCheck.Json.Basic
import UiCheck.Text.Blank
import UiCheck.Text.Search
import UiCheck.Text.Word

/-! # The shape of a plan document

A document is looked at line by line, without being read as a plan: which keys of an older format stand at the
start of a line, whether both top sections are named, and where its settings are.
-/

namespace UiCheck.Guard

/-- The keys of the older format. -/
def legacyKeys : List String := ["actions", "assert_visible", "assert_text", "selector"]

/-- A character that can stand inside a key. -/
def isKeyChar (c : Char) : Bool :=
  Text.isWordChar c || c == '-'

/-- The rest of a line behind a dash and blanks, or the line itself. -/
def afterDash (line : List Char) : List Char :=
  match line with
  | '-' :: c :: rest => if Text.isBlank c then Text.trimStart rest else line
  | _ => line

/-- The key at the start of a line: a Latin letter or an underscore, word characters and dashes, and a colon
behind possible blanks. -/
def lineKey? (line : List Char) : Option (List Char) :=
  match afterDash (Text.trimStart line) with
  | c :: rest =>
    if c.isAlpha || c == '_' then
      match Text.trimStart (rest.dropWhile isKeyChar) with
      | ':' :: _ => some (c :: rest.takeWhile isKeyChar)
      | _ => none
    else none
  | [] => none

/-- Adds a key that is not there yet. -/
def addNew (keys : List String) (key : String) : List String :=
  if keys.contains key then keys else keys ++ [key]

/-- The legacy key at the start of a line. -/
def legacyKey? (line : List Char) : Option String :=
  match lineKey? line with
  | some key => legacyKeys.find? (·.toList == key)
  | none => none

/-- Some line starts, behind blanks, with a section name and a colon. -/
def hasSection (name : String) (lines : List (List Char)) : Bool :=
  lines.any fun line => Text.startsWith (name ++ ":").toList (Text.trimStart line)

/-- What is known about the shape of a document. -/
structure StructureReport where
  /-- The legacy keys, in the order in which they first occur. -/
  invalidKeys : List String
  hasRequiredSections : Bool
  lineCount : Nat
  deriving DecidableEq, Inhabited, Repr

namespace StructureReport

/-- No legacy key occurs. -/
def isValid (report : StructureReport) : Bool :=
  report.invalidKeys.isEmpty

/-- The document can stand as it is. -/
def isSound (report : StructureReport) : Bool :=
  report.isValid && report.hasRequiredSections

/-- The members of a report in their order. -/
def toJson (report : StructureReport) : Json :=
  .object [("isValid", .bool report.isValid), ("invalidKeys", .texts report.invalidKeys),
    ("hasRequiredSections", .bool report.hasRequiredSections), ("lineCount", .nat report.lineCount)]

end StructureReport

/-- Looks at the shape of a document. -/
def checkStructure (text : String) : StructureReport :=
  let lines := Text.lines text.toList
  { invalidKeys := (lines.filterMap legacyKey?).foldl addNew []
    hasRequiredSections := hasSection "meta" lines && hasSection "scenarios" lines
    lineCount := lines.length }

/-! ## The settings of a document

The block of settings of a document runs from the first line that starts with its key to the next line that
starts with a key of the top level. It can be carried from one document into another.
-/

/-- The line starts the settings. -/
def opensSettings (line : List Char) : Bool :=
  Text.startsWith "meta:".toList line

/-- The line starts with a word and a colon. -/
def isTopLevel (line : List Char) : Bool :=
  match line.dropWhile Text.isWordChar with
  | ':' :: _ => ! (line.takeWhile Text.isWordChar).isEmpty
  | _ => false

/-- A document around its settings. -/
structure Settings where
  before : List Char
  block : List Char
  after : List Char
  deriving DecidableEq, Inhabited, Repr

/-- The settings of a document given by its raw lines. -/
def settingsOf? (lines : List (List Char)) : Option Settings :=
  match lines.dropWhile (! opensSettings ·) with
  | [] => none
  | first :: rest =>
    some {
      before := (lines.takeWhile (! opensSettings ·)).flatten
      block := first ++ (rest.takeWhile (! isTopLevel ·)).flatten
      after := (rest.dropWhile (! isTopLevel ·)).flatten }

/-- The settings of a document. -/
def findSettings? (text : String) : Option Settings :=
  settingsOf? (Text.rawLines text.toList)

/-- A text with a line feed at its end. -/
def endLine (s : List Char) : List Char :=
  if s.getLast? = some '\n' then s else s ++ ['\n']

/-- Carries the settings of the current document into an updated one, unless that names a base address of
its own. -/
def preserveSettings (current updated : String) : String :=
  if Text.occursIn "baseUrl:" updated then updated
  else
    match findSettings? current with
    | none => updated
    | some settings =>
      let block := endLine settings.block
      match findSettings? updated with
      | some own => String.ofList (own.before ++ block ++ own.after)
      | none => String.ofList (block ++ updated.toList)

end UiCheck.Guard
