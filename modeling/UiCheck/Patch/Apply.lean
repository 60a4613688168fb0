import UiCheck.Files.Disk
import UiCheck.Files.Path
import UiCheck.Text.Blank
import UiCheck.Text.Search

/-! # Patches

Updates are written one after the other below the root of the project; one whose path leaves the root is
skipped. The first write that fails ends the patch, and the files written before stay written.
-/

/-! ## Blocks

A patch is a text made of blocks. A block is a header line that names a file, and the content of the file up
to the next marker. What stands in front of the first block is prose and is ignored.
-/

namespace UiCheck

/-- The new content of one file. -/
structure FileUpdate where
  path : String
  content : String
  deriving DecidableEq, Inhabited, Repr

namespace Patch

/-- What starts a header; a block ends where the next one stands. -/
def marker : List Char := "--- FILE:".toList

/-- What stands behind the path in a header. -/
def closer : List Char := " ---".toList

/-- A line without the line feed that must end it, and possibly a carriage return before that, with what
follows the line. -/
def fullLine? (s : List Char) : Option (List Char × List Char) :=
  match s.span (· != '\n') with
  | (_, []) => none
  | (line, _ :: rest) =>
    match line.reverse with
    | '\r' :: body => some (body.reverse, rest)
    | _ => some (line, rest)

/-- The path and the rest of a text that starts with a header. -/
def header? (s : List Char) : Option (List Char × List Char) :=
  match Text.after? (marker ++ [' ']) s with
  | none => none
  | some s =>
    match fullLine? s with
    | none => none
    | some (line, rest) => (Text.before? closer line).map fun path => (path, rest)

/-- The path of the first header and what follows it. -/
def findHeader? : List Char → Option (List Char × List Char)
  | [] => none
  | c :: s =>
    match header? (c :: s) with
    | some found => some found
    | none => findHeader? s

/-- The content at the start of a text, and the text from the next marker on. -/
def cutBody (s : List Char) : List Char × List Char :=
  match Text.cut? marker s with
  | some (body, rest) => (body, marker ++ rest)
  | none => (s, [])

/-- The blocks of a text, with the latest first in `done` and one unit of fuel for each block. -/
def blocksFrom : Nat → List FileUpdate → List Char → List FileUpdate
  | 0, done, _ => done.reverse
  | fuel + 1, done, s =>
    match findHeader? s with
    | none => done.reverse
    | some (path, rest) =>
      let (body, rest) := cutBody rest
      blocksFrom fuel (⟨String.ofList (Text.trim path), String.ofList (Text.trim body)⟩ :: done) rest

/-- The blocks of a text. -/
def blocks (text : String) : List FileUpdate :=
  blocksFrom text.length [] text.toList

/-- The updates that a text holds. A text without blocks is an error unless it is blank. -/
def parse? (text : String) : Option (List FileUpdate) :=
  match blocks text with
  | [] => if Text.allBlank text.toList then some [] else none
  | updates => some updates

/-- The block of an update. -/
def renderBlock (update : FileUpdate) : String :=
  "--- FILE: " ++ update.path ++ " ---\n" ++ update.content ++ "\n"

/-- The text that holds the given updates. -/
def render (updates : List FileUpdate) : String :=
  String.join (updates.map renderBlock)

end Patch

end UiCheck

/-! ## Paths inside a project

A path that a reply names is accepted only if it stays strictly below the root of the project at every
step. Only the text of the path counts; links are not looked at.
-/

namespace UiCheck.Patch

open Files

/-- How deep below the root the parts of a path lead, starting from a depth; none if they leave the root or
start elsewhere. -/
def depth? (depth : Nat) : List Part → Option Nat
  | [] => some depth
  | .name _ :: rest => depth? (depth + 1) rest
  | .here :: rest => depth? depth rest
  | .up :: rest =>
    match depth with
    | 0 => none
    | depth + 1 => depth? depth rest
  | .root :: _ => none

/-- The path stays strictly below the root. -/
def staysInside (path : String) : Bool :=
  match depth? 0 (parts path) with
  | some depth => 0 < depth
  | none => false

/-- The path below the root, if it stays inside. -/
def resolve? (root path : String) : Option String :=
  if staysInside path then some (join root path) else none

end UiCheck.Patch

namespace UiCheck.Patch

open Files

/-- Why a patch cannot be applied. -/
inductive Error where
  | unsafePath (path : String)
  | io (path : String) (cause : IoError)
  deriving DecidableEq, Inhabited, Repr

/-- The message of an error. -/
def Error.message : Error → String
  | .unsafePath path => s!"Refusing to write outside the project: {path}"
  | .io path cause => s!"I/O error writing {path}: {cause.message}"

/-- The path below the root; a path that leaves it is refused. -/
def resolve (root path : String) : Except Error String :=
  match resolve? root path with
  | some target => .ok target
  | none => .error (.unsafePath path)

/-- Writes one file and the directories above it. -/
def writeUpdate (ws : Workspace) (target content : String) : Except IoError Unit × Workspace :=
  match ws.ensureDirectory (parent target) with
  | (.error e, ws) => (.error e, ws)
  | (.ok (), ws) => ws.writeText target content

/-- Applies updates below a root, with the targets written so far, latest first. -/
def applyFrom (root : String) (ws : Workspace) (written : List String) :
    List FileUpdate → Except Error (List String) × Workspace
  | [] => (.ok written.reverse, ws)
  | update :: rest =>
    match resolve? root update.path with
    | none => applyFrom root ws written rest
    | some target =>
      match writeUpdate ws target update.content with
      | (.error cause, ws) => (.error (.io update.path cause), ws)
      | (.ok (), ws) => applyFrom root ws (target :: written) rest

/-- Applies updates below a root. The answer lists the targets written, in order. -/
def apply (root : String) (ws : Workspace) (updates : List FileUpdate) :
    Except Error (List String) × Workspace :=
  applyFrom root ws [] updates

end UiCheck.Patch
