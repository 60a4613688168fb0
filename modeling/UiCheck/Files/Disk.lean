import UiCheck.Files.Error
import UiCheck.Files.Path
import UiCheck.Files.Tree

/-! # Disks

A disk is a file tree with a working directory. A path is followed part by part through directories and
symbolic links; what it leads to can be read, replaced, created or removed. An operation that fails leaves
the disk as it was, except that directories made on the way stay.
-/

namespace UiCheck.Files

/-- A file tree and the place from which relative paths start. -/
structure Disk where
  tree : Node
  start : List String
  deriving Inhabited

/-- Where a path leads. -/
inductive Place where
  /-- A node that is there; the names are in reverse order. -/
  | present (names : List String) (node : Node)
  /-- A name that its directory does not have. -/
  | vacant (directory : List String) (name : String)

/-- The most links that one path may follow. -/
def linkLimit : Nat := 40

/-- The longest name in bytes. -/
def nameLimit : Nat := 255

/-- The longest path in bytes. -/
def pathLimit : Nat := 4095

/-- The parts of a path as directories are walked: a slash at the end asks for a directory. -/
def steps (path : String) : List Part :=
  let dots := (segments path.toList).getLast?
  if (parts path).isEmpty ∨ parts path = [.root] ∨ parts path = [.here] then parts path
  else if dots = some [] ∨ dots = some ['.'] then parts path ++ [.here]
  else parts path

/-- Walks from a directory, whose names are in reverse order, with a number of links still allowed. A link
at the end is followed only if `follow` says so. -/
def walk (tree : Node) (follow : Bool) (links : Nat) (names : List String) :
    List Part → Except IoError Place
  | [] =>
    match tree.get? names.reverse with
    | some node => .ok (.present names node)
    | none => .error .notFound
  | .root :: rest => walk tree follow links [] rest
  | .here :: rest =>
    match tree.get? names.reverse with
    | some (.directory _) => walk tree follow links names rest
    | some _ => .error .notDirectory
    | none => .error .notFound
  | .up :: rest =>
    match tree.get? names.reverse with
    | some (.directory _) => walk tree follow links names.tail rest
    | some _ => .error .notDirectory
    | none => .error .notFound
  | .name text :: rest =>
    match tree.get? names.reverse with
    | none => .error .notFound
    | some (.directory entries) =>
      if nameLimit < text.utf8ByteSize then .error .nameTooLong
      else
        match entries.lookup text with
        | none => if rest.isEmpty then .ok (.vacant names text) else .error .notFound
        | some (.link target) =>
          if rest.isEmpty && ! follow then .ok (.present (text :: names) (.link target))
          else
            match links with
            | 0 => .error .tooManyLinks
            | links + 1 =>
              if target.isEmpty then .error .notFound
              else walk tree follow links names (steps target ++ rest)
        | some _ => walk tree follow links (text :: names) rest
    | some _ => .error .notDirectory
termination_by remaining => (links, remaining.length)

namespace Disk

/-- Where a path leads. -/
def locate (disk : Disk) (follow : Bool) (path : String) : Except IoError Place :=
  if path.isEmpty then .error .notFound
  else if path.toList.contains (Char.ofNat 0) then .error .nulInPath
  else if pathLimit < path.utf8ByteSize then .error .nameTooLong
  else walk disk.tree follow linkLimit disk.start.reverse (steps path)

/-- The node that a path leads to. -/
def node (disk : Disk) (path : String) : Except IoError Node :=
  match disk.locate true path with
  | .ok (.present _ node) => .ok node
  | .ok (.vacant ..) => .error .notFound
  | .error e => .error e

/-- Something is at the path. -/
def exists? (disk : Disk) (path : String) : Bool :=
  match disk.node path with
  | .ok _ => true
  | .error _ => false

/-- A directory is at the path. -/
def isDirectory (disk : Disk) (path : String) : Bool :=
  match disk.node path with
  | .ok node => node.isDirectory
  | .error _ => false

/-- The content of the file at a path. -/
def read (disk : Disk) (path : String) : Except IoError ByteArray :=
  match disk.node path with
  | .ok (.file content) => .ok content
  | .ok _ => .error .isDirectory
  | .error e => .error e

/-- The text of a sequence of bytes. -/
def textOf (content : ByteArray) : Except IoError String :=
  match String.fromUTF8? content with
  | some text => .ok text
  | none => .error .notText

/-- The text of the file at a path. -/
def readText (disk : Disk) (path : String) : Except IoError String :=
  (disk.read path).bind textOf

/-- The names in the directory at a path, sorted. -/
def names (disk : Disk) (path : String) : Except IoError (List String) :=
  match disk.node path with
  | .ok (.directory entries) => .ok (entries.map (·.1))
  | .ok _ => .error .notDirectory
  | .error e => .error e

/-- Puts a node at a place given by its names in reverse order. -/
def put (disk : Disk) (names : List String) (node : Node) : Disk :=
  { disk with tree := Node.set node names.reverse disk.tree }

/-- The path ends with a slash behind a name. -/
def asksDirectory (path : String) : Bool :=
  path.toList.getLast? == some '/'

/-- The parts of a path without the one that a slash at its end adds. -/
def nameSteps (path : String) : List Part :=
  if asksDirectory path then (steps path).dropLast else steps path

/-- Where a file with the given content belongs. A path that asks for a directory is refused once its parent
is found. -/
def writable (disk : Disk) (path : String) : Except IoError (List String) :=
  let refuse (parent : Except IoError Place) : Except IoError (List String) :=
    match parent with
    | .error e => .error e
    | .ok (.present _ (.directory _)) => .error .isDirectory
    | .ok (.present ..) => .error .notDirectory
    | .ok (.vacant ..) => .error .notFound
  if asksDirectory path ∧ parts path ≠ [.root] then
    refuse (walk disk.tree true linkLimit disk.start.reverse (nameSteps path).dropLast)
  else
    match disk.locate true path with
    | .error e => .error e
    | .ok (.present names (.file _)) => .ok names
    | .ok (.present ..) => .error .isDirectory
    | .ok (.vacant directory name) => .ok (name :: directory)

/-- Writes a file, which is created if it is not there. -/
def write (disk : Disk) (path : String) (content : ByteArray) : Except IoError Disk :=
  if path.isEmpty then .error .notFound
  else if path.toList.contains (Char.ofNat 0) then .error .nulInPath
  else if pathLimit < path.utf8ByteSize then .error .nameTooLong
  else
    match disk.writable path with
    | .error e => .error e
    | .ok names => .ok (disk.put names (.file content))

/-- Writes a text file. -/
def writeText (disk : Disk) (path text : String) : Except IoError Disk :=
  disk.write path text.toUTF8

/-- Makes a directory in a directory that is there. -/
def makeDirectory (disk : Disk) (path : String) : Except IoError Disk :=
  if path.isEmpty then .error .notFound
  else if path.toList.contains (Char.ofNat 0) then .error .nulInPath
  else if pathLimit < path.utf8ByteSize then .error .nameTooLong
  else
    match walk disk.tree false linkLimit disk.start.reverse (nameSteps path) with
    | .error e => .error e
    | .ok (.present ..) => .error .exists
    | .ok (.vacant directory name) => .ok (disk.put (name :: directory) .empty)

/-- Makes the directory at a path and those above it, with one unit of fuel for each part. The directories
made before a failure stay. -/
def makeDirectories : Nat → Disk → String → Except IoError Unit × Disk
  | 0, disk, _ => (.error .notFound, disk)
  | fuel + 1, disk, path =>
    if path.isEmpty then (.ok (), disk)
    else
      let settle (disk : Disk) (cause : IoError) : Except IoError Unit × Disk :=
        (if disk.isDirectory path then .ok () else .error cause, disk)
      match disk.makeDirectory path with
      | .ok disk => (.ok (), disk)
      | .error .notFound =>
        match makeDirectories fuel disk (parent path) with
        | (.error e, disk) => (.error e, disk)
        | (.ok (), disk) =>
          match disk.makeDirectory path with
          | .ok disk => (.ok (), disk)
          | .error e => settle disk e
      | .error e => settle disk e

/-- Makes the directory at a path and those above it. -/
def ensureDirectory (disk : Disk) (path : String) : Except IoError Unit × Disk :=
  disk.makeDirectories (path.length + 1) path

/-- The last text between slashes of a path, with slashes at the end left aside. -/
def lastSegment (path : String) : List Char :=
  ((segments path.toList).filter (! ·.isEmpty)).getLast?.getD []

/-- Removes the entry of an empty directory. The entry must be named: a dot at the end of a path names
none. -/
def removeEmpty (disk : Disk) (path : String) : Except IoError Disk :=
  let atDot := lastSegment path = ['.']
  let way := if atDot then steps path else nameSteps path
  match walk disk.tree true linkLimit disk.start.reverse way.dropLast with
  | .error e => .error e
  | .ok (.vacant ..) => .error .notFound
  | .ok (.present ..) =>
    match way.getLast? with
    | none | some .root => .error .busy
    | some .here => .error .invalidPath
    | some .up => .error .notEmpty
    | some (.name _) =>
      match walk disk.tree false linkLimit disk.start.reverse way with
      | .error e => .error e
      | .ok (.vacant ..) => .error .notFound
      | .ok (.present names (.directory [])) => .ok { disk with tree := Node.remove names.reverse disk.tree }
      | .ok (.present _ (.directory _)) => .error .notEmpty
      | .ok (.present ..) => .error .notDirectory

/-- Removes a directory with all that it holds; of a link only the link itself. What the directory holds goes
first, and it is gone even if the directory itself cannot be removed. -/
def removeDirectory (disk : Disk) (path : String) : Except IoError Unit × Disk :=
  match disk.locate false path with
  | .error e => (.error e, disk)
  | .ok (.vacant ..) => (.error .notFound, disk)
  | .ok (.present _ (.file _)) => (.error .notDirectory, disk)
  | .ok (.present names (.link _)) => (.ok (), { disk with tree := Node.remove names.reverse disk.tree })
  | .ok (.present names (.directory _)) =>
    let emptied := disk.put names .empty
    match emptied.removeEmpty path with
    | .ok disk => (.ok (), disk)
    | .error .notFound => (.ok (), emptied)
    | .error e => (.error e, emptied)

end Disk

/-! ## Workspaces

A disk together with the record of the writes that were asked for. All that a program writes into a project
goes through here, whether the write succeeds or not.
-/

/-- A write that was asked for. -/
structure Attempt where
  path : String
  succeeded : Bool
  deriving DecidableEq, Inhabited, Repr

/-- A disk and the writes asked for so far, latest first. -/
structure Workspace where
  disk : Disk
  attempts : List Attempt
  deriving Inhabited

namespace Workspace

/-- A disk on which nothing has been written yet. -/
def ofDisk (disk : Disk) : Workspace :=
  { disk, attempts := [] }

/-- Writes a text file and records the attempt. A failing write leaves the disk as it is. -/
def writeText (ws : Workspace) (path text : String) : Except IoError Unit × Workspace :=
  match ws.disk.writeText path text with
  | .ok disk => (.ok (), { disk, attempts := ⟨path, true⟩ :: ws.attempts })
  | .error e => (.error e, { ws with attempts := ⟨path, false⟩ :: ws.attempts })

/-- Makes the directory at a path and those above it. -/
def ensureDirectory (ws : Workspace) (path : String) : Except IoError Unit × Workspace :=
  let (answer, disk) := ws.disk.ensureDirectory path
  (answer, { ws with disk })

end Workspace

end UiCheck.Files
