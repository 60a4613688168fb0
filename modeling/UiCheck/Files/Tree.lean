/-! # File trees

A tree of files, directories and symbolic links, and the entries at physical places in it: a place is the
list of names that leads to it from the root. The entries of a directory are sorted by name.
-/

namespace UiCheck.Files

/-- A node of a file tree. -/
inductive Node where
  | file (content : ByteArray)
  | link (target : String)
  | directory (entries : List (String × Node))
  deriving Inhabited

/-- The entries of a directory, sorted by name. -/
abbrev Entries := List (String × Node)

namespace Entries

/-- Puts an entry in its place; an entry of the same name is replaced. -/
def insert (name : String) (node : Node) : Entries → Entries
  | [] => [(name, node)]
  | (n, other) :: rest =>
    if name = n then (name, node) :: rest
    else if name < n then (name, node) :: (n, other) :: rest
    else (n, other) :: insert name node rest

/-- Removes the entry of a name. -/
def erase (name : String) (entries : Entries) : Entries :=
  entries.filter fun (n, _) => n != name

end Entries

namespace Node

/-- The directory without entries. -/
def empty : Node :=
  .directory []

/-- The node is a directory. -/
def isDirectory : Node → Bool
  | .directory _ => true
  | _ => false

/-- The entry of a directory. -/
def child? (name : String) : Node → Option Node
  | .directory entries => entries.lookup name
  | _ => none

/-- The node at a place. -/
def get? : List String → Node → Option Node
  | [], node => some node
  | name :: rest, node => (node.child? name).bind (get? rest)

/-- Puts a node at a place whose directory exists; elsewhere nothing changes. -/
def set (node : Node) : List String → Node → Node
  | [], _ => node
  | name :: rest, .directory entries =>
    if rest.isEmpty then .directory (Entries.insert name node entries)
    else
      match entries.lookup name with
      | some below => .directory (Entries.insert name (set node rest below) entries)
      | none => .directory entries
  | _, other => other

/-- Puts a node at a place; the directories above it are made, also in place of what is no directory. -/
def put (node : Node) : List String → Node → Node
  | [], _ => node
  | name :: rest, .directory entries =>
    .directory (Entries.insert name (put node rest ((entries.lookup name).getD empty)) entries)
  | name :: rest, _ => .directory [(name, put node rest empty)]

/-- Removes the node at a place. -/
def remove : List String → Node → Node
  | [], node => node
  | [name], .directory entries => .directory (Entries.erase name entries)
  | name :: rest, .directory entries =>
    match entries.lookup name with
    | some below => .directory (Entries.insert name (remove rest below) entries)
    | none => .directory entries
  | _, other => other

end Node

/-! ## Edits of file trees

What has to be written, made and removed so that a place that holds one tree comes to hold another. Links
are left as they are.
-/

/-- One edit at a path. -/
inductive Edit where
  | write (path : String) (content : ByteArray)
  | makeDirectory (path : String)
  | removeFile (path : String)
  | removeDirectory (path : String)
  deriving Inhabited

/-- Removes what is at a path. -/
def Edit.remove (path : String) : Node → Edit
  | .directory _ => .removeDirectory path
  | _ => .removeFile path

/-- Removes the entries that have no successor of their name. -/
def removals (path : String) (old new : Entries) : List Edit :=
  (old.filter fun (name, _) => (new.lookup name).isNone).map fun (name, node) =>
    .remove (path ++ "/" ++ name) node

mutual

/-- The edits that turn what is at a path into a node. -/
def edits (path : String) (old : Option Node) : Node → List Edit
  | .file content =>
    match old with
    | some (.file before) => if before = content then [] else [.write path content]
    | some node => [.remove path node, .write path content]
    | none => [.write path content]
  | .link _ => []
  | .directory entries =>
    match old with
    | some (.directory before) => removals path before entries ++ entryEdits path before entries
    | some node => .remove path node :: .makeDirectory path :: entryEdits path [] entries
    | none => .makeDirectory path :: entryEdits path [] entries

/-- The edits that bring entries into a directory. -/
def entryEdits (path : String) (old : Entries) : List (String × Node) → List Edit
  | [] => []
  | entry :: rest => entryEdit path old entry ++ entryEdits path old rest

/-- The edits that bring one entry into a directory. -/
def entryEdit (path : String) (old : Entries) : String × Node → List Edit
  | (name, node) => edits (path ++ "/" ++ name) (old.lookup name) node

end

end UiCheck.Files
