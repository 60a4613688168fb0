import UiCheck.Files.Disk
import UiCheck.Text.Utf8

/-! # Listings of a project

Two views of the files below a directory: an indented tree of directories and code files, and the code files
themselves one after the other. Each directory is read in the order of the bytes of the names, in whatever order
its entries lie. Names on a fixed list are left out with all that is below them, and links are never followed.
-/

namespace UiCheck.Files

/-- The names that are left out. -/
def ignoredNames : List String :=
  ["node_modules", ".git", ".next", ".vscode", "dist", "build", "coverage", "public", "package-lock.json",
   "yarn.lock", "bun.lockb", "vibe-snapshot.png", "vibe.yaml"]

/-- The extensions of the files in the tree. -/
def treeExtensions : List String := ["ts", "tsx", "js", "jsx", "css", "json"]

/-- The extensions of the files whose text is listed. -/
def sourceExtensions : List String := ["tsx", "ts", "jsx", "js", "css"]

/-- How many levels of directories the tree shows. -/
def treeDepth : Nat := 5

/-- The name has one of the extensions. -/
def hasExtension (extensions : List String) (name : String) : Bool :=
  (splitExtension name).2.any extensions.contains

/-- Something found below a directory: the names that lead to it, outermost last, and what it is. -/
structure Found where
  names : List String
  node : Node
  deriving Inhabited

/-- The name of what was found. -/
def Found.name (found : Found) : String :=
  found.names.headD ""

/-- How many directories lie above what was found. -/
def Found.depth (found : Found) : Nat :=
  found.names.length - 1

/-- The path of what was found. -/
def Found.path (found : Found) : String :=
  "/".intercalate found.names.reverse

/-- The bytes of the name come before those of the other one, or are the same. -/
def precedes {α : Type} (entry later : String × α) : Bool :=
  Text.bytes entry.1 ≤ Text.bytes later.1

/-- What has names, in the order of their bytes. -/
def byName {α : Type} (entries : List (String × α)) : List (String × α) :=
  entries.mergeSort precedes

mutual

/-- What is at a node and below it, down to a number of levels, each directory before what it holds. The entries
of a directory come in the order of their names. -/
def walkNode (levels : Nat) (names : List String) : Node → List Found
  | .directory entries => ⟨names, .directory entries⟩ :: (byName (walkEntries levels names entries)).flatMap (·.2)
  | .file content => [⟨names, .file content⟩]
  | .link target => [⟨names, .link target⟩]

/-- The names of the entries of a directory, each with what the entry holds down to a number of levels. -/
def walkEntries (levels : Nat) (names : List String) : List (String × Node) → List (String × List Found)
  | [] => []
  | entry :: rest => (entry.1, walkEntry levels names entry) :: walkEntries levels names rest

/-- What one entry of a directory holds, down to a number of levels. -/
def walkEntry (levels : Nat) (names : List String) : String × Node → List Found
  | (name, node) =>
    match levels with
    | 0 => []
    | levels + 1 => if ignoredNames.contains name then [] else walkNode levels (name :: names) node

end

mutual

/-- The number of nested directories. -/
def Node.height : Node → Nat
  | .directory entries => entriesHeight entries + 1
  | _ => 1

/-- The greatest height among the entries of a directory. -/
def entriesHeight : List (String × Node) → Nat
  | [] => 0
  | entry :: rest => max (entryHeight entry) (entriesHeight rest)

/-- The height of an entry of a directory. -/
def entryHeight : String × Node → Nat
  | (_, node) => node.height

end

/-- What is below the directory at a path, down to a number of levels, without the directory itself. -/
def Disk.below (disk : Disk) (levels : Nat) (path : String) : List Found :=
  match disk.node path with
  | .ok node => (walkNode levels [] node).tail
  | .error _ => []

/-- What is below the directory at a path, on all levels. -/
def Disk.allBelow (disk : Disk) (path : String) : List Found :=
  match disk.node path with
  | .ok node => (walkNode node.height [] node).tail
  | .error _ => []

/-- The level of a line of the tree and its name, if it has one. -/
def treeLine? (found : Found) : Option (Nat × String) :=
  if found.node.isDirectory then some (found.depth, found.name ++ "/")
  else if hasExtension treeExtensions found.name then some (found.depth, found.name)
  else none

/-- No line of the level follows before a line further out. -/
def isLast (depth : Nat) (rest : List (Nat × String)) : Bool :=
  match rest.find? fun (level, _) => level ≤ depth with
  | some (level, _) => level < depth
  | none => true

/-- The lines of the tree, each with the branch that leads to it. -/
def treeLines : List (Nat × String) → List String
  | [] => []
  | (depth, name) :: rest =>
    let branch := if isLast depth rest then "└── " else "├── "
    (String.join (List.replicate depth "  ") ++ branch ++ name ++ "\n") :: treeLines rest

/-- The tree of directories and code files below a directory. -/
def fileTree (disk : Disk) (path : String) : String :=
  String.join (treeLines ((disk.below treeDepth path).filterMap treeLine?))

/-- The size in bytes up to which a file is listed with its text. -/
def sourceLimit : Nat := 100 * 1024

/-- The number of characters up to which a listing is kept. -/
def listingLimit : Nat := 400000

/-- The block of a file in the listing of sources: a file that is too large is only named, and one that is
no text is left out. -/
def sourceBlock? (found : Found) : Option String :=
  match found.node with
  | .file content =>
    if ! hasExtension sourceExtensions found.name then none
    else if sourceLimit < content.size then some s!"\n--- FILE: {found.path} (Skipped: Too Large) ---\n"
    else
      match Disk.textOf content with
      | .ok text => some s!"\n--- FILE: {found.path} ---\n{text}\n"
      | .error _ => none
  | _ => none

/-- A listing cut at the limit, with a mark where it was cut. -/
def truncate (listing : String) : String :=
  if listing.length ≤ listingLimit then listing
  else String.ofList (listing.toList.take listingLimit) ++ "\n...[TRUNCATED]"

/-- The texts of the code files below a directory before any cut. -/
def allSources (disk : Disk) (path : String) : String :=
  String.join ((disk.allBelow path).filterMap sourceBlock?)

/-- The texts of the code files below a directory. -/
def sources (disk : Disk) (path : String) : String :=
  truncate (allSources disk path)

/-- The text of a file, or nothing if there is none to read. -/
def Disk.readOrEmpty (disk : Disk) (path : String) : String :=
  match disk.readText path with
  | .ok text => text
  | .error _ => ""

end UiCheck.Files
