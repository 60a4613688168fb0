import UiCheck.Text.Search

/-! # Paths

A path is a text whose parts are separated by slashes. Repeated slashes count once, and a single dot counts
only at the very start of a relative path. Joining keeps the text as it is; what a path leads to is decided
elsewhere.
-/

namespace UiCheck.Files

/-- One part of a path. -/
inductive Part where
  /-- The slash at the start of an absolute path. -/
  | root
  /-- The dot at the start of a relative path. -/
  | here
  /-- The directory above. -/
  | up
  /-- A name in a directory. -/
  | name (text : String)
  deriving DecidableEq, Inhabited, Repr

/-- The texts between the slashes, including empty ones. -/
def segments : List Char → List (List Char)
  | [] => [[]]
  | c :: rest =>
    if c = '/' then [] :: segments rest
    else
      match segments rest with
      | [] => [[c]]
      | first :: others => (c :: first) :: others

/-- The part that one text between slashes stands for behind the start of a path. -/
def part? (segment : List Char) : Option Part :=
  match segment with
  | [] => none
  | ['.'] => none
  | ['.', '.'] => some .up
  | _ => some (.name (String.ofList segment))

/-- The parts of a path. -/
def parts (path : String) : List Part :=
  match segments path.toList with
  | [] :: rest =>
    if path.isEmpty then [] else .root :: rest.filterMap part?
  | ['.'] :: rest => .here :: rest.filterMap part?
  | all => all.filterMap part?

/-- The names that lead from the root to what an absolute path names, with links left aside. -/
def placeOf (path : String) : List String :=
  (parts path).foldl (fun place part =>
    match part with
    | .name text => place ++ [text]
    | .up => place.dropLast
    | .root | .here => place) []

/-- The path starts at the root. -/
def isAbsolute (path : String) : Bool :=
  path.toList.head? == some '/'

/-- The path that `relative` denotes below `base`; an absolute path denotes itself. -/
def join (base relative : String) : String :=
  if isAbsolute relative then relative
  else if base.isEmpty || base.toList.getLast? == some '/' then base ++ relative
  else base ++ "/" ++ relative

/-- Drops slashes and lone dots from the end of a path whose characters are reversed, but keeps the slash
or the dot that starts it. -/
def dropFillers : List Char → List Char
  | ['/'] => ['/']
  | '/' :: rest => dropFillers rest
  | '.' :: '/' :: rest => dropFillers ('/' :: rest)
  | all => all

/-- The text of a path without its last part. -/
def parent (path : String) : String :=
  let body := dropFillers path.toList.reverse
  let shorter :=
    if body = ['/'] then body else dropFillers (body.dropWhile (· != '/'))
  String.ofList shorter.reverse

/-- The last part of a path, if it is a name. -/
def fileName? (path : String) : Option String :=
  match (parts path).getLast? with
  | some (.name text) => some text
  | _ => none

/-- The name without its extension, and the extension behind the last dot; a dot at the start of a name
starts no extension. -/
def splitExtension (name : String) : String × Option String :=
  match Text.cutLast? ['.'] name.toList with
  | some (c :: stem, extension) => (String.ofList (c :: stem), some (String.ofList extension))
  | _ => (name, none)

/-- The path with its last name replaced. -/
def withFileName (path name : String) : String :=
  match fileName? path with
  | some _ => join (parent path) name
  | none => join path name

/-- What follows `front` in a list that starts with it. -/
def afterParts? : List Part → List Part → Option (List Part)
  | [], rest => some rest
  | _ :: _, [] => none
  | p :: front, q :: rest => if p = q then afterParts? front rest else none

/-- Drops a number of parts from the start of a path, and the slashes and lone dots behind them. -/
def dropParts : Nat → List (List Char) → List (List Char)
  | _, [] => []
  | 0, segment :: rest => if (part? segment).isNone then dropParts 0 rest else segment :: rest
  | n + 1, segment :: rest =>
    if (part? segment).isNone then dropParts (n + 1) rest else dropParts n rest

/-- The path as it looks from `root`, if it lies below it. -/
def relativeTo? (root path : String) : Option String :=
  match afterParts? (parts root) (parts path) with
  | none => none
  | some _ =>
    let named := (parts root).filter fun part => part ≠ .root ∧ part ≠ .here
    let rest := dropParts named.length (segments (dropFillers path.toList.reverse).reverse)
    some (String.ofList (['/'].intercalate rest))

/-- The path as it looks from `root`; a path elsewhere is shown as it is. -/
def relativeTo (root path : String) : String :=
  (relativeTo? root path).getD path

end UiCheck.Files
