import UiCheck.Rehearsal.Shell.Utility.Words

/-! # Utilities for the entries of directories

They list, make, copy, move and remove files, directories and links.
-/

namespace UiCheck.Rehearsal.Shell

open Files

/-- A path as messages name it. -/
def named (path : String) : String :=
  s!"'{path}'"

/-- A path that goes on with a name. -/
def below (path name : String) : String :=
  if path.endsWith "/" then path ++ name else path ++ "/" ++ name

/-- What a path leads to; links are followed on the way, and at its end if `follow` says so. -/
def nodeAt? (disk : Disk) (follow : Bool) (path : String) : Except IoError (List String × Node) :=
  match disk.locate follow (textOf path) with
  | .ok (.present names node) => .ok (names.reverse, node)
  | .ok (.vacant ..) => .error .notFound
  | .error e => .error e

/-- The mark behind a name that tells what it stands for. -/
def entryMark (options : Options) (node : Node) : String :=
  match node with
  | .directory _ => if options.hasAny "Fp" then "/" else ""
  | .link _ => if options.has 'F' then "@" else ""
  | .file _ => ""

/-- The names in a directory as they are listed. -/
def listedEntries (options : Options) (entries : Entries) : List (String × Node) :=
  let shown := (entries.map fun entry => (octets entry.1, entry.2)).filter fun entry =>
    options.hasAny "aA" || ! entry.1.startsWith "."
  let shown := if options.has 'a' then (".", Node.empty) :: ("..", Node.empty) :: shown else shown
  let sorted := shown.mergeSort fun a b => a.1 ≤ b.1
  if options.has 'r' then sorted.reverse else sorted

/-- Names as a list, one to a line or with commas. -/
def entryList (options : Options) (entries : List (String × Node)) : String :=
  let names := entries.map fun entry => entry.1 ++ entryMark options entry.2
  if options.has 'm' then if names.isEmpty then "" else ", ".intercalate names ++ "\n" else withEnds names

/-- Lists directories below a directory, with one unit of fuel for each level. -/
def listTree (options : Options) : Nat → String → Entries → String
  | 0, _, _ => ""
  | fuel + 1, path, entries =>
    let shown := listedEntries options entries
    let inner := shown.filterMap fun entry =>
      match entry.2 with
      | .directory entries =>
        if entry.1 = "." ∨ entry.1 = ".." then none
        else some ("\n" ++ listTree options fuel (below path entry.1) entries)
      | _ => none
    s!"{path}:\n" ++ entryList options shown ++ String.join inner

/-- Lists directories and files. -/
def ls : Utility :=
  Known.utility
    { plain := "1aAdFprRmlhtSUXsicCxkgonGNqbBfLuvZ", long := [("all", 'a'), ("almost-all", 'A'), ("directory", 'd'),
      ("recursive", 'R'), ("reverse", 'r'), ("classify", 'F'), ("color", 'N')] } 2 fun task options =>
    let paths := if options.words.isEmpty then ["."] else options.words
    let paths := paths.mergeSort fun a b => a ≤ b
    let paths := if options.has 'r' then paths.reverse else paths
    let found := paths.map fun path => (path, nodeAt? task.disk (! options.has 'd') path)
    let done := found.foldl (fun (done : Done) known =>
      match known.2 with
      | .error e =>
        match nodeAt? task.disk false known.1 with
        | .ok _ => done
        | .error _ => done.complain s!"{task.name}: cannot access {named known.1}: {e.reason}" 2
      | .ok _ => done) task.start
    let plain := found.filterMap fun known =>
      match known.2 with
      | .ok (_, .directory entries) => if options.has 'd' then some (known.1, Node.directory entries) else none
      | .ok (_, node) => some (known.1, node)
      | .error _ => (nodeAt? task.disk false known.1).toOption.map fun entry => (known.1, entry.2)
    let directories := found.filterMap fun known =>
      match known.2 with
      | .ok (_, .directory entries) => if options.has 'd' then none else some (known.1, entries)
      | _ => none
    let titled := 1 < paths.length || options.has 'R'
    let blocks := directories.map fun (path, entries) =>
      if options.has 'R' then listTree options 64 path entries
      else (if titled then s!"{path}:\n" else "") ++ entryList options (listedEntries options entries)
    let blocks := (if plain.isEmpty then [] else [entryList options plain]) ++ blocks
    done.say ("\n".intercalate blocks)

/-- The paths that lead to a directory part by part. -/
def waysTo (path : String) : List String :=
  let step (known : List String × String) (part : String) : List String × String :=
    let next := if known.2.isEmpty then part else if known.2 = "/" then "/" ++ part else known.2 ++ "/" ++ part
    (next :: known.1, next)
  let parts := (path.splitOn "/").filter (! ·.isEmpty)
  (parts.foldl step ([], if path.startsWith "/" then "/" else "")).1.reverse

/-- Makes directories. -/
def mkdir : Utility :=
  Known.utility { plain := "pv", valued := "m", long := [("parents", 'p'), ("verbose", 'v'), ("mode", 'm')] } 1
    fun task options =>
    if options.words.isEmpty then task.misused "missing operand" 1
    else
      let make (done : Done) (path : String) : Except IoError Done :=
        (done.disk.makeDirectory (textOf path)).map fun disk =>
          let done := { done with disk }
          if options.has 'v' then done.say s!"{task.name}: created directory {named path}\n" else done
      let problem (done : Done) (path : String) (e : IoError) : Done :=
        done.complain s!"{task.name}: cannot create directory {named path}: {e.reason}" 1
      let step (done : Done) (path : String) : Done :=
        if options.has 'p' ∧ ¬ path.isEmpty then
          ((waysTo path).foldl (fun (known : Done × Bool) way =>
            let (done, going) := known
            if ! going || done.disk.isDirectory (textOf way) then (done, going)
            else
              match make done way with
              | .ok done => (done, true)
              | .error .exists => (problem done way (if way = trimSlashes path then .exists else .notDirectory), false)
              | .error e => (problem done way e, false)) (done, true)).1
        else
          match make done path with
          | .ok done => done
          | .error e => problem done path e
      options.words.foldl step task.start

/-- Removes directories that hold nothing. -/
def rmdir : Utility :=
  Known.utility { plain := "pv", long := [("parents", 'p'), ("ignore-fail-on-non-empty", 'i')] } 1 fun task options =>
    if options.words.isEmpty then task.misused "missing operand" 1
    else
      let step (done : Done) (path : String) : Done :=
        let ways := if options.has 'p' then (waysTo path).reverse else [path]
        (ways.foldl (fun (known : Done × Bool) way =>
          let (done, going) := known
          if ! going then known
          else
            match done.disk.removeEmpty (textOf way) with
            | .ok disk => ({ done with disk }, true)
            | .error e => (done.complain s!"{task.name}: failed to remove {named way}: {e.reason}" 1, false))
          (done, true)).1
      options.words.foldl step task.start

/-- The disk without the entry at a place. -/
def withoutEntry (disk : Disk) (place : List String) : Disk :=
  { disk with tree := Node.remove place disk.tree }

/-- The paths below a path in the order in which they go when it is removed, with one unit of fuel for each
level. -/
def removals : Nat → String → Node → List (String × Bool)
  | fuel + 1, path, .directory entries =>
    entries.flatMap (fun entry => removals fuel (below path (octets entry.1)) entry.2) ++ [(path, true)]
  | _, path, node => [(path, node.isDirectory)]

/-- Removes files, and directories if an option says so. -/
def rm : Utility :=
  Known.utility
    { plain := "rRfidvI", long := [("recursive", 'r'), ("force", 'f'), ("verbose", 'v'), ("dir", 'd')] } 1
    fun task options =>
    let recursive := options.hasAny "rR"
    let force := options.has 'f'
    if options.words.isEmpty then if force then task.start else task.misused "missing operand" 1
    else
      let step (done : Done) (path : String) : Done :=
        let cannot (e : IoError) : Done := done.complain s!"{task.name}: cannot remove {named path}: {e.reason}" 1
        let last := lastName path
        match nodeAt? done.disk false (if path.isEmpty then path else trimSlashes path) with
        | .ok (place, node) =>
          if node.isDirectory ∧ (last = "." ∨ last = "..") ∧ recursive then
            done.complain s!"{task.name}: refusing to remove '.' or '..' directory: skipping {named path}" 1
          else if ! node.isDirectory && path.endsWith "/" then cannot .notDirectory
          else if node.isDirectory && ! recursive then
            if options.has 'd' then
              match done.disk.removeEmpty (textOf path) with
              | .ok disk => { done with disk }
              | .error e => cannot e
            else cannot .isDirectory
          else
            let done := { done with disk := withoutEntry done.disk place }
            if options.has 'v' then
              done.say (String.join ((removals 64 path node).map fun (path, isDirectory) =>
                (if isDirectory then "removed directory " else "removed ") ++ named path ++ "\n"))
            else done
        | .error e => if force && (e == .notFound || e == .notDirectory) then done else cannot e
      options.words.foldl step task.start

/-- Makes files that are not there yet. -/
def touch : Utility :=
  Known.utility { plain := "acfhm", valued := "drt", long := [("no-create", 'c'), ("date", 'd')] } 1
    fun task options =>
    if options.words.isEmpty then task.misused "missing file operand" 1
    else
      let step (done : Done) (path : String) : Done :=
        if done.disk.exists? (textOf path) then done
        else if options.has 'c' then done
        else
          match done.disk.writeText (textOf path) "" with
          | .ok disk => { done with disk }
          | .error e => done.complain s!"{task.name}: cannot touch {named path}: {e.reason}" 1
      options.words.foldl step task.start

/-- Puts a node at a path whose directory is there. -/
def putNode (disk : Disk) (path : String) (node : Node) : Except IoError Disk :=
  match disk.locate false (textOf (trimSlashes path)) with
  | .ok (.present names _) => .ok (disk.put names node)
  | .ok (.vacant directory name) => .ok (disk.put (name :: directory) node)
  | .error e => .error e

/-- The entries of a directory, with others put over them; the fuel bounds the depth. -/
def merged : Nat → Entries → Entries → Entries
  | 0, _, new => new
  | fuel + 1, old, new =>
    new.foldl (fun entries entry =>
      match entries.lookup entry.1, entry.2 with
      | some (.directory below), .directory above =>
        Entries.insert entry.1 (.directory (merged fuel below above)) entries
      | _, node => Entries.insert entry.1 node entries) old

/-- Where files are to go: to a path, or into a directory. -/
inductive Destination where
  | path (path : String)
  | directory (path : String)
  deriving Inhabited

/-- The path that a file is to get. -/
def Destination.pathFor (destination : Destination) (source : String) : String :=
  match destination with
  | .path target => target
  | .directory target => below target (lastName source)

/-- Finds out what the arguments of a utility that copies or moves mean, and takes its steps. -/
def transfer (task : Task) (options : Options) (step : Destination → Done → String → Done) : Done :=
  match options.value? 't' with
  | some directory => options.words.foldl (step (.directory directory)) task.start
  | none =>
    match options.words.reverse with
    | [] => task.misused "missing file operand" 1
    | [only] => task.misused s!"missing destination file operand after {named only}" 1
    | [target, source] =>
      let into := task.disk.isDirectory (textOf target) && ! options.has 'T'
      step (if into then .directory target else .path target) task.start source
    | target :: sources =>
      if task.disk.isDirectory (textOf target) then sources.reverse.foldl (step (.directory target)) task.start
      else
        let e : IoError := if task.disk.exists? (textOf target) then .notDirectory else .notFound
        task.failed s!"target {named target}: {e.reason}" 1

/-- Copies files, and directories if an option says so. -/
def cp : Utility :=
  Known.utility
    { plain := "arRfinpPdvuTLHlsx", valued := "tS", long := [("recursive", 'r'), ("archive", 'a'), ("verbose", 'v'),
      ("force", 'f'), ("no-clobber", 'n')] } 1 fun task options =>
    let recursive := options.hasAny "rRa"
    transfer task options fun destination done source =>
      let target := destination.pathFor source
      let told (done : Done) : Done :=
        if options.has 'v' then done.say s!"{named source} -> {named target}\n" else done
      let placed (node : Node) : Done :=
        match putNode done.disk target node with
        | .ok disk => told { done with disk }
        | .error e => done.complain s!"{task.name}: cannot create directory {named target}: {e.reason}" 1
      match nodeAt? done.disk (! recursive) source with
      | .error e => done.complain s!"{task.name}: cannot stat {named source}: {e.reason}" 1
      | .ok (place, node) =>
        let known := (nodeAt? done.disk true target).toOption
        if known.any (·.1 == place) then
          done.complain s!"{task.name}: {named source} and {named target} are the same file" 1
        else if options.has 'n' && known.isSome then done
        else
          match node with
          | .directory entries =>
            if ! recursive then done.complain s!"{task.name}: -r not specified; omitting directory {named source}" 1
            else
              match known with
              | some (_, .directory old) => placed (.directory (merged 64 old entries))
              | some _ =>
                done.complain s!"{task.name}: cannot overwrite non-directory {named target} with directory {named source}" 1
              | none => placed (.directory entries)
          | .link text => placed (.link text)
          | .file content =>
            match known with
            | some (_, .directory _) =>
              done.complain s!"{task.name}: cannot overwrite directory {named target} with non-directory" 1
            | _ =>
              match done.disk.write (textOf target) content with
              | .ok disk => told { done with disk }
              | .error e =>
                let e := if target.endsWith "/" then .notDirectory else e
                done.complain s!"{task.name}: cannot create regular file {named target}: {e.reason}" 1

/-- Moves files and directories. -/
def mv : Utility :=
  Known.utility
    { plain := "finuvT", valued := "tS", long := [("force", 'f'), ("verbose", 'v'), ("no-clobber", 'n')] } 1
    fun task options =>
    transfer task options fun destination done source =>
      let target := destination.pathFor source
      match nodeAt? done.disk false (trimSlashes source) with
      | .error e => done.complain s!"{task.name}: cannot stat {named source}: {e.reason}" 1
      | .ok (place, node) =>
        let known := (nodeAt? done.disk false (trimSlashes target)).toOption
        let moved : Done :=
          match putNode (withoutEntry done.disk place) target node with
          | .ok disk =>
            let done := { done with disk }
            if options.has 'v' then done.say s!"renamed {named source} -> {named target}\n" else done
          | .error e =>
            done.complain s!"{task.name}: cannot move {named source} to {named target}: {e.reason}" 1
        let inside := match done.disk.locate false (textOf (trimSlashes target)) with
          | .ok (.present names _) => place.isPrefixOf names.reverse
          | .ok (.vacant directory _) => place.isPrefixOf directory.reverse
          | .error _ => false
        if options.has 'n' && known.isSome then done
        else if node.isDirectory && inside then
          done.complain s!"{task.name}: cannot move {named source} to a subdirectory of itself, {named target}" 1
        else
          match known, node with
          | some (other, _), _ =>
            if other = place then done.complain s!"{task.name}: {named source} and {named target} are the same file" 1
            else
              match known, node with
              | some (_, .directory []), .directory _ => moved
              | some (_, .directory _), .directory _ =>
                done.complain s!"{task.name}: cannot move {named source} to {named target}: Directory not empty" 1
              | some (_, .directory _), _ =>
                done.complain s!"{task.name}: cannot overwrite directory {named target} with non-directory" 1
              | some _, .directory _ =>
                done.complain s!"{task.name}: cannot overwrite non-directory {named target} with directory {named source}" 1
              | _, _ => moved
          | none, .directory _ => moved
          | none, _ =>
            if target.endsWith "/" then
              done.complain s!"{task.name}: cannot move {named source} to {named target}: Not a directory" 1
            else moved

/-- Makes links. A link that is not symbolic is another copy. -/
def ln : Utility :=
  Known.utility { plain := "sfnvTrLP", valued := "tS", long := [("symbolic", 's'), ("force", 'f')] } 1
    fun task options =>
    let step (destination : Destination) (done : Done) (source : String) : Done :=
      let target := destination.pathFor source
      let symbolic := options.has 's'
      let known := (nodeAt? done.disk false target).isOk
      let node : Except String Node :=
        if symbolic then .ok (.link (textOf source))
        else
          match nodeAt? done.disk false source with
          | .error e => .error s!"failed to access {named source}: {e.reason}"
          | .ok (_, .directory _) => .error s!"{source}: hard link not allowed for directory"
          | .ok (_, node) => .ok node
      match node with
      | .error message => done.complain s!"{task.name}: {message}" 1
      | .ok node =>
        let kind := if symbolic then "symbolic" else "hard"
        let behind := if symbolic then "" else s!" => {named source}"
        if known && ! options.has 'f' then
          done.complain s!"{task.name}: failed to create {kind} link {named target}: File exists" 1
        else
          match putNode done.disk target node with
          | .ok disk => { done with disk }
          | .error e => done.complain s!"{task.name}: failed to create {kind} link {named target}{behind}: {e.reason}" 1
    match options.words with
    | [only] => step (.directory ".") task.start only
    | _ => transfer task options step

/-- Tells where links lead. -/
def readlink : Utility :=
  Known.utility { plain := "fenmqsvz" } 1 fun task options =>
    if options.words.isEmpty then task.misused "missing operand" 1
    else
      let step (done : Done) (path : String) : Done :=
        let found : Option String :=
          if options.hasAny "fem" then
            match task.disk.locate true (textOf path) with
            | .ok (.present names _) => some ("/" ++ "/".intercalate names.reverse)
            | .ok (.vacant directory name) =>
              if options.has 'e' then none else some ("/" ++ "/".intercalate (name :: directory).reverse)
            | .error _ => none
          else
            match nodeAt? task.disk false path with
            | .ok (_, .link target) => some target
            | _ => none
        match found with
        | some text => done.say (octets text ++ if options.has 'n' then "" else "\n")
        | none => { done with status := 1 }
      options.words.foldl step task.start

/-- Tells where paths lead without links and dots. -/
def realpath : Utility :=
  Known.utility { plain := "emsqzLP" } 1 fun task options =>
    if options.words.isEmpty then task.misused "missing operand" 1
    else
      let step (done : Done) (path : String) : Done :=
        match task.disk.locate true (textOf path) with
        | .ok (.present names _) => done.say (octets ("/" ++ "/".intercalate names.reverse) ++ "\n")
        | .ok (.vacant directory name) =>
          if options.has 'e' then done.complain s!"{task.name}: {path}: {IoError.notFound.reason}" 1
          else done.say (octets ("/" ++ "/".intercalate (name :: directory).reverse) ++ "\n")
        | .error e => done.complain s!"{task.name}: {path}: {e.reason}" 1
      options.words.foldl step task.start

end UiCheck.Rehearsal.Shell
