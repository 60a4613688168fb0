import UiCheck.Rehearsal.Shell.Editor.Reader
import UiCheck.Rehearsal.Shell.Editor.Run
import UiCheck.Rehearsal.Shell.Utility.Entries

/-! # The line editor

Runs a script over the lines of files and writes what becomes of them, or writes the files anew.
-/

namespace UiCheck.Rehearsal.Shell

open Files

/-- The options of the line editor. -/
def editorOptions : Known :=
  { plain := "nErsuz123", valued := "efl", optional := "i"
    long := [("quiet", 'n'), ("silent", 'n'), ("expression", 'e'), ("file", 'f'), ("in-place", 'i'),
      ("line-length", 'l'), ("regexp-extended", 'E'), ("separate", 's'), ("unbuffered", 'u'), ("null-data", 'z'),
      ("posix", '1'), ("sandbox", '2'), ("follow-symlinks", '3')] }

/-- How the line editor tells its user how it is called. -/
def editorUsage (name : String) : String :=
  s!"Usage: {name} [OPTION]... \x7bscript-only-if-no-other-script\x7d [input-file]...\n\n"

/-- The pieces of the script that options give, or the first word, and the paths. -/
def scriptPieces (task : Task) (options : Options) : Except String (List Editor.ScriptPiece × List String) := do
  let given ← (options.flags.filter fun option => option.1 == 'e' || option.1 == 'f').mapM fun option =>
    if option.1 = 'e' then .ok { text := option.2 : Editor.ScriptPiece }
    else
      match task.content task.disk option.2 with
      | .ok content =>
        let text := if content.endsWith "\n" then String.ofList (content.toList.dropLast) else content
        .ok { file := some option.2, text }
      | .error e => .error s!"couldn't open file {option.2}: {e.reason}"
  if ! given.isEmpty then return (given, options.words)
  else
    match options.words with
    | script :: paths => return ([{ text := script }], paths)
    | [] => return ([], [])

/-- The lines of a file, numbered from a number on. -/
def inputLines (zero : Bool) (file : Nat) (path content : String) (first : Nat) : List Editor.InputLine :=
  let texts := linesEndedBy zero content
  let mark := if zero then Char.ofNat 0 else '\n'
  let ended := content.toList.getLast? == some mark
  texts.zipIdx.map fun (text, i) =>
    { text, ended := ended || i + 1 < texts.length, file, path, number := first + i }

/-- The lines with the last one marked. -/
def withLast (lines : List Editor.InputLine) : List Editor.InputLine :=
  match lines.reverse with
  | [] => []
  | line :: before => ({ line with last := true } :: before).reverse

/-- What the files give: lines, problems, and whether one of them was the end of all. -/
structure EditorInput where
  lines : List Editor.InputLine := []
  problems : String := ""
  status : Nat := 0
  /-- Nothing behind can be read. -/
  broken : Bool := false
  deriving Inhabited

/-- Adds the lines of one more file. -/
def EditorInput.add (task : Task) (zero separate inPlace : Bool) (known : EditorInput) (source : String × Nat) :
    EditorInput :=
  let (path, file) := source
  if known.broken then known
  else
    match task.content task.disk path with
    | .ok content =>
      let first := if separate then 1 else known.lines.length + 1
      let lines := inputLines zero file path content first
      { known with lines := known.lines ++ (if separate then withLast lines else lines) }
    | .error e =>
      let problem :=
        if e ≠ .isDirectory then s!"can't read {path}: {e.reason}"
        else if inPlace then s!"couldn't edit {path}: not a regular file"
        else s!"read error on {path}: {e.reason}"
      { known with
        problems := known.problems ++ s!"{task.name}: {problem}\n"
        status := if e = .isDirectory then 4 else max known.status 2
        broken := e = .isDirectory && ! inPlace }

/-- The path under which a file is kept before it is written anew. -/
def backupPath (path ending : String) : String :=
  let name := lastName path
  let name := if ending.contains '*' then ending.replace "*" name else name ++ ending
  String.ofList (path.toList.take (path.length - (lastName path).length)) ++ name

/-- Puts a text into a file. -/
def Done.put (done : Done) (name path text : String) : Done :=
  match done.disk.write (textOf path) (bytesOf text) with
  | .ok disk => { done with disk }
  | .error e => done.complain s!"{name}: couldn't open file {path}: {e.reason}" 4

/-- Writes a file anew, and keeps it under another path if an ending is given. -/
def Done.putAnew (done : Done) (task : Task) (ending path text : String) : Done :=
  let kept := match ending, task.disk.read (textOf path) with
    | "", _ | _, .error _ => done
    | _, .ok content => done.put task.name (backupPath path ending) (octetsOf content)
  kept.put task.name path text

/-- The path leads to an output of the program. -/
def isOutput (path : String) : Bool :=
  path == "/dev/stdout" || path == "/dev/stderr"

/-- Runs a script over the lines of files. -/
def editLines (task : Task) (options : Options) (pieces : List Editor.ScriptPiece) (paths : List String)
    (script : Editor.Script) (quiet : Bool) : Done :=
  let zero := options.has 'z'
  let inPlace := options.has 'i'
  let separate := inPlace || options.has 's'
  let paths := if paths.isEmpty then ["-"] else paths
  if inPlace ∧ paths = ["-"] then task.failed "no input files" 4
  else
    let input := paths.zipIdx.foldl (EditorInput.add task zero separate inPlace) {}
    let lines := if separate then input.lines else withLast input.lines
    let setting : Editor.Setting := {
      script, quiet := quiet || options.has 'n', separate, inPlace, mark := if zero then "\x00" else "\n"
      width := ((options.value? 'l').bind digitsOf?).getD 70
      content := fun path => (task.content task.disk path).toOption }
    let (state, status) := Editor.run setting lines
    let done := { task.start with out := state.out.text ++ state.console.text, tookInput := paths.any isInput }
    let done := (Editor.files script).foldl (fun (done : Done) path =>
      if isOutput path then done
      else done.put task.name path ((state.written.lookup path).map (·.text) |>.getD "")) done
    let ending := (options.value? 'i').getD ""
    let done := state.finished.reverse.foldl (fun (done : Done) (file, text) =>
      match paths[file]? with
      | some path => done.putAnew task ending path text
      | none => done) done
    let problems := input.problems ++ state.problems
    let done := if problems.isEmpty then done else done.report problems
    if state.failed then
      done.complain s!"{task.name}: -e expression #{max 1 pieces.length}, char 0: no previous regular expression" 1
    else { done with status := if status = 0 then max done.status input.status else status }

/-- Edits lines by a script. -/
def sed : Utility := fun task =>
  match editorOptions.read task.arguments with
  | .error e => { (task.failed e 1).report (editorUsage task.name) with status := 1 }
  | .ok options =>
    match scriptPieces task options with
    | .error e => task.failed e 4
    | .ok ([], _) => { task.start.report (editorUsage task.name) with status := 1 }
    | .ok (pieces, paths) =>
      match Editor.readScript (options.hasAny "Er") pieces with
      | .error e => task.failed e (if e.startsWith "can't find label" then 4 else 1)
      | .ok (script, quiet) => editLines task options pieces paths script quiet

end UiCheck.Rehearsal.Shell
