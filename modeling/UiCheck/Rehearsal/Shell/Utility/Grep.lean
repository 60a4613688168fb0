import UiCheck.Rehearsal.Shell.Regex.Reader
import UiCheck.Rehearsal.Shell.Utility.Entries

/-! # Looking for lines

Lines that hold a part that fits a pattern are written, or counted, or the files that hold them are named.
-/

namespace UiCheck.Rehearsal.Shell

open Files

/-- A search for lines. -/
structure Search where
  pattern : Regex
  ignoreCase : Bool := false
  /-- Lines without such a part are looked for. -/
  inverted : Bool := false
  /-- The most lines of a file that count. -/
  most : Option Nat := none
  /-- The number of lines that are shown before and behind each. -/
  before : Nat := 0
  after : Nat := 0
  /-- Groups of lines are kept apart by a line. -/
  grouped : Bool := false
  deriving Inhabited

/-- The line is looked for. -/
def Search.wants (search : Search) (line : String) : Bool :=
  search.pattern.occursIn (.ofString search.ignoreCase line) != search.inverted

/-- The parts of a line that fit, each with its place; with one unit of fuel for each start. -/
def partsFrom (r : Regex) (text : Subject) : Nat → Nat → List (Nat × String)
  | 0, _ => []
  | fuel + 1, start =>
    match r.find? text start with
    | none => []
    | some found =>
      let part := String.ofList (text.chars.extract found.start found.finish).toList
      if found.finish = found.start then partsFrom r text fuel (found.finish + 1)
      else (found.start, part) :: partsFrom r text fuel found.finish

/-- A line of a file: its number, its place among the characters, and whether it was looked for. -/
structure SeenLine where
  number : Nat
  place : Nat
  text : String
  wanted : Bool
  deriving Inhabited

/-- The lines of a text with their numbers and places; only so many of them are wanted. -/
def Search.see (search : Search) (lines : List String) : List SeenLine :=
  (lines.foldl (fun (known : List SeenLine × Nat × Nat) text =>
    let (done, place, count) := known
    let wanted := search.most.all (count < ·) && search.wants text
    ({ number := done.length + 1, place, text, wanted } :: done, place + text.length + 1,
      if wanted then count + 1 else count)) ([], 0, 0)).1.reverse

/-- The lines that are shown: those wanted and those around them. After the last line that counts, only what
follows it is shown. -/
def Search.shown (search : Search) (lines : List SeenLine) : List SeenLine :=
  let wanted := (lines.filter (·.wanted)).map (·.number)
  let last := wanted.foldl max 0
  let full := search.most.any (wanted.length ≥ ·)
  lines.filter fun line =>
    wanted.any fun n => n ≤ line.number + search.before && line.number ≤ n + search.after
      && (! full || line.number ≤ last + search.after)

/-- How lines are shown. -/
structure LineStyle where
  /-- The name of the file stands before each. -/
  named : Bool := false
  numbered : Bool := false
  placed : Bool := false
  /-- Only the parts that fit are shown. -/
  onlyParts : Bool := false
  mark : String := "\n"
  deriving Inhabited

/-- What stands before a line; a line that is only shown for another one has another sign. -/
def LineStyle.start (style : LineStyle) (path : String) (number place : Nat) (wanted : Bool) : String :=
  let sign := if wanted then ":" else "-"
  (if style.named then path ++ sign else "") ++ (if style.numbered then toString number ++ sign else "")
    ++ (if style.placed then toString place ++ sign else "")

/-- The lines of a file as they are shown. -/
def Search.listing (search : Search) (style : LineStyle) (path : String) (lines : List SeenLine) : String :=
  let line (seen : SeenLine) : String :=
    if style.onlyParts then
      if ! seen.wanted || search.inverted then ""
      else
        let text := Subject.ofString search.ignoreCase seen.text
        String.join ((partsFrom search.pattern text (seen.text.length + 1) 0).map fun (offset, part) =>
          style.start path seen.number (seen.place + offset) true ++ part ++ style.mark)
    else style.start path seen.number seen.place seen.wanted ++ seen.text ++ style.mark
  (search.shown lines).foldl (fun (known : String × Option Nat) seen =>
    let (done, last) := known
    let gap := search.grouped && last.any (· + 1 < seen.number)
    (done ++ (if gap then "--\n" else "") ++ line seen, some seen.number)) ("", none) |>.1

/-- The patterns that a text gives, one on each line. -/
def patternLines (s : String) : List String :=
  s.splitOn "\n"

/-- The expression that fits what one of several patterns fits. -/
def searchRegex (options : Options) (style : RegexStyle) (texts : List String) : Except RegexProblem Regex := do
  let rs ← texts.mapM fun text =>
    if options.has 'F' then pure (Regex.ofChars text.toList) else Regex.ofText style text
  let whole (r : Regex) : Regex :=
    if options.has 'x' then .seq (.edge .textStart) (.seq r (.edge .textFinish))
    else if options.has 'w' then .seq (.edge .noWordBefore) (.seq r (.edge .noWordAfter))
    else r
  match rs with
  | [] => return .one false []
  | r :: rest => return rest.foldl (fun known next => .alt known (whole next)) (whole r)

/-- The options of `grep`. -/
def grepOptions : Known :=
  { plain := "EFGPivwxyclLqsnHhrRobazZTUuI", valued := "efmABCDd+-/"
    long := [("extended-regexp", 'E'), ("fixed-strings", 'F'), ("basic-regexp", 'G'), ("perl-regexp", 'P'),
      ("ignore-case", 'i'), ("invert-match", 'v'), ("word-regexp", 'w'), ("line-regexp", 'x'), ("count", 'c'),
      ("files-with-matches", 'l'), ("files-without-match", 'L'), ("quiet", 'q'), ("silent", 'q'),
      ("no-messages", 's'), ("line-number", 'n'), ("with-filename", 'H'), ("no-filename", 'h'), ("recursive", 'r'),
      ("only-matching", 'o'), ("byte-offset", 'b'), ("text", 'a'), ("regexp", 'e'), ("file", 'f'),
      ("max-count", 'm'), ("after-context", 'A'), ("before-context", 'B'), ("context", 'C'), ("color", 'T'),
      ("colour", 'T'), ("null-data", 'z'), ("null", 'Z'), ("include", '+'), ("exclude", '-'),
      ("exclude-dir", '/')] }

/-- Arguments in which a number behind a dash stands for lines around each. -/
def withOldContext (arguments : List String) : List String :=
  arguments.map fun argument =>
    match argument.toList with
    | '-' :: d :: digits => if (d :: digits).all Char.isDigit then "-C" ++ String.ofList (d :: digits) else argument
    | _ => argument

/-- The files at and below a path, up to a depth; only names that are kept count below it. -/
def filesBelow (keeps : Bool → String → Bool) : Nat → String → Node → List (String × ByteArray)
  | 0, _, _ => []
  | depth + 1, path, node =>
    match node with
    | .file content => [(path, content)]
    | .link _ => []
    | .directory entries =>
      entries.flatMap fun entry =>
        let name := octets entry.1
        if keeps entry.2.isDirectory name then
          filesBelow keeps depth (if path.isEmpty then name else below path name) entry.2
        else []

/-- Something that is searched: how it is named, and its content. -/
structure Searched where
  name : String
  content : Except IoError String
  deriving Inhabited

/-- How `grep` tells its user how it is called. -/
def grepUsage (name : String) : String :=
  s!"Usage: {name} [OPTION]... PATTERNS [FILE]...\nTry '{name} --help' for more information."

/-- What files are searched. -/
def searched (task : Task) (options : Options) (paths : List String) : List Searched :=
  let recursive := options.hasAny "rR"
  let fits (text name : String) : Bool :=
    (Pattern.ofChars (text.toList.map fun c => { char := c, quoted := false })).fits name.toList
  let globs (c : Char) : List String := (options.flags.filter (·.1 == c)).map (·.2)
  let keeps (isDirectory : Bool) (name : String) : Bool :=
    if isDirectory then ! (globs '/').any (fits · name)
    else ((globs '+').isEmpty || (globs '+').any (fits · name)) && ! (globs '-').any (fits · name)
  let paths := if paths.isEmpty then [if recursive then "" else "-"] else paths
  paths.flatMap fun path =>
    if path = "-" then [⟨"(standard input)", task.input.map octetsOf⟩]
    else
      match recursive, nodeAt? task.disk true (if path.isEmpty then "." else path) with
      | true, .ok (_, .directory entries) =>
        (filesBelow keeps 64 path (.directory entries)).map fun (name, content) => ⟨name, .ok (octetsOf content)⟩
      | _, _ => [⟨path, task.content task.disk path⟩]

/-- How far `grep` has come. -/
structure GrepState where
  done : Done
  found : Bool := false
  failed : Bool := false
  deriving Inhabited

/-- Searches one file. -/
def searchOne (task : Task) (options : Options) (search : Search) (style : LineStyle) (state : GrepState)
    (source : Searched) : GrepState :=
  -- A directory is searched as well, but it holds no lines.
  let (content, state) : Option String × GrepState := match source.content with
    | .ok content => (some content, state)
    | .error e =>
      let done := if options.has 's' then state.done
        else state.done.report s!"{task.name}: {source.name}: {e.reason}\n"
      (if e = IoError.isDirectory then some "" else none, { state with done, failed := true })
  match content with
  | none => state
  | some content =>
    let lines := linesEndedBy (options.has 'z') content
    let seen := search.see lines
    let count := (seen.filter (·.wanted)).length
    let known := { state with found := state.found || 0 < count }
    let say (text : String) : GrepState := { known with done := known.done.say text }
    let start := if style.named then source.name ++ ":" else ""
    if options.has 'q' then known
    else if options.has 'L' then
      { state with
        found := state.found || count == 0
        done := if count = 0 then state.done.say (source.name ++ "\n") else state.done }
    else if options.has 'l' then if count = 0 then known else say (source.name ++ if options.has 'Z' then "\x00" else "\n")
    else if options.has 'c' then say s!"{start}{count}\n"
    else if content.contains (Char.ofNat 0) && ! options.hasAny "az" then
      if count = 0 then known
      else { known with done := known.done.report s!"{task.name}: {source.name}: binary file matches\n" }
    else say (search.listing style source.name seen)

/-- The number that an option says; otherwise what is wrong. -/
def countOption (options : Options) (c : Char) (problem : String → String) : Except String (Option Nat) :=
  match options.value? c with
  | none => .ok none
  | some text =>
    match digitsOf? text with
    | some n => .ok (some n)
    | none => .error (problem text)

/-- The texts of patterns that options give, and the paths behind them. -/
def patternTexts (task : Task) (options : Options) : Except String (List String × List String) := do
  let given ← (options.flags.filter fun option => option.1 == 'e' || option.1 == 'f').mapM fun option =>
    if option.1 = 'e' then .ok (patternLines option.2)
    else
      match task.content task.disk option.2 with
      | .ok content => .ok (linesOf content).1
      | .error e => .error s!"{task.name}: {option.2}: {e.reason}"
  if options.hasAny "ef" then return (given.flatten, options.words)
  else
    match options.words with
    | pattern :: paths => return (patternLines pattern, paths)
    | [] => throw (grepUsage task.name)

/-- What is said about signs of repetition with nothing before them. -/
def repetitionWarnings (name : String) (texts : List String) : List String :=
  texts.filterMap fun text =>
    match text.toList.head? with
    | some c => if "*+?".toList.contains c then some s!"{name}: warning: {c} at start of expression\n" else none
    | none => none

/-- The only path leads to a file. -/
def isFileAt (task : Task) (paths : List String) : Bool :=
  paths.all fun path => match task.disk.node (textOf path) with
    | .ok (.file _) => true
    | _ => false

/-- Looks for lines in files, in a way of writing patterns. -/
def grepWith (extended fixed : Bool) : Utility := fun task =>
  match grepOptions.read (withOldContext task.arguments) with
  | .error e => { task.failed e 2 with }.report (grepUsage task.name ++ "\n")
  | .ok options =>
    let options := if fixed then { options with flags := ('F', "") :: options.flags } else options
    let extended := extended || options.hasAny "EP"
    let wrong (text : String) : String := s!"{text}: invalid context length argument"
    let setting : Except String (Search × LineStyle × List String × List String) := do
      let most ← (countOption options 'm' fun _ => "invalid max count").mapError (s!"{task.name}: " ++ ·)
      let counts ← (['A', 'B', 'C'].mapM fun c => countOption options c wrong).mapError (s!"{task.name}: " ++ ·)
      let (texts, paths) ← patternTexts task options
      let confused := texts.any fun text => ! options.has 'F' && text.startsWith "[:" && text.endsWith ":]"
      if confused then throw s!"{task.name}: character class syntax is [[:space:]], not [:space:]"
      let pattern ← (searchRegex options { extended } texts).mapError fun e => s!"{task.name}: {e.message}"
      let side (n : Nat) : Nat := ((counts[n]?).join <|> (counts[2]?).join).getD 0
      let search : Search := {
        pattern, most, ignoreCase := options.hasAny "iy", inverted := options.has 'v', before := side 1, after := side 0
        grouped := options.hasAny "ABC" }
      let several := 1 < paths.length || (options.hasAny "rR" && ! (paths.length == 1 && isFileAt task paths))
      let style : LineStyle := {
        named := (several && ! options.has 'h') || (options.has 'H' && ! options.has 'h')
        numbered := options.has 'n', placed := options.has 'b', onlyParts := options.has 'o'
        mark := if options.has 'z' then "\x00" else "\n" }
      let warnings := if extended && ! options.has 'F' then repetitionWarnings task.name texts else []
      return (search, style, warnings, paths)
    match setting with
    | .error message => task.start.complain message 2
    | .ok (search, style, warnings, paths) =>
      let start : GrepState := { done := warnings.foldl Done.report task.start }
      let sources := searched task options paths
      let state := sources.foldl (searchOne task options search style) start
      let status := if state.failed && ! (options.has 'q' && state.found) then 2 else if state.found then 0 else 1
      { state.done with status, immediate := true, tookInput := sources.any (·.name == "(standard input)") }

/-- Looks for lines in files. -/
def grep : Utility := grepWith false false

end UiCheck.Rehearsal.Shell
