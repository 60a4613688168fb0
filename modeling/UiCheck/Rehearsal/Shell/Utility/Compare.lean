import UiCheck.Rehearsal.Shell.Utility.Entries
import UiCheck.Rehearsal.Shell.Utility.Lines

/-! # Comparing files

Two files are compared byte by byte, or line by line. Lines are joined to the longest common row of lines; what is
left out of it was deleted or added.
-/

namespace UiCheck.Rehearsal.Shell

open Files

/-- Where two texts first differ: the number of the byte and of the line, both counted on from given ones. -/
def difference? : Nat → Nat → List Char → List Char → Option (Nat × Nat)
  | n, line, a :: as, b :: bs =>
    if a ≠ b then some (n, line) else difference? (n + 1) (if a = '\n' then line + 1 else line) as bs
  | _, _, _, _ => none

/-- All places at which two texts differ, with both characters. -/
def differences : Nat → List Char → List Char → List (Nat × Char × Char)
  | n, a :: as, b :: bs => if a ≠ b then (n, a, b) :: differences (n + 1) as bs else differences (n + 1) as bs
  | _, _, _ => []

/-- How `cmp` and `diff` tell that they were called in a wrong way. -/
def Task.miscalled (task : Task) (message : String) : Done :=
  task.failed s!"{message}\n{task.name}: Try '{task.name} --help' for more information." 2

/-- What is said where one file ends before another one. -/
def endOfFile (path content : String) (places : Bool) : String :=
  let count := content.length
  if count = 0 then s!"EOF on {path} which is empty"
  else if places then s!"EOF on {path} after byte {count}"
  else
    let lines := (content.toList.filter (· == '\n')).length
    if content.endsWith "\n" then s!"EOF on {path} after byte {count}, line {lines}"
    else s!"EOF on {path} after byte {count}, in line {lines + 1}"

/-- Compares two files byte by byte. -/
def cmp : Utility := fun task =>
  let known : Known := {
    plain := "lsb", valued := "ni"
    long := [("verbose", 'l'), ("silent", 's'), ("quiet", 's'), ("print-bytes", 'b'), ("bytes", 'n'),
      ("ignore-initial", 'i')] }
  match known.read task.arguments with
  | .error e => task.miscalled e
  | .ok options =>
    match options.words with
    | [] => task.miscalled s!"missing operand after '{task.arguments.getLastD task.name}'"
    | first :: more =>
      let second := more.headD "-"
      match task.content task.disk first, task.content task.disk second with
      | .error e, _ => if options.has 's' then { task.start with status := 2 } else task.failed s!"{first}: {e.reason}" 2
      | _, .error e =>
        if options.has 's' then { task.start with status := 2 } else task.failed s!"{second}: {e.reason}" 2
      | .ok a, .ok b =>
        let number (c : Char) : Option Nat := (options.value? c).bind digitsOf?
        let part (s : String) : String :=
          let s := s.toList.drop ((number 'i').getD 0)
          String.ofList (match number 'n' with
            | some n => s.take n
            | none => s)
        let (a, b) := (part a, part b)
        let done := { task.start with tookInput := isInput first || isInput second }
        let shorter := if a.length < b.length then some (first, a) else if b.length < a.length then some (second, b) else none
        if options.has 's' then { done with status := if a = b then 0 else 1 }
        else if options.has 'l' then
          let all := differences 1 a.toList b.toList
          let width := (toString (min a.length b.length)).length
          let octal (c : Char) : String := atRight 3 (String.ofList (Nat.toDigits 8 c.toNat))
          let text := String.join (all.map fun (n, x, y) => s!"{atRight width (toString n)} {octal x} {octal y}\n")
          let done := done.say text
          match shorter with
          | some (path, content) => done.complain s!"{task.name}: {endOfFile path content true}" 1
          | none => { done with status := if all.isEmpty then 0 else 1 }
        else
          match difference? 1 1 a.toList b.toList with
          | some (n, line) => { done.say s!"{first} {second} differ: char {n}, line {line}\n" with status := 1 }
          | none =>
            match shorter with
            | some (path, content) => done.complain s!"{task.name}: {endOfFile path content false}" 1
            | none => done

/-- A line of a text, and whether it has an end. -/
structure EndedLine where
  text : String
  ended : Bool := true
  /-- What counts of the line. -/
  key : String
  deriving DecidableEq, Inhabited, Repr

/-- The lines of a text; `key` tells what counts of each. -/
def endedLines (key : String → String) (s : String) : List EndedLine :=
  let (lines, ended) := linesOf s
  lines.zipIdx.map fun (text, i) => { text, ended := ended || i + 1 < lines.length, key := key text }

/-- Two lines are the same as far as it counts. -/
def EndedLine.fits (a b : EndedLine) : Bool :=
  a.key == b.key && a.ended == b.ended

/-- The lengths of the longest common rows of lines of a text and each end of another one, if those for the text
without its first line are known. -/
def commonLengths (line : EndedLine) : List EndedLine → List Nat → List Nat
  | [], _ => [0]
  | other :: others, known =>
    let below := commonLengths line others known.tail
    let best := if line.fits other then (known.tail.headD 0) + 1 else max (known.headD 0) (below.headD 0)
    best :: below

/-- The lengths for each end of the first text, the longest first. -/
def commonTable (second : List EndedLine) : List EndedLine → List (List Nat)
  | [] => [List.replicate (second.length + 1) 0]
  | line :: rest =>
    let below := commonTable second rest
    commonLengths line second (below.headD []) :: below

/-- A line that two texts share, or that only one of them has. -/
inductive EditedLine where
  | kept
  | deleted (line : EndedLine)
  | added (line : EndedLine)
  deriving DecidableEq, Inhabited, Repr

/-- How one text becomes another one, line by line, with one unit of fuel for each step. -/
def editedLines : Nat → List (List Nat) → List EndedLine → List EndedLine → List EditedLine
  | 0, _, _, _ => []
  | _, _, [], bs => bs.map .added
  | _, _, as, [] => as.map .deleted
  | fuel + 1, table, a :: as, b :: bs =>
    if a.fits b then .kept :: editedLines fuel (table.tail.map List.tail) as bs
    else
      let without := (table.tail.headD []).headD 0
      let adding := (table.headD []).tail.headD 0
      if adding ≤ without then .deleted a :: editedLines fuel table.tail as (b :: bs)
      else .added b :: editedLines fuel (table.map List.tail) (a :: as) bs

/-- Lines that were deleted and added at one place, and the numbers of the lines before them. -/
structure Hunk where
  before : Nat
  after : Nat
  deleted : List EndedLine := []
  added : List EndedLine := []
  deriving Inhabited

/-- The hunks of a row of lines, with the one in progress. -/
def hunksOf : List EditedLine → Hunk → List Hunk
  | [], hunk => if hunk.deleted.isEmpty && hunk.added.isEmpty then [] else [hunk]
  | .deleted line :: rest, hunk => hunksOf rest { hunk with deleted := hunk.deleted ++ [line] }
  | .added line :: rest, hunk => hunksOf rest { hunk with added := hunk.added ++ [line] }
  | .kept :: rest, hunk =>
    let next : Hunk := {
      before := hunk.before + hunk.deleted.length + 1, after := hunk.after + hunk.added.length + 1 }
    if hunk.deleted.isEmpty && hunk.added.isEmpty then hunksOf rest next else hunk :: hunksOf rest next

/-- The numbers of lines behind a place. -/
def lineNumbers (before count : Nat) : String :=
  if count = 0 then toString before
  else if count = 1 then toString (before + 1) else s!"{before + 1},{before + count}"

/-- Lines behind a sign. -/
def signedLines (sign : String) (lines : List EndedLine) : String :=
  String.join (lines.map fun line =>
    s!"{sign} {line.text}\n" ++ if line.ended then "" else "\\ No newline at end of file\n")

/-- A hunk as it is written. -/
def Hunk.shown (hunk : Hunk) : String :=
  let left := lineNumbers hunk.before hunk.deleted.length
  let right := lineNumbers hunk.after hunk.added.length
  if hunk.added.isEmpty then s!"{left}d{right}\n" ++ signedLines "<" hunk.deleted
  else if hunk.deleted.isEmpty then s!"{left}a{right}\n" ++ signedLines ">" hunk.added
  else s!"{left}c{right}\n" ++ signedLines "<" hunk.deleted ++ "---\n" ++ signedLines ">" hunk.added

/-- The number of lines that two rows share at their start. -/
def sharedStart : List EndedLine → List EndedLine → Nat
  | a :: as, b :: bs => if a.fits b then sharedStart as bs + 1 else 0
  | _, _ => 0

/-- The hunks between two texts. Lines that both share at their start and end are not looked at again. -/
def hunksBetween (as bs : List EndedLine) : List Hunk :=
  let first := sharedStart as bs
  let (as, bs) := (as.drop first, bs.drop first)
  let last := sharedStart as.reverse bs.reverse
  let (as, bs) := (as.take (as.length - last), bs.take (bs.length - last))
  hunksOf (editedLines (as.length + bs.length + 1) (commonTable bs as) as bs) { before := first, after := first }

/-- What counts of a line. -/
def lineKey (options : Options) (s : String) : String :=
  let isBlank (c : Char) : Bool := " \t\x0b\x0c\r".toList.contains c
  let chars := s.toList
  let chars := if options.has 'i' then chars.map Char.toLower else chars
  let chars := if options.has 'w' then chars.filter (! isBlank ·)
    else if options.has 'b' then
      ((chars.reverse.dropWhile isBlank).reverse.foldl (fun done c =>
        if isBlank c then if done.head? = some ' ' then done else ' ' :: done else c :: done) []).reverse
    else chars
  String.ofList chars

/-- Compares the content of two files. -/
def diffTexts (options : Options) (done : Done) (first second a b : String) : Done :=
  let differ (text : String) : Done := { done.say text with status := max 1 done.status }
  let key := lineKey options
  let keep (line : EndedLine) : Bool := ! (options.has 'B' && line.text.isEmpty)
  let hunks := (hunksBetween (endedLines key a) (endedLines key b)).filter fun hunk =>
    hunk.deleted.any keep || hunk.added.any keep
  if hunks.isEmpty then
    if options.has 's' then done.say s!"Files {first} and {second} are identical\n" else done
  else if options.has 'q' then differ s!"Files {first} and {second} differ\n"
  else if a.contains (Char.ofNat 0) || b.contains (Char.ofNat 0) then
    differ s!"Binary files {first} and {second} differ\n"
  else differ (String.join (hunks.map Hunk.shown))

/-- The options as they stand in front of the names of files. -/
def shownOptions (arguments : List String) : String :=
  String.join ((arguments.filter fun word => word.startsWith "-" && word.length > 1).map (" " ++ ·))

/-- Compares two directories by their names, with one unit of fuel for each level. -/
def diffEntries (task : Task) (options : Options) : Nat → Done → String → String → Entries → Entries → Done
  | 0, done, _, _, _, _ => done
  | fuel + 1, done, first, second, left, right =>
    let names (entries : Entries) : List String := entries.map fun entry => octets entry.1
    let node? (entries : Entries) (name : String) : Option Node :=
      (entries.find? fun entry => octets entry.1 == name).map (·.2)
    let all := ((names left ++ names right).eraseDups).mergeSort fun a b => a ≤ b
    all.foldl (fun (done : Done) name =>
      let (a, b) := (below first name, below second name)
      let only (place : String) : Done :=
        { done.say s!"Only in {place}: {name}\n" with status := max 1 done.status }
      match node? left name, node? right name with
      | some _, none => only first
      | none, _ => only second
      | some (.directory inner), some (.directory others) =>
        if options.has 'r' then diffEntries task options fuel done a b inner others
        else done.say s!"Common subdirectories: {a} and {b}\n"
      | some _, some _ =>
        match task.content task.disk a, task.content task.disk b with
        | .ok x, .ok y =>
          let inner := diffTexts options { done with out := "", status := 0 } a b x y
          let head := if inner.status = 0 || options.has 'q' || inner.out.startsWith "Binary" then ""
            else s!"{task.name}{shownOptions task.arguments} {a} {b}\n"
          { inner with out := done.out ++ head ++ inner.out, status := max done.status inner.status }
        | .error e, _ => done.complain s!"{task.name}: {a}: {e.reason}" 2
        | _, .error e => done.complain s!"{task.name}: {b}: {e.reason}" 2) done

/-- Compares two files line by line, or two directories. -/
def diff : Utility := fun task =>
  let known : Known := {
    plain := "qsiwbBraN123"
    long := [("brief", 'q'), ("report-identical-files", 's'), ("ignore-case", 'i'), ("ignore-all-space", 'w'),
      ("ignore-space-change", 'b'), ("ignore-blank-lines", 'B'), ("recursive", 'r'), ("text", 'a'),
      ("new-file", 'N'), ("normal", '1'), ("minimal", '2'), ("strip-trailing-cr", '3')] }
  match known.read task.arguments with
  | .error e => task.miscalled e
  | .ok options =>
    match options.words with
    | [] | [_] => task.miscalled s!"missing operand after '{task.arguments.getLastD task.name}'"
    | _ :: _ :: extra :: _ => task.miscalled s!"extra operand '{extra}'"
    | [first, second] =>
      let directory? (path : String) : Option Entries :=
        if path = "-" then none
        else match nodeAt? task.disk true path with
          | .ok (_, .directory entries) => some entries
          | _ => none
      match directory? first, directory? second with
      | some left, some right => diffEntries task options 64 task.start first second left right
      | left, right =>
        let first := if left.isSome then below first (lastName second) else first
        let second := if right.isSome then below second (lastName first) else second
        let problems := [first, second].filterMap fun path =>
          match task.content task.disk path with
          | .ok _ => none
          | .error e => some s!"{task.name}: {path}: {e.reason}"
        let start := { task.start with tookInput := isInput first || isInput second }
        match task.content task.disk first, task.content task.disk second with
        | .ok a, .ok b => diffTexts options start first second a b
        | _, _ => problems.foldl (fun done problem => done.complain problem 2) start

end UiCheck.Rehearsal.Shell
