import UiCheck.Rehearsal.Shell.Utility.Basic

/-! # Utilities for the lines of files

They write files one after the other, a part of each, its lines in another order, or how much it holds.
-/

namespace UiCheck.Rehearsal.Shell

open Files

/-- Writes files one after the other; lines may be numbered, or shown with their ends. -/
def cat : Utility :=
  Known.utility { plain := "AbeEnstTuv" } 1 fun task options =>
    let number (lines : List String) (first : Nat) : List String :=
      (lines.foldl (fun (known : List String × Nat) line =>
        let (done, n) := known
        if options.has 'b' && line.isEmpty then (line :: done, n)
        else
          let digits := toString n
          ((String.ofList (List.replicate (6 - digits.length) ' ') ++ digits ++ "\t" ++ line) :: done, n + 1))
        ([], first)).1.reverse
    let ends := if options.hasAny "AEe" then "$\n" else "\n"
    let tabs (s : String) : String := if options.hasAny "AtT" then s.replace "\t" "^I" else s
    let squeezed (lines : List String) : List String :=
      if options.has 's' then
        (lines.foldl (fun (done : List String) line =>
          if line.isEmpty && done.head? == some "" then done else line :: done) []).reverse
      else lines
    let done := task.overFiles options.words 1 plainProblem fun done _ content => done.say content
    if options.flags.isEmpty then { done with immediate := true }
    else
      let (lines, ended) := linesOf done.out
      let lines := (squeezed lines).map tabs
      let lines := if options.hasAny "nb" then number lines 1 else lines
      let body := ends.intercalate lines
      { done with out := if done.out.isEmpty then "" else if ended then body ++ ends else body }

/-- How a part of a file is given. -/
inductive Slice where
  | lines (count : Nat)
  | bytes (count : Nat)
  /-- All but so many. -/
  | butLines (count : Nat)
  | butBytes (count : Nat)
  deriving DecidableEq, Inhabited, Repr

/-- The first lines of a text, with their ends. -/
def firstLines (count : Nat) (s : String) : String :=
  let (lines, ended) := linesOf s
  if count < lines.length then withEnds (lines.take count)
  else if ended then withEnds (lines.take count) else "\n".intercalate lines

/-- The text behind its first lines. -/
def behindLines (count : Nat) (s : String) : String :=
  let (lines, ended) := linesOf s
  let left := lines.drop count
  if left.isEmpty then "" else if ended then withEnds left else "\n".intercalate left

/-- The part of a text from its start. -/
def Slice.ofStart (part : Slice) (s : String) : String :=
  match part with
  | .lines count => firstLines count s
  | .bytes count => String.ofList (s.toList.take count)
  | .butLines count => firstLines ((linesOf s).1.length - count) s
  | .butBytes count => String.ofList (s.toList.take (s.length - count))

/-- The part of a text up to its end; what is left out is counted from the start. -/
def Slice.ofEnd (part : Slice) (s : String) : String :=
  match part with
  | .lines count => behindLines ((linesOf s).1.length - count) s
  | .bytes count => String.ofList (s.toList.drop (s.length - count))
  | .butLines count => behindLines count s
  | .butBytes count => String.ofList (s.toList.drop count)

/-- The number of an argument, with a multiplier behind it, and the sign before it. -/
def counted? (text : String) : Option (Option Char × Nat) :=
  let (sign, digits) := match text.toList with
    | '-' :: rest => (some '-', rest)
    | '+' :: rest => (some '+', rest)
    | rest => (none, rest)
  let number := digits.takeWhile Char.isDigit
  let factor := match String.ofList (digits.drop number.length) with
    | "" => some 1
    | "b" => some 512
    | "K" | "k" | "KiB" => some 1024
    | "kB" | "KB" => some 1000
    | "M" | "MiB" => some (1024 * 1024)
    | "MB" => some 1000000
    | _ => none
  match digitsOf? (String.ofList number), factor with
  | some n, some factor => some (sign, n * factor)
  | _, _ => none

/-- Arguments in which a number behind a dash stands for a count of lines. -/
def withOldCount (arguments : List String) : List String :=
  match arguments with
  | first :: rest =>
    match first.toList with
    | '-' :: d :: digits => if (d :: digits).all Char.isDigit then "-n" :: String.ofList (d :: digits) :: rest else arguments
    | _ => arguments
  | [] => []

/-- The words for a count that is none. -/
def invalidCount (bytes : Bool) (text : String) : String :=
  let unit := if bytes then "bytes" else "lines"
  s!"invalid number of {unit}: '{text}'"

/-- A utility that writes a part of each file, with a title if there are several. -/
def partUtility (pick : Slice → String → String) (part : Bool → Option Char × Nat → Slice) : Utility := fun task =>
  let known : Known := {
    plain := "qvfFz", valued := "nc"
    long := [("lines", 'n'), ("bytes", 'c'), ("quiet", 'q'), ("silent", 'q'), ("verbose", 'v')] }
  match known.read (withOldCount task.arguments) with
  | .error e => task.misused e 1
  | .ok options =>
    let asked := options.flags.reverse.find? fun option => option.1 == 'n' || option.1 == 'c'
    let bytes := asked.any (·.1 == 'c')
    let text := (asked.map (·.2)).getD "10"
    match counted? text with
    | none => task.failed (invalidCount bytes text) 1
    | some count =>
      let titled := options.has 'v' || (1 < options.words.length && ! options.has 'q')
      let problem (path : String) (e : IoError) : String :=
        if e = .isDirectory then s!"error reading '{path}': {e.reason}"
        else s!"cannot open '{path}' for reading: {e.reason}"
      task.overFiles options.words 1 problem fun done path content =>
        let path := if path = "-" then "standard input" else path
        let title := if titled then (if done.out.isEmpty then "" else "\n") ++ s!"==> {path} <==\n" else ""
        done.say (title ++ pick (part bytes count) content)

/-- Writes the start of each file. -/
def head : Utility :=
  partUtility Slice.ofStart fun bytes count =>
    match bytes, count with
    | true, (some '-', n) => .butBytes n
    | true, (_, n) => .bytes n
    | false, (some '-', n) => .butLines n
    | false, (_, n) => .lines n

/-- Writes the end of each file. -/
def tail : Utility :=
  partUtility Slice.ofEnd fun bytes count =>
    match bytes, count with
    | true, (some '+', n) => .butBytes (n - 1)
    | true, (_, n) => .bytes n
    | false, (some '+', n) => .butLines (n - 1)
    | false, (_, n) => .lines n

/-- A number at the right of a field. -/
def atRight (width : Nat) (s : String) : String :=
  String.ofList (List.replicate (width - s.length) ' ') ++ s

/-- The number of words of a text. -/
def wordCount (s : String) : Nat :=
  (s.toList.foldl (fun (known : Nat × Bool) c =>
    if " \n\t\x0b\x0c\r".toList.contains c then (known.1, false)
    else if known.2 then known else (known.1 + 1, true)) (0, false)).1

/-- Counts lines, words and bytes. -/
def wc : Utility :=
  Known.utility
    { plain := "lwcmL", long := [("lines", 'l'), ("words", 'w'), ("bytes", 'c'), ("chars", 'm'),
      ("max-line-length", 'L')] } 1 fun task options =>
    let letters := "lwmcL".toList.filter fun c => if options.flags.isEmpty then c ≠ 'm' ∧ c ≠ 'L' else options.has c
    let count (content : String) (c : Char) : Nat :=
      match c with
      | 'l' => content.toList.count '\n'
      | 'w' => wordCount content
      | 'L' => (linesOf content).1.foldl (fun n line => max n line.length) 0
      | _ => content.length
    let paths := options.words
    let sizes := (if paths.isEmpty then ["-"] else paths).map fun path =>
      if isInput path then task.inputSize.map fun n => (n, true)
      else
        match task.disk.read (textOf path) with
        | .ok content => some (content.size, true)
        | .error .isDirectory => none
        | .error _ => some (0, false)
    let total := sizes.foldl (fun n size => n + ((size.map (·.1)).getD 0)) 0
    let digits := (toString total).length
    let width := if paths.length ≤ 1 ∧ letters.length = 1 then 1
      else if sizes.any Option.isNone then max 7 digits else digits
    let line (counts : List Nat) (name : String) : String :=
      " ".intercalate (counts.map fun n => atRight width (toString n)) ++ name ++ "\n"
    let row (content : Except IoError String) : List Nat :=
      match content with
      | .ok content => letters.map (count content)
      | .error _ => letters.map fun _ => 0
    let named := if paths.isEmpty then [("-", "")] else paths.map fun path => (path, " " ++ path)
    let step (done : Done) (path : String × String) : Done :=
      match task.content task.disk path.1 with
      | .error e =>
        let done := done.complain s!"wc: {plainProblem path.1 e}" 1
        -- A directory counts as empty.
        if e = .isDirectory then done.say (line (row (.error e)) path.2) else done
      | content => done.say (line (row content) path.2)
    let done := named.foldl step
      { task.start with tookInput := named.any fun path => isInput path.1, immediate := true }
    if paths.length ≤ 1 then done
    else
      let rows := paths.map fun path => row (task.content task.disk path)
      done.say (line (letters.zipIdx.map fun (c, i) =>
        let column := rows.map fun row => row[i]?.getD 0
        if c = 'L' then column.foldl max 0 else column.foldl (· + ·) 0) " total")

/-- Writes lines in reverse order. -/
def tac : Utility :=
  Known.utility {} 1 fun task options =>
    let problem (path : String) (e : IoError) : String :=
      if e = .isDirectory then s!"{path}: read error: {e.reason}"
      else s!"failed to open '{path}' for reading: {e.reason}"
    task.overFiles options.words 1 problem fun done _ content =>
      let (lines, ended) := linesOf content
      done.say (if ended then withEnds lines.reverse
        else match lines.reverse with
          | last :: rest => last ++ withEnds rest
          | [] => "")

/-- Writes the characters of each line in reverse order. -/
def rev : Utility :=
  Known.utility {} 1 fun task options =>
    let problem (path : String) (e : IoError) : String := s!"cannot open {path}: {e.reason}"
    task.overFiles options.words 1 problem fun done _ content =>
      let (lines, ended) := linesOf content
      let lines := lines.map fun line => octets (String.ofList (textOf line).toList.reverse)
      done.say (if ended then withEnds lines else "\n".intercalate lines)

/-- Writes lines with their numbers. -/
def nl : Utility :=
  Known.utility { valued := "bwsvin" } 1 fun task options =>
    let all := options.value? 'b' == some "a"
    let unnumbered := options.value? 'b' == some "n"
    let width := ((options.value? 'w').bind digitsOf?).getD 6
    let separator := (options.value? 's').getD "\t"
    let first := ((options.value? 'v').bind digitsOf?).getD 1
    let step := ((options.value? 'i').bind digitsOf?).getD 1
    let format := (options.value? 'n').getD "rn"
    let done := task.overFiles options.words 1 plainProblem fun done _ content => done.say content
    let blank := String.ofList (List.replicate (width + separator.length) ' ')
    let number (n : Nat) : String :=
      let digits := toString n
      let fill := List.replicate (width - digits.length)
      match format with
      | "ln" => digits ++ String.ofList (fill ' ')
      | "rz" => String.ofList (fill '0') ++ digits
      | _ => atRight width digits
    let lines := ((linesOf done.out).1.foldl (fun (known : List String × Nat) line =>
      let (done, n) := known
      if unnumbered || line.isEmpty && ! all then ((blank ++ line) :: done, n)
      else ((number n ++ separator ++ line) :: done, n + step)) ([], first)).1.reverse
    { done with out := withEnds lines }

/-- Writes the input to files as well. -/
def tee : Utility :=
  Known.utility { plain := "aip" } 1 fun task options =>
    match task.input with
    | .error e => task.failed s!"read error: {e.reason}" 1
    | .ok content =>
      let step (done : Done) (path : String) : Done :=
        let before := if options.has 'a' then (done.disk.read (textOf path)).toOption.getD .empty else .empty
        if path = "/dev/null" then done
        else if path = "/dev/stdout" ∨ path = "-" then done.say (octetsOf content)
        else if path = "/dev/stderr" then done.report (octetsOf content)
        else
          match done.disk.write (textOf path) (before ++ content) with
          | .ok disk => { done with disk }
          | .error e => done.complain s!"{task.name}: {path}: {e.reason}" 1
      { options.words.foldl step (task.said (octetsOf content)) with tookInput := true }

end UiCheck.Rehearsal.Shell
