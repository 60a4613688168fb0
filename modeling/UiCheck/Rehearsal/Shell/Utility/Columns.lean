import UiCheck.Rehearsal.Shell.Octets
import UiCheck.Rehearsal.Shell.Utility.Basic

/-! # Utilities for parts of lines

They cut characters or fields out of lines, put the lines of files next to each other, and break long lines.
-/

namespace UiCheck.Rehearsal.Shell

open Files

/-- A range of positions, counted from one; without an end it goes on to the end of the line. -/
structure Range where
  first : Nat
  last : Option Nat
  deriving DecidableEq, Inhabited, Repr

/-- The range holds a position. -/
def Range.holds (range : Range) (n : Nat) : Bool :=
  range.first ≤ n && range.last.all (n ≤ ·)

/-- What has been read of a list of ranges: the ranges so far, latest first, and the number before and behind a
dash, where a number may be missing. -/
structure RangeReading where
  done : List Range := []
  first : Option Nat := none
  dashed : Bool := false
  last : Option Nat := none
  deriving Inhabited

/-- The words for a position that is not counted from one. -/
def zeroPosition (fields : Bool) : String :=
  if fields then "fields are numbered from 1" else "byte/character positions are numbered from 1"

/-- Ends the range that is being read. -/
def RangeReading.close (known : RangeReading) (fields : Bool) : Except String RangeReading :=
  let closed (range : Range) : Except String RangeReading := .ok { done := range :: known.done }
  if known.dashed then
    match known.first, known.last with
    | none, none => .error "invalid range with no endpoint: -"
    | first, none => closed ⟨first.getD 1, none⟩
    | first, some last =>
      if last < first.getD 1 then .error "invalid decreasing range" else closed ⟨first.getD 1, some last⟩
  else
    match known.first with
    | none | some 0 => .error (zeroPosition fields)
    | some n => closed ⟨n, some n⟩

/-- Reads ranges with commas or blanks between them. -/
def RangeReading.go (fields : Bool) : RangeReading → List Char → Except String (List Range)
  | known, [] => (known.close fields).map (·.done.reverse)
  | known, c :: rest =>
    if c = '-' then
      if known.dashed then .error (if fields then "invalid field range" else "invalid byte or character range")
      else if known.first = some 0 then .error (zeroPosition fields)
      else RangeReading.go fields { known with dashed := true } rest
    else if c = ',' ∨ c = ' ' ∨ c = '\t' then
      match known.close fields with
      | .ok known => RangeReading.go fields known rest
      | .error e => .error e
    else if c.isDigit then
      let more (n : Option Nat) : Option Nat := some (10 * n.getD 0 + (c.toNat - '0'.toNat))
      RangeReading.go fields
        (if known.dashed then { known with last := more known.last } else { known with first := more known.first }) rest
    else
      let text := String.ofList (c :: rest)
      .error (if fields then s!"invalid field value '{text}'" else s!"invalid byte/character position '{text}'")

/-- Ranges with commas or blanks between them. -/
def rangesOf (fields : Bool) (text : String) : Except String (List Range) :=
  RangeReading.go fields {} text.toList

/-- The items of a list at positions that a condition holds of. -/
def picked {α : Type} (holds : Nat → Bool) (xs : List α) : List α :=
  (xs.zipIdx.filter fun x => holds (x.2 + 1)).map (·.1)

/-- Cuts characters or fields out of lines. -/
def cut : Utility :=
  Known.utility {
    plain := "snz", valued := "bcfdO"
    long := [("bytes", 'b'), ("characters", 'c'), ("fields", 'f'), ("delimiter", 'd'), ("only-delimited", 's'),
      ("output-delimiter", 'O'), ("complement", 'C'), ("zero-terminated", 'z')] } 1 fun task options =>
    let lists := options.flags.filter fun option => "bcf".toList.contains option.1
    match lists with
    | [] => task.misused "you must specify a list of bytes, characters, or fields" 1
    | _ :: _ :: _ => task.misused "only one list may be specified" 1
    | [(kind, text)] =>
      let fields := kind == 'f'
      let delimiter := (options.value? 'd').getD "\t"
      if options.has 'd' ∧ 1 < delimiter.length then task.misused "the delimiter must be a single character" 1
      else if options.has 'd' ∧ ¬ fields then
        task.misused "an input delimiter may be specified only when operating on fields" 1
      else if options.has 's' ∧ ¬ fields then
        task.misused "suppressing non-delimited lines makes sense\n\tonly when operating on fields" 1
      else
        match rangesOf fields text with
        | .error message => task.misused message 1
        | .ok ranges =>
          let holds (n : Nat) : Bool := (ranges.any (·.holds n)) != options.has 'C'
          let between := (options.value? 'O').getD (if fields then delimiter else "")
          let delimiter := if delimiter.isEmpty then "\x00" else delimiter
          let line (s : String) : Option String :=
            if ! fields then some (String.ofList (picked holds s.toList))
            else
              match s.splitOn delimiter with
              | [_] => if options.has 's' then none else some s
              | parts => some (between.intercalate (picked holds parts))
          let step (done : Done) (_ : String) (content : String) : Done :=
            done.say (withEnds ((linesOf content).1.filterMap line))
          { task.overFiles options.words 1 plainProblem step with immediate := true }

/-- Delimiters as a list names them. -/
def delimitersOf : List Char → List String
  | '\\' :: '0' :: rest => "" :: delimitersOf rest
  | '\\' :: c :: rest => String.singleton ((letterEscape? c).getD c) :: delimitersOf rest
  | c :: rest => String.singleton c :: delimitersOf rest
  | [] => []

/-- Texts with delimiters between them, which are taken in turn. -/
def joinedInTurn (delimiters : List String) : Nat → List String → String
  | _, [] => ""
  | _, [s] => s
  | n, s :: rest => s ++ (delimiters[n % max 1 delimiters.length]?).getD "" ++ joinedInTurn delimiters (n + 1) rest

/-- The lines of several texts at each place, with one unit of fuel for each line. -/
def linesAbreast : Nat → List (List String) → List (List String)
  | 0, _ => []
  | fuel + 1, texts =>
    if texts.all (·.isEmpty) then [] else texts.map (·.headD "") :: linesAbreast fuel (texts.map List.tail)

/-- The lines of the input handed out in turn to those files that are the input. -/
def dealt (count : Nat) (lines : List String) (turn : Nat) : List String :=
  (lines.zipIdx.filter fun line => line.2 % max 1 count == turn).map (·.1)

/-- Puts the lines of files next to each other, or all lines of a file in one. -/
def paste : Utility :=
  Known.utility {
    plain := "sz", valued := "d", long := [("delimiters", 'd'), ("serial", 's')] } 1 fun task options =>
    let delimiters := delimitersOf ((options.value? 'd').getD "\t").toList
    let paths := if options.words.isEmpty then ["-"] else options.words
    let inputs := (paths.filter isInput).length
    let took := 0 < inputs
    let content (known : Nat × List (Except IoError (List String))) (path : String) :=
      let lines := (task.content task.disk path).map fun s => (linesOf s).1
      if isInput path ∧ ¬ options.has 's' then (known.1 + 1, lines.map (dealt inputs · known.1) :: known.2)
      else (known.1, lines :: known.2)
    let texts := (paths.foldl content (0, [])).2.reverse
    match (paths.zip texts).findSome? fun known => match known.2 with
      | .error e => some (known.1, e)
      | .ok _ => none with
    | some (path, e) => task.failed (plainProblem path e) 1
    | none =>
      let texts := texts.map fun known => (known.toOption.getD [])
      let rows := if options.has 's' then texts
        else linesAbreast ((texts.map List.length).foldl max 0 + 1) texts
      { task.said (withEnds (rows.map (joinedInTurn delimiters 0))) with tookInput := took }

/-- The column behind a character. -/
def columnAfter (bytes : Bool) (column : Nat) (c : Char) : Nat :=
  if bytes then column + 1
  else if c = '\x08' then column - 1
  else if c = '\r' then 0
  else if c = '\t' then column + 8 - column % 8
  else column + 1

/-- The width of a text. -/
def widthOf (bytes : Bool) (s : List Char) : Nat :=
  s.foldl (columnAfter bytes) 0

/-- A line broken into parts of a width, with one unit of fuel for each part; `atBlanks` says that a part ends
behind a blank if there is one. -/
def folded (bytes atBlanks : Bool) (width : Nat) : Nat → List Char → List (List Char)
  | 0, s => [s]
  | fuel + 1, s =>
    let fitting := (List.range (s.length + 1)).filter fun n => widthOf bytes (s.take n) ≤ width
    let count := max 1 (fitting.foldl max 0)
    if s.length ≤ count then [s]
    else
      let part := s.take count
      let kept := (part.reverse.dropWhile fun c => c != ' ' && c != '\t').length
      let count := if atBlanks ∧ 0 < kept then kept else count
      s.take count :: folded bytes atBlanks width fuel (s.drop count)

/-- Breaks long lines. -/
def fold : Utility :=
  Known.utility {
    plain := "bs", valued := "w", long := [("bytes", 'b'), ("spaces", 's'), ("width", 'w')] } 1 fun task options =>
    match digitsOf? ((options.value? 'w').getD "80") with
    | none =>
      let text := (options.value? 'w').getD ""
      task.failed s!"invalid number of columns: '{text}'" 1
    | some 0 => task.failed "invalid number of columns: '0': Numerical result out of range" 1
    | some width =>
      let step (done : Done) (_ : String) (content : String) : Done :=
        let (lines, ended) := linesOf content
        let parts (line : String) : String :=
          "\n".intercalate ((folded (options.has 'b') (options.has 's') width (line.length + 1) line.toList).map
            String.ofList)
        let lines := lines.map parts
        done.say (if ended then withEnds lines else "\n".intercalate lines)
      task.overFiles options.words 1 plainProblem step

/-- A line with blanks in place of tabs. -/
def withoutTabs (width : Nat) (s : List Char) : List Char :=
  (s.foldl (fun (known : List Char × Nat) c =>
    let (done, column) := known
    if c = '\t' then
      let gap := width - column % width
      (List.replicate gap ' ' ++ done, column + gap)
    else (c :: done, column + 1)) ([], 0)).1.reverse

/-- Puts blanks in place of tabs. -/
def expand : Utility :=
  Known.utility { plain := "i", valued := "t", long := [("tabs", 't')] } 1 fun task options =>
    match digitsOf? ((options.value? 't').getD "8") with
    | none =>
      let text := (options.value? 't').getD ""
      task.failed s!"tab size contains invalid character(s): '{text}'" 1
    | some 0 => task.failed "tab size cannot be 0" 1
    | some width =>
      let step (done : Done) (_ : String) (content : String) : Done :=
        let (lines, ended) := linesOf content
        let lines := lines.map fun line => String.ofList (withoutTabs width line.toList)
        done.say (if ended then withEnds lines else "\n".intercalate lines)
      task.overFiles options.words 1 plainProblem step

end UiCheck.Rehearsal.Shell
