import UiCheck.Rehearsal.Shell.Utility.Basic

/-! # Utilities for lines in order

Lines are put in order by keys, which are parts of them. Runs of lines that are the same are told once, and the
lines of two files in order are told side by side.
-/

namespace UiCheck.Rehearsal.Shell

open Files

/-- How the texts of a key are compared. -/
structure Comparison where
  reverse : Bool := false
  numeric : Bool := false
  /-- Numbers with an exponent. -/
  general : Bool := false
  /-- Numbers with a letter for their size. -/
  sized : Bool := false
  month : Bool := false
  /-- Runs of digits count as numbers. -/
  version : Bool := false
  foldCase : Bool := false
  /-- Only blanks, letters and digits count. -/
  dictionary : Bool := false
  /-- Only characters that can be printed count. -/
  printable : Bool := false
  deriving DecidableEq, Inhabited, Repr

/-- A comparison with what a letter asks for. -/
def Comparison.with? (known : Comparison) : Char → Option Comparison
  | 'r' => some { known with reverse := true }
  | 'n' => some { known with numeric := true }
  | 'g' => some { known with general := true }
  | 'h' => some { known with sized := true }
  | 'M' => some { known with month := true }
  | 'V' => some { known with version := true }
  | 'f' => some { known with foldCase := true }
  | 'd' => some { known with dictionary := true }
  | 'i' => some { known with printable := true }
  | _ => none

/-- A part of a line by which lines are put in order; counts are of what is left out before it. -/
structure SortKey where
  startField : Nat := 0
  startChar : Nat := 0
  skipsStart : Bool := false
  /-- The field at which the key ends, and how many characters of it belong to the key; without any the whole
  field does. -/
  finish : Option (Nat × Nat) := none
  skipsFinish : Bool := false
  /-- How it is compared, if that is said with the key. -/
  comparison : Comparison := {}
  deriving DecidableEq, Inhabited, Repr

/-- A blank between fields. -/
def isFieldBlank (c : Char) : Bool :=
  c == ' ' || c == '\t' || c == '\n'

/-- What is left of a line behind a number of fields. -/
def behindFields (separator : Option Char) : Nat → List Char → List Char
  | 0, s => s
  | count + 1, s =>
    match separator with
    | some c => behindFields separator count ((s.dropWhile (· != c)).drop 1)
    | none => behindFields separator count ((s.dropWhile isFieldBlank).dropWhile fun c => ! isFieldBlank c)

/-- What is left of a line behind a key. -/
def behindKey (separator : Option Char) (field chars : Nat) (skips : Bool) (s : List Char) : List Char :=
  if chars = 0 then
    match separator with
    | some c =>
      -- The separator behind the last field does not belong to it.
      (behindFields separator field s).dropWhile (· != c)
    | none => behindFields none (field + 1) s
  else
    let rest := behindFields separator field s
    (if skips then rest.dropWhile isFieldBlank else rest).drop chars

/-- The text of a key. -/
def SortKey.text (key : SortKey) (separator : Option Char) (line : List Char) : List Char :=
  let start := behindFields separator key.startField line
  let start := (if key.skipsStart then start.dropWhile isFieldBlank else start).drop key.startChar
  match key.finish with
  | none => start
  | some (field, chars) =>
    let rest := behindKey separator field chars key.skipsFinish line
    start.take (start.length - rest.length)

/-- The order of two texts of octets. -/
def compareTexts : List Char → List Char → Ordering
  | [], [] => .eq
  | [], _ :: _ => .lt
  | _ :: _, [] => .gt
  | a :: as, b :: bs => (compare a b).then (compareTexts as bs)

/-- A number as it starts a text: whether it is negative, the digits before the point, and those behind it. -/
structure LeadingNumber where
  negative : Bool
  whole : List Char
  part : List Char
  rest : List Char
  deriving DecidableEq, Inhabited, Repr

/-- The number at the start of a text; zeros that do not count are left out. -/
def LeadingNumber.ofChars (s : List Char) : LeadingNumber :=
  let s := s.dropWhile isFieldBlank
  let (negative, s) := match s with
    | '-' :: rest => (true, rest)
    | _ => (false, s)
  let digits := s.takeWhile Char.isDigit
  let (part, rest) := match s.drop digits.length with
    | '.' :: rest => (rest.takeWhile Char.isDigit, rest.dropWhile Char.isDigit)
    | rest => ([], rest)
  let whole := digits.dropWhile (· == '0')
  let part := (part.reverse.dropWhile (· == '0')).reverse
  { negative := negative && ! (whole.isEmpty && part.isEmpty), whole, part, rest }

/-- The order of two numbers that are not negative. -/
def LeadingNumber.compareSizes (a b : LeadingNumber) : Ordering :=
  ((compare a.whole.length b.whole.length).then (compareTexts a.whole b.whole)).then (compareTexts a.part b.part)

/-- The order of two numbers. -/
def LeadingNumber.order (a b : LeadingNumber) : Ordering :=
  match a.negative, b.negative with
  | false, false => a.compareSizes b
  | true, true => b.compareSizes a
  | true, false => .lt
  | false, true => .gt

/-- The rank of the letter for a size behind a number; nothing has no size. -/
def LeadingNumber.rank (a : LeadingNumber) : Nat :=
  if a.whole.isEmpty ∧ a.part.isEmpty then 0
  else
    match a.rest.head? with
    | some 'k' => 1
    | some c => (("KMGTPEZYRQ".toList.findIdx? (· == c)).map (· + 1)).getD 0
    | none => 0

/-- The order of two numbers with letters for their sizes. -/
def LeadingNumber.orderSized (a b : LeadingNumber) : Ordering :=
  match a.negative, b.negative with
  | false, false => (compare a.rank b.rank).then (a.compareSizes b)
  | true, true => (compare b.rank a.rank).then (b.compareSizes a)
  | true, false => .lt
  | false, true => .gt

/-- The number at the start of a text as a whole number and a power of ten, if there is one. -/
def generalNumber? (s : List Char) : Option (Int × Int) :=
  let s := s.dropWhile isFieldBlank
  let (negative, s) := match s with
    | '-' :: rest => (true, rest)
    | '+' :: rest => (false, rest)
    | _ => (false, s)
  let digits := s.takeWhile Char.isDigit
  let (part, rest) := match s.drop digits.length with
    | '.' :: rest => (rest.takeWhile Char.isDigit, rest.dropWhile Char.isDigit)
    | rest => ([], rest)
  match digitsOf? (String.ofList (digits ++ part)) with
  | none => none
  | some n =>
    let power : Int := match rest with
      | e :: rest =>
        if e = 'e' ∨ e = 'E' then
          let (down, rest) := match rest with
            | '-' :: rest => (true, rest)
            | '+' :: rest => (false, rest)
            | _ => (false, rest)
          let size : Int := (digitsOf? (String.ofList (rest.takeWhile Char.isDigit))).getD 0
          if down then -size else size
        else 0
      | [] => 0
    some (if negative then -n else n, power - part.length)

/-- The order of two numbers with exponents; what is no number comes first. -/
def compareGeneral (a b : List Char) : Ordering :=
  match generalNumber? a, generalNumber? b with
  | none, none => .eq
  | none, some _ => .lt
  | some _, none => .gt
  | some (m, p), some (n, q) =>
    let low := min p q
    -- Exponents beyond the range of numbers are cut, so that the powers stay small.
    compare (m * Nat.pow 10 (min (p - low) 700).toNat) (n * Nat.pow 10 (min (q - low) 700).toNat)

/-- The number of the month that a text starts with; nothing else is one. -/
def monthOf (s : List Char) : Nat :=
  let name := String.ofList ((s.dropWhile isFieldBlank).take 3 |>.map Char.toUpper)
  ((["JAN", "FEB", "MAR", "APR", "MAY", "JUN", "JUL", "AUG", "SEP", "OCT", "NOV", "DEC"].findIdx? (· == name)).map
    (· + 1)).getD 0

/-- The place of a character in the order of versions. -/
def versionRank (c : Char) : Int :=
  if c = '~' then -1 else if c.isAlpha then c.toNat else c.toNat + 256

/-- The order of what stands before the next digit of two versions, and what is left of both. -/
def compareLetters : List Char → List Char → Ordering × List Char × List Char
  | [], [] => (.eq, [], [])
  | a :: as, [] => if a.isDigit then (.eq, a :: as, []) else (compare (versionRank a) 0, a :: as, [])
  | [], b :: bs => if b.isDigit then (.eq, [], b :: bs) else (compare 0 (versionRank b), [], b :: bs)
  | a :: as, b :: bs =>
    match a.isDigit, b.isDigit with
    | true, true => (.eq, a :: as, b :: bs)
    | true, false => (compare 0 (versionRank b), a :: as, b :: bs)
    | false, true => (compare (versionRank a) 0, a :: as, b :: bs)
    | false, false =>
      match compare (versionRank a) (versionRank b) with
      | .eq => compareLetters as bs
      | order => (order, as, bs)

/-- The order of two versions, with one unit of fuel for each run of letters and digits. -/
def compareVersions : Nat → List Char → List Char → Ordering
  | 0, _, _ => .eq
  | fuel + 1, a, b =>
    if a.isEmpty && b.isEmpty then .eq
    else
      match compareLetters a b with
      | (.eq, a, b) =>
        let m := (a.takeWhile Char.isDigit).dropWhile (· == '0')
        let n := (b.takeWhile Char.isDigit).dropWhile (· == '0')
        ((compare m.length n.length).then (compareTexts m n)).then
          (compareVersions fuel (a.dropWhile Char.isDigit) (b.dropWhile Char.isDigit))
      | (order, _, _) => order

/-- The characters of a text that count. -/
def Comparison.counting (known : Comparison) (s : List Char) : List Char :=
  let s := if known.dictionary then s.filter fun c => isFieldBlank c || c.isAlphanum
    else if known.printable then s.filter fun c => 32 ≤ c.toNat && c.toNat < 127 else s
  if known.foldCase then s.map Char.toUpper else s

/-- The order of two texts. -/
def Comparison.order (known : Comparison) (a b : List Char) : Ordering :=
  let order :=
    if known.numeric then (LeadingNumber.ofChars a).order (LeadingNumber.ofChars b)
    else if known.general then compareGeneral a b
    else if known.sized then (LeadingNumber.ofChars a).orderSized (LeadingNumber.ofChars b)
    else if known.month then compare (monthOf a) (monthOf b)
    else if known.version then compareVersions (a.length + b.length + 1) a b
    else compareTexts (known.counting a) (known.counting b)
  if known.reverse then order.swap else order

/-- How lines are put in order. -/
structure LineOrder where
  keys : List SortKey
  separator : Option Char
  /-- How whole lines are compared in the end. -/
  reverse : Bool
  /-- Lines with the same keys stay as they are. -/
  stable : Bool
  deriving Inhabited

/-- The order of two lines by their keys. -/
def LineOrder.byKeys (order : LineOrder) (a b : String) : Ordering :=
  order.keys.foldl (fun known key =>
    known.then (key.comparison.order (key.text order.separator a.toList) (key.text order.separator b.toList))) .eq

/-- The order of two lines; without keys whole lines are compared. -/
def LineOrder.of (order : LineOrder) (a b : String) : Ordering :=
  let whole := compareTexts a.toList b.toList
  let whole := if order.reverse then whole.swap else whole
  if order.keys.isEmpty then whole
  else (order.byKeys a b).then (if order.stable then .eq else whole)

/-- A number in the text of a key, and what follows it. -/
def keyNumber (s : List Char) : Option Nat × List Char :=
  (digitsOf? (String.ofList (s.takeWhile Char.isDigit)), s.dropWhile Char.isDigit)

/-- Reads the letters behind a position of a key; `b` leaves out blanks. -/
def keyLetters : Comparison → Bool → List Char → Option (Comparison × Bool × List Char)
  | known, _, 'b' :: rest => keyLetters known true rest
  | known, skips, c :: rest =>
    match known.with? c with
    | some known => keyLetters known skips rest
    | none => if c = ',' then some (known, skips, c :: rest) else none
  | known, skips, [] => some (known, skips, [])

/-- Reads a key; otherwise says what is wrong. -/
def sortKey (text : String) : Except String SortKey :=
  let invalid (why : String) : Except String SortKey := .error s!"{why}: invalid field specification '{text}'"
  match keyNumber text.toList with
  | (none, _) => .error s!"invalid number at field start: invalid count at start of '{text}'"
  | (some 0, _) => .error s!"field number is zero: invalid field specification '{text}'"
  | (some field, rest) =>
    let (chars, rest) := match rest with
      | '.' :: rest => keyNumber rest
      | rest => (some 1, rest)
    match chars with
    | none => invalid "invalid number after '.'"
    | some 0 => invalid "character offset is zero"
    | some char =>
      match keyLetters {} false rest with
      | none => invalid "stray character in field spec"
      | some (comparison, skipsStart, rest) =>
        let key : SortKey := { startField := field - 1, startChar := char - 1, skipsStart, comparison }
        match rest with
        | ',' :: rest =>
          match keyNumber rest with
          | (none, rest) => .error s!"invalid number after ',': invalid count at start of '{String.ofList rest}'"
          | (some 0, _) => invalid "field number is zero"
          | (some field, rest) =>
            let (chars, rest) := match rest with
              | '.' :: rest => keyNumber rest
              | rest => (some 0, rest)
            match chars, keyLetters comparison false rest with
            | some chars, some (comparison, skipsFinish, []) =>
              .ok { key with finish := some (field - 1, chars), skipsFinish, comparison }
            | none, _ => invalid "invalid number after '.'"
            | _, _ => invalid "stray character in field spec"
        | _ => .ok key

/-- Leaves out lines that compare as the line before them. -/
def withoutRepeats (same : String → String → Bool) : List String → List String
  | a :: b :: rest => if same a b then withoutRepeats same (a :: rest) else a :: withoutRepeats same (b :: rest)
  | rest => rest
termination_by lines => lines.length

/-- The first line that is not in order, and its number. -/
def disorder? (fine : String → String → Bool) : Nat → List String → Option (Nat × String)
  | n, a :: b :: rest => if fine a b then disorder? fine (n + 1) (b :: rest) else some (n + 1, b)
  | _, _ => none

/-- The way in which lines are to be put in order. -/
def lineOrder (options : Options) : Except String LineOrder := do
  let general := options.flags.foldl (fun (known : Comparison) option => (known.with? option.1).getD known) {}
  let keys ← (options.flags.filter (·.1 == 'k')).mapM fun option => sortKey option.2
  -- A key that says nothing about itself is compared as all lines are.
  let keys := keys.map fun key =>
    if key.comparison = {} ∧ ¬ key.skipsStart ∧ ¬ key.skipsFinish then
      { key with comparison := general, skipsStart := options.has 'b', skipsFinish := options.has 'b' }
    else key
  let keys := if keys.isEmpty ∧ (general ≠ { reverse := general.reverse } ∨ options.has 'b') then
      [{ comparison := general, skipsStart := options.has 'b', skipsFinish := options.has 'b' }]
    else keys
  let separator ← match options.value? 't' with
    | none => pure none
    | some text =>
      match text.toList with
      | [c] => pure (some c)
      | ['\\', '0'] => pure (some (Char.ofNat 0))
      | [] => .error "empty tab"
      | _ => .error s!"multi-character tab '{text}'"
  return { keys, separator, reverse := general.reverse, stable := options.hasAny "su" }

/-- Puts lines in order, or tells the first one that is not. -/
def sort : Utility :=
  Known.utility {
    plain := "bdfginhMVrRcCmsuz", valued := "kotST"
    long := [("key", 'k'), ("reverse", 'r'), ("numeric-sort", 'n'), ("unique", 'u'), ("field-separator", 't'),
      ("output", 'o'), ("ignore-case", 'f'), ("stable", 's'), ("general-numeric-sort", 'g'),
      ("human-numeric-sort", 'h'), ("version-sort", 'V'), ("month-sort", 'M'), ("ignore-leading-blanks", 'b'),
      ("dictionary-order", 'd'), ("check", 'c'), ("merge", 'm'), ("zero-terminated", 'z')] } 2 fun task options =>
    match lineOrder options with
    | .error message => task.failed message 2
    | .ok order =>
      let paths := if options.words.isEmpty then ["-"] else options.words
      let zero := options.has 'z'
      let content (path : String) : Except (String × IoError) (List String) :=
        match task.content task.disk path with
        | .ok content => .ok (linesEndedBy zero content)
        | .error e => .error (path, e)
      match paths.mapM content with
      | .error (path, e) =>
        if e = .isDirectory then task.failed s!"read failed: {path}: {e.reason}" 2
        else task.failed s!"cannot read: {path}: {e.reason}" 2
      | .ok texts =>
        let lines := texts.flatten
        let took := paths.any isInput
        if options.hasAny "cC" then
          let fine (a b : String) : Bool :=
            if options.has 'u' then order.of a b == .lt else order.of a b != .gt
          match disorder? fine 1 lines with
          | none => { task.start with tookInput := took }
          | some (n, line) =>
            let done := { task.start with status := 1, tookInput := took }
            let path := paths.headD "-"
            if options.has 'C' then done else done.report s!"{task.name}: {path}:{n}: disorder: {line}\n"
        else
          let fine (a b : String) : Bool := order.of a b != .gt
          let sorted := if options.has 'm' then texts.foldl (List.merge · · fine) [] else lines.mergeSort fine
          let sorted := if options.has 'u' then
              withoutRepeats (fun a b => order.of a b == .eq) sorted
            else sorted
          let mark := if zero then "\x00" else "\n"
          let text := String.join (sorted.map (· ++ mark))
          match options.value? 'o' with
          | none => { task.said text with tookInput := took }
          | some path =>
            match task.disk.write (textOf path) (bytesOf text) with
            | .ok disk => { task.start with disk, tookInput := took }
            | .error e => task.failed s!"open failed: {path}: {e.reason}" 2

/-- A count right before a line. -/
def countedLine (count : Nat) (line : String) : String :=
  let digits := toString count
  String.ofList (List.replicate (7 - digits.length) ' ') ++ digits ++ " " ++ line

/-- Lines in runs of those that are the same, latest run first, with the first line of each and its length. -/
def runsOf (same : String → String → Bool) (lines : List String) : List (List String) :=
  lines.foldl (fun known line =>
    match known with
    | (first :: run) :: rest => if same first line then (first :: run ++ [line]) :: rest else [line] :: known
    | _ => [line] :: known) []

/-- Writes each run of the same lines once. -/
def uniq : Utility :=
  Known.utility {
    plain := "cdDuiz", valued := "fsw"
    long := [("count", 'c'), ("repeated", 'd'), ("unique", 'u'), ("ignore-case", 'i'), ("skip-fields", 'f'),
      ("skip-chars", 's'), ("check-chars", 'w'), ("zero-terminated", 'z'), ("all-repeated", 'D')] } 1 fun task options =>
    let number (c : Char) : Nat := ((options.value? c).bind digitsOf?).getD 0
    match options.words with
    | _ :: _ :: extra :: _ => task.misused s!"extra operand '{extra}'" 1
    | words =>
      let path := words.headD "-"
      match task.content task.disk path with
      | .error e =>
        if e = .isDirectory then task.failed s!"error reading '{path}': {e.reason}" 1
        else task.failed (plainProblem path e) 1
      | .ok content =>
        let part (line : String) : List Char :=
          let rest := (behindFields none (number 'f') line.toList).drop (number 's')
          let rest := if options.has 'w' then rest.take (number 'w') else rest
          if options.has 'i' then rest.map Char.toUpper else rest
        let runs := (runsOf (fun a b => part a == part b) (linesEndedBy (options.has 'z') content)).reverse
        let shown (run : List String) : List String :=
          let line := run.headD ""
          if options.has 'D' then if 1 < run.length then run else []
          else if options.has 'd' && run.length ≤ 1 then []
          else if options.has 'u' && 1 < run.length then []
          else [if options.has 'c' then countedLine run.length line else line]
        let mark := if options.has 'z' then "\x00" else "\n"
        let text := String.join ((runs.flatMap shown).map (· ++ mark))
        let took := isInput path
        match words with
        | [_, target] =>
          match task.disk.write (textOf target) (bytesOf text) with
          | .ok disk => { task.start with disk, tookInput := took }
          | .error e => task.failed (plainProblem target e) 1
        | _ => { task.said text with tookInput := took }

/-- Two lists of lines in order, each line with the column that it belongs to. -/
def sideBySide : List String → List String → List (Nat × String)
  | [], bs => bs.map fun b => (2, b)
  | a :: as, bs =>
    let before := bs.takeWhile fun b => compareTexts b.toList a.toList == .lt
    let rest := bs.drop before.length
    before.map (fun b => (2, b)) ++
      (if rest.head? == some a then (3, a) :: sideBySide as rest.tail else (1, a) :: sideBySide as rest)

/-- Tells which lines of two files in order are in one of them or in both. -/
def comm : Utility :=
  Known.utility { plain := "123z" } 1 fun task options =>
    match options.words with
    | [] => task.misused "missing operand" 1
    | [path] => task.misused s!"missing operand after '{path}'" 1
    | [left, right] =>
      match task.content task.disk left, task.content task.disk right with
      | .error e, _ => task.failed (plainProblem left e) 1
      | _, .error e => task.failed (plainProblem right e) 1
      | .ok a, .ok b =>
        let shows (column : Nat) : Bool := ! options.has (Char.ofNat ('0'.toNat + column))
        let line (known : Nat × String) : String :=
          let before := (List.range known.1).filter fun column => 0 < column && shows column
          if shows known.1 then String.ofList (List.replicate before.length '\t') ++ known.2 ++ "\n" else ""
        { task.said (String.join ((sideBySide (linesOf a).1 (linesOf b).1).map line)) with
          tookInput := isInput left || isInput right }
    | _ :: _ :: extra :: _ => task.misused s!"extra operand '{extra}'" 1

end UiCheck.Rehearsal.Shell
