import UiCheck.Rehearsal.Shell.Format
import UiCheck.Rehearsal.Shell.Utility.Basic

/-! # Rows of numbers

Numbers from one to another at equal distances, each on a line. Numbers are decimals of any size, so none of
them is rounded.
-/

namespace UiCheck.Rehearsal.Shell

/-- A decimal as it was written. -/
structure Decimal where
  negative : Bool := false
  /-- The digits without the point. -/
  units : Nat
  /-- The number of digits behind the point. -/
  places : Nat := 0
  /-- The room that the number takes. -/
  width : Nat := 0
  deriving DecidableEq, Inhabited, Repr

/-- What a text says in a row of numbers. -/
inductive Bound where
  | decimal (d : Decimal)
  | infinite (negative : Bool)
  | notANumber
  deriving DecidableEq, Inhabited, Repr

/-- The digits of a decimal behind its sign. -/
def Decimal.digits (d : Decimal) (places : Nat) : List Char :=
  fixedDigits d.units (Nat.pow 10 d.places) places

/-- The power of ten that stands behind digits; nothing stands for one. -/
def powerOfTen? (s : List Char) : Option Int :=
  match s with
  | [] => some 0
  | e :: rest =>
    let (negative, digits) := Printing.signed rest
    if (e = 'e' ∨ e = 'E') ∧ ¬ digits.isEmpty ∧ digits.all Char.isDigit then
      let n : Nat := min (numeral 10 digits).1 5000
      some (if negative then -(n : Int) else n)
    else none

/-- The decimal that digits write, with a point among them and a power of ten behind them. -/
def decimalOf? (negative : Bool) (body : List Char) : Option Decimal :=
  let whole := body.takeWhile Char.isDigit
  let behind := body.drop whole.length
  let pointed := behind.head? == some '.'
  let fraction := if pointed then behind.tail.takeWhile Char.isDigit else []
  let rest := if pointed then behind.tail.drop fraction.length else behind
  match powerOfTen? rest with
  | none => none
  | some power =>
    if whole.isEmpty ∧ fraction.isEmpty then none
    else
      let places : Int := fraction.length - power
      let units := (numeral 10 (whole ++ fraction)).1 * Nat.pow 10 (-places).toNat
      let d : Decimal := { negative, units, places := places.toNat }
      let sign := if negative then 1 else 0
      let point := if fraction.isEmpty then 0 else 1
      let width :=
        if rest.isEmpty then max whole.length 1 + point + fraction.length else (d.digits d.places).length
      some { d with width := sign + width }

/-- What a text says. -/
def bound? (s : String) : Option Bound :=
  let (negative, body) := Printing.signed s.toList
  let lower := body.map Char.toLower
  if lower = "inf".toList ∨ lower = "infinity".toList then some (.infinite negative)
  else if lower = "nan".toList then some .notANumber
  else
    match lower with
    | '0' :: 'x' :: digits =>
      let (n, rest) := numeral 16 digits
      if digits.isEmpty ∨ ! rest.isEmpty then none else some (.decimal { negative, units := n })
    | _ => (decimalOf? negative body).map .decimal

/-- A decimal in units of so many places, which are enough for it. -/
def Decimal.scaled (d : Decimal) (places : Nat) : Int :=
  let n : Int := d.units * Nat.pow 10 (places - d.places)
  if d.negative then -n else n

/-- A row of numbers in units of so many places; one without an end is cut off. -/
structure Row where
  first : Int
  step : Int
  last : Option Int
  places : Nat
  deriving Inhabited

/-- The most numbers of a row that are written. -/
def longestRow : Nat := 1000000

/-- How many numbers the row has. -/
def Row.length (row : Row) : Nat :=
  match row.last with
  | none => 65536
  | some last =>
    let distance := if row.step < 0 then row.first - last else last - row.first
    if distance < 0 then 0 else min (distance.toNat / row.step.natAbs + 1) longestRow

/-- How a number of a row is written: what stands before and behind it, and how it is laid out. -/
structure NumberStyle where
  before : String := ""
  directive : Directive
  kind : Char := 'f'
  behind : String := ""
  deriving Inhabited

/-- The numbers of a row as they are written. The first one keeps its sign even if it is zero. -/
def Row.texts (row : Row) (style : NumberStyle) (negative : Bool) : List String :=
  (List.range row.length).map fun (i : Nat) =>
    let n := row.first + i * row.step
    let below := n < 0 || (i == 0 && n == 0 && negative)
    let digits := style.directive.ratio style.kind below n.natAbs (Nat.pow 10 row.places)
    style.before ++ String.ofList digits ++ style.behind

/-- The text before a directive, with two signs standing for one, and what follows it. -/
def untilDirective : List Char → List Char → List Char × List Char
  | '%' :: '%' :: rest, done => untilDirective rest ('%' :: done)
  | '%' :: rest, done => (done.reverse, '%' :: rest)
  | c :: rest, done => untilDirective rest (c :: done)
  | [], done => (done.reverse, [])

/-- The way of writing numbers that a format gives. -/
def numberStyle (format : String) : Except String NumberStyle :=
  let (before, rest) := untilDirective format.toList []
  match rest with
  | [] => .error s!"format '{format}' has no % directive"
  | _ :: rest =>
    let (directive, rest) := Printing.flags {} (rest.filter (· != '\''))
    let (width, rest) := numeral 10 rest
    let (precision, rest) := match rest with
      | '.' :: rest =>
        let (n, rest) := numeral 10 rest
        (some n, rest)
      | _ => (none, rest)
    match (if rest.head? = some 'L' then rest.tail else rest) with
    | [] => .error s!"format '{format}' ends in %"
    | kind :: rest =>
      if ¬ "efgEFG".toList.contains kind then .error s!"format '{format}' has unknown %{kind} directive"
      else
        let (behind, more) := untilDirective rest []
        if ¬ more.isEmpty then .error s!"format '{format}' has too many % directives"
        else
          let directive := { directive with width, precision }
          .ok { before := String.ofList before, directive, kind, behind := String.ofList behind }

/-- The row that the bounds give: the first number, the distance and the last one. -/
def rowOfBounds (first step : Decimal) (last : Bound) : Row :=
  let ending : Nat := match last with
    | .decimal d => d.places
    | _ => 0
  let places := max (max first.places step.places) ending
  let end? : Option Int := match last with
    | .decimal d => some (d.scaled places)
    | .infinite true => some (min (first.scaled places) (step.scaled places) - 1)
    | _ => none
  let upwards := ! step.negative
  let end? := if last = .infinite true ∧ ! upwards then none
    else if last = .infinite false ∧ ! upwards then some (first.scaled places + 1) else end?
  { first := first.scaled places, step := step.scaled places, last := end?, places }

/-- The directive for numbers that take as many places as the first one and the distance need; where all take
the same room, zeros fill it. -/
def rowDirective (first step : Decimal) (last : Bound) (equal : Bool) : Directive :=
  let places := max first.places step.places
  let room (d : Decimal) : Nat :=
    d.width + (places - d.places) + (if d.places = 0 ∧ 0 < places then 1 else 0)
      - (if 0 < d.places ∧ places = 0 then d.places + 1 else d.places - places)
  match equal, last with
  | true, .decimal last =>
    { zeros := true, width := max (room first) (room last), precision := some places }
  | _, _ => { precision := some places }

/-- The options of a row; a number below zero is none of them. -/
def rowOptions : Known :=
  { plain := "w", valued := "fs", anywhere := false
    long := [("equal-width", 'w'), ("format", 'f'), ("separator", 's')] }

/-- The arguments with a mark before the first number, so that its sign starts no option. -/
def markNumber (arguments : List String) : List String :=
  match arguments with
  | [] => []
  | first :: rest =>
    match first.toList with
    | '-' :: d :: _ =>
      if d.isDigit ∨ d = '.' then "--" :: arguments
      else if first = "-s" ∨ first = "-f" then
        match rest with
        | value :: rest => first :: value :: markNumber rest
        | [] => arguments
      else first :: markNumber rest
    | _ => arguments

/-- Writes a row of numbers. -/
def seq : Utility := fun task =>
  match rowOptions.read (markNumber task.arguments) with
  | .error e => task.misused e 1
  | .ok options =>
    let setting : Except Done (Row × NumberStyle × Bool) := do
      if options.words.isEmpty then throw (task.misused "missing operand" 1)
      match options.words[3]? with
      | some word => throw (task.misused s!"extra operand '{word}'" 1)
      | none => pure ()
      let style ← match options.value? 'f' with
        | none => pure none
        | some format => (some <$> numberStyle format).mapError fun e => task.failed e 1
      if style.isSome ∧ options.has 'w' then
        throw (task.misused "format string may not be specified when printing equal width strings" 1)
      let bound (word : String) : Except Done Bound :=
        match bound? word with
        | none => throw (task.misused s!"invalid floating point argument: '{word}'" 1)
        | some .notANumber => throw (task.misused s!"invalid 'not-a-number' argument: '{word}'" 1)
        | some found => pure found
      let bounds ← options.words.mapM bound
      let one : Decimal := { units := 1, width := 1 }
      let finite (b : Bound) : Decimal := match b with
        | .decimal d => d
        | _ => one
      let (first, step, last) := match bounds with
        | [last] => (one, one, last)
        | [first, last] => (finite first, one, last)
        | first :: step :: last :: _ => (finite first, finite step, last)
        | [] => (one, one, .notANumber)
      if step.units = 0 then
        let word := options.words[1]?.getD ""
        throw (task.misused s!"invalid Zero increment value: '{word}'" 1)
      let plain : NumberStyle := { directive := rowDirective first step last (options.has 'w') }
      return (rowOfBounds first step last, style.getD plain, first.negative)
    match setting with
    | .error done => done
    | .ok (row, style, negative) =>
      let texts := row.texts style negative
      if texts.isEmpty then task.start
      else task.said (((options.value? 's').getD "\n").intercalate texts ++ "\n")

/-- Writes a line again and again; it is cut off where nobody reads on. -/
def yes : Utility := fun task =>
  let line := (if task.arguments.isEmpty then "y" else " ".intercalate task.arguments) ++ "\n"
  task.said (String.join (List.replicate (131072 / line.length + 1) line))

end UiCheck.Rehearsal.Shell
