import UiCheck.Number.Binary64
import UiCheck.Rehearsal.Shell.Arithmetic
import UiCheck.Rehearsal.Shell.Octets

/-! # Formats

A format is a text with directives, each of which takes an argument and says how it is written: as a text, a
whole number in some radix, or a number with decimals. It is used again as long as there are arguments; where
they are missing, nothing and zero stand in.
-/

namespace UiCheck.Rehearsal.Shell

open Number

/-- How a directive lays out what it writes. -/
structure Directive where
  /-- The text stands at the left. -/
  left : Bool := false
  plus : Bool := false
  blank : Bool := false
  zeros : Bool := false
  /-- The radix is shown. -/
  alternate : Bool := false
  width : Nat := 0
  precision : Option Nat := none
  deriving DecidableEq, Inhabited, Repr

/-- A text with blanks up to the width. -/
def Directive.pad (directive : Directive) (s : List Char) : List Char :=
  let fill := List.replicate (directive.width - s.length) ' '
  if directive.left then s ++ fill else fill ++ s

/-- A number with its sign, and zeros up to the width if they are asked for. -/
def Directive.padNumber (directive : Directive) (sign body : List Char) : List Char :=
  if directive.zeros ∧ ¬ directive.left then
    sign ++ List.replicate (directive.width - sign.length - body.length) '0' ++ body
  else directive.pad (sign ++ body)

/-- The sign of a number. -/
def Directive.sign (directive : Directive) (negative : Bool) : List Char :=
  if negative then ['-'] else if directive.plus then ['+'] else if directive.blank then [' '] else []

/-- The digits of a number in a radix, at least as many as the precision asks for. -/
def Directive.digits (directive : Directive) (radix n : Nat) : List Char :=
  let digits := if n = 0 ∧ directive.precision = some 0 then [] else Nat.toDigits radix n
  List.replicate (directive.precision.getD 0 - digits.length) '0' ++ digits

/-- A whole number as a directive writes it. -/
def Directive.whole (directive : Directive) (kind : Char) (n : Int) : List Char :=
  let directive := if directive.precision.isSome then { directive with zeros := false } else directive
  let bits := (n % (Nat.pow 2 64 : Int)).toNat
  match kind with
  | 'd' | 'i' => directive.padNumber (directive.sign (n < 0)) (directive.digits 10 n.natAbs)
  | 'o' =>
    let digits := directive.digits 8 bits
    directive.padNumber [] (if directive.alternate ∧ digits.head? ≠ some '0' then '0' :: digits else digits)
  | 'x' =>
    directive.padNumber (if directive.alternate ∧ bits ≠ 0 then ['0', 'x'] else []) (directive.digits 16 bits)
  | 'X' =>
    directive.padNumber (if directive.alternate ∧ bits ≠ 0 then ['0', 'X'] else [])
      ((directive.digits 16 bits).map Char.toUpper)
  | _ => directive.padNumber [] (directive.digits 10 bits)

/-- The ratio of a mantissa and a power of two. -/
def ratioOf (mantissa : Nat) (exponent : Int) : Nat × Nat :=
  if 0 ≤ exponent then (mantissa * Nat.pow 2 exponent.toNat, 1) else (mantissa, Nat.pow 2 (-exponent).toNat)

/-- The digits of a ratio with so many decimal places. -/
def fixedDigits (num den places : Nat) : List Char :=
  let digits := Nat.toDigits 10 (roundDiv (num * Nat.pow 10 places) den)
  let digits := List.replicate (places + 1 - digits.length) '0' ++ digits
  let whole := digits.take (digits.length - places)
  if places = 0 then whole else whole ++ '.' :: digits.drop (digits.length - places)

/-- The power of ten of the first digit of a positive ratio, searched from a power downwards. -/
def firstPower (num den : Nat) : Nat → Int → Int
  | 0, power => power
  | fuel + 1, power =>
    let (n, d) := if 0 ≤ power then (num, den * Nat.pow 10 power.toNat) else (num * Nat.pow 10 (-power).toNat, den)
    if d ≤ n then power else firstPower num den fuel (power - 1)

/-- The digits of a positive ratio, so many of them, and the power of ten of the first one. -/
def scientificDigits (num den count : Nat) : List Char × Int :=
  let power := firstPower num den 700 330
  let scale : Int := (count : Int) - 1 - power
  let (n, d) := if 0 ≤ scale then (num * Nat.pow 10 scale.toNat, den) else (num, den * Nat.pow 10 (-scale).toNat)
  let digits := Nat.toDigits 10 (roundDiv n d)
  if digits.length > count then (digits.take count, power + 1) else (digits, power)

/-- A power of ten as it stands behind digits. -/
def powerText (mark : Char) (power : Int) : List Char :=
  let digits := Nat.toDigits 10 power.natAbs
  mark :: (if power < 0 then '-' else '+') :: (if digits.length < 2 then '0' :: digits else digits)

/-- Digits with a point behind the first one. -/
def pointed (digits : List Char) : List Char :=
  match digits with
  | d :: e :: rest => d :: '.' :: e :: rest
  | _ => digits

/-- Decimals without zeros at their end. -/
def withoutZeros (s : List Char) : List Char :=
  if s.contains '.' then
    match s.reverse.dropWhile (· == '0') with
    | '.' :: rest => rest.reverse
    | rest => rest.reverse
  else s

/-- A ratio with a power of ten. -/
def scientific (mark : Char) (num den places : Nat) : List Char :=
  let (digits, power) :=
    if num = 0 then (List.replicate (places + 1) '0', 0) else scientificDigits num den (places + 1)
  pointed digits ++ powerText mark power

/-- A ratio with a number of digits that count, in the shorter of two ways. -/
def general (mark : Char) (alternate : Bool) (num den count : Nat) : List Char :=
  let count := max count 1
  let strip (s : List Char) : List Char := if alternate then s else withoutZeros s
  let (digits, power) := if num = 0 then (List.replicate count '0', 0) else scientificDigits num den count
  if -4 ≤ power ∧ power < count then strip (fixedDigits num den ((count : Int) - 1 - power).toNat)
  else strip (pointed digits) ++ powerText mark power

/-- A ratio as a directive for decimals writes it. -/
def Directive.ratio (directive : Directive) (kind : Char) (negative : Bool) (num den : Nat) : List Char :=
  let places := directive.precision.getD 6
  let body := match kind with
    | 'f' | 'F' => fixedDigits num den places
    | 'e' => scientific 'e' num den places
    | 'E' => scientific 'E' num den places
    | 'G' => general 'E' directive.alternate num den places
    | _ => general 'e' directive.alternate num den places
  directive.padNumber (directive.sign negative) body

/-- A number with decimals as a directive writes it. -/
def Directive.decimal (directive : Directive) (kind : Char) (x : Binary64) : List Char :=
  let words (s : String) : List Char := if kind.isUpper then s.toList.map Char.toUpper else s.toList
  match x.denotation with
  | .notANumber => directive.pad (words "nan")
  | .infinite negative => directive.pad (directive.sign negative ++ words "inf")
  | .finite negative mantissa exponent =>
    let (num, den) := ratioOf mantissa exponent
    directive.ratio kind negative num den

/-- A format at work. -/
structure Printing where
  /-- What has been written, in reverse order. -/
  done : List Char := []
  arguments : List String
  /-- Some argument was used. -/
  used : Bool := false
  /-- What was wrong with arguments, latest first. -/
  problems : List String := []
  /-- Nothing more is to be written. -/
  stopped : Bool := false
  /-- Why the format itself cannot be used. -/
  failure : Option String := none
  deriving Inhabited

namespace Printing

/-- Writes characters. -/
def write (state : Printing) (s : List Char) : Printing :=
  { state with done := s.reverse ++ state.done }

/-- Takes an argument. -/
def argument (state : Printing) : Option String × Printing :=
  match state.arguments with
  | [] => (none, state)
  | first :: rest => (some first, { state with arguments := rest, used := true })

/-- Notes that something is wrong with an argument. -/
def complain (state : Printing) (text problem : String) : Printing :=
  { state with problems := s!"{text}: {problem}" :: state.problems }

/-- The code of the character behind a quote at the start of an argument. -/
def quotedCode? (text : String) : Option Nat :=
  match text.toList with
  | '\'' :: rest | '"' :: rest => some ((rest.head?.map Char.toNat).getD 0)
  | _ => none

/-- Notes what is left of an argument behind a number. -/
def checkRest (state : Printing) (text : String) (body rest : List Char) : Printing :=
  if rest.isEmpty then state
  else if rest.length = body.length then state.complain text "expected numeric value"
  else state.complain text "not completely converted"

/-- The sign and the digits of a number behind blanks. -/
def signed (s : List Char) : Bool × List Char :=
  match s.dropWhile fun c => " \t\n\x0b\x0c\r".toList.contains c with
  | '-' :: rest => (true, rest)
  | '+' :: rest => (false, rest)
  | rest => (false, rest)

/-- Takes an argument as a whole number. -/
def number (state : Printing) (signedKind : Bool) : Int × Printing :=
  match state.argument with
  | (none, state) => (0, state)
  | (some text, state) =>
    match quotedCode? text with
    | some code => (code, state)
    | none =>
      let (negative, digits) := signed text.toList
      let (exact, rest) :=
        if digits.head?.any Char.isDigit then
          match digits with
          | '0' :: 'x' :: rest | '0' :: 'X' :: rest =>
            match numeral 16 rest with
            | (n, after) => if after.length < rest.length then (n, after) else (0, digits.tail)
          | '0' :: _ => numeral 8 digits
          | _ => numeral 10 digits
        else (0, text.toList)
      let state := state.checkRest text text.toList rest
      let limit := if signedKind then greatest + (if negative then 1 else 0) else Nat.pow 2 64 - 1
      let state := if limit < exact then state.complain text "Numerical result out of range" else state
      let n := min exact limit
      (if negative then -(n : Int) else n, state)

/-- The number with decimals at the start of a text, and what follows it. -/
def readDecimal (s : List Char) : Binary64 × List Char :=
  let (negative, body) := signed s
  let whole := body.takeWhile Char.isDigit
  let after := body.drop whole.length
  let (fraction, rest) := match after with
    | '.' :: more => (more.takeWhile Char.isDigit, more.dropWhile Char.isDigit)
    | _ => ([], after)
  if whole.isEmpty ∧ fraction.isEmpty then (Binary64.ofRatio false 0 1, s)
  else
    let (power, rest) := match rest with
      | e :: more =>
        if e = 'e' ∨ e = 'E' then
          let (down, digits) := signed more
          let count := (digits.takeWhile Char.isDigit).length
          if count = 0 then ((0 : Int), rest)
          else
            let n : Nat := min (numeral 10 digits).1 5000
            (if down then -(n : Int) else n, digits.drop count)
        else (0, rest)
      | [] => (0, rest)
    let digits := (numeral 10 (whole ++ fraction)).1
    let power := power - fraction.length
    let (num, den) := if 0 ≤ power then (digits * Nat.pow 10 power.toNat, 1) else (digits, Nat.pow 10 (-power).toNat)
    (Binary64.ofRatio negative num den, rest)

/-- Takes an argument as a number with decimals. -/
def decimal (state : Printing) : Binary64 × Printing :=
  match state.argument with
  | (none, state) => (Binary64.ofRatio false 0 1, state)
  | (some text, state) =>
    match quotedCode? text with
    | some code => (Binary64.ofRatio false code 1, state)
    | none =>
      let (x, rest) := readDecimal text.toList
      (x, state.checkRest text text.toList rest)

/-- Reads the flags of a directive. -/
def flags (directive : Directive) : List Char → Directive × List Char
  | '-' :: rest => flags { directive with left := true } rest
  | '+' :: rest => flags { directive with plus := true } rest
  | ' ' :: rest => flags { directive with blank := true } rest
  | '0' :: rest => flags { directive with zeros := true } rest
  | '#' :: rest => flags { directive with alternate := true } rest
  | rest => (directive, rest)

/-- Reads the width of a directive, which may be an argument. -/
def width (state : Printing) (directive : Directive) (s : List Char) : Printing × Directive × List Char :=
  match s with
  | '*' :: rest =>
    let (n, state) := state.number true
    (state, { directive with width := n.natAbs, left := directive.left || n < 0 }, rest)
  | _ =>
    let (n, rest) := numeral 10 s
    (state, { directive with width := min n 100000 }, rest)

/-- Reads the precision of a directive, which may be an argument. -/
def precision (state : Printing) (directive : Directive) (s : List Char) : Printing × Directive × List Char :=
  match s with
  | '.' :: '*' :: rest =>
    let (n, state) := state.number true
    (state, { directive with precision := if n < 0 then none else some n.toNat }, rest)
  | '.' :: rest =>
    let (n, rest) := numeral 10 rest
    (state, { directive with precision := some (min n 100000) }, rest)
  | _ => (state, directive, s)

/-- Writes what one directive asks for, if there is such a directive. -/
def obey? (state : Printing) (directive : Directive) (kind : Char) : Option Printing :=
  let cut (s : List Char) : List Char := match directive.precision with
    | some n => s.take n
    | none => s
  match kind with
  | 'd' | 'i' =>
    let (n, state) := state.number true
    some (state.write (directive.whole kind n))
  | 'o' | 'u' | 'x' | 'X' =>
    let (n, state) := state.number false
    some (state.write (directive.whole kind n))
  | 's' =>
    let (text, state) := state.argument
    some (state.write (directive.pad (cut (text.getD "").toList)))
  | 'c' =>
    let (text, state) := state.argument
    some (state.write (directive.pad [((text.getD "").toList.head?).getD (Char.ofNat 0)]))
  | 'b' =>
    let (text, state) := state.argument
    let (octets, stopped) := unescaped (text.getD "")
    some { state.write (directive.pad (cut octets.toList)) with stopped }
  | 'e' | 'E' | 'f' | 'F' | 'g' | 'G' =>
    let (x, state) := state.decimal
    some (state.write (directive.decimal kind x))
  | _ => none

/-- Follows a format once, with one unit of fuel for each character. -/
def follow : Nat → Printing → List Char → Printing
  | 0, state, _ => state
  | _, state, [] => state
  | fuel + 1, state, c :: rest =>
    if state.stopped || state.failure.isSome then state
    else if c = '\\' then
      let (octets, rest) := escaped false rest
      follow fuel (state.write octets) rest
    else if c ≠ '%' then follow fuel (state.write [c]) rest
    else if rest.head? = some '%' then follow fuel (state.write ['%']) rest.tail
    else
      let (directive, after) := flags {} rest
      let (state, directive, after) := state.width directive after
      let (state, directive, after) := state.precision directive after
      match after with
      | [] => { state with failure := some "missing format character" }
      | kind :: after =>
        match state.obey? directive kind with
        | some state => follow fuel state after
        | none =>
          let spelling := String.ofList ('%' :: rest.take (rest.length - after.length))
          { state with failure := some s!"{spelling}: invalid directive" }

/-- Follows a format as long as it uses arguments and some are left. -/
def followAll : Nat → Printing → List Char → Printing
  | 0, state, _ => state
  | fuel + 1, state, source =>
    let state := follow source.length { state with used := false } source
    if state.stopped || state.failure.isSome || state.arguments.isEmpty || ! state.used then state
    else followAll fuel state source

end Printing

/-- What a format gives for arguments. -/
def printed (source : String) (arguments : List String) : Printing :=
  Printing.followAll (arguments.length + 1) { arguments } source.toList

end UiCheck.Rehearsal.Shell
