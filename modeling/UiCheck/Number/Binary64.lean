import UiCheck.Number.Digits

/-! # Double precision numbers

A number in the binary format of sixty-four bits, kept as its bits. All roundings are to nearest, with a
tie to the even neighbour, and are computed in exact arithmetic of natural numbers.
-/

namespace UiCheck.Number

/-- The quotient to the nearest integer; a tie goes to the even one. -/
def roundDiv (num den : Nat) : Nat :=
  let quotient := num / den
  let twice := 2 * (num % den)
  if twice < den then quotient
  else if den < twice then quotient + 1
  else quotient + quotient % 2

/-- A number of the binary format of sixty-four bits. -/
structure Binary64 where
  /-- One bit of sign, eleven of exponent and fifty-two of fraction. -/
  bits : UInt64
  deriving DecidableEq, Inhabited, Repr

/-- What a number of the format denotes: a finite one is `mantissa * 2 ^ exponent`. -/
inductive Binary64.Denotation where
  | finite (negative : Bool) (mantissa : Nat) (exponent : Int)
  | infinite (negative : Bool)
  | notANumber

namespace Binary64

/-- The sign bit is set. -/
def isNegative (x : Binary64) : Bool :=
  Nat.pow 2 63 ≤ x.bits.toNat

/-- What the number denotes. -/
def denotation (x : Binary64) : Denotation :=
  let biased : Nat := x.bits.toNat / Nat.pow 2 52 % Nat.pow 2 11
  let fraction : Nat := x.bits.toNat % Nat.pow 2 52
  if biased == 2047 then
    if fraction == 0 then .infinite x.isNegative else .notANumber
  else if biased == 0 then .finite x.isNegative fraction (-1074)
  else .finite x.isNegative (Nat.pow 2 52 + fraction) (biased - 1075)

/-- Neither an infinity nor a non-number. -/
def isFinite (x : Binary64) : Bool :=
  match x.denotation with
  | .finite .. => true
  | _ => false

/-- Assembles a number from its sign and the other sixty-three bits. -/
def assemble (negative : Bool) (magnitude : Nat) : Binary64 :=
  ⟨UInt64.ofNat ((if negative then Nat.pow 2 63 else 0) + magnitude)⟩

/-- The infinity of a sign. -/
def infinity (negative : Bool) : Binary64 :=
  assemble negative (2047 * Nat.pow 2 52)

/-- The non-number without a sign. -/
def nan : Binary64 :=
  assemble false (2047 * Nat.pow 2 52 + Nat.pow 2 51)

/-- The ratio `num / den` in units of `2 ^ exponent`, as a pair of naturals. -/
def inUnits (num den : Nat) (exponent : Int) : Nat × Nat :=
  if 0 ≤ exponent then (num, den * Nat.pow 2 exponent.toNat) else (num * Nat.pow 2 (-exponent).toNat, den)

/-- The number nearest to `num / den`; beyond the range it is infinite. The denominator is
positive. -/
def ofRatio (negative : Bool) (num den : Nat) : Binary64 :=
  if num = 0 then assemble negative 0
  else
    let guess : Int := max ((num.log2 : Int) - (den.log2 : Int) - 52) (-1074)
    let (n, d) := inUnits num den guess
    let exponent := if n / d < Nat.pow 2 52 ∧ -1074 < guess then guess - 1 else guess
    let (n, d) := inUnits num den exponent
    let mantissa := roundDiv n d
    if mantissa < Nat.pow 2 52 then assemble negative mantissa
    else
      let biased := (exponent + 1075).toNat + (if mantissa = Nat.pow 2 53 then 1 else 0)
      if 2047 ≤ biased then infinity negative
      else assemble negative (biased * Nat.pow 2 52 + mantissa % Nat.pow 2 52)

/-- The number nearest to `mantissa * 10 ^ exponent`. -/
def ofDecimal (negative : Bool) (mantissa : Nat) (exponent : Int) : Binary64 :=
  let magnitude : Int := (Nat.toDigits 10 mantissa).length + exponent
  if mantissa = 0 ∨ magnitude < -400 then assemble negative 0
  else if 400 < magnitude then infinity negative
  else if 0 ≤ exponent then ofRatio negative (mantissa * Nat.pow 10 exponent.toNat) 1
  else ofRatio negative mantissa (Nat.pow 10 (-exponent).toNat)

/-- The number nearest to a natural number. -/
def ofNat (n : Nat) : Binary64 :=
  ofRatio false n 1

/-- A finite number as a sign and a ratio. -/
def ratio? (x : Binary64) : Option (Bool × Nat × Nat) :=
  match x.denotation with
  | .finite negative mantissa exponent =>
    if 0 ≤ exponent then some (negative, mantissa * Nat.pow 2 exponent.toNat, 1)
    else some (negative, mantissa, Nat.pow 2 (-exponent).toNat)
  | _ => none

/-- The product of two finite numbers, rounded. -/
def mul (x y : Binary64) : Binary64 :=
  match x.ratio?, y.ratio? with
  | some (s, n, d), some (t, m, e) => ofRatio (s != t) (n * m) (d * e)
  | _, _ => nan

/-- The quotient of two finite numbers, rounded; the divisor is not zero. -/
def div (x y : Binary64) : Binary64 :=
  match x.ratio?, y.ratio? with
  | some (s, n, d), some (t, m, e) => ofRatio (s != t) (n * e) (d * m)
  | _, _ => nan

/-- The two denote the same key of a mapping: equal numbers, whatever their bits, or two
non-numbers. -/
def sameKey (x y : Binary64) : Bool :=
  match x.denotation, y.denotation with
  | .notANumber, .notANumber => true
  | .notANumber, _ => false
  | .finite _ 0 _, .finite _ 0 _ => true
  | _, _ => x == y

end Binary64

/-- The value of a decimal text: digits with at most one point among or beside them, then possibly an
exponent. A leading sign is allowed. The answer is a sign, a mantissa and a power of ten. -/
def decimal? (text : List Char) : Option (Bool × Nat × Int) := do
  let (negative, body) := match text with
    | '-' :: rest => (true, rest)
    | '+' :: rest => (false, rest)
    | _ => (false, text)
  let whole := body.takeWhile Char.isDigit
  let rest := body.dropWhile Char.isDigit
  let (fraction, rest) := match rest with
    | '.' :: rest => (rest.takeWhile Char.isDigit, rest.dropWhile Char.isDigit)
    | _ => ([], rest)
  let mantissa ← ofDigits? 10 (whole ++ fraction)
  let exponent ← match rest with
    | [] => some 0
    | mark :: digits =>
      if mark = 'e' ∨ mark = 'E' then
        match digits with
        | '-' :: digits => (ofDigits? 10 digits).map fun n => -(n : Int)
        | '+' :: digits => (ofDigits? 10 digits).map fun n => (n : Int)
        | _ => (ofDigits? 10 digits).map fun n => (n : Int)
      else none
  return (negative, mantissa, exponent - fraction.length)

end UiCheck.Number
