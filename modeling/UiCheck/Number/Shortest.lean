import UiCheck.Number.Binary64

/-! # Shortest decimal text

A finite number is written with the fewest digits that read back as that number, and of these with the
digits nearest to it. The candidates on a decimal grid are the two grid points beside the number. How
the digits are laid out is a `Layout`.
-/

namespace UiCheck.Number

/-- The power of ten of the leading digit of the positive ratio `num / den`, searched upwards or
downwards in at most `fuel` steps. -/
def leadingPower (num den : Nat) : Nat → Int → Int
  | 0, guess => guess
  | fuel + 1, guess =>
    let reaches :=
      if 0 ≤ guess then den * Nat.pow 10 guess.toNat ≤ num else den ≤ num * Nat.pow 10 (-guess).toNat
    let passes :=
      if 0 ≤ guess + 1 then den * Nat.pow 10 (guess + 1).toNat ≤ num
      else den ≤ num * Nat.pow 10 (-(guess + 1)).toNat
    if ! reaches then leadingPower num den fuel (guess - 1)
    else if passes then leadingPower num den fuel (guess + 1)
    else guess

/-- The real numbers that round to a given one: both ends over one denominator, and whether the ends
belong to them. -/
structure Rounding where
  low : Nat
  value : Nat
  high : Nat
  den : Nat
  closed : Bool

/-- The numbers that round to `mantissa * 2 ^ exponent`. Below a power of two the grid is twice as
fine. -/
def roundingOf (mantissa : Nat) (exponent : Int) : Rounding :=
  let below := if mantissa = Nat.pow 2 52 ∧ -1074 < exponent then 1 else 2
  let (unit, den) :=
    if 0 ≤ exponent then (Nat.pow 2 exponent.toNat, 4) else (1, 4 * Nat.pow 2 (-exponent).toNat)
  { low := (4 * mantissa - below) * unit, value := 4 * mantissa * unit,
    high := (4 * mantissa + 2) * unit, den, closed := mantissa % 2 == 0 }

/-- The grid point `point * 10 ^ power` rounds to the given number. -/
def Rounding.holds (r : Rounding) (point : Nat) (power : Int) : Bool :=
  let (p, d) := if 0 ≤ power then (point * Nat.pow 10 power.toNat, 1) else (point, Nat.pow 10 (-power).toNat)
  let left := r.low * d
  let right := r.high * d
  let here := p * r.den
  if r.closed then left ≤ here && here ≤ right else left < here && here < right

/-- The best grid point at one power of ten, if one of the two neighbours rounds to the number. -/
def Rounding.onGrid? (r : Rounding) (power : Int) : Option Nat :=
  let (n, d) :=
    if 0 ≤ power then (r.value, r.den * Nat.pow 10 power.toNat)
    else (r.value * Nat.pow 10 (-power).toNat, r.den)
  let floor := n / d
  let nearer := if 2 * (n % d) ≤ d then floor else floor + 1
  let farther := if nearer = floor then floor + 1 else floor
  if r.holds nearer power then some nearer else if r.holds farther power then some farther else none

/-- The first grid, from coarse to fine, with a point that rounds to the number. -/
def Rounding.search (r : Rounding) : Nat → Int → Nat × Int
  | 0, power => ((r.onGrid? power).getD 0, power)
  | fuel + 1, power =>
    match r.onGrid? power with
    | some point => (point, power)
    | none => Rounding.search r fuel (power - 1)

/-- The shortest digits of a positive `mantissa * 2 ^ exponent`, and the power of ten of the first
one. -/
def shortestDigits (mantissa : Nat) (exponent : Int) : List Char × Int :=
  let r := roundingOf mantissa exponent
  let lead := leadingPower r.value r.den 800 0
  let (point, power) := r.search 17 lead
  let digits := Nat.toDigits 10 point
  (((digits.reverse.dropWhile (· == '0')).reverse), power + digits.length - 1)

/-- How the digits of a number are laid out. -/
structure Layout where
  /-- Powers of the leading digit from which and up to which the point is written in place. -/
  lowest : Int
  highest : Int
  /-- A positive exponent carries a plus sign. -/
  plus : Bool

/-- The text of an exponent. -/
def Layout.exponent (layout : Layout) (power : Int) : List Char :=
  let sign := if power < 0 then ['-'] else if layout.plus then ['+'] else []
  'e' :: sign ++ Nat.toDigits 10 power.natAbs

/-- The text of a finite number. A whole number keeps one zero behind the point. -/
def Layout.write (layout : Layout) (negative : Bool) (mantissa : Nat) (exponent : Int) : List Char :=
  let sign := if negative then ['-'] else []
  if mantissa = 0 then sign ++ ['0', '.', '0']
  else
    let (digits, lead) := shortestDigits mantissa exponent
    if lead < layout.lowest ∨ layout.highest < lead then
      match digits with
      | [] => sign
      | [d] => sign ++ d :: layout.exponent lead
      | d :: more => sign ++ d :: '.' :: more ++ layout.exponent lead
    else if lead < 0 then sign ++ '0' :: '.' :: List.replicate (-lead - 1).toNat '0' ++ digits
    else
      let whole := lead.toNat + 1
      let padded := digits ++ List.replicate (whole - digits.length) '0'
      let fraction := padded.drop whole
      sign ++ padded.take whole ++ '.' :: (if fraction.isEmpty then ['0'] else fraction)

/-- The text of a number with one place behind the point; a tie goes to the even digit. -/
def oneDecimalPlace (num den : Nat) : List Char :=
  let tenths := roundDiv (10 * num) den
  Nat.toDigits 10 (tenths / 10) ++ '.' :: Nat.toDigits 10 (tenths % 10)

end UiCheck.Number
