/-! # Digits

Natural numbers from and to digits of a radix up to thirty-six. Only the digits and letters of the
Latin script count.
-/

namespace UiCheck.Number

/-- The value of one digit: `0` to `9`, then the letters in either case. -/
def digitValue? (c : Char) : Option Nat :=
  if '0' ≤ c ∧ c ≤ '9' then some (c.toNat - '0'.toNat)
  else if 'a' ≤ c ∧ c ≤ 'z' then some (c.toNat - 'a'.toNat + 10)
  else if 'A' ≤ c ∧ c ≤ 'Z' then some (c.toNat - 'A'.toNat + 10)
  else none

/-- Reads further digits behind the number `value`. -/
def readDigits? (radix value : Nat) : List Char → Option Nat
  | [] => some value
  | c :: rest =>
    match digitValue? c with
    | some digit => if digit < radix then readDigits? radix (value * radix + digit) rest else none
    | none => none

/-- The number that a non-empty run of digits denotes. -/
def ofDigits? (radix : Nat) (digits : List Char) : Option Nat :=
  if digits.isEmpty then none else readDigits? radix 0 digits

/-- The number that a non-empty run of digits denotes, with an optional plus sign, below `bound`. -/
def unsigned? (radix bound : Nat) (text : List Char) : Option Nat :=
  let digits := match text with
    | '+' :: rest => rest
    | _ => text
  (ofDigits? radix digits).filter (· < bound)

/-- The number that digits with an optional sign denote, if it lies in `-bound` to `bound - 1`. -/
def signed? (radix bound : Nat) (text : List Char) : Option Int :=
  match text with
  | '-' :: digits => ((ofDigits? radix digits).filter (· ≤ bound)).map fun n => -(n : Int)
  | _ => (unsigned? radix bound text).map fun n => (n : Int)

/-- The bound of 16-bit words. -/
def word16 : Nat := Nat.pow 2 16

/-- The bound of 32-bit words. -/
def word32 : Nat := Nat.pow 2 32

/-- The bound of 64-bit words. -/
def word64 : Nat := Nat.pow 2 64

end UiCheck.Number
