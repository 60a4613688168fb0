import UiCheck.Rehearsal.Shell.Command

/-! # Sums

The value of an expression on whole numbers of 64 bits, which wrap around. Variables are read and set on the
way; a part that does not count for the result is read, but it neither sets a variable nor divides.
-/

namespace UiCheck.Rehearsal.Shell

/-- Why a text has no value as a sum. -/
inductive SumProblem where
  | expected (what : String)
  | divisionByZero
  /-- The value of a variable is no number. -/
  | notANumber (text : String)
  deriving DecidableEq, Inhabited, Repr

/-- The words for a problem with an expression. -/
def SumProblem.message (problem : SumProblem) (source : String) : String :=
  match problem with
  | .expected what => s!"arithmetic expression: expecting {what}: \"{source}\""
  | .divisionByZero => s!"arithmetic expression: division by zero: \"{source}\""
  | .notANumber text => s!"Illegal number: {text}"

/-- The number that a whole number becomes in 64 bits. -/
def wrapped (n : Int) : Int :=
  Int.bmod n (Nat.pow 2 64)

/-- The greatest number of 64 bits with a sign. -/
def greatest : Nat := Nat.pow 2 63 - 1

/-- A token of a sum. -/
inductive SumToken where
  | number (n : Nat)
  | name (s : String)
  | sign (s : String)
  deriving DecidableEq, Inhabited, Repr

/-- The signs, each before those that it starts with. -/
def sumSigns : List String :=
  ["<<=", ">>=", "<<", ">>", "<=", ">=", "==", "!=", "&&", "||", "*=", "/=", "%=", "+=", "-=", "&=", "^=", "|=",
    "=", "<", ">", "!", "&", "|", "*", "/", "%", "+", "-", "^", "~", "?", ":", "(", ")"]

/-- The value of digits of a radix at the start of a text, and what follows them. -/
def numeral (radix : Nat) (s : List Char) : Nat × List Char :=
  let value (c : Char) : Nat :=
    if c.isDigit then c.toNat - '0'.toNat
    else if 'a' ≤ c ∧ c ≤ 'z' then c.toNat - 'a'.toNat + 10
    else if 'A' ≤ c ∧ c ≤ 'Z' then c.toNat - 'A'.toNat + 10
    else radix
  let digits := s.takeWhile fun c => value c < radix
  (digits.foldl (fun n c => radix * n + value c) 0, s.drop digits.length)

/-- The number at the start of a text, in a radix that its first characters tell, and what follows it. A
number that is too great becomes the greatest one. -/
def readNumeral (s : List Char) : Nat × List Char :=
  let isHex (c : Char) : Bool := c.isDigit || 'a' ≤ c && c ≤ 'f' || 'A' ≤ c && c ≤ 'F'
  let (n, rest) := match s with
    | '0' :: x :: d :: rest =>
      if (x = 'x' ∨ x = 'X') ∧ isHex d then numeral 16 (d :: rest) else numeral 8 ('0' :: x :: d :: rest)
    | '0' :: rest => numeral 8 ('0' :: rest)
    | _ => numeral 10 s
  (min n greatest, rest)

/-- The number that a text denotes, with blanks around it; one of blanks denotes zero if `blankIsZero` says
so. -/
def wholeNumber? (radix : Option Nat) (blankIsZero : Bool) (text : String) : Option Int :=
  let isBlank (c : Char) : Bool := " \t\n\x0b\x0c\r".toList.contains c
  let body := text.toList.dropWhile isBlank
  if body.isEmpty then if blankIsZero then some 0 else none
  else
    let (negative, digits) := match body with
      | '-' :: digits => (true, digits)
      | '+' :: digits => (false, digits)
      | _ => (false, body)
    if ! digits.head?.any Char.isDigit then none
    else
      let (n, rest) := match radix with
        | some radix => numeral radix digits
        | none => readNumeral digits
      if rest.all isBlank then some (if negative then -(min n (greatest + 1) : Nat) else (min n greatest : Nat))
      else none

/-- The tokens of a sum. A character that has no place in one becomes a sign that fits nowhere. -/
def sumTokens : Nat → List Char → List SumToken
  | 0, _ => []
  | _, [] => []
  | fuel + 1, c :: rest =>
    if c = ' ' ∨ c = '\t' ∨ c = '\n' then sumTokens fuel rest
    else if c.isDigit then
      let (n, rest) := readNumeral (c :: rest)
      .number n :: sumTokens fuel rest
    else if startsName c then
      let (name, rest) := (c :: rest).span isNameChar
      .name (String.ofList name) :: sumTokens fuel rest
    else
      match sumSigns.find? fun sign => sign.toList.isPrefixOf (c :: rest) with
      | some sign => .sign sign :: sumTokens fuel ((c :: rest).drop sign.length)
      | none => .sign (String.singleton c) :: sumTokens fuel rest

/-- A sum in progress: what is left to read and the variables set so far, latest first. -/
structure Sum where
  rest : List SumToken
  settings : List (String × Int) := []
  deriving Inhabited

/-- A step in working out a sum. -/
abbrev Summing := EStateM SumProblem Sum

namespace Sum

/-- The variables as they are before the sum. -/
abbrev Values := String → String

/-- Passes the next token. -/
def pass : Summing Unit :=
  modify fun sum => { sum with rest := sum.rest.tail }

/-- Passes a sign if it is next. -/
def passIf (s : String) : Summing Bool := do
  if (← get).rest.head? = some (.sign s) then
    pass
    return true
  else return false

/-- The value of a variable. -/
def valueOf (values : Values) (name : String) : Summing Int := do
  match (← get).settings.lookup name with
  | some n => return n
  | none =>
    match wholeNumber? none true (values name) with
    | some n => return n
    | none => throw (.notANumber (values name))

/-- Sets a variable. -/
def assign (name : String) (n : Int) : Summing Int := do
  modify fun sum => { sum with settings := (name, n) :: sum.settings }
  return n

/-- The signs that join two numbers, by how tightly they do it: the lower, the tighter. -/
def rank? : String → Option Nat
  | "*" | "/" | "%" => some 0
  | "+" | "-" => some 1
  | "<<" | ">>" => some 2
  | "<" | "<=" | ">" | ">=" => some 3
  | "==" | "!=" => some 4
  | "&" => some 5
  | "^" => some 6
  | "|" => some 7
  | _ => none

/-- The number of a truth. -/
def truth (b : Bool) : Int :=
  if b then 1 else 0

/-- The bits of a number as a natural number. -/
def bits (n : Int) : Nat :=
  (n % (Nat.pow 2 64 : Int)).toNat

/-- What a sign gives for two numbers. -/
def apply (sign : String) (a b : Int) : Except SumProblem Int :=
  match sign with
  | "*" => .ok (wrapped (a * b))
  | "/" => if b = 0 then .error .divisionByZero else .ok (wrapped (a.tdiv b))
  | "%" => if b = 0 then .error .divisionByZero else .ok (a.tmod b)
  | "+" => .ok (wrapped (a + b))
  | "-" => .ok (wrapped (a - b))
  | "<<" => .ok (wrapped (a * Nat.pow 2 (bits b % 64)))
  | ">>" => .ok (a.fdiv (Nat.pow 2 (bits b % 64)))
  | "<" => .ok (truth (a < b))
  | "<=" => .ok (truth (a ≤ b))
  | ">" => .ok (truth (b < a))
  | ">=" => .ok (truth (b ≤ a))
  | "==" => .ok (truth (a = b))
  | "!=" => .ok (truth (a ≠ b))
  | "&" => .ok (wrapped (bits a &&& bits b : Nat))
  | "^" => .ok (wrapped (bits a ^^^ bits b : Nat))
  | "|" => .ok (wrapped (bits a ||| bits b : Nat))
  | _ => .ok b

/-- What a sign gives for two numbers where that counts; elsewhere the second number. -/
def applyIf (counts : Bool) (sign : String) (a b : Int) : Summing Int :=
  if counts then
    match apply sign a b with
    | .ok n => return n
    | .error e => throw e
  else return b

/-- The sign that joins numbers and comes next, if it is tighter than a rank. -/
def nextJoin? (below : Nat) : Summing (Option (String × Nat)) := do
  match (← get).rest.head? with
  | some (.sign s) => return ((rank? s).filter (· < below)).map fun rank => (s, rank)
  | _ => return none

/-- The sign of an assignment that comes next, without its equals sign. -/
def nextAssignment? : Summing (Option String) := do
  match (← get).rest.head? with
  | some (.sign "=") => return some ""
  | some (.sign s) =>
    return if ["*=", "/=", "%=", "+=", "-=", "<<=", ">>=", "&=", "^=", "|="].contains s then
      some (String.ofList s.toList.dropLast) else none
  | _ => return none

mutual

/-- A number, a variable, a sum in parentheses, or one of these behind signs. -/
def primary (values : Values) (counts : Bool) : Nat → Summing Int
  | 0 => throw (.expected "primary")
  | fuel + 1 => do
    match (← get).rest.head? with
    | some (.number n) =>
      pass
      return n
    | some (.name s) =>
      pass
      if counts then valueOf values s else return 0
    | some (.sign "(") =>
      pass
      let n ← assignment values counts fuel
      if ← passIf ")" then return n else throw (.expected "')'")
    | some (.sign "+") =>
      pass
      primary values counts fuel
    | some (.sign "-") =>
      pass
      return wrapped (-(← primary values counts fuel))
    | some (.sign "!") =>
      pass
      return truth ((← primary values counts fuel) = 0)
    | some (.sign "~") =>
      pass
      return -(← primary values counts fuel) - 1
    | _ => throw (.expected "primary")

/-- Numbers joined by signs that are tighter than a rank. -/
def joined (values : Values) (counts : Bool) : Nat → Nat → Summing Int
  | 0, _ => throw (.expected "primary")
  | fuel + 1, below => do
    let first ← primary values counts fuel
    joinedFrom values counts fuel below first

/-- What is joined to a number by signs that are tighter than a rank. -/
def joinedFrom (values : Values) (counts : Bool) : Nat → Nat → Int → Summing Int
  | 0, _, _ => throw (.expected "primary")
  | fuel + 1, below, a => do
    match (← nextJoin? below) with
    | some (sign, rank) =>
      pass
      let b ← joined values counts fuel rank
      joinedFrom values counts fuel below (← applyIf counts sign a b)
    | none => return a

/-- Numbers that all have to be true. -/
def conjunction (values : Values) (counts : Bool) : Nat → Summing Int
  | 0 => throw (.expected "primary")
  | fuel + 1 => do
    let a ← joined values counts fuel 8
    if ← passIf "&&" then
      let b ← conjunction values (counts && a ≠ 0) fuel
      return truth (a ≠ 0 ∧ b ≠ 0)
    else return a

/-- Numbers of which one has to be true. -/
def disjunction (values : Values) (counts : Bool) : Nat → Summing Int
  | 0 => throw (.expected "primary")
  | fuel + 1 => do
    let a ← conjunction values counts fuel
    if ← passIf "||" then
      let b ← disjunction values (counts && a = 0) fuel
      return truth (a ≠ 0 ∨ b ≠ 0)
    else return a

/-- One of two numbers, chosen by another. -/
def conditional (values : Values) (counts : Bool) : Nat → Summing Int
  | 0 => throw (.expected "primary")
  | fuel + 1 => do
    let a ← disjunction values counts fuel
    if ← passIf "?" then
      let b ← assignment values (counts && a ≠ 0) fuel
      if ← passIf ":" then
        let c ← conditional values (counts && a = 0) fuel
        return if a ≠ 0 then b else c
      else throw (.expected "':'")
    else return a

/-- A sum, which may set a variable. -/
def assignment (values : Values) (counts : Bool) : Nat → Summing Int
  | 0 => throw (.expected "primary")
  | fuel + 1 => do
    let start ← get
    match start.rest.head? with
    | some (.name name) =>
      pass
      match (← nextAssignment?) with
      | some sign =>
        pass
        let b ← assignment values counts fuel
        if ! counts then return b
        else if sign.isEmpty then assign name b
        else assign name (← applyIf true sign (← valueOf values name) b)
      | none =>
        set start
        conditional values counts fuel
    | _ => conditional values counts fuel

end

/-- The value of an expression and the variables that it sets, in the order in which it does so. -/
def evaluate (values : Values) (source : String) : Except SumProblem (Int × List (String × Int)) :=
  let tokens := sumTokens (source.length + 1) source.toList
  match (assignment values true (16 * tokens.length + 16)).run { rest := tokens } with
  | .ok n sum => if sum.rest.isEmpty then .ok (n, sum.settings.reverse) else .error (.expected "EOF")
  | .error e _ => .error e

end Sum

end UiCheck.Rehearsal.Shell
