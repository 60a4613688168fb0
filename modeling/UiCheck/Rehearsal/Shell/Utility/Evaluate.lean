import UiCheck.Rehearsal.Shell.Regex.Reader
import UiCheck.Rehearsal.Shell.Utility.Basic

/-! # Expressions of arguments

Each argument is a value or an operator. Operators bind in six levels; those of one level are taken from the left.
A value counts as a number where the operator asks for one.
-/

namespace UiCheck.Rehearsal.Shell

/-- A value of an expression. -/
inductive Operand where
  | whole (n : Int)
  | text (s : String)
  deriving DecidableEq, Inhabited, Repr

namespace Operand

/-- The value as it is written. -/
def shown : Operand → String
  | .whole n => toString n
  | .text s => s

/-- The number that the value is. -/
def number? : Operand → Option Int
  | .whole n => some n
  | .text s =>
    match s.toList with
    | '-' :: rest => (digitsOf? (String.ofList rest)).map fun n => -(n : Int)
    | _ => (digitsOf? s).map fun n => (n : Int)

/-- The value counts as false: it is empty or zero. -/
def isFalse : Operand → Bool
  | .whole n => n == 0
  | .text s =>
    let digits := if s.startsWith "-" then s.toList.tail else s.toList
    s.isEmpty || (! digits.isEmpty && digits.all (· == '0'))

/-- A number for a truth value. -/
def ofBool (b : Bool) : Operand :=
  .whole (if b then 1 else 0)

end Operand

/-- Arguments that are being read, and the one before them. -/
structure ExpressionSource where
  rest : List String
  last : String := ""
  deriving Inhabited

/-- A step that reads an expression. -/
abbrev ExpressionReading := EStateM String ExpressionSource

namespace ExpressionReading

/-- Takes the next argument if it is one of those given. -/
def take? (words : List String) : ExpressionReading (Option String) := do
  match (← get).rest with
  | first :: rest =>
    if words.contains first then
      set { rest, last := first : ExpressionSource }
      return some first
    else return none
  | [] => return none

/-- Takes the next argument, which must be there. -/
def next : ExpressionReading String := do
  let source ← get
  match source.rest with
  | first :: rest =>
    set { rest, last := first : ExpressionSource }
    return first
  | [] => throw s!"syntax error: missing argument after '{source.last}'"

/-- The part of a text that an expression fits at its start: its length, or what the first group holds. -/
def fitted (value pattern : Operand) : ExpressionReading Operand :=
  match Regex.ofText { extended := false } pattern.shown with
  | .error e => throw e.message
  | .ok r =>
    let text := Subject.ofString false value.shown
    let grouped := 0 < r.groups
    match r.longestAt? text 0 with
    | none => return if grouped then .text "" else .whole 0
    | some found =>
      if grouped then
        match found.captures.lookup 1 with
        | some (start, finish) => return .text (String.ofList (text.chars.extract start finish).toList)
        | none => return .text ""
      else return .whole found.finish

/-- The operators of each level, those that bind least first. -/
def operators : Nat → List String
  | 0 => ["|"]
  | 1 => ["&"]
  | 2 => ["<", "<=", "=", "==", "!=", ">=", ">"]
  | 3 => ["+", "-"]
  | 4 => ["*", "/", "%"]
  | 5 => [":"]
  | _ => []

/-- The octets of one text come before those of another one. -/
def comesBefore (s t : String) : Bool :=
  s.toList.map Char.toNat < t.toList.map Char.toNat

/-- Compares two values, as numbers if both are. -/
def compared (operator : String) (a b : Operand) : Operand :=
  let order : Ordering := match a.number?, b.number? with
    | some x, some y => compare x y
    | _, _ =>
      if comesBefore a.shown b.shown then .lt else if comesBefore b.shown a.shown then .gt else .eq
  .ofBool (match operator with
    | "<" => order == .lt
    | "<=" => order != .gt
    | "=" | "==" => order == .eq
    | "!=" => order != .eq
    | ">=" => order != .lt
    | _ => order == .gt)

/-- Computes with two numbers. -/
def computed (operator : String) (a b : Operand) : ExpressionReading Operand :=
  match a.number?, b.number? with
  | some x, some y =>
    match operator with
    | "+" => return .whole (x + y)
    | "-" => return .whole (x - y)
    | "*" => return .whole (x * y)
    | _ =>
      if y = 0 then throw "division by zero"
      else return .whole (if operator = "/" then x.tdiv y else x.tmod y)
  | _, _ => throw "non-integer argument"

/-- Applies an operator; where `live` is false nothing is computed that could go wrong. -/
def apply (operator : String) (live : Bool) (a b : Operand) : ExpressionReading Operand :=
  match operator with
  | "|" => return if ! a.isFalse then a else if b.isFalse then .whole 0 else b
  | "&" => return if a.isFalse || b.isFalse then .whole 0 else a
  | ":" => if live then fitted a b else return a
  | "+" | "-" | "*" | "/" | "%" => if live then computed operator a b else return a
  | _ => return compared operator a b

/-- What stands right of an operator matters. -/
def matters (operator : String) (a : Operand) : Bool :=
  match operator with
  | "|" => a.isFalse
  | "&" => ! a.isFalse
  | _ => true

/-- A part of a text: its first place counts as one. -/
def partOf (s : String) (start count : Option Int) : String :=
  match start, count with
  | some start, some count =>
    if start < 1 ∨ count < 1 then ""
    else String.ofList ((s.toList.drop (start.toNat - 1)).take count.toNat)
  | _, _ => ""

/-- The first place of a text that holds one of several characters, or zero. -/
def firstPlace (s letters : String) : Nat :=
  match s.toList.findIdx? letters.toList.contains with
  | some i => i + 1
  | none => 0

mutual

/-- Reads a value in brackets, or an argument that is one. -/
def readValue : Nat → Bool → ExpressionReading Operand
  | 0, _ => throw "memory exhausted"
  | fuel + 1, live => do
    let word ← next
    match word with
    | "(" =>
      let value ← readLevel fuel 0 live
      let source ← get
      match source.rest with
      | ")" :: _ =>
        let _ ← next
        return value
      | [] => throw s!"syntax error: expecting ')' after '{source.last}'"
      | other :: _ => throw s!"syntax error: expecting ')' instead of '{other}'"
    | ")" => throw "syntax error: unexpected ')'"
    | _ => return .text word

/-- Reads what a word in front of its arguments asks for, or a value. -/
def readCall : Nat → Bool → ExpressionReading Operand
  | 0, _ => throw "memory exhausted"
  | fuel + 1, live => do
    match (← take? ["+", "length", "match", "index", "substr"]) with
    | none => readValue fuel live
    | some "+" => return .text (← next)
    | some "length" => return .whole (← readCall fuel live).shown.length
    | some "match" => do
      let value ← readCall fuel live
      let pattern ← readCall fuel live
      if live then fitted value pattern else return value
    | some "index" => do
      let value ← readCall fuel live
      return .whole (firstPlace value.shown (← readCall fuel live).shown)
    | some _ => do
      let value ← readCall fuel live
      let start ← readCall fuel live
      let count ← readCall fuel live
      return .text (partOf value.shown start.number? count.number?)

/-- Reads values with the operators of a level between them. -/
def readLevel : Nat → Nat → Bool → ExpressionReading Operand
  | 0, _, _ => throw "memory exhausted"
  | fuel + 1, level, live => do
    if 5 < level then readCall fuel live
    else readOperators fuel level live (← readLevel fuel (level + 1) live)

/-- Reads further operators of a level behind a value. -/
def readOperators : Nat → Nat → Bool → Operand → ExpressionReading Operand
  | 0, _, _, _ => throw "memory exhausted"
  | fuel + 1, level, live, known => do
    match (← take? (operators level)) with
    | none => return known
    | some operator =>
      let right := live && matters operator known
      let value ← readLevel fuel (level + 1) right
      let known ← apply operator live known value
      readOperators fuel level live known

end

/-- Reads an expression to the end of the arguments. -/
def readAll : ExpressionReading Operand := do
  let value ← readLevel (10 * (← get).rest.length + 20) 0 true
  match (← get).rest with
  | [] => return value
  | other :: _ => throw s!"syntax error: unexpected argument '{other}'"

end ExpressionReading

/-- Writes the value of an expression; the status tells whether it counts as false. -/
def expr : Utility := fun task =>
  let arguments := if task.arguments.head? = some "--" then task.arguments.tail else task.arguments
  if arguments.isEmpty then task.misused "missing operand" 2
  else
    match ExpressionReading.readAll.run { rest := arguments } with
    | .error e _ => task.failed e 2
    | .ok value _ => { task.said (value.shown ++ "\n") with status := if value.isFalse then 1 else 0 }

end UiCheck.Rehearsal.Shell
