import UiCheck.Rehearsal.Shell.Arithmetic
import UiCheck.Rehearsal.Shell.Process

/-! # Conditions

A condition compares texts or numbers or asks about a file, and conditions are put together by signs for "not",
"and", "or" and by parentheses. How many words there are decides what the words mean, so that a sign may also
stand for itself.
-/

namespace UiCheck.Rehearsal.Shell

open Files

/-- Why a condition has no answer. -/
inductive ConditionProblem where
  | unexpected (word : String)
  | missingOperand (sign : String)
  | missingClosing
  | notANumber (word : String)
  deriving DecidableEq, Inhabited, Repr

/-- The words for a problem. -/
def ConditionProblem.message : ConditionProblem → String
  | .unexpected word => s!"{word}: unexpected operator"
  | .missingOperand sign => s!"{sign}: argument expected"
  | .missingClosing => "closing paren expected"
  | .notANumber word => s!"Illegal number: {word}"

/-- The signs that ask about one word. -/
def unarySigns : List String :=
  ["-n", "-z", "-b", "-c", "-d", "-e", "-f", "-g", "-h", "-k", "-L", "-O", "-G", "-p", "-r", "-s", "-S", "-t",
    "-u", "-w", "-x"]

/-- The signs that compare two words. -/
def binarySigns : List String :=
  ["=", "!=", "<", ">", "-eq", "-ne", "-gt", "-ge", "-lt", "-le", "-nt", "-ot", "-ef"]

/-- What the sign asks holds of the word; `runnable` are the places of files that may be run. -/
def holdsOf (disk : Disk) (runnable : List (List String)) (sign word : String) : Bool :=
  let path := textOf word
  let node := disk.node path
  match sign with
  | "-n" => ! word.isEmpty
  | "-z" => word.isEmpty
  | "-e" | "-r" | "-w" => disk.exists? path || path == "/dev/null"
  | "-d" => disk.isDirectory path
  | "-x" =>
    match disk.locate true path with
    | .ok (.present _ (.directory _)) => true
    | .ok (.present names _) => runnable.contains names.reverse
    | _ => false
  | "-f" => (disk.read path).toOption.isSome
  | "-s" =>
    match node with
    | .ok (.file content) => 0 < content.size
    | .ok _ => true
    | .error _ => false
  | "-O" | "-G" => disk.exists? path
  | "-h" | "-L" =>
    match disk.locate false path with
    | .ok (.present _ (.link _)) => true
    | _ => false
  | "-c" => path == "/dev/null"
  | _ => false

/-- The number that a word of a condition denotes. -/
def operand (word : String) : Except ConditionProblem Int :=
  match wholeNumber? (some 10) false word with
  | some n => .ok n
  | none => .error (.notANumber word)

/-- The place that a path leads to. -/
def placeOf? (disk : Disk) (word : String) : Option (List String) :=
  match disk.locate true (textOf word) with
  | .ok (.present names _) => some names
  | _ => none

/-- Compares two words. -/
def compareWords (disk : Disk) (left sign right : String) : Except ConditionProblem Bool :=
  let numbers (f : Int → Int → Bool) : Except ConditionProblem Bool := do
    let a ← operand left
    let b ← operand right
    return f a b
  match sign with
  | "=" => .ok (left == right)
  | "!=" => .ok (left != right)
  | "<" => .ok (left < right)
  | ">" => .ok (right < left)
  | "-eq" => numbers (· == ·)
  | "-ne" => numbers (· != ·)
  | "-gt" => numbers fun a b => b < a
  | "-ge" => numbers fun a b => b ≤ a
  | "-lt" => numbers fun a b => a < b
  | "-le" => numbers fun a b => a ≤ b
  | "-ef" => .ok ((placeOf? disk left).isSome && placeOf? disk left == placeOf? disk right)
  | "-nt" => .ok (disk.exists? (textOf left) && ! disk.exists? (textOf right))
  | "-ot" => .ok (! disk.exists? (textOf left) && disk.exists? (textOf right))
  | _ => .error (.unexpected left)

/-- What a word means where it stands. -/
inductive Role where
  | finish
  | opening
  | closing
  | not
  | and
  | or
  /-- It asks about the next word. -/
  | unary
  /-- It compares the words around it. -/
  | binary
  | operand
  deriving DecidableEq, Inhabited, Repr

/-- What the first word means. A sign that could ask about the next word is only a word if that one compares,
or if there is none. -/
def roleOf (words : List String) : Role :=
  match words with
  | [] => .finish
  | word :: rest =>
    if word = "(" then if rest.isEmpty then .operand else .opening
    else if word = ")" then .closing
    else if word = "!" then .not
    else if word = "-a" then .and
    else if word = "-o" then .or
    else if binarySigns.contains word then .binary
    else if unarySigns.contains word then
      match rest with
      | [] => .operand
      | [_] => .unary
      | next :: _ :: _ => if binarySigns.contains next then .operand else .unary
    else .operand

/-- A step in judging words; the first of them is the one that the step is at. -/
abbrev Judging := EStateM ConditionProblem (List String)

namespace Judging

/-- Goes on to the next word. -/
def advance : Judging Unit :=
  modify List.tail

/-- What the next word means. -/
def nextRole : Judging Role :=
  return roleOf (← get).tail

/-- What the word means that the step is at. -/
def role : Judging Role :=
  return roleOf (← get)

/-- Compares the word with the one behind the next sign. -/
def compared (disk : Disk) : Judging Bool := do
  match (← get) with
  | left :: sign :: right :: rest =>
    set (right :: rest)
    match compareWords disk left sign right with
    | .ok b => return b
    | .error e => throw e
  | words => throw (.missingOperand (words.tail.headD ""))

mutual

/-- Conditions of which one has to hold. -/
def disjunction (disk : Disk) (runnable : List (List String)) : Nat → Judging Bool
  | 0 => return false
  | fuel + 1 => do
    let a ← conjunction disk runnable fuel
    if (← nextRole) = .or then
      advance
      advance
      let b ← disjunction disk runnable fuel
      return a || b
    else return a

/-- Conditions that all have to hold. -/
def conjunction (disk : Disk) (runnable : List (List String)) : Nat → Judging Bool
  | 0 => return false
  | fuel + 1 => do
    let a ← negation disk runnable fuel
    if (← nextRole) = .and then
      advance
      advance
      let b ← conjunction disk runnable fuel
      return a && b
    else return a

/-- A condition that may be turned around. -/
def negation (disk : Disk) (runnable : List (List String)) : Nat → Judging Bool
  | 0 => return false
  | fuel + 1 => do
    if (← role) = .not then
      advance
      return ! (← negation disk runnable fuel)
    else primary disk runnable fuel

/-- One condition. -/
def primary (disk : Disk) (runnable : List (List String)) : Nat → Judging Bool
  | 0 => return false
  | fuel + 1 => do
    let word := (← get).headD ""
    match (← role) with
    | .finish => return false
    | .opening =>
      advance
      if (← role) = .closing then return false
      else
        let b ← disjunction disk runnable fuel
        advance
        if (← role) = .closing then return b else throw .missingClosing
    | .unary =>
      advance
      return holdsOf disk runnable word ((← get).headD "")
    | _ => if (← nextRole) = .binary then compared disk else return ! word.isEmpty

end

end Judging

/-- The answer to a condition by the meaning of each word where it stands; no word may be left over. -/
def judgeInTurn (disk : Disk) (runnable : List (List String)) (words : List String) : Except ConditionProblem Bool :=
  match (Judging.disjunction disk runnable (8 * words.length + 8)).run words with
  | .ok _ (word :: _ :: _) => .error (.unexpected word)
  | .ok b _ => .ok b
  | .error e _ => .error e

/-- The answer to a condition. Of three words the one in the middle may compare; three or four words may stand
in parentheses, or the first of them turns the others around. -/
def judge (disk : Disk) (runnable : List (List String)) : List String → Except ConditionProblem Bool
  | [] => .ok false
  | [left, sign, right] =>
    if binarySigns.contains sign then compareWords disk left sign right
    else if left = "(" ∧ right = ")" then judgeInTurn disk runnable [sign]
    else if left = "!" then (judge disk runnable [sign, right]).map (! ·)
    else judgeInTurn disk runnable [left, sign, right]
  | [first, second, third, fourth] =>
    if first = "(" ∧ fourth = ")" then judgeInTurn disk runnable [second, third]
    else if first = "!" then (judge disk runnable [second, third, fourth]).map (! ·)
    else judgeInTurn disk runnable [first, second, third, fourth]
  | words => judgeInTurn disk runnable words

end UiCheck.Rehearsal.Shell
