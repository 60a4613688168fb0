import UiCheck.Rehearsal.Shell.Octets
import UiCheck.Rehearsal.Shell.Pattern
import UiCheck.Rehearsal.Shell.Utility.Basic

/-! # Translating characters

A set of characters is written as a text in which ranges, classes, repetitions and escapes stand for many.
Characters of one set become those at the same places of another one, or are left out.
-/

namespace UiCheck.Rehearsal.Shell

/-- A part of a set of characters. -/
inductive SetItem where
  | one (c : Char)
  /-- A class; `cased` tells the two classes that stand for each other apart. -/
  | many (name : String) (members : List Char)
  /-- A character as often as said, or as often as is needed. -/
  | repeated (c : Char) (count : Option Nat)
  deriving DecidableEq, Inhabited, Repr

/-- All characters there are. -/
def allChars : List Char :=
  (List.range 256).map Char.ofNat

/-- A character as messages show it. -/
def shownChar (c : Char) : String :=
  match c with
  | '\n' => "\\n"
  | '\t' => "\\t"
  | '\r' => "\\r"
  | '\\' => "\\\\"
  | c => String.singleton c

/-- The first character of a set, with an escape for it, and what follows it; escaped characters are told
apart. -/
def setChar? (s : List Char) : Option (Char × Bool × List Char) :=
  match s with
  | [] => none
  | '\\' :: rest =>
    match rest with
    | [] => some ('\\', true, [])
    | c :: rest =>
      if '0' ≤ c ∧ c ≤ '7' then
        let (value, after) := octal 3 0 (c :: rest)
        if value < 256 then some (Char.ofNat value, true, after)
        else
          let (value, after) := octal 2 0 (c :: rest)
          some (Char.ofNat value, true, after)
      else if c = 'e' then some ('e', true, rest)
      else some ((letterEscape? c).getD c, true, rest)
  | c :: rest => some (c, false, rest)

/-- The name between two marks behind a bracket, and what follows it. -/
def bracketed? (mark : Char) (s : List Char) : Option (List Char × List Char) :=
  let name := s.takeWhile (· != mark)
  match s.drop name.length with
  | m :: ']' :: rest => if m = mark then some (name, rest) else none
  | _ => none

/-- The part at the start of a set that stands in brackets, and what follows it. -/
def bracketItem? (s : List Char) : Option (Except String SetItem × List Char) :=
  match s with
  | '[' :: ':' :: rest =>
    (bracketed? ':' rest).map fun (name, rest) =>
      let text := String.ofList name
      if (inClass? text 'a').isSome then
        (.ok (.many text (allChars.filter fun c => (inClass? text c).getD false)), rest)
      else (.error s!"invalid character class '{text}'", rest)
  | '[' :: '=' :: rest =>
    (bracketed? '=' rest).map fun (name, rest) =>
      match name with
      | [c] => (.ok (.one c), rest)
      | [] => (.error "missing equivalence class character '[==]'", rest)
      | _ => (.error s!"{String.ofList name}: equivalence class operand must be a single character", rest)
  | '[' :: rest =>
    match setChar? rest with
    | some (c, _, '*' :: rest) =>
      let digits := rest.takeWhile fun d => d != ']'
      match rest.drop digits.length with
      | ']' :: rest =>
        if digits.isEmpty then some (.ok (.repeated c none), rest)
        else if digits.all Char.isDigit then
          let count := if digits.head? = some '0' then (octal digits.length 0 digits).1
            else (digitsOf? (String.ofList digits)).getD 0
          some (.ok (.repeated c (if count = 0 then none else some count)), rest)
        else
          some (.error s!"invalid repeat count '{String.ofList digits}' in [c*n] construct", rest)
      | _ => none
    | _ => none
  | _ => none

/-- Reads a set, with one unit of fuel for each character. -/
def setItems : Nat → List Char → Except String (List SetItem)
  | 0, _ => .ok []
  | fuel + 1, s =>
    match bracketItem? s with
    | some (item, rest) => do return (← item) :: (← setItems fuel rest)
    | none =>
      match setChar? s with
      | none => .ok []
      | some (c, _, '-' :: rest) =>
        match setChar? rest with
        | none => .ok [.one c, .one '-']
        | some (d, _, after) =>
          if d < c then
            .error s!"range-endpoints of '{shownChar c}-{shownChar d}' are in reverse collating sequence order"
          else do
            let members := allChars.filter fun x => c ≤ x && x ≤ d
            return members.map SetItem.one ++ (← setItems fuel after)
      | some (c, _, rest) => do return .one c :: (← setItems fuel rest)

/-- The characters of a set; what is repeated as often as is needed makes it `size` long. -/
def setChars (size : Nat) (items : List SetItem) : List Char :=
  let fixed := (items.map fun item => match item with
    | .one _ => 1
    | .many _ members => members.length
    | .repeated _ count => count.getD 0).foldl (· + ·) 0
  items.flatMap fun item =>
    match item with
    | .one c => [c]
    | .many _ members => members
    | .repeated c count => List.replicate (count.getD (size - fixed)) c

/-- Leaves out characters that follow one of the same kind. -/
def squeezed (set : List Char) : List Char → List Char
  | a :: b :: rest =>
    if a = b ∧ set.contains a then squeezed set (b :: rest) else a :: squeezed set (b :: rest)
  | rest => rest
termination_by s => s.length

/-- The characters that become others, and what they become. -/
def translation (first second : List SetItem) (complement : Bool) : List (Char × Char) :=
  let from1 := setChars 0 first
  let from1 := if complement then allChars.filter fun c => ! from1.contains c else from1
  let to1 := setChars from1.length second
  let last := to1.getLast?
  let pairs := from1.zipIdx.filterMap fun (c, i) => (to1[i]? <|> last).map fun d => (c, d)
  let cased (name : String) : Bool := first.any fun item => match item with
    | .many n _ => n == name
    | _ => false
  let other (name : String) : Bool := second.any fun item => match item with
    | .many n _ => n == name
    | _ => false
  let pairs := if cased "lower" && other "upper" && first.length == 1 && second.length == 1 then
      pairs.map fun (c, _) => (c, c.toUpper)
    else if cased "upper" && other "lower" && first.length == 1 && second.length == 1 then
      pairs.map fun (c, _) => (c, c.toLower)
    else pairs
  -- The last of several pairs for a character counts.
  pairs.reverse

/-- Translates or leaves out the characters of sets. -/
def translated (task : Task) (complement deletes squeezes truncates : Bool) (one : String) (two : Option String) : Done :=
  match setItems (one.length + 1) one.toList, (two.map fun s => setItems (s.length + 1) s.toList).getD (.ok []) with
  | .error message, _ | _, .error message => task.failed message 1
  | .ok first, .ok second =>
    match task.input with
    | .error e => task.failed s!"read error: {e.reason}" 1
    | .ok bytes =>
      let input := (octetsOf bytes).toList
      let members := setChars 0 first
      let set := if complement then allChars.filter fun c => ! members.contains c else members
      let secondSet := setChars 0 second
      let pairs := translation first second complement
      let pairs := if truncates then pairs.filter fun pair => (set.take secondSet.length).contains pair.1 else pairs
      let done (s : List Char) : Done := { task.said (String.ofList s) with tookInput := true }
      if deletes then
        let kept := input.filter fun c => ! set.contains c
        done (if squeezes then squeezed secondSet kept else kept)
      else if two.isNone then done (squeezed set input)
      else if secondSet.isEmpty ∧ second.isEmpty then
        task.failed "when not truncating set1, string2 must be non-empty" 1
      else
        let changed := input.map fun c => (pairs.lookup c).getD c
        done (if squeezes then squeezed (setChars set.length second) changed else changed)

/-- Translates or leaves out characters of the input. -/
def tr : Utility :=
  Known.utility {
    plain := "cCdst", long := [("complement", 'c'), ("delete", 'd'), ("squeeze-repeats", 's'), ("truncate-set1", 't')]
    anywhere := false } 1 fun task options =>
    let deletes := options.has 'd'
    let squeezes := options.has 's'
    let complement := options.hasAny "cC"
    let single := deletes != squeezes
    let misuse (message more : String) : Done :=
      task.failed s!"{message}\n{more}Try '{task.name} --help' for more information." 1
    match options.words with
    | [] => misuse "missing operand" ""
    | [one] =>
      if ! single then
        misuse s!"missing operand after '{one}'"
          (if deletes then "Two strings must be given when both deleting and squeezing repeats.\n"
            else "Two strings must be given when translating.\n")
      else translated task complement deletes squeezes (options.has 't') one none
    | [one, two] =>
      if deletes && ! squeezes then
        misuse s!"extra operand '{two}'" "Only one string may be given when deleting without squeezing repeats.\n"
      else translated task complement deletes squeezes (options.has 't') one (some two)
    | _ :: _ :: extra :: _ => misuse s!"extra operand '{extra}'" ""

end UiCheck.Rehearsal.Shell
