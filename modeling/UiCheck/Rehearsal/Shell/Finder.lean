import UiCheck.Rehearsal.Shell.Wrapper

/-! # Finding files

An expression of tests and actions is judged for each file at and below some paths. Tests that are joined are
judged from the left as far as the outcome is not known. Without an action the paths of the files that fit are
written. The files of a directory are gone through by name.
-/

namespace UiCheck.Rehearsal.Shell

open Files UiCheck.Rehearsal.Shell.Action

/-- How a size is compared. -/
inductive SizeOrder where
  | exactly
  | more
  | less
  deriving DecidableEq, Inhabited, Repr

/-- An expression for files. -/
inductive Criterion where
  /-- The name, or the whole path, fits a pattern. -/
  | fits (whole ignoreCase : Bool) (pattern : String)
  | kind (letters : List Char)
  | empty
  | size (order : SizeOrder) (count unit : Nat)
  | constant (b : Bool)
  | print (mark : String)
  /-- Runs a command for each file. -/
  | execute (words : List String)
  /-- Runs a command for many files at once. -/
  | collect (words : List String)
  | delete
  | prune
  | quit
  | no (c : Criterion)
  | both (a b : Criterion)
  | either (a b : Criterion)
  | last (a b : Criterion)
  deriving DecidableEq, Inhabited, Repr

/-- The expression does more than to judge. -/
def Criterion.acts : Criterion → Bool
  | .print _ | .execute _ | .collect _ | .delete | .quit => true
  | .no c => c.acts
  | .both a b | .either a b | .last a b => a.acts || b.acts
  | _ => false

/-- The expression removes files, so what is below a directory comes first. -/
def Criterion.deletes : Criterion → Bool
  | .delete => true
  | .no c => c.deletes
  | .both a b | .either a b | .last a b => a.deletes || b.deletes
  | _ => false

/-- Arguments that are being read, and what counts for the whole search. -/
structure CriterionSource where
  rest : List String
  least : Nat := 0
  most : Option Nat := none
  depthFirst : Bool := false
  deriving Inhabited

/-- A step that reads an expression. -/
abbrev CriterionReading := EStateM String CriterionSource

namespace CriterionReading

/-- The next argument. -/
def peek? : CriterionReading (Option String) :=
  return (← get).rest.head?

/-- Passes the next argument. -/
def pass : CriterionReading Unit :=
  modify fun source => { source with rest := source.rest.tail }

/-- Takes the argument of a test. -/
def value (name : String) : CriterionReading String := do
  match (← peek?) with
  | some word =>
    pass
    return word
  | none => throw s!"missing argument to \x60{name}'"

/-- Takes the argument of a test as a number. -/
def number (name : String) : CriterionReading Nat := do
  let word ← value name
  match digitsOf? word with
  | some n => return n
  | none => throw s!"Expected a positive decimal integer argument to {name}, but got '{word}'"

/-- The kinds of files that letters name. -/
def kinds (text : String) : CriterionReading Criterion := do
  let letters := (text.splitOn ",").map String.toList
  match letters.find? fun one => ! (one.length == 1 && one.all fun c => "bcdpflsD".toList.contains c) with
  | some _ => throw s!"Unknown argument to -type: {text}"
  | none => return .kind letters.flatten

/-- The test for a size that a text says. -/
def sizeTest (text : String) : CriterionReading Criterion := do
  let (order, body) := match text.toList with
    | '+' :: rest => (SizeOrder.more, rest)
    | '-' :: rest => (.less, rest)
    | rest => (.exactly, rest)
  let digits := body.takeWhile Char.isDigit
  let unit : Option Nat := match body.drop digits.length with
    | [] | ['b'] => some 512
    | ['c'] => some 1
    | ['w'] => some 2
    | ['k'] => some 1024
    | ['M'] => some 1048576
    | ['G'] => some 1073741824
    | _ => none
  match digitsOf? (String.ofList digits), unit with
  | some n, some unit => return .size order n unit
  | _, _ => throw s!"Invalid argument \x60{text}' to -size"

/-- The words of a command up to its end, and whether it is run for many files at once. -/
def commandWords : List String → List String → Option (List String × Bool × List String)
  | [], _ => none
  | ";" :: rest, done => some (done.reverse, false, rest)
  | "+" :: rest, "\x7b\x7d" :: done => some (done.reverse, true, rest)
  | word :: rest, done => commandWords rest (word :: done)

/-- Reads what a name with a dash stands for. -/
def readNamed (name : String) : CriterionReading Criterion := do
  match name with
  | "-name" => return .fits false false (← value name)
  | "-iname" => return .fits false true (← value name)
  | "-path" | "-wholename" => return .fits true false (← value name)
  | "-ipath" | "-iwholename" => return .fits true true (← value name)
  | "-type" => kinds (← value name)
  | "-size" => sizeTest (← value name)
  | "-empty" => return .empty
  | "-true" => return .constant true
  | "-false" => return .constant false
  | "-print" => return .print "\n"
  | "-print0" => return .print "\x00"
  | "-delete" =>
    modify fun source => { source with depthFirst := true }
    return .delete
  | "-prune" => return .prune
  | "-quit" => return .quit
  | "-depth" =>
    modify fun source => { source with depthFirst := true }
    return .constant true
  | "-maxdepth" =>
    let n ← number name
    modify fun source => { source with most := some n }
    return .constant true
  | "-mindepth" =>
    let n ← number name
    modify fun source => { source with least := n }
    return .constant true
  | "-follow" | "-mount" | "-xdev" | "-noleaf" | "-daystart" => return .constant true
  | "-exec" =>
    match commandWords (← get).rest [] with
    | some (words, many, rest) =>
      if words.isEmpty then throw s!"missing argument to \x60{name}'"
      modify fun source => { source with rest }
      return if many then .collect words else .execute words
    | none => throw s!"missing argument to \x60{name}'"
  | _ =>
    if name.startsWith "-" then throw s!"unknown predicate \x60{name}'"
    else throw s!"paths must precede expression: \x60{name}'"

/-- Nothing stands before an operator that joins two expressions. -/
def nothingBefore (operator : String) : String :=
  s!"invalid expression; you have used a binary operator '{operator}' with nothing before it."

mutual

/-- Reads a test, an action or an expression in brackets. -/
def readOne : Nat → CriterionReading Criterion
  | 0 => throw "memory exhausted"
  | fuel + 1 => do
    match (← peek?) with
    | none => throw "invalid expression"
    | some word =>
      pass
      match word with
      | "!" | "-not" => return .no (← readOne fuel)
      | "(" =>
        if (← peek?) = some ")" then
          throw "invalid expression; empty parentheses are not allowed."
        let inner ← readList fuel
        if (← peek?) = some ")" then
          pass
          return inner
        else throw "invalid expression; I was expecting to find a ')' somewhere but did not see one."
      | ")" => throw "invalid expression; you have too many ')'"
      | "-a" | "-and" | "-o" | "-or" | "," => throw (nothingBefore word)
      | _ => readNamed word

/-- Reads expressions that all have to hold, behind the first of them. -/
def readBoth : Nat → Criterion → CriterionReading Criterion
  | 0, _ => throw "memory exhausted"
  | fuel + 1, known => do
    match (← peek?) with
    | none | some ")" | some "-o" | some "-or" | some "," => return known
    | some word =>
      if word = "-a" ∨ word = "-and" then
        pass
        if (← peek?).isNone then throw s!"expected an expression after '{word}'"
      readBoth fuel (.both known (← readOne fuel))

/-- Reads expressions of which one has to hold, behind the first of them. -/
def readEither : Nat → Criterion → CriterionReading Criterion
  | 0, _ => throw "memory exhausted"
  | fuel + 1, known => do
    match (← peek?) with
    | some word =>
      if word = "-o" ∨ word = "-or" then
        pass
        if (← peek?).isNone then throw s!"expected an expression after '{word}'"
        readEither fuel (.either known (← readBoth fuel (← readOne fuel)))
      else return known
    | none => return known

/-- Reads expressions of which the last one counts. -/
def readList : Nat → CriterionReading Criterion
  | 0 => throw "memory exhausted"
  | fuel + 1 => do
    let first ← readEither fuel (← readBoth fuel (← readOne fuel))
    if (← peek?) = some "," then
      pass
      if (← peek?).isNone then throw "expected an expression after ','"
      return .last first (← readList fuel)
    else return first

end

/-- Reads an expression to the end of the arguments. Without one all files fit. -/
def readAll : CriterionReading Criterion := do
  let size := 2 * (← get).rest.length + 8
  let read ← if (← get).rest.isEmpty then pure (.constant true) else readList size
  match (← peek?) with
  | none => return if read.acts then read else .both read (.print "\n")
  | some _ => throw "invalid expression; you have too many ')'"

end CriterionReading

/-- A file that was found. -/
structure FoundFile where
  path : String
  name : String
  node : Node
  depth : Nat
  deriving Inhabited

/-- How far a search has come. -/
structure Finding where
  status : Nat := 0
  /-- What is below the file is left out. -/
  pruned : Bool := false
  stopped : Bool := false
  /-- The paths for commands that take many, latest first. -/
  collected : List (List String × String) := []
  deriving Inhabited

/-- The number of octets of a file. -/
def nodeSize (node : Node) : Nat :=
  match node with
  | .file content => content.size
  | .directory _ => 4096
  | .link target => target.utf8ByteSize

/-- The text fits a pattern. -/
def fitsGlob (ignoreCase : Bool) (pattern text : String) : Bool :=
  let plain (s : String) : List Char := if ignoreCase then s.toList.map Char.toLower else s.toList
  (Pattern.ofChars ((plain pattern).map fun c => { char := c, quoted := false })).fits (plain text)

/-- The disk without a file that was found, or without a directory that is empty. -/
def withoutFile (disk : Disk) (file : FoundFile) : Except IoError Disk :=
  if file.node.isDirectory then disk.removeEmpty (textOf file.path)
  else (nodeAt? disk false file.path).map fun (place, _) => withoutEntry disk place

/-- Starts a command. -/
def startCall (start : Starter) (call : List String) : Action Nat :=
  let name := call.headD ""
  start s!"find: {named name}" name call.tail

/-- Judges an expression for a file. -/
def Criterion.judge (start : Starter) (file : FoundFile) :
    Criterion → Finding → Action (Bool × Finding)
  | .fits whole ignoreCase pattern, known =>
    return (fitsGlob ignoreCase pattern (if whole then file.path else file.name), known)
  | .kind letters, known =>
    let letter := match file.node with
      | .file _ => 'f'
      | .directory _ => 'd'
      | .link _ => 'l'
    return (letters.contains letter, known)
  | .empty, known =>
    return (match file.node with
      | .file content => content.size == 0
      | .directory entries => entries.isEmpty
      | .link _ => false, known)
  | .size order count unit, known =>
    let n := (nodeSize file.node + unit - 1) / unit
    return (match order with
      | .exactly => n == count
      | .more => count < n
      | .less => n < count, known)
  | .constant b, known => return (b, known)
  | .print mark, known => do
    say (file.path ++ mark)
    return (true, known)
  | .execute words, known => do
    let call := words.map fun word => word.replace "\x7b\x7d" file.path
    return ((← startCall start call) == 0, known)
  | .collect words, known => return (true, { known with collected := (words, file.path) :: known.collected })
  | .delete, known => do
    match withoutFile (← disk) file with
    | .ok disk =>
      putDisk disk
      return (true, known)
    | .error e =>
      report s!"find: cannot delete {named file.path}: {e.reason}\n"
      return (false, { known with status := 1 })
  | .prune, known => return (true, { known with pruned := true })
  | .quit, known => return (true, { known with stopped := true })
  | .no c, known => do
    let (held, known) ← c.judge start file known
    return (! held, known)
  | .both a b, known => do
    let (held, known) ← a.judge start file known
    if held && ! known.stopped then b.judge start file known else return (held, known)
  | .either a b, known => do
    let (held, known) ← a.judge start file known
    if held || known.stopped then return (held, known) else b.judge start file known
  | .last a b, known => do
    let (_, known) ← a.judge start file known
    if known.stopped then return (true, known) else b.judge start file known

/-- What a search is about. -/
structure Quest where
  criterion : Criterion
  least : Nat
  most : Option Nat
  depthFirst : Bool
  deriving Inhabited

/-- Goes through a file and what is below it, with one unit of fuel for each level. -/
def Quest.visit (quest : Quest) (start : Starter) : Nat → FoundFile → Finding → Action Finding
  | 0, _, known => return known
  | fuel + 1, file, known => do
    let look (known : Finding) : Action Finding := do
      if file.depth < quest.least then return known
      else return (← quest.criterion.judge start file known).2
    let inner (known : Finding) : Action Finding := do
      match file.node with
      | .directory entries =>
        if quest.most.any (· ≤ file.depth) then return known
        else
          let sorted := (entries.map fun entry => (octets entry.1, entry.2)).mergeSort fun a b => a.1 ≤ b.1
          sorted.foldlM (fun (known : Finding) entry => do
            if known.stopped then return known
            else
              let inside : FoundFile := {
                path := below file.path entry.1, name := entry.1, node := entry.2, depth := file.depth + 1 }
              quest.visit start fuel inside { known with pruned := false }) known
      | _ => return known
    if quest.depthFirst then look (← inner known)
    else
      let known ← look { known with pruned := false }
      if known.pruned || known.stopped then return known else inner known

/-- Runs the commands that take many paths. -/
def runCollected (start : Starter) (known : Finding) : Action Finding := do
  let commands := (known.collected.reverse.map (·.1)).eraseDups
  commands.foldlM (fun (known : Finding) words => do
    let paths := (known.collected.reverse.filter (·.1 == words)).map (·.2)
    let call := words ++ paths
    let status ← startCall start call
    return if status = 0 then known else { known with status := 1 }) known

/-- Goes through the files at and below paths. -/
def findFiles (start : Starter) : Builtin := fun arguments => do
  let arguments := arguments.dropWhile fun word => ["-H", "-L", "-P"].contains word
  let isPath (word : String) : Bool := ! (word.startsWith "-" || word == "(" || word == "!")
  let paths := arguments.takeWhile isPath
  match CriterionReading.readAll.run { rest := arguments.drop paths.length } with
  | .error e _ =>
    report s!"find: {e}\n"
    return 1
  | .ok criterion source =>
    let quest : Quest := {
      criterion, least := source.least, most := source.most, depthFirst := source.depthFirst }
    let known ← (if paths.isEmpty then ["."] else paths).foldlM (fun (known : Finding) path => do
      if known.stopped then return known
      else
        match nodeAt? (← disk) false path with
        | .ok (_, node) => quest.visit start 64 { path, name := lastName path, node, depth := 0 } known
        | .error e =>
          report s!"find: {named path}: {e.reason}\n"
          return { known with status := 1 }) ({} : Finding)
    let known ← runCollected start known
    return known.status

end UiCheck.Rehearsal.Shell
