import UiCheck.Rehearsal.Shell.Launch

/-! # Utilities that start programs

They change the variables of a program, build its arguments from the input, or limit its time. Others change
which files may be run, or wait.
-/

namespace UiCheck.Rehearsal.Shell

open Files UiCheck.Rehearsal.Shell.Action

/-- A way to start a program with arguments, which answers its status. A program that is missing is told
behind the words that come first. -/
abbrev Starter := String → String → List String → Action Nat

/-- Tells what is wrong with the arguments of a utility. -/
def misuse (name message : String) (status : Nat) : Action Nat := do
  let text := if message.isEmpty then "" else s!"{name}: {message}\n"
  report s!"{text}Try '{name} --help' for more information.\n"
  return status

/-- Settings put over others: one of the same name is replaced, and a new one comes last. -/
def overlaid (settings known : List (String × String)) : List (String × String) :=
  settings.foldl (fun known setting =>
    if known.any (·.1 == setting.1) then known.map fun one => if one.1 = setting.1 then setting else one
    else known ++ [setting]) known

/-- Takes a step while other programs see only the variables given. -/
def withEnvironment {α : Type} (known : List (String × String)) (action : Action α) : Action α := do
  let before := (← process).bindings
  let hidden := before.filter fun one => ! one.2.exported && ! known.any (·.1 == one.1)
  let seen := known.reverse.map fun (name, value) => (name, ({ value := some value, exported := true } : Variable))
  change fun process => { process with bindings := seen ++ hidden }
  action.andThen (change fun process => { process with bindings := before })

/-- A list of variables, each on a line of its own. -/
def listing (known : List (String × String)) : String :=
  String.join (known.map fun (name, value) => s!"{name}={value}\n")

/-- The words of a text as `env` splits them. -/
def splitWords (s : String) : List String :=
  (s.splitOn " ").filter (! ·.isEmpty)

/-- Starts a program with other variables. -/
def env (start : Starter) : Builtin := fun arguments => do
  let options : Known := {
    plain := "i0v", valued := "uCS"
    long := [("ignore-environment", 'i'), ("null", '0'), ("unset", 'u'), ("chdir", 'C'), ("split-string", 'S')]
    anywhere := false }
  match options.read arguments with
  | .error message => misuse "env" message 125
  | .ok options =>
    let dash := options.words.head? == some "-"
    let words := ((options.value? 'S').map splitWords).getD [] ++ if dash then options.words.tail else options.words
    let isSetting (word : String) : Bool := word.contains '='
    let settings := (words.takeWhile isSetting).map fun word =>
      let (name, value) := word.toList.span (· != '=')
      (String.ofList name, String.ofList value.tail)
    let known ← if dash || options.has 'i' then pure [] else environment
    let unset (name : String) : Bool := options.flags.any fun option => option.1 == 'u' && option.2 == name
    let known := overlaid settings (known.filter fun one => ! unset one.1)
    let place := (← process).place
    if let some path := options.value? 'C' then
      match (← disk).locate true (textOf path) with
      | .ok (.present names (.directory _)) => change fun process => { process with place := names.reverse }
      | _ =>
        report s!"env: cannot change directory to '{path}': No such file or directory\n"
        return 125
    let status ← match words.drop settings.length with
      | [] =>
        say (listing known)
        pure 0
      | name :: rest => withEnvironment known (start s!"env: '{name}'" name rest)
    change fun process => { process with place }
    return status

/-- Writes the values of variables that other programs see. -/
def printenv : Builtin := fun arguments => do
  let known ← environment
  if arguments.isEmpty then
    say (listing known)
    return 0
  else
    arguments.foldlM (fun status name => do
      match known.lookup name with
      | some value =>
        say (value ++ "\n")
        return status
      | none => return 1) 0

/-- The words of an input, with quotes and backslashes, or its part in a quote that stays open; with those so
far in reverse order, and the word that is being read. -/
def inputWords : Nat → Option Char → List String → Option (List Char) → List Char → Except String (List String)
  | 0, _, done, _, _ => .ok done.reverse
  | _, some quote, _, _, [] =>
    let kind := if quote = '\'' then "single" else "double"
    .error s!"unmatched {kind} quote; by default quotes are special to xargs unless you use the -0 option"
  | _, none, done, word, [] => .ok ((word.toList.map fun w => String.ofList w.reverse) ++ done).reverse
  | fuel + 1, some quote, done, word, c :: rest =>
    if c = quote then inputWords fuel none done (some (word.getD [])) rest
    else if c = '\n' then inputWords fuel (some quote) done word []
    else inputWords fuel (some quote) done (some (c :: word.getD [])) rest
  | fuel + 1, none, done, word, c :: rest =>
    if c = ' ' ∨ c = '\t' ∨ c = '\n' then
      inputWords fuel none ((word.toList.map fun w => String.ofList w.reverse) ++ done) none rest
    else if c = '\'' ∨ c = '"' then inputWords fuel (some c) done word rest
    else if c = '\\' then
      match rest with
      | d :: rest => inputWords fuel none done (some (d :: word.getD [])) rest
      | [] => inputWords fuel none done (some (word.getD [])) []
    else inputWords fuel none done (some (c :: word.getD [])) rest

/-- A list cut into parts of a length. -/
def chunks {α : Type} : Nat → Nat → List α → List (List α)
  | 0, _, _ => []
  | fuel + 1, n, xs => if xs.isEmpty then [] else xs.take n :: chunks fuel n (xs.drop n)

/-- The parts of a text that each end with a character. -/
def partsEndingWith (c : Char) (s : List Char) : List String :=
  match ((String.ofList s).splitOn (String.singleton c)).reverse with
  | "" :: rest => rest.reverse
  | all => all.reverse

/-- How `xargs` goes on with a call: the status so far, and whether it stops there. -/
structure Calls where
  status : Nat := 0
  stopped : Bool := false
  deriving Inhabited

/-- What the status of a call means. -/
def Calls.after (calls : Calls) (name : String) (status : Nat) : Action Calls := do
  if status = 0 then return calls
  else if status = 126 ∨ status = 127 then return { status, stopped := true }
  else if status = 255 then
    report s!"xargs: {name}: exited with status 255; aborting\n"
    return { status := 124, stopped := true }
  else if 128 < status then
    let signal := status - 128
    report s!"xargs: {name}: terminated by signal {signal}\n"
    return { status := 125, stopped := true }
  else return { calls with status := 123 }

/-- Starts a program with arguments from the input. -/
def xargs (start : Starter) : Builtin := fun arguments => do
  let known : Known := {
    plain := "0rtpxo", valued := "ndILPsEa"
    long := [("null", '0'), ("no-run-if-empty", 'r'), ("verbose", 't'), ("max-args", 'n'), ("max-procs", 'P'),
      ("delimiter", 'd'), ("max-lines", 'L'), ("replace", 'I'), ("arg-file", 'a')]
    anywhere := false }
  match known.read arguments with
  | .error message => misuse "xargs" message 1
  | .ok options =>
    let source ← match options.value? 'a' with
      | some path => pure ((← disk).read (textOf path))
      | none => remaining 0
    match source with
    | .error e =>
      report s!"xargs: {e.reason}\n"
      return 1
    | .ok bytes =>
      if ! options.has 'a' then passInput 0 bytes.size
      let input := (octetsOf bytes).toList
      let isBlank (c : Char) : Bool := c == ' ' || c == '\t'
      let words := if options.has '0' then .ok (partsEndingWith (Char.ofNat 0) input)
        else if options.has 'd' then
          .ok (partsEndingWith (((unescaped ((options.value? 'd').getD "\n")).1.toList.head?).getD '\n') input)
        else if options.has 'I' then
          let lines := (linesOf (String.ofList input)).1.map fun line => line.toList.dropWhile isBlank
          (lines.filter (! ·.isEmpty)).mapM fun line => do
            return " ".intercalate (← inputWords (line.length + 1) none [] none
              (line.flatMap fun c => if isBlank c then ['\\', c] else [c]))
        else inputWords (input.length + 1) none [] none input
      match words with
      | .error message =>
        report s!"xargs: {message}\n"
        return 1
      | .ok words =>
        let base := if options.words.isEmpty then ["echo"] else options.words
        let calls : List (List String) := match options.value? 'I' with
          | some mark => words.map fun word => base.map fun part => part.replace mark word
          | none =>
            if words.isEmpty then if options.has 'r' then [] else [base]
            else
              match options.value? 'n', options.value? 'L' with
              | some n, _ => (chunks (words.length + 1) (max 1 ((digitsOf? n).getD 1)) words).map (base ++ ·)
              | none, some n =>
                let lines := (linesOf (String.ofList input)).1.filter (! ·.isEmpty)
                (chunks (lines.length + 1) (max 1 ((digitsOf? n).getD 1)) lines).map fun lines =>
                  base ++ lines.flatMap splitWords
              | none, none => [base ++ words]
        let name := base.headD ""
        let input ← addStream .void
        withDescriptors do
          connect 0 input
          let calls ← calls.foldlM (fun (known : Calls) call => do
            if known.stopped then return known
            if options.has 't' then report (" ".intercalate call ++ "\n")
            known.after name (← start s!"xargs: {name}" (call.headD "") call.tail)) {}
          return calls.status

/-- The permission to run a file after a change, if the change is one of permissions. -/
def runnableAfter? (mode : String) (before : Bool) : Option Bool :=
  if ! mode.isEmpty && mode.toList.all fun c => '0' ≤ c && c ≤ '7' then
    some ((numeral 8 mode.toList).1 / 64 % 2 = 1)
  else
    (mode.splitOn ",").foldlM (fun known part =>
      match part.toList.dropWhile fun c => "ugoa".toList.contains c with
      | sign :: letters =>
        if ! letters.all fun c => "rwxXst".toList.contains c then none
        else
          let names := letters.contains 'x'
          let user := part.startsWith "u" || part.startsWith "a" || part.startsWith (String.singleton sign)
          if sign = '+' then some (known || names)
          else if sign = '-' then some (known && ! (names && user))
          else if sign = '=' then some (if user then names else known)
          else none
      | [] => none) before

/-- Changes whether files may be run. -/
def chmod : Builtin := fun arguments => do
  let arguments := arguments.filter fun argument => ! ["-R", "-v", "-f", "-c", "--"].contains argument
  match arguments with
  | [] => misuse "chmod" "missing operand" 1
  | [mode] => misuse "chmod" s!"missing operand after '{mode}'" 1
  | mode :: paths =>
    if (runnableAfter? mode false).isNone then misuse "chmod" s!"invalid mode: '{mode}'" 1
    else
      paths.foldlM (fun status path => do
        match (← disk).locate true (textOf path) with
        | .ok (.present names _) =>
          let place := names.reverse
          changeMachine fun machine =>
            let others := machine.runnable.filter (· != place)
            let after := (runnableAfter? mode (machine.runnable.contains place)).getD false
            { machine with runnable := if after then place :: others else others }
          return status
        | _ =>
          report s!"chmod: cannot access '{path}': No such file or directory\n"
          return 1) 0

/-- The time that a text denotes, in thousandths of a second. -/
def duration? (s : String) : Option Nat :=
  let isPart (c : Char) : Bool := c.isDigit || c == '.'
  let body := s.toList.takeWhile isPart
  let factor : Option Nat := match String.ofList (s.toList.drop body.length) with
    | "" | "s" => some 1
    | "m" => some 60
    | "h" => some 3600
    | "d" => some 86400
    | _ => none
  match (String.ofList body).splitOn ".", factor with
  | [whole], some factor => (digitsOf? whole).map (1000 * factor * ·)
  | [whole, part], some factor =>
    if whole.isEmpty ∧ part.isEmpty then none
    else
      let digits := (part.toList ++ ['0', '0', '0']).take 3
      match digitsOf? ("0" ++ whole), digitsOf? (String.ofList digits) with
      | some n, some m => some (factor * (1000 * n + m))
      | _, _ => none
  | _, _ => none

/-- Lets time pass; the program that runs is stopped if its time is over then. -/
def passTime (time : Nat) : Action Unit := do
  let machine ← machine
  match machine.deadline with
  | some deadline =>
    if deadline < machine.clock + time then
      changeMachine fun machine => { machine with clock := max machine.clock deadline }
      throw .expired
  | none => pure ()
  changeMachine fun machine => { machine with clock := machine.clock + time }

/-- Waits for a time, in which the commands that are not waited for run. -/
def sleep (go : Runner) : Builtin := fun arguments => do
  match arguments, arguments.find? fun argument => (duration? argument).isNone with
  | [], _ => misuse "sleep" "missing operand" 1
  | _, some argument => misuse "sleep" s!"invalid time interval '{argument}'" 1
  | _, none =>
    runJobs go ((← machine).jobs.length + 64)
    passTime ((arguments.filterMap duration?).foldl (· + ·) 0)
    return 0

/-- Starts a program and stops it if it takes longer than a time. -/
def timeout (start : Starter) : Builtin := fun arguments => do
  let known : Known := {
    plain := "vfp", valued := "sk"
    long := [("signal", 's'), ("kill-after", 'k'), ("verbose", 'v'), ("foreground", 'f'), ("preserve-status", 'p')]
    anywhere := false }
  match known.read arguments with
  | .error message => misuse "timeout" message 125
  | .ok options =>
    match options.words with
    | [] | [_] => misuse "timeout" "" 125
    | limit :: name :: rest =>
      match duration? limit with
      | none => misuse "timeout" s!"invalid time interval '{limit}'" 125
      | some time =>
        let clock := (← machine).clock
        let before := (← machine).deadline
        let deadline := if time = 0 then none else some (clock + time)
        changeMachine fun machine => { machine with deadline }
        let status ← tryCatch (start s!"timeout: failed to run command '{name}'" name rest) fun stop => do
          if stop = .expired ∧ deadline.isSome then
            return if options.has 'p' then 143 else 124
          else throw stop
        changeMachine fun machine => { machine with deadline := before }
        return status

/-- Starts a program with less time for it. -/
def nice (start : Starter) : Builtin := fun arguments => do
  match ({ valued := "n", long := [("adjustment", 'n')], anywhere := false } : Known).read arguments with
  | .error message => misuse "nice" message 125
  | .ok options =>
    match options.words with
    | [] =>
      say "0\n"
      return 0
    | name :: rest => start s!"nice: '{name}'" name rest

/-- Starts a program that goes on when its terminal ends; there is none. -/
def nohup (start : Starter) : Builtin := fun arguments => do
  match if arguments.head? = some "--" then arguments.tail else arguments with
  | [] => misuse "nohup" "missing operand" 125
  | name :: rest => start s!"nohup: failed to run command '{name}'" name rest

/-- Starts a program that belongs to nobody else. -/
def setsid (start : Starter) : Builtin := fun arguments => do
  match arguments.dropWhile fun argument => argument.startsWith "-" with
  | [] => misuse "setsid" "no command specified" 1
  | name :: rest => start s!"setsid: failed to execute {name}" name rest

end UiCheck.Rehearsal.Shell
