import UiCheck.Rehearsal.Shell.Builtin.Options

/-! # Builtin programs for the working directory and for permissions -/

namespace UiCheck.Rehearsal.Shell

open Files UiCheck.Rehearsal.Shell.Action

/-- The parts of a path without empty ones. -/
def pathParts (path : String) : List String :=
  (path.splitOn "/").filter (! ·.isEmpty)

/-- A path without dots, as it is named: two dots take off what stands before them. -/
def withoutDots (parts : List String) : List String :=
  (parts.foldl (fun done part =>
    if part = "." then done else if part = ".." then done.tail else part :: done) []).reverse

/-- The name of a directory that is reached from another one. -/
def reached (base path : String) : String :=
  let whole := if path.startsWith "/" then path else base ++ "/" ++ path
  let body := "/".intercalate (withoutDots (pathParts whole))
  let slashes := (whole.toList.takeWhile (· == '/')).length
  (if slashes = 2 then "//" else "/") ++ body

/-- The way to a directory is open: each part that two dots take off is one as well. -/
def wayIsOpen (disk : Disk) (path : String) : Bool :=
  (path.splitOn "/").zipIdx.all fun (part, i) =>
    part ≠ ".." || disk.isDirectory (textOf ("/".intercalate ((path.splitOn "/").take i) ++ "/."))

/-- Goes to another working directory. -/
def changeDirectory : Builtin := fun arguments => do
  let (options, rest) ← options "LP" "" arguments
  let physical := options.getLast?.any (·.1 == 'P')
  let target := match rest with
    | first :: _ => some first
    | [] => none
  let (path, shown) ← match target with
    | some "-" => pure ((← value? "OLDPWD").getD "", true)
    | some path => pure (path, false)
    | none => pure ((← value? "HOME").getD "", false)
  let before := (← process).directory
  let named := reached before path
  let disk ← disk
  let found := if physical then disk.locate true (textOf (if path.isEmpty then "." else path))
    else if wayIsOpen disk (if path.startsWith "/" then path else before ++ "/" ++ path) then
      disk.locate true (textOf named)
    else .error .notFound
  match found with
  | .ok (.present names (.directory _)) =>
    let named := if physical then octets ("/" ++ "/".intercalate names.reverse) else named
    change fun process => { process with place := names.reverse, directory := named }
    for (name, value) in [("OLDPWD", before), ("PWD", named)] do
      assign name value
      putVariable name (some { value := some value, exported := true })
    if shown then say (named ++ "\n")
    return 0
  | _ => fail s!"can't cd to {path}"

/-- Names the working directory. -/
def tellDirectory : Builtin := fun arguments => do
  let (options, _) ← options "LP" "" arguments
  let process ← process
  if options.getLast?.any (·.1 == 'P') then say (octets ("/" ++ "/".intercalate process.place) ++ "\n")
  else say (process.directory ++ "\n")
  return 0

/-- Permissions in octal digits. -/
def octalMask (mask : Nat) : String :=
  let digits := Nat.toDigits 8 mask
  String.ofList (List.replicate (4 - digits.length) '0' ++ digits)

/-- Permissions in letters. -/
def letterMask (mask : Nat) : String :=
  let part (who : String) (shift : Nat) : String :=
    let bits := mask / shift % 8
    let letter (bit : Nat) (s : String) : String := if bits / bit % 2 = 0 then s else ""
    who ++ "=" ++ letter 4 "r" ++ letter 2 "w" ++ letter 1 "x"
  ",".intercalate [part "u" 64, part "g" 8, part "o" 1]

/-- The permissions that letters grant, in place of those of a mask. -/
def maskOfLetters? (mask : Nat) (s : String) : Option Nat :=
  (s.splitOn ",").foldlM (fun mask part =>
    match part.toList.span fun c => "ugoa".toList.contains c with
    | (who, '=' :: letters) =>
      if letters.all fun c => "rwx".toList.contains c then
        let bits := 7 - ((if letters.contains 'r' then 4 else 0) + (if letters.contains 'w' then 2 else 0)
          + (if letters.contains 'x' then 1 else 0))
        let who := if who.isEmpty ∨ who.contains 'a' then ['u', 'g', 'o'] else who
        some (who.foldl (fun mask c =>
          let shift := if c = 'u' then 64 else if c = 'g' then 8 else 1
          mask - mask / shift % 8 * shift + bits * shift) mask)
      else none
    | _ => none) mask

/-- Names or sets the permissions that new files do not get. -/
def setMask : Builtin := fun arguments => do
  let (options, rest) ← options "S" "" arguments
  let mask := (← process).mask
  match rest with
  | [] =>
    say ((if options.isEmpty then octalMask mask else letterMask mask) ++ "\n")
    return 0
  | argument :: _ =>
    let digits := argument.toList
    let known := if digits.head?.any Char.isDigit then
        if digits.all fun c => '0' ≤ c && c ≤ '7' then some ((numeral 8 digits).1 % 512) else none
      else maskOfLetters? mask argument
    match known with
    | some mask =>
      change fun process => { process with mask }
      return 0
    | none =>
      if digits.head?.any Char.isDigit then fail s!"Illegal number: {argument}"
      else fail s!"Illegal mode: {argument}"

/-- Names limits of the process, of which there are none. -/
def tellLimits : Builtin := fun arguments => do
  let (options, rest) ← options "HSatfdsmcnpvwlr" "" arguments
  match rest with
  | argument :: _ =>
    if argument = "unlimited" ∨ argument.toList.all Char.isDigit then return 0 else fail "bad number"
  | [] =>
    if options.any (·.1 == 'c') then say "0\n"
    else if options.any (·.1 == 'n') then say "1048576\n"
    else say "unlimited\n"
    return 0

end UiCheck.Rehearsal.Shell
