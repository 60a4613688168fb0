import UiCheck.Rehearsal.Shell.Expansion

/-! # Redirections

A redirection makes a descriptor lead elsewhere: into a file, to where another descriptor leads, or to a text
that stands with the command. They are followed in turn, so that a later one sees what the earlier ones did.
-/

namespace UiCheck.Rehearsal.Shell

open Files UiCheck.Rehearsal.Shell.Action

/-- The words of the shell for a file that cannot be opened. -/
def openingProblem (creating : Bool) (e : IoError) : String :=
  match e with
  | .notFound | .notDirectory => if creating then "Directory nonexistent" else "No such file"
  | _ => e.reason

/-- The descriptor that a path of the system names. -/
def namedDescriptor? (path : String) : Option Nat :=
  match path with
  | "/dev/stdin" => some 0
  | "/dev/stdout" => some 1
  | "/dev/stderr" => some 2
  | _ => (Text.after? "/dev/fd/".toList path.toList).bind fun s => (String.ofList s).toNat?

/-- The place of the file at a path, which is made or emptied if the opening asks for that. -/
def openPlace (opening : Opening) (path : String) : Action (Except IoError Stream) := do
  let disk ← disk
  let isFile := match disk.node path with
    | .ok (.file _) => true
    | _ => false
  let made (content : ByteArray) : Action (Except IoError Stream) := do
    match disk.write path content with
    | .error e => return .error e
    | .ok after =>
      putDisk after
      match after.locate true path with
      | .ok (.present names _) => return .ok (.file names.reverse 0 opening)
      | .ok (.vacant ..) => return .error .notFound
      | .error e => return .error e
  let known : Action (Except IoError Stream) := do
    match disk.locate true path with
    | .ok (.present names (.file _)) => return .ok (.file names.reverse 0 opening)
    | .ok (.present _ (.directory _)) => return if opening = .read then .ok .directory else .error .isDirectory
    | .ok _ => return .error .notFound
    | .error e => return .error e
  match opening with
  | .read => known
  | .write force =>
    if isFile && ! force && (← isOn .keepFiles) then return .error .exists
    else made .empty
  | .append | .readWrite => if isFile then known else made .empty

/-- Opens a file as a new stream. -/
def openFile (opening : Opening) (octets : String) : Action Nat := do
  let path := textOf octets
  if path = "/dev/null" then addStream .void
  else
    let answer ← match namedDescriptor? path with
      | some descriptor =>
        match (← streamNumber? descriptor) with
        | some number => return number
        | none => pure (.error IoError.notFound)
      | none => openPlace opening path
    match answer with
    | .ok stream => addStream stream
    | .error e =>
      let creating := opening ≠ .read
      let verb := if creating then "create" else "open"
      fail s!"cannot {verb} {octets}: {openingProblem creating e}"

/-- Makes a descriptor lead where another one leads. -/
def copyDescriptor (descriptor other : Nat) : Action Unit := do
  match (← streamNumber? other) with
  | some number => connect descriptor number
  | none => fail s!"{other}: Bad file descriptor"

/-- A redirection whose words are known. -/
inductive Redirected where
  | file (descriptor : Nat) (opening : Opening) (target : String)
  | copy (descriptor : Nat) (other : Option Nat)
  | text (descriptor : Nat) (content : String)
  deriving Inhabited

/-- Finds out what the words of a redirection give. -/
def redirected (output : Command → Action String) : Redirection → Action Redirected
  | .file descriptor opening target => return .file descriptor opening (← wordText output target)
  | .copy descriptor other => return .copy descriptor other
  | .copyNamed descriptor other => do
    let text ← wordText output other
    match text.toList with
    | ['-'] => return .copy descriptor none
    | [d] =>
      if d.isDigit then return .copy descriptor (some (d.toNat - '0'.toNat))
      else fail "Syntax error: Bad fd number"
    | _ => fail "Syntax error: Bad fd number"
  | .document descriptor number => do
    let word := (← process).documents[number]?.getD []
    return .text descriptor (← documentText output word)

/-- Follows a redirection. -/
def redirect : Redirected → Action Unit
  | .file descriptor opening target => do connect descriptor (← openFile opening target)
  | .copy descriptor none => disconnect descriptor
  | .copy descriptor (some other) => copyDescriptor descriptor other
  | .text descriptor content => do connect descriptor (← addStream (.pipe (bytesOf content) 0))

/-- Follows redirections, and answers whether all of them could be followed. -/
def redirectAll (redirections : List Redirected) : Action Bool := do
  tryCatch (do redirections.forM redirect; return true) fun stop =>
    if stop = .failed then return false else throw stop

end UiCheck.Rehearsal.Shell
