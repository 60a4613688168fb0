import UiCheck.Files.Disk
import UiCheck.Text.Utf8

/-! # Build commands

A build is a command that the shell runs in the directory of the project. It passes if its status is zero. The shell
belongs to the machine: what it does is taken as given.
-/

/-! ## Outcomes of builds

A build passes, or it fails with what it wrote to its two outputs.
-/

namespace UiCheck

/-- How a build ended. -/
inductive BuildOutcome where
  | success
  | failed (stdout stderr : String)
  deriving DecidableEq, Inhabited, Repr

namespace BuildOutcome

/-- The build passed. -/
def isSuccess : BuildOutcome → Bool
  | .success => true
  | .failed .. => false

/-- All that a failed build wrote. -/
def logs : BuildOutcome → String
  | .success => ""
  | .failed stdout stderr => stdout ++ "\n" ++ stderr

end BuildOutcome

end UiCheck

namespace UiCheck.Build

/-- What a command that has ended leaves behind, apart from the disk. -/
structure Remains where
  status : Nat
  out : ByteArray
  err : ByteArray
  deriving Inhabited

/-- What runs commands in directories, on a machine with states in `σ`. -/
structure Shell (σ : Type) where
  /-- Runs a command to its end, with variables for the shell. An error means that the shell could not be started. -/
  run (bindings : List (String × String)) (command directory : String) (disk : Files.Disk) :
    σ → Except IoError Remains × Files.Disk × σ
  /-- Starts a command and does not wait for it. -/
  start (command directory : String) (disk : Files.Disk) : σ → Except IoError Unit × σ

/-- Runs a build command in a directory, with variables for the shell. -/
def runCommand {σ : Type} (shell : Shell σ) (bindings : List (String × String)) (command directory : String)
    (disk : Files.Disk) (s : σ) : Except IoError BuildOutcome × Files.Disk × σ :=
  match shell.run bindings command directory disk s with
  | (.error e, left) => (.error e, left)
  | (.ok remains, left) =>
    if remains.status = 0 then (.ok .success, left)
    else (.ok (.failed (Text.decodeLenient remains.out) (Text.decodeLenient remains.err)), left)

end UiCheck.Build
