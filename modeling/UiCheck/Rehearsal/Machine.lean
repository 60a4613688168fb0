import UiCheck.Browser.Helper
import UiCheck.CommandLine.Program
import UiCheck.Files.Disk
import UiCheck.Oracle.Client
import UiCheck.Rehearsal.Shell.Run
import UiCheck.Text.Utf8

/-! # Rehearsed machines

A machine whose transfer program and browser play scripts, whose shell is rehearsed, and on which no port ever
accepts.
-/

/-! ## Rehearsed transfers

A transfer program that plays a script: each run gives the next transfer of the script. Behind the end of the
script every run fails without a word. What was sent is kept.
-/

namespace UiCheck.Rehearsal

/-- The transfers still to come, and what was sent so far, latest first. -/
structure Transfers where
  script : List Oracle.Transfer
  sent : List (List String × String) := []
  deriving Inhabited

/-- A run that fails without a word. -/
def Transfers.silence : Oracle.Transfer :=
  { stdout := .empty, stderr := .empty, succeeded := false }

/-- The transfer program that plays the script. It is not started with an argument that no program can get. -/
def courier : Oracle.Courier Transfers where
  transfer arguments body s :=
    if arguments.any (·.toList.contains (Char.ofNat 0)) then
      (.error (.other "nul byte found in provided data"), s)
    else
      (.ok (s.script.headD Transfers.silence),
        { script := s.script.tail, sent := (arguments, body) :: s.sent })

end UiCheck.Rehearsal

/-! ## Rehearsed browsers

A helper program that plays a script. Each start is one launch of the script: the program greets, and then it
prints a reply to each request that it gets. A request behind the end of the replies makes it exit, and it
exits at once if it has no greeting.
-/

namespace UiCheck.Rehearsal

/-- One start of the program. -/
structure Launch where
  /-- What it prints first. -/
  greeting : Option ByteArray := none
  /-- What it prints for each request. -/
  replies : List ByteArray := []
  deriving Inhabited

/-- What the program was told. -/
inductive Told where
  | settings (text : String)
  | request (line : String)
  deriving DecidableEq, Inhabited, Repr

/-- The starts still to come, the replies of the program that runs, and what was done so far, latest first. -/
structure Launches where
  /-- The disk that holds the directories in which the program starts. -/
  disk : Files.Disk
  script : List Launch
  /-- The replies still to come, if the program runs. -/
  running : Option (List ByteArray) := none
  /-- How an installation ends. -/
  installCode : Nat := 0
  told : List Told := []
  /-- The number of installations. -/
  installs : Nat := 0
  deriving Inhabited

/-- Nothing is printed any more. -/
def exit : Browser.Burst :=
  { lines := [], ended := true }

/-- The helper program that plays the script. -/
def helper : Browser.Helper Launches where
  start directory settings s :=
    match s.disk.node directory with
    | .error e => (.error e, s)
    | .ok (.directory _) =>
      let launch := s.script.headD {}
      let s := { s with script := s.script.tail, told := .settings settings :: s.told }
      match launch.greeting with
      | none => (.ok exit, { s with running := none })
      | some bytes => (.ok { lines := Text.byteLines bytes }, { s with running := some launch.replies })
    | .ok _ => (.error .notDirectory, s)
  send line s :=
    let told := Told.request line :: s.told
    match s.running with
    | none => (.error .brokenPipe, s)
    | some [] => (.ok exit, { s with told, running := none })
    | some (bytes :: rest) => (.ok { lines := Text.byteLines bytes }, { s with told, running := some rest })
  stop s := { s with running := none }
  install _ s := (.ok s.installCode, { s with installs := s.installs + 1 })

end UiCheck.Rehearsal

namespace UiCheck.Rehearsal

/-- A machine that starts servers in the directories of a disk, and on which no port ever accepts. -/
def host {σ : Type} (disk : Files.Disk) : Server.Host σ where
  spawn command directory := shell.start command directory disk
  accepts _ _ _ s := (false, s)

/-- The scripts of a machine. -/
structure Scripts where
  transfers : Transfers
  launches : Launches
  deriving Inhabited

/-- The machine that plays the scripts. -/
def machine : CommandLine.Machine Scripts where
  shell
  courier :=
    (⟨(·.transfers), fun transfers s => { s with transfers }⟩ : Part Scripts Transfers).courier courier
  helper :=
    (⟨(·.launches), fun launches s => { s with launches }⟩ : Part Scripts Launches).helper helper
  accepts _ _ _ s := (false, s)

end UiCheck.Rehearsal
