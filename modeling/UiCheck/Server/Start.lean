import UiCheck.Files.Error
import UiCheck.Number.Digits
import UiCheck.Text.Search

/-! # Starting a server

A command is started in a directory, and then the port of the base address is tried until it accepts or the
time is up. What starting and trying do is left to the host. Times are in milliseconds.
-/

/-! ## Addresses of servers

The host and the port that a base address points at. Only what stands between the scheme and the path
counts, without the name of a user.
-/

namespace UiCheck.Server

/-- A host and a port. -/
structure Address where
  host : String
  port : Nat
  deriving DecidableEq, Inhabited, Repr

/-- The port of an address that names none. -/
def defaultPort : Nat := 3000

/-- The host of an address that names none. -/
def defaultHost : String := "localhost"

/-- An address as messages name it. -/
def Address.text (address : Address) : String :=
  s!"{address.host}:{address.port}"

/-- A character that ends the part of an address with host and port. -/
def endsAuthority (c : Char) : Bool :=
  c == '/' || c == '?' || c == '#'

/-- The part of an address between the scheme and the path. -/
def authority (url : List Char) : List Char :=
  let rest := match Text.cut? "://".toList url with
    | some (_, rest) => rest
    | none => url
  rest.takeWhile (! endsAuthority ·)

/-- The host and the port of a base address. A port that is no number of sixteen bits counts as none. -/
def Address.ofUrl (url : String) : Address :=
  let authority := authority url.toList
  let authority := match Text.cutLast? ['@'] authority with
    | some (_, rest) => rest
    | none => authority
  let (host, port) := match Text.cutLast? [':'] authority with
    | some (host, port) => (host, Number.unsigned? 10 Number.word16 port)
    | none => (authority, none)
  { host := if host.isEmpty then defaultHost else String.ofList host
    port := port.getD defaultPort }

end UiCheck.Server

namespace UiCheck.Server

/-- How to bring a server up. -/
structure Options where
  /-- The command that starts the server; without one no server is started. -/
  command : Option String
  workingDir : String
  /-- How long the port is tried. -/
  startupTimeout : Nat := 30000
  /-- How long to wait between two attempts. -/
  pollInterval : Nat := 1000
  deriving DecidableEq, Inhabited, Repr

/-- Why a server does not come up. -/
inductive Error where
  | noCommand
  | spawn (command : String) (cause : IoError)
  | timeout (address : Address) (seconds : Nat)
  deriving DecidableEq, Inhabited, Repr

/-- The message of an error. -/
def Error.message : Error → String
  | .noCommand => "No dev server command configured"
  | .spawn command cause => s!"Failed to spawn `{command}`: {cause.message}"
  | .timeout address seconds => s!"Server at {address.text} not reachable after {seconds}s"

/-- What starting a server needs from the machine with states in `σ`. -/
structure Host (σ : Type) where
  /-- Starts a command in a directory and does not wait for it. -/
  spawn (command workingDir : String) : σ → Except IoError Unit × σ
  /-- Tries a port until it accepts or the time is up. -/
  accepts (address : Address) (deadline interval : Nat) : σ → Bool × σ

/-- Starts the server and waits until the port of the base address accepts. -/
def start {σ : Type} (host : Host σ) (options : Options) (baseUrl : String) (s : σ) :
    Except Error Unit × σ :=
  match options.command with
  | none => (.error .noCommand, s)
  | some command =>
    match host.spawn command options.workingDir s with
    | (.error cause, s) => (.error (.spawn command cause), s)
    | (.ok (), s) =>
      let address := Address.ofUrl baseUrl
      match host.accepts address options.startupTimeout options.pollInterval s with
      | (true, s) => (.ok (), s)
      | (false, s) => (.error (.timeout address (options.startupTimeout / 1000)), s)

end UiCheck.Server
