import UiCheck.Browser.Link
import UiCheck.Json.Basic
import UiCheck.Json.Printer

/-! # The helper program of a browser

A browser is driven by a helper program that takes one request a line. It greets when the browser is up. If
its greeting tells that no browser is there, one can be installed.
-/

/-! ## Settings of a browser

How a browser is started, and where the helper program that drives it looks for its own parts.
-/

namespace UiCheck.Browser

/-- How a browser is started. -/
structure Settings where
  /-- The directory in which the helper program runs. -/
  projectDir : String
  /-- No window is shown. -/
  headless : Bool := true
  /-- The pause between two operations in milliseconds. -/
  slowMotion : Nat := 50
  /-- The width of the window in pixels. -/
  width : Nat := 1280
  /-- The height of the window in pixels. -/
  height : Nat := 720
  userAgent : String := "BotIntern-Vibe-Check/1.0"
  /-- A browser that is missing is installed. -/
  autoInstall : Bool := true
  deriving DecidableEq, Inhabited, Repr

/-- What the helper program is told about the settings. -/
def Settings.toJson (settings : Settings) : Json :=
  .sorted [("headless", .bool settings.headless), ("slowMo", .nat settings.slowMotion),
    ("width", .nat settings.width), ("height", .nat settings.height), ("userAgent", .string settings.userAgent)]

end UiCheck.Browser

namespace UiCheck.Browser

/-- What can be done with the helper program, with states in `σ`. -/
structure Helper (σ : Type) where
  /-- Starts the program in a directory with its settings as a text. -/
  start (directory settings : String) : σ → Except IoError Burst × σ
  /-- Sends one line to the program. -/
  send (line : String) : σ → Except IoError Burst × σ
  /-- Stops the program. -/
  stop : σ → σ
  /-- Installs a browser for a directory. The answer is the exit code. -/
  install (directory : String) : σ → Except IoError Nat × σ

/-- What the first lines of the program mean. The answer is what it printed behind its greeting. -/
def greeting (burst : Burst) : Except PageError Burst :=
  match burst.lines with
  | [] =>
    if burst.ended then
      .error (.backend "bridge exited before the browser launched (is playwright installed?)")
    else .error (.timeout "waiting for the browser to launch")
  | none :: _ => .error (.io .notText)
  | some line :: rest =>
    match Reply.ofText line with
    | .error e => .error (.backend s!"bad bridge handshake: {e.message}")
    | .ok reply =>
      if reply.ok then .ok { burst with lines := rest } else .error (.backend (reply.error.getD ""))

/-- The message tells that there is no browser. -/
def lacksBrowser (message : String) : Bool :=
  Text.occursIn "Executable doesn't exist" message || Text.occursIn "not found" message

section

variable {σ : Type}

/-- Starts the program once. -/
def attempt (helper : Helper σ) (settings : Settings) (s : σ) : Except PageError Link × σ :=
  match helper.start settings.projectDir settings.toJson.toCompact s with
  | (.error e, s) => (.error (.io e), s)
  | (.ok burst, s) =>
    match greeting burst with
    | .error e => (.error e, helper.stop s)
    | .ok burst => (.ok (Link.absorb {} burst), s)

/-- Installs a browser and starts the program once more. -/
def installAndAttempt (helper : Helper σ) (settings : Settings) (s : σ) : Except PageError Link × σ :=
  match helper.install settings.projectDir s with
  | (.error e, s) => (.error (.io e), s)
  | (.ok 0, s) => attempt helper settings s
  | (.ok code, s) => (.error (.backend s!"browser install failed with exit status: {code}"), s)

/-- Starts the program. If it lacks a browser, one is installed if the settings allow it. -/
def launch (helper : Helper σ) (settings : Settings) (s : σ) : Except PageError Link × σ :=
  match attempt helper settings s with
  | (.error (.backend message), s) =>
    if settings.autoInstall && lacksBrowser message then installAndAttempt helper settings s
    else (.error (.backend message), s)
  | other => other

end

end UiCheck.Browser
