import UiCheck.Files.Error

/-! # Oracles

An oracle is asked for code: for one fixed file, for a patch of several files, or for a plan. What it answers
is a text, and nothing is known about that text.
-/

namespace UiCheck

/-- Why an oracle does not answer. -/
inductive OracleError where
  | connectionFailed (what : String)
  /-- Nothing came for a number of milliseconds. -/
  | silence (milliseconds : Nat)
  | invalidResponse (what : String)
  | io (cause : IoError)
  deriving DecidableEq, Inhabited, Repr

/-- A span of time as messages show it. -/
def spanText (milliseconds : Nat) : String :=
  let fraction (digits : Nat) (width : Nat) : String :=
    let padded := List.replicate (width - (Nat.toDigits 10 digits).length) '0' ++ Nat.toDigits 10 digits
    let kept := (padded.reverse.dropWhile (· == '0')).reverse
    if kept.isEmpty then "" else "." ++ String.ofList kept
  if milliseconds = 0 then "0ns"
  else if milliseconds < 1000 then s!"{milliseconds}ms"
  else s!"{milliseconds / 1000}{fraction (milliseconds % 1000) 3}s"

/-- The message of an error. -/
def OracleError.message : OracleError → String
  | .connectionFailed what => s!"Connection failed: {what}"
  | .silence milliseconds => s!"No response for {spanText milliseconds}"
  | .invalidResponse what => s!"Invalid response: {what}"
  | .io cause => s!"IO error: {cause.message}"

/-- What is said about a build that failed. -/
structure BuildContext where
  logs : String
  /-- The text of the broken file. -/
  source : String
  manifest : String
  deriving DecidableEq, Inhabited, Repr

/-- What is said about checks that failed. -/
structure TestContext where
  /-- The numbered failures. -/
  failures : String
  /-- The text of the plan. -/
  plan : String
  sources : String
  fileTree : String
  manifest : String
  instruction : Option String
  deriving DecidableEq, Inhabited, Repr

/-- What is said when a plan is asked for. -/
structure PlanContext where
  fileTree : String
  sources : String
  /-- The text of the current plan, empty if there is none. -/
  currentPlan : String
  instruction : Option String
  deriving DecidableEq, Inhabited, Repr

/-- What an oracle is asked for. -/
inductive OracleRequest where
  | repairFile (context : BuildContext)
  | repairFiles (context : TestContext)
  | generatePlan (context : PlanContext)
  deriving DecidableEq, Inhabited, Repr

/-- An oracle with states in `σ`. -/
structure Oracle (σ : Type) where
  ask (request : OracleRequest) : σ → Except OracleError String × σ

end UiCheck
