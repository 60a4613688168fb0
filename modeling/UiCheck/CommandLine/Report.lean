import UiCheck.Guard.Basic
import UiCheck.Plan.Basic
import UiCheck.Plan.Normalize
import UiCheck.Repair.Outcome

/-! # Reports for people and for programs

What is printed about results, plans and changes, line by line for people or as one document.
-/

/-! ## Styles of terminal texts

A text can be coloured, bold or both. The end of a bold text resets everything, that of a coloured one only
the colour. Where colours are turned off their codes are left out of the sequences.
-/

namespace UiCheck.CommandLine

/-- A colour of the palette. -/
inductive Tint where
  | red
  | green
  | yellow
  deriving DecidableEq, Inhabited, Repr

/-- The place of a colour in the palette. -/
def Tint.place : Tint → Nat
  | .red => 9
  | .green => 10
  | .yellow => 11

/-- How texts are shown. -/
structure Palette where
  /-- Colours are turned off. -/
  colourless : Bool
  deriving DecidableEq, Inhabited, Repr

namespace Palette

/-- A control sequence for a colour. -/
def sequence (palette : Palette) (code : String) : String :=
  if palette.colourless then "\x1b[m" else s!"\x1b[{code}m"

/-- The sequence that starts a colour. -/
def start (palette : Palette) (tint : Tint) : String :=
  palette.sequence s!"38;5;{tint.place}"

/-- A coloured text. -/
def tinted (palette : Palette) (tint : Tint) (text : String) : String :=
  palette.start tint ++ text ++ palette.sequence "39"

/-- A bold text. -/
def bold (text : String) : String :=
  "\x1b[1m" ++ text ++ "\x1b[0m"

/-- A text both coloured and bold. -/
def strong (palette : Palette) (tint : Tint) (text : String) : String :=
  palette.start tint ++ bold text

end Palette

end UiCheck.CommandLine

namespace UiCheck.CommandLine

open Palette

/-- The lines about a result. -/
def resultLines (palette : Palette) (result : RunResult) : List String :=
  let counts := s!" {result.passed}/{result.total} checks passed"
  if result.success then [palette.strong .green "PASS" ++ counts]
  else
    [palette.strong .red "FAIL" ++ counts] ++
      (result.error.toList.map fun error => "  " ++ palette.tinted .red error) ++
      result.failures.map fun failure =>
        s!"  [{failure.scenario}] {failure.step.describe}: {failure.error}"

/-- The lines about the outcome of a repair. -/
def outcomeLines (palette : Palette) (outcome : Repair.Outcome) : List String :=
  match outcome with
  | .passed _ result => palette.strong .green outcome.describe :: resultLines palette result
  | .exhausted _ (some result) => palette.strong .red outcome.describe :: resultLines palette result
  | .exhausted _ none | .aborted .. => [palette.strong .red outcome.describe]

/-- The lines about a plan that was written at a path. -/
def planWrittenLines (palette : Palette) (path : String) (outcome : Guard.Outcome) : List String :=
  let diff := outcome.changes.diff
  [palette.tinted .green "Wrote" ++ " " ++ path] ++
    (outcome.backup.toList.map fun backup => s!"  Backup: {backup}") ++
    [s!"  Changes: +{diff.stats.added} -{diff.stats.removed} ({diff.share.text}% of lines, " ++
      s!"limit {outcome.changes.limit}%)"] ++
    (if outcome.changes.isValid then []
      else ["  " ++ palette.tinted .yellow outcome.changes.recommendation])

/-- The document about a build. -/
def buildDocument (passed : Bool) (brokenFile : Option String) : Json :=
  .sorted [("buildPassed", .bool passed), ("brokenFile", .ofText? brokenFile)]

/-- The lines about a build. -/
def buildLines (palette : Palette) (passed : Bool) (brokenFile : Option String) : List String :=
  if passed then [palette.tinted .green "Build passed"]
  else
    [palette.strong .red "Build failed",
     match brokenFile with
      | some file => s!"  Broken file: {file}"
      | none => "  No source file named in the build log"]

/-- The actions of a scenario. -/
def actionsOf (scenario : Scenario) : List Action :=
  scenario.steps.map Plan.normalize

/-- The document about a scenario. -/
def scenarioDocument (scenario : Scenario) : Except KeyFault Json := do
  let steps ← (actionsOf scenario).mapM Action.toJson
  return .sorted [("name", .string scenario.name), ("steps", (Json.list steps).arranged)]

/-- The document about a plan. -/
def planDocument (plan : Plan) (report : Guard.StructureReport) : Except KeyFault Json := do
  let scenarios ← plan.scenarios.mapM scenarioDocument
  return .sorted [("baseUrl", .string plan.root), ("structure", report.toJson.arranged),
    ("scenarios", .list scenarios)]

/-- The line about an action. -/
def actionLine (palette : Palette) (action : Action) : String :=
  let line := "  " ++ action.describe
  match action with
  | .unknown _ => palette.tinted .red line
  | _ => line

/-- The lines about a plan at a path. -/
def planLines (palette : Palette) (path : String) (plan : Plan) (report : Guard.StructureReport) : List String :=
  [s!"Plan: {path} ({report.lineCount} lines)", s!"Base URL: {plan.root}"] ++
    (if report.invalidKeys.isEmpty then []
      else ["  " ++ palette.tinted .yellow "Legacy keys:" ++ " " ++ ", ".intercalate report.invalidKeys]) ++
    plan.scenarios.flatMap fun scenario =>
      ["", bold scenario.name] ++ (actionsOf scenario).map (actionLine palette)

/-- What the program can do. -/
def overview : List String :=
  ["BotIntern - declarative UI checks with an AI repair loop",
   "",
   "Usage: botintern [--dir <DIR>] <COMMAND>",
   "",
   "Commands:",
   "  test           Run the test plan once",
   "  loop           Build, test and repair until the plan passes",
   "  generate-plan  Generate or update the test plan",
   "  fix            Apply a single-file fix for a failing build",
   "  scan           Build once and report the broken file",
   "  check-plan     Print the plan's normalized steps",
   "",
   "Run with --help for more information."]

end UiCheck.CommandLine
