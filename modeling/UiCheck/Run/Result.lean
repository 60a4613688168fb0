import UiCheck.Plan.Action

/-! # Results of runs

How many checks a run made, how many of them passed, and what failed. A result can be written as JSON unless
a failed step has no JSON form.
-/

namespace UiCheck

/-- What failed: a step, or a phase outside the steps. -/
inductive FailedStep where
  | action (action : Action)
  | phase (name : String)
  deriving Inhabited

namespace FailedStep

/-- The phase in which the page of a scenario is opened. -/
def navigation : FailedStep :=
  .phase "Navigation"

/-- A short label. -/
def describe : FailedStep → String
  | .action step => step.describe
  | .phase name => name

/-- The tagged form of a step, or the name of a phase. -/
def toJson : FailedStep → Except KeyFault Json
  | .action step => step.toJson
  | .phase name => .ok (.string name)

end FailedStep

/-- One failure. -/
structure Failure where
  scenario : String
  step : FailedStep
  error : String
  deriving Inhabited

/-- The members of a failure in their order. -/
def Failure.toJson (failure : Failure) : Except KeyFault Json :=
  match failure.step.toJson with
  | .error fault => .error fault
  | .ok step =>
    .ok (.object [("scenario", .string failure.scenario), ("action", step), ("error", .string failure.error)])

/-- The result of a run. -/
structure RunResult where
  success : Bool := false
  /-- The number of checks. -/
  total : Nat := 0
  /-- The number of checks that passed. -/
  passed : Nat := 0
  /-- The failures in the order in which they happened. -/
  failures : List Failure := []
  /-- Why there was nothing to check. -/
  error : Option String := none
  deriving Inhabited

namespace RunResult

/-- The result of a run that stopped before its first scenario. -/
def fatal (reason : String) : RunResult :=
  { error := some reason }

/-- One numbered line for each failure. -/
def numbered (start : Nat) : List Failure → List String
  | [] => []
  | failure :: rest =>
    s!"{start}. [{failure.scenario}] {failure.step.describe}: {failure.error}" :: numbered (start + 1) rest

/-- The failures as a numbered list; without failures the list holds the error. -/
def failureSummary (result : RunResult) : String :=
  match result.error, result.failures with
  | some error, [] => s!"1. {error}"
  | _, failures => "\n".intercalate (numbered 1 failures)

/-- The JSON forms of failures. -/
def failuresToJson : List Failure → Except KeyFault (List Json)
  | [] => .ok []
  | failure :: rest =>
    match failure.toJson with
    | .error fault => .error fault
    | .ok doc =>
      match failuresToJson rest with
      | .error fault => .error fault
      | .ok docs => .ok (doc :: docs)

/-- The members of a result in their order; what is empty is left out. -/
def toJson (result : RunResult) : Except KeyFault Json :=
  match failuresToJson result.failures with
  | .error fault => .error fault
  | .ok failures =>
    .ok (.object ([("success", .bool result.success), ("totalTests", .nat result.total),
        ("passedTests", .nat result.passed)] ++
      (if failures.isEmpty then [] else [("failures", .list failures)]) ++
      (match result.error with
        | some error => [("error", .string error)]
        | none => [])))

end RunResult

end UiCheck
