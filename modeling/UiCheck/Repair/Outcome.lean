import UiCheck.Oracle.Basic
import UiCheck.Patch.Apply
import UiCheck.Run.Result

/-! # Outcomes of a repair

A repair ends when the plan passes, when no iteration is left, or when something fails that an oracle
cannot mend.
-/

/-! ## Errors of a repair

A phase of a repair fails because of the oracle, of the files of the project, or of the build tool. Only a
failing oracle lets the repair go on.
-/

namespace UiCheck.Repair

/-- Why a phase of a repair fails. -/
inductive Error where
  /-- The file to fix is not there. -/
  | brokenFileMissing (file : String)
  /-- The build tool could not be started. -/
  | build (cause : IoError)
  | oracle (cause : OracleError)
  | patch (cause : Patch.Error)
  | io (cause : IoError)
  deriving DecidableEq, Inhabited, Repr

namespace Error

/-- The message of an error. -/
def message : Error → String
  | .brokenFileMissing file => s!"The file {file} does not exist"
  | .build cause => s!"Could not run the build: {cause.message}"
  | .oracle cause => s!"Oracle request failed: {cause.message}"
  | .patch cause => cause.message
  | .io cause => s!"I/O error: {cause.message}"

end Error

end UiCheck.Repair

/-! ## Budgets of iterations

A budget counts iterations from one and knows how many are allowed. Both numbers are machine words, so the
count wraps around behind the largest word.
-/

namespace UiCheck.Repair

/-- An iteration counter with its limit. -/
structure Budget where
  iteration : UInt32
  limit : UInt32
  deriving DecidableEq, Inhabited, Repr

namespace Budget

/-- The first iteration under a limit. -/
def start (limit : UInt32) : Budget :=
  { iteration := 1, limit }

/-- The iteration lies beyond the limit. -/
def isExhausted (budget : Budget) : Bool :=
  budget.limit < budget.iteration

/-- The next iteration. -/
def advance (budget : Budget) : Budget :=
  { budget with iteration := budget.iteration + 1 }

end Budget

end UiCheck.Repair

namespace UiCheck.Repair

/-- How a repair ended. -/
inductive Outcome where
  /-- The plan passed in an iteration. -/
  | passed (iteration : Nat) (result : RunResult)
  /-- No iteration is left; `last` is the result of the latest run, if there was any. -/
  | exhausted (limit : Nat) (last : Option RunResult)
  /-- An iteration failed for good. -/
  | aborted (iteration : Nat) (cause : Error)
  deriving Inhabited

namespace Outcome

/-- The plan passed. -/
def isSuccess : Outcome → Bool
  | .passed .. => true
  | _ => false

/-- The words for an outcome. -/
def describe : Outcome → String
  | .passed iteration result =>
    s!"All tests passed in iteration {iteration} ({result.passed}/{result.total})"
  | .exhausted limit _ => s!"Max iterations ({limit}) reached without a passing run"
  | .aborted iteration cause => s!"Aborted in iteration {iteration}: {cause.message}"

end Outcome

end UiCheck.Repair
