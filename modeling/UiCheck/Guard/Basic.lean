import UiCheck.Files.Disk
import UiCheck.Guard.Change
import UiCheck.Guard.Structure
import UiCheck.Time.Moment

/-! # Guarding a plan

A regenerated plan is looked at before it replaces the current one. The current plan is saved beside itself,
and its settings are carried over if the new document is not sound. Nothing is refused here.
-/

namespace UiCheck.Guard

open Files

/-- Where the plan at a path is saved at a moment. -/
def backupPath (path : String) (moment : Moment) : String :=
  let stem := ((fileName? path).map fun name => (splitExtension name).1).getD "plan"
  withFileName path s!"{stem}.backup.{moment.backupStamp}.yaml"

/-- What was found out about a regenerated plan. -/
structure Outcome where
  /-- The text to write. -/
  content : String
  /-- Where the current plan was saved, if it says anything. -/
  backup : Option String
  structureReport : StructureReport
  changes : ChangeReport
  deriving DecidableEq, Inhabited, Repr

/-- The text that replaces the current one. -/
def accepted (current updated : String) : String :=
  if (checkStructure updated).isSound then updated else preserveSettings current updated

/-- The outcome once the current plan is saved. -/
def outcome (current updated : String) (prompt backup : Option String) : Outcome :=
  let content := accepted current updated
  { content, backup
    structureReport := checkStructure updated
    changes := judge current content prompt }

/-- Saves the current plan at a path and decides what replaces it. -/
def run (ws : Workspace) (moment : Moment) (path current updated : String) (prompt : Option String) :
    Except IoError Outcome × Workspace :=
  if Text.allBlank current.toList then (.ok (outcome current updated prompt none), ws)
  else
    let backup := backupPath path moment
    match ws.writeText backup current with
    | (.error e, ws) => (.error e, ws)
    | (.ok (), ws) => (.ok (outcome current updated prompt (some backup)), ws)

end UiCheck.Guard
