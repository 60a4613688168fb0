import UiCheck.Page.Memory
import UiCheck.Part
import UiCheck.Repair.Loop

/-! # Rehearsed repairs

A repair on a page in memory, with an oracle and a build tool that play scripts. Behind the end of its script
the oracle is out of reach, while builds pass.
-/

namespace UiCheck.Rehearsal

/-- The replies of an oracle by what it is asked for, and what it was asked so far, latest first. -/
structure Replies where
  repairFile : List (Except OracleError String) := []
  repairFiles : List (Except OracleError String) := []
  generatePlan : List (Except OracleError String) := []
  asked : List OracleRequest := []
  deriving Inhabited

/-- The next reply of a script. -/
def nextReply (script : List (Except OracleError String)) : Except OracleError String :=
  script.headD (.error (.connectionFailed "scripted outage"))

/-- The oracle that plays the script. -/
def oracle : Oracle Replies where
  ask request s :=
    let s := { s with asked := request :: s.asked }
    match request with
    | .repairFile _ => (nextReply s.repairFile, { s with repairFile := s.repairFile.tail })
    | .repairFiles _ => (nextReply s.repairFiles, { s with repairFiles := s.repairFiles.tail })
    | .generatePlan _ => (nextReply s.generatePlan, { s with generatePlan := s.generatePlan.tail })

/-- The outcomes of builds still to come, and the number of builds so far. -/
structure Builds where
  script : List (Except IoError BuildOutcome) := []
  built : Nat := 0
  deriving Inhabited

/-- The build tool that plays the script. -/
def builder : Repair.Builder Builds where
  build disk s := (s.script.headD (.ok .success), disk, { script := s.script.tail, built := s.built + 1 })

/-- Everything that a rehearsed repair works with. -/
structure Stage where
  page : MemoryPage
  replies : Replies
  builds : Builds := {}
  deriving Inhabited

/-- A machine on which no server can be started and no port ever accepts. -/
def silentHost {σ : Type} : Server.Host σ where
  spawn _ _ s := (.error .notFound, s)
  accepts _ _ _ s := (false, s)

/-- The crew that works on a stage. -/
def crew : Repair.Crew Stage Listener where
  page := (⟨(·.page), fun page s => { s with page }⟩ : Part Stage MemoryPage).page MemoryPage.operations
  oracle := (⟨(·.replies), fun replies s => { s with replies }⟩ : Part Stage Replies).oracle oracle
  builder :=
    { build := fun disk s =>
        let (answer, disk, builds) := builder.build disk s.builds
        (answer, disk, { s with builds }) }
  host _ := silentHost

end UiCheck.Rehearsal
