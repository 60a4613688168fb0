import UiCheck.Build.Command
import UiCheck.Repair.Outcome
import UiCheck.Repair.Phase
import UiCheck.Run.Engine
import UiCheck.Session.Store

/-! # The repair loop

Each iteration builds the project. A build that fails has its broken file fixed; after a build that passes
the plan is run, and a run that fails has the application patched. The loop ends with a run that passes, with
an error that is not the oracle's, or when the budget is used up. Each iteration leaves one record.
-/

namespace UiCheck.Repair

open Files

/-- What builds a project, with states in `σ`. A build may change the disk. -/
structure Builder (σ : Type) where
  /-- Builds once. An error means that the build tool could not be started. -/
  build (disk : Disk) : σ → Except IoError BuildOutcome × Disk × σ

/-- All that a repair works with: a page with listeners in `ω`, an oracle, a builder, and the machine that
starts servers. -/
structure Crew (σ ω : Type) where
  page : Page σ ω
  oracle : Oracle σ
  builder : Builder σ
  host : Disk → Server.Host σ

/-- How an iteration goes on. -/
inductive Verdict where
  /-- The run passed. -/
  | pass (result : RunResult)
  /-- Something failed; the result is there if the plan was run. -/
  | again (result : Option RunResult)
  | abort (cause : Error)
  deriving Inhabited

section

variable {σ ω : Type}

/-- Writes a record if there is a session; a record that cannot be written is dropped. -/
def keepRecord (session : Option Session) (record : IterationRecord) (world : World σ) : World σ :=
  match session with
  | none => world
  | some session =>
    let (_, disk) := session.record world.files.disk record
    { world with files := { world.files with disk } }

/-- The record of an iteration that is stopped. -/
def stopped (record : IterationRecord) (cause : Error) : IterationRecord :=
  { record with note := some cause.message }

/-- Has the plan written anew if the user asks for something. The answer is a note about an oracle that
fails. -/
def renewPlan (crew : Crew σ ω) (options : Options) (moment : Moment) (budget : Budget) (world : World σ) :
    Except Error (Option String) × World σ :=
  match options.instruction with
  | none => (.ok none, world)
  | some instruction =>
    if budget.iteration ≠ 1 then (.ok none, world)
    else
      match generatePlan crew.oracle options moment (some instruction) world with
      | (.ok _, world) => (.ok none, world)
      | (.error (.oracle e), world) => (.ok (some s!"Plan generation failed: {e.message}"), world)
      | (.error cause, world) => (.error cause, world)

/-- Builds the project. -/
def World.build (world : World σ) (builder : Builder σ) : Except IoError BuildOutcome × World σ :=
  let (answer, disk, outside) := builder.build world.files.disk world.outside
  (answer, { files := { world.files with disk }, outside })

/-- Runs the plan of the project. -/
def World.run (world : World σ) (crew : Crew σ ω) (options : Options) : RunResult × World σ :=
  let disk := world.files.disk
  let (result, outside) :=
    Run.runFile crew.page (crew.host disk) options.run disk options.planPath world.outside
  (result, { world with outside })

/-- What follows a build that failed. -/
def mendBuild (crew : Crew σ ω) (options : Options) (record : IterationRecord) (outcome : BuildOutcome)
    (world : World σ) : Verdict × IterationRecord × World σ :=
  let record := { record with brokenFile := Build.errorFile? outcome.logs }
  match repairBuild crew.oracle options outcome.logs world with
  | (.ok file, world) => (.again none, { record with patched := [file] }, world)
  | (.error (.oracle e), world) => (.again none, { record with note := some e.message }, world)
  | (.error cause, world) => (.abort cause, stopped record cause, world)

/-- What follows a run that failed. -/
def mendTests (crew : Crew σ ω) (options : Options) (record : IterationRecord) (result : RunResult)
    (world : World σ) : Verdict × IterationRecord × World σ :=
  match repairTests crew.oracle options result world with
  | (.ok written, world) =>
    let record := { record with patched := written.map (relativeTo options.projectDir) }
    if written.isEmpty then
      (.again (some result), { record with note := some "No file updates in oracle reply" }, world)
    else (.again (some result), record, world)
  | (.error (.oracle e), world) => (.again (some result), { record with note := some e.message }, world)
  | (.error cause, world) => (.abort cause, stopped record cause, world)

/-- What follows a build that passed. -/
def checkPlan (crew : Crew σ ω) (options : Options) (record : IterationRecord) (world : World σ) :
    Verdict × IterationRecord × World σ :=
  let (result, world) := world.run crew options
  let record := { record with buildPassed := true, result := some result }
  if result.success then (.pass result, record, world) else mendTests crew options record result world

/-- One iteration. The record is not written yet. -/
def iterate (crew : Crew σ ω) (options : Options) (moment : Moment) (budget : Budget) (world : World σ) :
    Verdict × IterationRecord × World σ :=
  let record : IterationRecord := { iteration := budget.iteration.toNat }
  match renewPlan crew options moment budget world with
  | (.error cause, world) => (.abort cause, stopped record cause, world)
  | (.ok note, world) =>
    let record := { record with note }
    match world.build crew.builder with
    | (.error e, world) => (.abort (.build e), stopped record (.build e), world)
    | (.ok outcome, world) =>
      if outcome.isSuccess then checkPlan crew options record world
      else mendBuild crew options record outcome world

/-- Iterates until an outcome is reached. The fuel bounds the number of iterations; there is no outcome if it is
used up before the budget is. -/
def loop (crew : Crew σ ω) (session : Option Session) (options : Options) (moment : Moment) :
    Nat → Budget → Option RunResult → World σ → Option Outcome × World σ
  | fuel, budget, last, world =>
    if budget.isExhausted then (some (.exhausted budget.limit.toNat last), world)
    else
      match fuel with
      | 0 => (none, world)
      | fuel + 1 =>
        let (verdict, record, world) := iterate crew options moment budget world
        let world := keepRecord session record world
        match verdict with
        | .pass result => (some (.passed budget.iteration.toNat result), world)
        | .abort cause => (some (.aborted budget.iteration.toNat cause), world)
        | .again result => loop crew session options moment fuel budget.advance (result.or last) world

/-- Repairs a project, with fuel for as many iterations as are allowed. That is enough for every limit but the
largest word, which no count exceeds: there the loop has no outcome as long as its iterations fail. -/
def run (crew : Crew σ ω) (session : Option Session) (options : Options) (moment : Moment) (world : World σ) :
    Option Outcome × World σ :=
  loop crew session options moment options.maxIterations.toNat (.start options.maxIterations) none world

end

end UiCheck.Repair
