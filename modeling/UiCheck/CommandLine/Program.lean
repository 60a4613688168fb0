import UiCheck.Browser.Page
import UiCheck.Build.Command
import UiCheck.CommandLine.Arguments
import UiCheck.CommandLine.Report
import UiCheck.Oracle.Client
import UiCheck.Part
import UiCheck.Repair.Loop

/-! # The program

What each command of the command line does, from its arguments to what it prints and the status with which it
ends. Shell, helper programs and ports are left to the machine; everything else is done here.
-/

namespace UiCheck.CommandLine

open Files

/-- What the program finds when it starts. -/
structure Setting where
  environment : Environment
  moment : Moment
  hostName : String
  deriving DecidableEq, Inhabited, Repr

/-- What the program needs from the machine with states in `σ`. -/
structure Machine (σ : Type) where
  shell : Build.Shell σ
  courier : Oracle.Courier σ
  helper : Browser.Helper σ
  /-- Tries a port until it accepts or the time is up. -/
  accepts (address : Server.Address) (deadline interval : Nat) : σ → Bool × σ

/-- A disk and the state of the machine. -/
structure Scene (σ : Type) where
  disk : Disk
  outside : σ
  deriving Inhabited

/-- How the program ends. -/
structure Ending (σ : Type) where
  status : Nat
  /-- What it printed. -/
  output : String
  /-- What it complained about. -/
  complaints : List String
  scene : Scene σ
  deriving Inhabited

/-- Lines as a text. -/
def printed (lines : List String) : String :=
  String.join (lines.map (· ++ "\n"))

/-- The program has done what it was asked for. -/
def finish {σ : Type} (lines : List String) (success : Bool) (scene : Scene σ) : Ending σ :=
  { status := if success then 0 else 1, output := printed lines, complaints := [], scene }

/-- The program gives up. -/
def giveUp {σ : Type} (problem : String) (scene : Scene σ) : Ending σ :=
  { status := 1, output := "", complaints := [s!"Error: {problem}"], scene }

/-- Adds a complaint in front of the others. -/
def Ending.after {σ : Type} (ending : Ending σ) (complaints : List String) : Ending σ :=
  { ending with complaints := complaints ++ ending.complaints }

/-- Everything that a command works with. -/
structure Job (σ : Type) where
  setting : Setting
  machine : Machine σ
  arguments : Arguments

namespace Job

variable {σ : Type}

/-- The settings in force. -/
def configuration (job : Job σ) : Configuration :=
  .ofEnvironment job.setting.environment

/-- How coloured texts are shown: a variable that is not empty turns colours off. -/
def palette (job : Job σ) : Palette :=
  { colourless := job.setting.environment.text "NO_COLOR" "" ≠ "" }

/-- Where the plan is. -/
def planPath (job : Job σ) : String :=
  join job.arguments.dir job.configuration.project.planFile

/-- The oracle. -/
def oracle (job : Job σ) : Oracle σ :=
  Oracle.remote job.machine.courier job.configuration.oracle

/-- The options of a repair. -/
def repairOptions (job : Job σ) : Repair.Options :=
  .ofConfiguration job.configuration job.arguments.dir

/-- What starts servers and tries ports. -/
def host (job : Job σ) (disk : Disk) : Server.Host σ where
  spawn command directory := job.machine.shell.start command directory disk
  accepts := job.machine.accepts

/-- Builds the project. -/
def build (job : Job σ) (scene : Scene σ) : Except IoError BuildOutcome × Scene σ :=
  let command := job.configuration.project.buildCommand
  let (answer, disk, outside) :=
    Build.runCommand job.machine.shell job.setting.environment command job.arguments.dir scene.disk scene.outside
  (answer, { disk, outside })

/-- How the browser is started. -/
def browserSettings (job : Job σ) : Browser.Settings :=
  { projectDir := job.arguments.dir, headless := ! job.arguments.headed }

/-- Warns if the oracle does not answer. -/
def checkOracle (job : Job σ) (scene : Scene σ) : List String × Scene σ :=
  let oracle := job.configuration.oracle
  let (answer, outside) :=
    Oracle.isReachable job.machine.courier oracle.endpoint oracle.connectTimeout scene.outside
  let warning := job.palette.tinted .yellow "Warning:" ++
    s!" oracle endpoint not responding at {oracle.endpoint}"
  let complaints := match answer with
    | .ok true => []
    | _ => [warning]
  (complaints, { scene with outside })

/-- Prints a document. One that has no text form is a problem. -/
def document (success : Bool) (doc : Except KeyFault Json) (scene : Scene σ) : Ending σ :=
  match doc with
  | .ok doc => finish [doc.toPretty] success scene
  | .error fault => giveUp fault.message scene

/-- Runs the plan once. -/
def test (job : Job σ) (scene : Scene σ) : Ending σ :=
  match Browser.launch job.machine.helper job.browserSettings scene.outside with
  | (.error e, outside) => giveUp e.message { scene with outside }
  | (.ok link, outside) =>
    let operations := Browser.Linked.operations job.machine.helper
    let part : Part (Browser.Linked σ) σ := ⟨(·.outside), fun outside s => { s with outside }⟩
    let options := job.configuration.runOptions job.arguments.dir
    let (result, linked) :=
      Run.runFile operations (part.host (job.host scene.disk)) options scene.disk job.planPath { link, outside }
    let (_, linked) := operations.close linked
    let scene := { scene with outside := linked.outside }
    if job.arguments.json then document result.success result.toJson scene
    else finish (resultLines job.palette result) result.success scene

/-- What a repair prints. -/
def repairEnding (job : Job σ) (session : Session) (outcome : Repair.Outcome) (scene : Scene σ) : Ending σ :=
  if job.arguments.json then
    match session.records scene.disk with
    | .error e => giveUp e.message scene
    | .ok records => document outcome.isSuccess ((records.mapM IterationRecord.toJson).map .list) scene
  else
    let place := if session.keep then ["", s!"Session: {session.dir}"] else []
    finish (outcomeLines job.palette outcome ++ place) outcome.isSuccess scene

/-- Builds, runs and repairs within a session that has been started. -/
def repairWithin (job : Job σ) (session : Session) (options : Repair.Options) (scene : Scene σ) : Ending σ :=
  match Browser.launch job.machine.helper job.browserSettings scene.outside with
  | (.error e, outside) => giveUp e.message { scene with outside }
  | (.ok link, outside) =>
    let operations := Browser.Linked.operations job.machine.helper
    let part : Part (Browser.Linked σ) σ := ⟨(·.outside), fun outside s => { s with outside }⟩
    let builder : Repair.Builder (Browser.Linked σ) :=
      { build := fun disk s =>
          let (answer, scene) := job.build { disk, outside := s.outside }
          (answer, scene.disk, { s with outside := scene.outside }) }
    let crew : Repair.Crew (Browser.Linked σ) Browser.Armed :=
      { page := operations, oracle := part.oracle job.oracle, builder
        host := fun disk => part.host (job.host disk) }
    match Repair.run crew (some session) options job.setting.moment
        { files := .ofDisk scene.disk, outside := { link, outside } } with
    | (some outcome, world) =>
      let (_, linked) := operations.close world.outside
      job.repairEnding session outcome { disk := world.files.disk, outside := linked.outside }
    | (none, world) =>
      -- a loop that still goes on has printed nothing
      finish [] false { disk := world.files.disk, outside := world.outside.outside }

/-- Builds, runs and repairs until the plan passes. The session goes when all is printed. -/
def repair (job : Job σ) (prompt : Option String) (maxIterations : Option Nat) (keep : Bool)
    (scene : Scene σ) : Ending σ :=
  let (warnings, scene) := job.checkOracle scene
  let options := job.repairOptions.withInstruction prompt
  let options :=
    { options with maxIterations := (maxIterations.map UInt32.ofNat).getD options.maxIterations }
  let session : Session :=
    { Session.withName job.configuration.sessionDir "loop" job.setting.moment with
      keep, project := some job.arguments.dir }
  let ending := match session.start scene.disk job.setting.moment job.setting.hostName with
    | (.error e, disk) => giveUp e.message { scene with disk }
    | (.ok (), disk) => job.repairWithin session options { scene with disk }
  { ending.after warnings with scene := { ending.scene with disk := session.drop ending.scene.disk } }

/-- A disk and the state of the machine as a repair sees them. -/
def world (scene : Scene σ) : Repair.World σ :=
  { files := .ofDisk scene.disk, outside := scene.outside }

/-- What a repair left behind. -/
def sceneOf (world : Repair.World σ) : Scene σ :=
  { disk := world.files.disk, outside := world.outside }

/-- Has the plan written. -/
def generatePlan (job : Job σ) (prompt : Option String) (scene : Scene σ) : Ending σ :=
  let (warnings, scene) := job.checkOracle scene
  let ending :=
    match Repair.generatePlan job.oracle job.repairOptions job.setting.moment prompt (world scene) with
    | (.error e, left) => giveUp e.message (sceneOf left)
    | (.ok outcome, left) =>
      if job.arguments.json then document true (.ok outcome.changes.toJson) (sceneOf left)
      else finish (planWrittenLines job.palette job.repairOptions.planPath outcome) true (sceneOf left)
  ending.after warnings

/-- Builds once and has the broken file fixed. -/
def fix (job : Job σ) (scene : Scene σ) : Ending σ :=
  match job.build scene with
  | (.error e, scene) => giveUp e.message scene
  | (.ok .success, scene) => finish [job.palette.tinted .green "Build passed, nothing to fix"] true scene
  | (.ok outcome, scene) =>
    let (warnings, scene) := job.checkOracle scene
    let ending := match Repair.repairBuild job.oracle job.repairOptions outcome.logs (world scene) with
      | (.error e, left) => giveUp e.message (sceneOf left)
      | (.ok file, left) => finish [job.palette.tinted .green "Fixed" ++ " " ++ file] true (sceneOf left)
    ending.after warnings

/-- Builds once and reports the broken file. -/
def scan (job : Job σ) (scene : Scene σ) : Ending σ :=
  match job.build scene with
  | (.error e, scene) => giveUp e.message scene
  | (.ok outcome, scene) =>
    let broken := Build.errorFile? outcome.logs
    if job.arguments.json then
      document outcome.isSuccess (.ok (buildDocument outcome.isSuccess broken)) scene
    else finish (buildLines job.palette outcome.isSuccess broken) outcome.isSuccess scene

/-- Prints the steps of the plan. -/
def checkPlan (job : Job σ) (scene : Scene σ) : Ending σ :=
  let path := job.planPath
  match scene.disk.readText path with
  | .error e => giveUp s!"Could not read {path}: {e.message}" scene
  | .ok text =>
    let report := Guard.checkStructure text
    match Plan.parse text with
    | .error e => giveUp e.message scene
    | .ok plan =>
      if job.arguments.json then document true (planDocument plan report) scene
      else finish (planLines job.palette path plan report) true scene

/-- Does what the arguments ask for. -/
def run (job : Job σ) (scene : Scene σ) : Ending σ :=
  match job.arguments.order with
  | none => finish overview true scene
  | some .test => job.test scene
  | some (.repair prompt maxIterations keep) => job.repair prompt maxIterations keep scene
  | some (.generatePlan prompt) => job.generatePlan prompt scene
  | some .fix => job.fix scene
  | some .scan => job.scan scene
  | some .checkPlan => job.checkPlan scene

end Job

/-- Runs the program with arguments. -/
def run {σ : Type} (setting : Setting) (machine : Machine σ) (arguments : List String) (scene : Scene σ) :
    Ending σ :=
  match Arguments.parse setting.environment arguments with
  | .error .help => finish overview true scene
  | .error .usage => { status := 2, output := "", complaints := ["Error: wrong usage"], scene }
  | .ok arguments => Job.run { setting, machine, arguments } scene

end UiCheck.CommandLine
