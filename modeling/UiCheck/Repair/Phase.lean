import UiCheck.Build.Log
import UiCheck.Configuration
import UiCheck.Files.Listing
import UiCheck.Guard.Basic
import UiCheck.Patch.Fence
import UiCheck.Repair.Outcome

/-! # Phases of a repair

A repair has three phases in which an oracle is asked: a plan is written anew, the file that a build log
names is fixed, or the application is patched. Each phase asks once, and it asks before it writes.
-/

namespace UiCheck.Repair

open Files

/-! ## Options of a repair

Where the project is, which of its files matter, and how often a repair is tried. All files but the project
itself are given relative to the project.
-/

/-- What a repair needs to know. -/
structure Options where
  projectDir : String
  planFile : String
  /-- The file that is fixed when a build log names none. -/
  entryFile : String
  manifestFile : String
  maxIterations : UInt32
  /-- What the user asks for; with it the plan is written anew in the first iteration. -/
  instruction : Option String := none
  run : Run.Options
  deriving DecidableEq, Inhabited, Repr

namespace Options

/-- The options for a project that a configuration gives. -/
def ofConfiguration (configuration : Configuration) (projectDir : String) : Options where
  projectDir
  planFile := configuration.project.planFile
  entryFile := configuration.project.entryFile
  manifestFile := configuration.project.manifestFile
  maxIterations := UInt32.ofNat configuration.project.maxIterations
  run := configuration.runOptions projectDir

/-- The options with an instruction; a blank one counts as none. -/
def withInstruction (options : Options) (instruction : Option String) : Options :=
  { options with instruction := instruction.filter fun text => ! Text.allBlank text.toList }

/-- Where the plan is. -/
def planPath (options : Options) : String :=
  Files.join options.projectDir options.planFile

/-- The text of the manifest, if there is one. -/
def manifest (options : Options) (disk : Files.Disk) : String :=
  disk.readOrEmpty (Files.join options.projectDir options.manifestFile)

end Options

/-! ## Phases -/

/-- The files of the machine and the state of everything else. -/
structure World (σ : Type) where
  files : Workspace
  outside : σ
  deriving Inhabited

section

variable {σ : Type}

/-- Asks an oracle. -/
def World.ask (world : World σ) (oracle : Oracle σ) (request : OracleRequest) :
    Except OracleError String × World σ :=
  let (reply, outside) := oracle.ask request world.outside
  (reply, { world with outside })

/-- The text of the current plan; a plan that is not there is empty. -/
def currentPlan (options : Options) (disk : Disk) : Except IoError String :=
  if disk.exists? options.planPath then disk.readText options.planPath else .ok ""

/-- What an oracle that writes a plan is told. -/
def planContext (options : Options) (disk : Disk) (current : String) (instruction : Option String) :
    PlanContext where
  fileTree := fileTree disk options.projectDir
  sources := sources disk options.projectDir
  currentPlan := current
  instruction

/-- Guards the text of a new plan and writes it at the place of the current one. -/
def replacePlan (options : Options) (moment : Moment) (files : Workspace) (current generated : String)
    (instruction : Option String) : Except Error Guard.Outcome × Workspace :=
  match Guard.run files moment options.planPath current generated instruction with
  | (.error e, files) => (.error (.io e), files)
  | (.ok outcome, files) =>
    match files.writeText options.planPath outcome.content with
    | (.error e, files) => (.error (.io e), files)
    | (.ok (), files) => (.ok outcome, files)

/-- Has a plan written anew. -/
def generatePlan (oracle : Oracle σ) (options : Options) (moment : Moment) (instruction : Option String)
    (world : World σ) : Except Error Guard.Outcome × World σ :=
  match currentPlan options world.files.disk with
  | .error e => (.error (.io e), world)
  | .ok current =>
    let context := planContext options world.files.disk current instruction
    match world.ask oracle (.generatePlan context) with
    | (.error e, world) => (.error (.oracle e), world)
    | (.ok reply, world) =>
      let (answer, files) :=
        replacePlan options moment world.files current (Patch.stripFences reply) instruction
      (answer, { world with files })

/-- The file that a build log names, or the entry file, as it looks from the project. -/
def brokenFile (options : Options) (logs : String) : String :=
  let file := (Build.errorFile? logs).getD options.entryFile
  match Text.after? "./".toList file.toList with
  | some rest => String.ofList rest
  | none => file

/-- Finds the path of a file to fix, and its text. -/
def findBroken (options : Options) (disk : Disk) (file : String) : Except Error (String × String) :=
  match Patch.resolve options.projectDir file with
  | .error e => .error (.patch e)
  | .ok path =>
    if ! disk.exists? path then .error (.brokenFileMissing file)
    else
      match disk.readText path with
      | .error e => .error (.io e)
      | .ok source => .ok (path, source)

/-- Has the file fixed that a build log names. The answer is the file as it looks from the project. -/
def repairBuild (oracle : Oracle σ) (options : Options) (logs : String) (world : World σ) :
    Except Error String × World σ :=
  let file := brokenFile options logs
  match findBroken options world.files.disk file with
  | .error e => (.error e, world)
  | .ok (path, source) =>
    let context : BuildContext := { logs, source, manifest := options.manifest world.files.disk }
    match world.ask oracle (.repairFile context) with
    | (.error e, world) => (.error (.oracle e), world)
    | (.ok reply, world) =>
      match world.files.writeText path (Patch.stripFences reply) with
      | (.error e, files) => (.error (.io e), { world with files })
      | (.ok (), files) => (.ok file, { world with files })

/-- What an oracle that patches the application is told. -/
def testContext (options : Options) (disk : Disk) (result : RunResult) : TestContext where
  failures := result.failureSummary
  plan := disk.readOrEmpty options.planPath
  sources := sources disk options.projectDir
  fileTree := fileTree disk options.projectDir
  manifest := options.manifest disk
  instruction := options.instruction

/-- Has the application patched after a run that failed. The answer lists the paths written; a reply
without any file changes nothing. -/
def repairTests (oracle : Oracle σ) (options : Options) (result : RunResult) (world : World σ) :
    Except Error (List String) × World σ :=
  match world.ask oracle (.repairFiles (testContext options world.files.disk result)) with
  | (.error e, world) => (.error (.oracle e), world)
  | (.ok reply, world) =>
    match Patch.apply options.projectDir world.files ((Patch.parse? reply).getD []) with
    | (.error e, files) => (.error (.patch e), { world with files })
    | (.ok written, files) => (.ok written, { world with files })

end

end UiCheck.Repair
