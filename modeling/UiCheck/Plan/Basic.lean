import UiCheck.Files.Disk
import UiCheck.Plan.Step
import UiCheck.Text.Blank
import UiCheck.Yaml.Reader

/-! # Plans

A plan is a base address and scenarios, each a named list of steps at a path below the base. Everything
but the names of the scenarios may be left out.
-/

namespace UiCheck

/-- A named list of steps at a path below the base address. -/
structure Scenario where
  name : String
  path : String
  steps : List Step
  deriving Inhabited

/-- A plan as it is written. -/
structure Plan where
  baseUrl : String
  scenarios : List Scenario
  deriving Inhabited

namespace Plan

/-- The base address of a plan that names none. -/
def defaultBaseUrl : String := "http://localhost:3000"

/-- The plan without scenarios. -/
def empty : Plan :=
  { baseUrl := defaultBaseUrl, scenarios := [] }

/-- The base address without the slashes at its end. -/
def root (plan : Plan) : String :=
  String.ofList (plan.baseUrl.toList.reverse.dropWhile (· == '/')).reverse

/-- The number of steps of all scenarios. -/
def stepCount (plan : Plan) : Nat :=
  (plan.scenarios.flatMap (·.steps)).length

/-- A scenario of which some fields have been read. -/
structure PartialScenario where
  name : Option String := none
  path : Option String := none
  steps : Option (List Step) := none

/-- A plan of which some fields have been read. -/
structure PartialPlan where
  settings : Option (Option String) := none
  scenarios : Option (List Scenario) := none

open Yaml in
/-- Reads a scenario. -/
def readScenario (doc : Document) (spot : Spot) : Reader Scenario :=
  let step (spot : Spot) : Reader Step := return ⟨← untyped doc spot⟩
  let fields : List (RecordField PartialScenario) :=
    [{ name := "name", isSet := (·.name.isSome),
       read := fun known spot => return { known with name := some (← text doc "a string" spot) } },
     { name := "path", isSet := (·.path.isSome),
       read := fun known spot => return { known with path := some (← text doc "a string" spot) } },
     { name := "tests", isSet := (·.steps.isSome),
       read := fun known spot => return { known with steps := some (← list doc step spot) } }]
  let finish (known : PartialScenario) : Reader Scenario :=
    match known.name with
    | none => refuse (.missingField "name")
    | some name => pure { name, path := known.path.getD "", steps := known.steps.getD [] }
  record doc "Scenario" fields {} finish spot

open Yaml in
/-- Reads the settings of a plan: its base address. -/
def readSettings (doc : Document) (spot : Spot) : Reader (Option String) :=
  let fields : List (RecordField (Option String)) :=
    [{ name := "baseUrl", isSet := Option.isSome,
       read := fun _ spot => return some (← text doc "a string" spot) }]
  record doc "PlanMeta" fields none pure spot

open Yaml in
/-- Reads a plan. -/
def read (doc : Document) (spot : Spot) : Reader Plan :=
  let fields : List (RecordField PartialPlan) :=
    [{ name := "meta", isSet := (·.settings.isSome),
       read := fun known spot => return { known with settings := some (← readSettings doc spot) } },
     { name := "scenarios", isSet := (·.scenarios.isSome),
       read := fun known spot =>
         return { known with scenarios := some (← list doc (readScenario doc) spot) } }]
  let finish (known : PartialPlan) : Reader Plan :=
    pure { baseUrl := (known.settings.getD none).getD defaultBaseUrl,
           scenarios := known.scenarios.getD [] }
  record doc "TestPlan" fields {} finish spot

/-- The plan that a text holds; a blank text and null hold the plan without scenarios. -/
def ofText (source : String) : Except Yaml.Error Plan :=
  if Text.allBlank source.toList then .ok empty
  else
    match Yaml.readText source fun doc => Yaml.optional doc (read doc) with
    | .ok plan => .ok (plan.getD empty)
    | .error e => .error e

end Plan

/-- The step that a text holds. -/
def Step.ofText (source : String) : Except Yaml.Error Step :=
  match Yaml.readText source Yaml.untyped with
  | .ok entries => .ok ⟨entries⟩
  | .error e => .error e

end UiCheck

/-! ## Loading

A plan is loaded from a file of a disk. What can go wrong is told apart by cause.
-/

namespace UiCheck.Plan

/-- Why a plan cannot be loaded. -/
inductive LoadError where
  | missing (path : String)
  | io (cause : IoError)
  | malformed (cause : Yaml.Error)

/-- The message of an error. -/
def LoadError.message : LoadError → String
  | .missing path => s!"Could not find test plan at {path}"
  | .io cause => s!"I/O error reading test plan: {cause.message}"
  | .malformed cause => s!"Error parsing test plan: {cause.message}"

/-- The plan that a text holds. -/
def parse (source : String) : Except LoadError Plan :=
  match ofText source with
  | .ok plan => .ok plan
  | .error e => .error (.malformed e)

/-- The plan in the file at a path. -/
def load (disk : Files.Disk) (path : String) : Except LoadError Plan :=
  if disk.exists? path then
    match disk.readText path with
    | .ok source => parse source
    | .error e => .error (.io e)
  else .error (.missing path)

end UiCheck.Plan
