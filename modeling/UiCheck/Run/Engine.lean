import UiCheck.Plan.Basic
import UiCheck.Plan.Normalize
import UiCheck.Run.Result
import UiCheck.Run.Routine
import UiCheck.Server.Start

/-! # Running plans

The steps of a plan are carried out one after the other on a page. A fault of a step is recorded and the run
goes on with the next step. A step that expects a response leaves a listener behind, and the next step that
is carried out, in whatever scenario, either awaits it first or, if it is a click or types into an input,
works while the response is awaited.
-/

namespace UiCheck.Run

/-- Times in milliseconds, and how to bring up the server. -/
structure Options where
  /-- For selectors, clicks and addresses. -/
  stepTimeout : Nat := 5000
  /-- For the first navigation. -/
  reachTimeout : Nat := 3000
  /-- For the navigation of a scenario. -/
  navigationTimeout : Nat := 30000
  /-- For an expected response. -/
  networkTimeout : Nat := 30000
  server : Server.Options
  deriving DecidableEq, Inhabited, Repr

/-- Why a run stops when the base address cannot be reached. -/
def serverFailed : String := "Server failed to start"

/-- Why a run without checks is no success. -/
def noTestsExecuted : String := "No tests executed"

section

variable {σ ω : Type}

/-- A page answer after which no listener is left behind. -/
def plain {α : Type} : Except PageError α × σ → Except Fault (Option ω) × σ
  | (.ok _, s) => (.ok none, s)
  | (.error e, s) => (.error (.page e), s)

/-- Checks a computed colour. -/
def checkColour (page : Page σ ω) (check : ColourCheck) (colour element : String) (s : σ) :
    Except Fault (Option ω) × σ :=
  match page.computedStyle element check.property s with
  | (.error cause, s) => (.error (.colourUnknown check element cause), s)
  | (.ok found, s) =>
    if Plan.coloursMatch colour found then (.ok none, s)
    else (.error (.colourDiffers check element colour found), s)

/-- Carries out an action without regard to responses that are awaited. The answer is the listener that the
action leaves behind. -/
def perform (page : Page σ ω) (options : Options) (action : Action) (s : σ) :
    Except Fault (Option ω) × σ :=
  match action with
  | .see value =>
    match page.isTextVisible value s with
    | (.error e, s) => (.error (.page e), s)
    | (.ok true, s) => (.ok none, s)
    | (.ok false, s) => (.error (.textMissing value), s)
  | .assertVisible selector => plain (page.waitForSelector selector options.stepTimeout s)
  | .assertText selector value =>
    match page.selectorText selector options.stepTimeout s with
    | (.error e, s) => (.error (.page e), s)
    | (.ok found, s) =>
      if Text.occursIn value found then (.ok none, s) else (.error (.textDiffers value found), s)
  | .click value =>
    match (clickRoutine page value options.stepTimeout).run s with
    | (.ok (), s) => (.ok none, s)
    | (.error fault, s) => (.error fault, s)
  | .typeSmart value label =>
    match (typeRoutine page label value).run s with
    | (.ok (), s) => (.ok none, s)
    | (.error fault, s) => (.error fault, s)
  | .typeSelector selector value => plain (page.fillSelector selector value s)
  | .assertUrl value => plain (page.waitForUrl value options.stepTimeout s)
  | .networkListen method urlPart =>
    match page.expectResponse { method, urlPart } options.networkTimeout s with
    | (.error e, s) => (.error (.page e), s)
    | (.ok listener, s) => (.ok (some listener), s)
  | .assertColor colour element => checkColour page .text colour element s
  | .assertBackground colour element => checkColour page .background colour element s
  | .assertBorderColor colour element => checkColour page .border colour element s
  | .wait ms => plain (page.wait ms s)
  | .unknown step => (.error (.unrecognised step), s)

/-- The routine of an action that may cause the awaited response. -/
def trigger? (page : Page σ ω) (options : Options) : Action → Option (Routine σ)
  | .click value => some (clickRoutine page value options.stepTimeout)
  | .typeSmart value label => some (typeRoutine page label value)
  | _ => none

/-- Carries out an action with the listener that an earlier step left behind, if any. -/
def execute (page : Page σ ω) (options : Options) (pending : Option ω) (action : Action) (s : σ) :
    Except Fault (Option ω) × σ :=
  match pending with
  | none => perform page options action s
  | some listener =>
    match trigger? page options action with
    | some routine =>
      match routine.joined page listener s with
      | (.ok (), s) => (.ok none, s)
      | (.error fault, s) => (.error fault, s)
    | none =>
      match page.await listener s with
      | (.error e, s) => (.error (.page e), s)
      | (.ok (), s) => perform page options action s

/-- How far a run has come. -/
structure Progress (σ ω : Type) where
  state : σ
  /-- The listener that the last step left behind. -/
  pending : Option ω
  total : Nat
  passed : Nat
  failures : List Failure

namespace Progress

/-- Nothing has been checked yet. -/
def start (s : σ) : Progress σ ω :=
  { state := s, pending := none, total := 0, passed := 0, failures := [] }

/-- Adds a failure. -/
def fail (progress : Progress σ ω) (failure : Failure) : Progress σ ω :=
  { progress with failures := progress.failures ++ [failure] }

end Progress

/-- Carries out one step of a scenario. -/
def runStep (page : Page σ ω) (options : Options) (scenario : String) (progress : Progress σ ω)
    (step : Step) : Progress σ ω :=
  let action := Plan.normalize step
  let counted := if action.isCounted then 1 else 0
  match execute page options progress.pending action progress.state with
  | (.ok pending, s) =>
    { progress with
      state := s, pending, total := progress.total + counted, passed := progress.passed + counted }
  | (.error fault, s) =>
    { progress with
      state := s, pending := none, total := progress.total + counted
      failures := progress.failures ++ [⟨scenario, .action action, fault.message⟩] }

/-- Opens the page of a scenario and carries out its steps. -/
def runScenario (page : Page σ ω) (options : Options) (baseUrl : String) (progress : Progress σ ω)
    (scenario : Scenario) : Progress σ ω :=
  match page.goto (baseUrl ++ scenario.path) options.navigationTimeout progress.state with
  | (.error _, s) =>
    { progress with state := s }.fail ⟨scenario.name, .navigation, s!"Could not load {scenario.path}"⟩
  | (.ok (), s) =>
    scenario.steps.foldl (runStep page options scenario.name) { progress with state := s }

/-- The result of a run that has carried out all scenarios. -/
def Progress.result (progress : Progress σ ω) : RunResult :=
  if progress.total = 0 then
    { failures := progress.failures, error := some noTestsExecuted }
  else
    { success := progress.failures.isEmpty && progress.passed == progress.total
      total := progress.total, passed := progress.passed, failures := progress.failures }

/-- Opens the base address. If that fails the server is started and the address is opened once more. -/
def reach (page : Page σ ω) (host : Server.Host σ) (options : Options) (baseUrl : String) (s : σ) :
    Bool × σ :=
  match page.goto baseUrl options.reachTimeout s with
  | (.ok (), s) => (true, s)
  | (.error _, s) =>
    match Server.start host options.server baseUrl s with
    | (.error _, s) => (false, s)
    | (.ok (), s) =>
      match page.goto baseUrl options.navigationTimeout s with
      | (.ok (), s) => (true, s)
      | (.error _, s) => (false, s)

/-- Runs a plan on a page. -/
def run (page : Page σ ω) (host : Server.Host σ) (options : Options) (plan : Plan) (s : σ) :
    RunResult × σ :=
  match reach page host options plan.root s with
  | (false, s) => (.fatal serverFailed, s)
  | (true, s) =>
    let progress := plan.scenarios.foldl (runScenario page options plan.root) (.start s)
    (progress.result, progress.state)

/-- Runs the plan in the file at a path. A plan that cannot be loaded gives a result of its own. -/
def runFile (page : Page σ ω) (host : Server.Host σ) (options : Options) (disk : Files.Disk)
    (path : String) (s : σ) : RunResult × σ :=
  match Plan.load disk path with
  | .ok plan => run page host options plan s
  | .error e => (.fatal e.message, s)

end

end UiCheck.Run
