import UiCheck.Proofs.Page.Recording
import UiCheck.Proofs.Run.Tracking

/-! # The course of a run

A run is told by its visits, one for each scenario of the plan in order: how the page of the scenario opened,
and one turn for each of its steps if it did. A turn tells what a step found in the slot for listeners, which
calls it made, and what it came to. `exists_visits` says that every run has such a course and that its progress
is what the turns and visits add up to.
-/

namespace UiCheck.Run

/-- Where a run stands between two steps. -/
structure Standing (σ ω : Type) where
  state : σ
  /-- The slot for the listener that the next step finds. -/
  pending : Option ω

/-- The listener that a step with an outcome leaves in the slot. -/
def slotAfter {ω : Type} : Except Fault (Option ω) → Option ω
  | .ok listener => listener
  | .error _ => none

/-- A step that was carried out. -/
structure Turn (σ ω : Type) where
  scenario : String
  action : Action
  before : σ
  /-- The listener that the step found in the slot. -/
  found : Option ω
  /-- The calls that the step made, in order. -/
  calls : List (PageCall ω)
  outcome : Except Fault (Option ω)

namespace Turn

variable {σ ω : Type}

/-- The listener that the step left in the slot. -/
def left (turn : Turn σ ω) : Option ω :=
  slotAfter turn.outcome

/-- The verdict on the step. -/
def passes (turn : Turn σ ω) : Bool :=
  match turn.outcome with
  | .ok _ => true
  | .error _ => false

/-- The record of the step if it failed. -/
def failure? (turn : Turn σ ω) : Option Failure :=
  match turn.outcome with
  | .ok _ => none
  | .error fault => some ⟨turn.scenario, .action turn.action, fault.message⟩

/-- The step enters the number of checks. -/
def isCounted (turn : Turn σ ω) : Bool :=
  turn.action.isCounted

/-- The step enters the number of checks that passed. -/
def isScored (turn : Turn σ ω) : Bool :=
  turn.action.isCounted && turn.passes

/-- The turn is what the page makes of it, and leaves the page in a state. -/
def CarriedOut (page : Page σ ω) (options : Options) (turn : Turn σ ω) (after : σ) : Prop :=
  execute page.recorded options turn.found turn.action (turn.before, []) = (turn.outcome, (after, turn.calls))

end Turn

/-- A scenario whose turn has come. -/
structure Visit (σ ω : Type) where
  scenario : Scenario
  /-- How its page opened. -/
  answer : Except PageError Unit
  turns : List (Turn σ ω)

namespace Visit

variable {σ ω : Type}

/-- The page of the scenario opened. -/
def isOpen (visit : Visit σ ω) : Bool :=
  match visit.answer with
  | .ok () => true
  | .error _ => false

/-- The records of a visit: the navigation if it failed, and otherwise the steps that failed. -/
def failures (visit : Visit σ ω) : List Failure :=
  match visit.answer with
  | .ok () => visit.turns.filterMap Turn.failure?
  | .error _ => [⟨visit.scenario.name, .navigation, s!"Could not load {visit.scenario.path}"⟩]

end Visit

section

variable {σ ω : Type} (page : Page σ ω) (options : Options)

/-- The steps of a scenario are carried out one after the other. Each finds in the slot what the one before it
left there. -/
inductive Steps (scenario : String) : Standing σ ω → List Step → List (Turn σ ω) → Standing σ ω → Prop
  | nil (here : Standing σ ω) : Steps scenario here [] [] here
  | cons {here there : Standing σ ω} {step : Step} {steps : List Step} {after : σ} {turn : Turn σ ω}
      {turns : List (Turn σ ω)} :
      turn.scenario = scenario → turn.action = Plan.normalize step → turn.before = here.state →
      turn.found = here.pending → turn.CarriedOut page options after →
      Steps scenario ⟨after, turn.left⟩ steps turns there →
      Steps scenario here (step :: steps) (turn :: turns) there

/-- The scenarios of a plan are visited one after the other. A page that does not open leaves the slot as it
is, and no step of its scenario is carried out. -/
inductive Visits (baseUrl : String) : Standing σ ω → List Scenario → List (Visit σ ω) → Standing σ ω → Prop
  | nil (here : Standing σ ω) : Visits baseUrl here [] [] here
  | skipped {here there : Standing σ ω} {scenario : Scenario} {scenarios : List Scenario} {after : σ}
      {e : PageError} {visits : List (Visit σ ω)} :
      page.goto (baseUrl ++ scenario.path) options.navigationTimeout here.state = (.error e, after) →
      Visits baseUrl ⟨after, here.pending⟩ scenarios visits there →
      Visits baseUrl here (scenario :: scenarios) (⟨scenario, .error e, []⟩ :: visits) there
  | opened {here middle there : Standing σ ω} {scenario : Scenario} {scenarios : List Scenario} {after : σ}
      {turns : List (Turn σ ω)} {visits : List (Visit σ ω)} :
      page.goto (baseUrl ++ scenario.path) options.navigationTimeout here.state = (.ok (), after) →
      Steps page options scenario.name ⟨after, here.pending⟩ scenario.steps turns middle →
      Visits baseUrl middle scenarios visits there →
      Visits baseUrl here (scenario :: scenarios) (⟨scenario, .ok (), turns⟩ :: visits) there

end

section

variable {σ ω : Type} (page : Page σ ω) (host : Server.Host σ) (options : Options) (plan : Plan) (s : σ)

/-- The visits of a run that starts in a state, and where they leave it. A run that does not reach the base
address has none. -/
inductive Course : List (Visit σ ω) → Standing σ ω → Prop
  | reached {s' : σ} {visits : List (Visit σ ω)} {there : Standing σ ω} :
      reach page host options plan.root s = (true, s') →
      Visits page options plan.root ⟨s', none⟩ plan.scenarios visits there → Course visits there
  | unreached {s' : σ} : reach page host options plan.root s = (false, s') → Course [] ⟨s', none⟩

end

/-- The turns of all visits, in the order in which they came. -/
def turnsOf {σ ω : Type} (visits : List (Visit σ ω)) : List (Turn σ ω) :=
  visits.flatMap (·.turns)

variable {σ ω : Type} {page : Page σ ω} {options : Options}

namespace Progress

/-- Where the run stands. -/
def standing (progress : Progress σ ω) : Standing σ ω :=
  ⟨progress.state, progress.pending⟩

/-- The progress after further turns and failures, which end in a standing. -/
def extend (progress : Progress σ ω) (turns : List (Turn σ ω)) (failures : List Failure)
    (there : Standing σ ω) : Progress σ ω where
  state := there.state
  pending := there.pending
  total := progress.total + turns.countP Turn.isCounted
  passed := progress.passed + turns.countP Turn.isScored
  failures := progress.failures ++ failures

@[simp] theorem result_failures (progress : Progress σ ω) : progress.result.failures = progress.failures := by
  unfold result
  split <;> rfl

theorem extend_nil (progress : Progress σ ω) : progress.extend [] [] progress.standing = progress := by
  simp only [extend, standing, List.countP_nil, Nat.add_zero, List.append_nil]

theorem extend_extend (progress : Progress σ ω) (first second : List (Turn σ ω))
    (earlier later : List Failure) (middle there : Standing σ ω) :
    (progress.extend first earlier middle).extend second later there =
      progress.extend (first ++ second) (earlier ++ later) there := by
  simp only [extend, List.countP_append, Nat.add_assoc, List.append_assoc]

end Progress

section

variable (page options)

/-- Carrying out a step takes one turn. -/
theorem exists_turn (scenario : String) (progress : Progress σ ω) (step : Step) :
    ∃ (turn : Turn σ ω) (after : σ), turn.scenario = scenario ∧ turn.action = Plan.normalize step ∧
      turn.before = progress.state ∧ turn.found = progress.pending ∧ turn.CarriedOut page options after ∧
      runStep page options scenario progress step =
        progress.extend [turn] turn.failure?.toList ⟨after, turn.left⟩ := by
  have tracked := execute_tracks page.recorded_tracks options progress.pending (Plan.normalize step)
    (progress.state, [])
  cases taken : execute page.recorded options progress.pending (Plan.normalize step) (progress.state, []) with
  | mk outcome rest =>
    obtain ⟨after, calls⟩ := rest
    rw [taken] at tracked
    refine ⟨⟨scenario, Plan.normalize step, progress.state, progress.pending, calls, outcome⟩, after,
      rfl, rfl, rfl, rfl, taken, ?_⟩
    simp only [runStep, tracked]
    cases outcome with
    | ok listener =>
      cases counted : (Plan.normalize step).isCounted <;>
        simp [Progress.extend, Turn.isCounted, Turn.isScored, Turn.passes, Turn.left, Turn.failure?, slotAfter,
          counted]
    | error fault =>
      cases counted : (Plan.normalize step).isCounted <;>
        simp [Progress.extend, Turn.isCounted, Turn.isScored, Turn.passes, Turn.left, Turn.failure?, slotAfter,
          counted]

/-- Carrying out steps takes one turn each. -/
theorem exists_steps (scenario : String) (progress : Progress σ ω) (steps : List Step) :
    ∃ (turns : List (Turn σ ω)) (there : Standing σ ω),
      Steps page options scenario progress.standing steps turns there ∧
      steps.foldl (runStep page options scenario) progress =
        progress.extend turns (turns.filterMap Turn.failure?) there := by
  induction steps generalizing progress with
  | nil => exact ⟨[], _, .nil _, progress.extend_nil.symm⟩
  | cons step steps ih =>
    obtain ⟨turn, after, named, action, before, found, carried, stepped⟩ :=
      exists_turn page options scenario progress step
    obtain ⟨turns, there, rest, folded⟩ := ih (progress.extend [turn] turn.failure?.toList ⟨after, turn.left⟩)
    refine ⟨turn :: turns, there, .cons named action before found carried rest, ?_⟩
    rw [List.foldl_cons, stepped, folded, Progress.extend_extend]
    cases h : turn.failure? <;> simp [h]

/-- Visiting scenarios takes one visit each. -/
theorem exists_visits (baseUrl : String) (progress : Progress σ ω) (scenarios : List Scenario) :
    ∃ (visits : List (Visit σ ω)) (there : Standing σ ω),
      Visits page options baseUrl progress.standing scenarios visits there ∧
      scenarios.foldl (runScenario page options baseUrl) progress =
        progress.extend (turnsOf visits) (visits.flatMap Visit.failures) there := by
  induction scenarios generalizing progress with
  | nil => exact ⟨[], _, .nil _, progress.extend_nil.symm⟩
  | cons scenario scenarios ih =>
    rw [List.foldl_cons]
    cases went : page.goto (baseUrl ++ scenario.path) options.navigationTimeout progress.state with
    | mk answer after =>
      cases answer with
      | error e =>
        let failure : Failure := ⟨scenario.name, .navigation, s!"Could not load {scenario.path}"⟩
        have skipped : runScenario page options baseUrl progress scenario =
            progress.extend [] [failure] ⟨after, progress.pending⟩ := by
          simp only [runScenario, went]
          rfl
        obtain ⟨visits, there, rest, folded⟩ := ih (progress.extend [] [failure] ⟨after, progress.pending⟩)
        refine ⟨⟨scenario, .error e, []⟩ :: visits, there, .skipped went rest, ?_⟩
        rw [skipped, folded, Progress.extend_extend]
        rfl
      | ok _ =>
        obtain ⟨turns, middle, steps, stepped⟩ :=
          exists_steps page options scenario.name { progress with state := after }
            scenario.steps
        obtain ⟨visits, there, rest, folded⟩ :=
          ih (Progress.extend { progress with state := after } turns (turns.filterMap Turn.failure?) middle)
        refine ⟨⟨scenario, .ok (), turns⟩ :: visits, there, .opened went steps rest, ?_⟩
        have opened : runScenario page options baseUrl progress scenario =
            Progress.extend { progress with state := after } turns (turns.filterMap Turn.failure?) middle := by
          simp only [runScenario, went, stepped]
        rw [opened, folded, Progress.extend_extend]
        rfl

end

/-- Every run has a course, which accounts for the failures and for the state at the end. -/
theorem exists_course (page : Page σ ω) (host : Server.Host σ) (options : Options) (plan : Plan) (s : σ) :
    ∃ visits there, Course page host options plan s visits there ∧
      (run page host options plan s).1.failures = visits.flatMap Visit.failures ∧
      (run page host options plan s).2 = there.state := by
  cases reached : reach page host options plan.root s with
  | mk answer s' =>
    cases answer with
    | false => exact ⟨[], ⟨s', none⟩, .unreached reached, by simp only [run, reached]; rfl,
        by simp only [run, reached]⟩
    | true =>
      obtain ⟨visits, there, course, folded⟩ :=
        exists_visits page options plan.root (Progress.start s') plan.scenarios
      refine ⟨visits, there, .reached reached course, ?_, ?_⟩
      · simp only [run, reached, folded, Progress.result_failures]
        exact List.nil_append _
      · simp only [run, reached, folded]
        rfl

end UiCheck.Run
