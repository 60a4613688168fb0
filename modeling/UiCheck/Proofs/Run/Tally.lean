import UiCheck.Page.Memory
import UiCheck.Proofs.Run.Course

/-! # What a result counts

The result of a run counts the turns of its course. Each step of a scenario whose page opened gets one turn and
no other step gets any; the checks among the turns are the total, and those that failed are the difference to
the checks that passed. The failures are the records of the visits in their order. `run_tallies` says so for
every page, host and plan.
-/

namespace UiCheck

/-- What failed enters the number of checks. -/
def FailedStep.isCounted : FailedStep → Bool
  | .action step => step.isCounted
  | .phase _ => false

@[simp] theorem FailedStep.isCounted_action (step : Action) :
    (FailedStep.action step).isCounted = step.isCounted := rfl

@[simp] theorem FailedStep.isCounted_navigation : FailedStep.navigation.isCounted = false := rfl

namespace Run

/-- A result counts what the visits of some scenarios came to. -/
structure Tallies {σ ω : Type} (scenarios : List Scenario) (visits : List (Visit σ ω)) (result : RunResult) :
    Prop where
  visited : visits.map (·.scenario) = scenarios
  /-- One verdict for each step of a scenario whose page opened, and none for the other steps. -/
  verdicts : ∀ visit ∈ visits, visit.turns.map (·.action) =
    if visit.isOpen then visit.scenario.steps.map Plan.normalize else []
  total : result.total = ((visits.filter Visit.isOpen).flatMap (·.scenario.steps)).countP
    fun step => (Plan.normalize step).isCounted
  passed : result.passed = (turnsOf visits).countP Turn.isScored
  passed_le_total : result.passed ≤ result.total
  missed : result.total - result.passed = result.failures.countP (·.step.isCounted)
  /-- One record for each page that did not open and for each step that failed, in the order of the plan. -/
  failures : result.failures = visits.flatMap Visit.failures
  success_iff : result.success = true ↔ 0 < result.total ∧ result.failures = []
  passed_of_success : result.success = true → result.passed = result.total
  error_eq : result.error = if result.total = 0 then some noTestsExecuted else none

variable {σ ω : Type} {page : Page σ ω} {options : Options}

theorem Steps.map_action {scenario : String} {here there : Standing σ ω} {steps : List Step}
    {turns : List (Turn σ ω)} (course : Steps page options scenario here steps turns there) :
    turns.map (·.action) = steps.map Plan.normalize := by
  induction course with
  | nil => rfl
  | cons _ action _ _ _ _ ih => rw [List.map_cons, List.map_cons, action, ih]

variable {baseUrl : String} {here there : Standing σ ω} {scenarios : List Scenario} {visits : List (Visit σ ω)}

theorem Visits.map_scenario (course : Visits page options baseUrl here scenarios visits there) :
    visits.map (·.scenario) = scenarios := by
  induction course with
  | nil => rfl
  | skipped _ _ ih => rw [List.map_cons, ih]
  | opened _ _ _ ih => rw [List.map_cons, ih]

theorem Visits.map_action (course : Visits page options baseUrl here scenarios visits there) :
    ∀ visit ∈ visits, visit.turns.map (·.action) =
      if visit.isOpen then visit.scenario.steps.map Plan.normalize else [] := by
  induction course with
  | nil => intro visit member; cases member
  | skipped _ _ ih =>
    intro visit member
    rcases List.mem_cons.mp member with rfl | member
    · rfl
    · exact ih visit member
  | opened _ steps _ ih =>
    intro visit member
    rcases List.mem_cons.mp member with rfl | member
    · exact steps.map_action
    · exact ih visit member

/-- Counting the turns is counting the steps of the scenarios whose pages opened. -/
theorem countP_isCounted (verdicts : ∀ visit ∈ visits, visit.turns.map (·.action) =
      if visit.isOpen then visit.scenario.steps.map Plan.normalize else []) :
    (turnsOf visits).countP Turn.isCounted = ((visits.filter Visit.isOpen).flatMap (·.scenario.steps)).countP
      fun step => (Plan.normalize step).isCounted := by
  induction visits with
  | nil => rfl
  | cons visit visits ih =>
    have rest := ih fun other member => verdicts other (List.mem_cons_of_mem _ member)
    have first : visit.turns.countP Turn.isCounted = (visit.turns.map (·.action)).countP Action.isCounted := by
      rw [List.countP_map]
      rfl
    rw [verdicts visit (List.mem_cons_self ..)] at first
    simp only [turnsOf] at rest
    cases opened : visit.isOpen with
    | true =>
      rw [if_pos opened, List.countP_map] at first
      simp only [turnsOf, List.flatMap_cons, List.countP_append, List.filter_cons, opened, if_true, first, rest]
      rfl
    | false =>
      rw [opened, if_neg Bool.false_ne_true] at first
      simp only [turnsOf, List.flatMap_cons, List.countP_append, List.filter_cons, opened, first, rest]
      simp

/-- A counted turn passes or leaves a record that counts. -/
theorem countP_turns (turns : List (Turn σ ω)) :
    turns.countP Turn.isCounted =
      turns.countP Turn.isScored + (turns.filterMap Turn.failure?).countP (·.step.isCounted) := by
  induction turns with
  | nil => rfl
  | cons turn turns ih =>
    obtain ⟨scenario, action, before, found, calls, outcome⟩ := turn
    simp only [List.countP_cons, List.filterMap_cons, Turn.isCounted, Turn.isScored] at ih ⊢
    cases outcome with
    | ok listener =>
      simp only [Turn.passes, Turn.failure?, Bool.and_true]
      rw [ih]
      exact Nat.add_right_comm ..
    | error fault =>
      simp only [Turn.passes, Turn.failure?, Bool.and_false, List.countP_cons, FailedStep.isCounted_action,
        Bool.false_eq_true, if_false, Nat.add_zero]
      rw [ih]
      exact Nat.add_assoc ..

/-- The records of the visits that count belong to counted turns that failed. -/
theorem countP_visits (course : Visits page options baseUrl here scenarios visits there) :
    (turnsOf visits).countP Turn.isCounted =
      (turnsOf visits).countP Turn.isScored + (visits.flatMap Visit.failures).countP (·.step.isCounted) := by
  induction course with
  | nil => rfl
  | skipped _ _ ih =>
    simpa only [turnsOf, List.flatMap_cons, List.nil_append, Visit.failures, List.countP_append,
      List.countP_singleton, FailedStep.isCounted_navigation, Bool.false_eq_true, if_false,
      Nat.zero_add] using ih
  | @opened _ _ _ _ _ _ turns _ _ _ _ ih =>
    have first := countP_turns turns
    simp only [turnsOf, List.flatMap_cons, Visit.failures, List.countP_append] at ih ⊢
    omega

/-- The result of the progress that a course makes from the start tallies its visits. -/
theorem tallies_result {s : σ} (course : Visits page options baseUrl ⟨s, none⟩ scenarios visits there) :
    Tallies scenarios visits
      ((Progress.start s).extend (turnsOf visits) (visits.flatMap Visit.failures) there).result := by
  have counted := countP_isCounted course.map_action
  have missed := countP_visits course
  generalize hp : (Progress.start s).extend (turnsOf visits) (visits.flatMap Visit.failures) there = progress
  have total : progress.total = (turnsOf visits).countP Turn.isCounted := by
    rw [← hp]; exact Nat.zero_add _
  have passed : progress.passed = (turnsOf visits).countP Turn.isScored := by
    rw [← hp]; exact Nat.zero_add _
  have failures : progress.failures = visits.flatMap Visit.failures := by
    rw [← hp]; exact List.nil_append _
  rw [← total, ← passed, ← failures] at missed
  by_cases none : progress.total = 0
  · have result : progress.result = { failures := progress.failures, error := some noTestsExecuted } := by
      simp only [Progress.result, none, if_true]
    rw [result]
    refine ⟨course.map_scenario, course.map_action, ?_, ?_, Nat.le_refl _, ?_, failures, ?_, ?_, rfl⟩
    · exact (total.symm.trans none).symm.trans counted
    · show 0 = _
      omega
    · show 0 - 0 = progress.failures.countP _
      omega
    · simp
    · intro success; cases success
  · have result : progress.result =
        { success := progress.failures.isEmpty && progress.passed == progress.total, total := progress.total
          passed := progress.passed, failures := progress.failures } := by
      simp only [Progress.result, none, if_false]
    rw [result]
    refine ⟨course.map_scenario, course.map_action, total.trans counted, passed, ?_, ?_, failures, ?_, ?_, ?_⟩
    · show progress.passed ≤ progress.total
      omega
    · show progress.total - progress.passed = progress.failures.countP _
      omega
    · simp only [Bool.and_eq_true, List.isEmpty_iff, beq_iff_eq]
      constructor
      · rintro ⟨empty, _⟩
        exact ⟨Nat.pos_of_ne_zero none, empty⟩
      · rintro ⟨_, empty⟩
        rw [empty, List.countP_nil] at missed
        exact ⟨empty, missed.symm⟩
    · intro success
      exact beq_iff_eq.mp (Bool.and_eq_true_iff.mp success).2
    · exact (if_neg none).symm

/-- Whatever the page answers, a run that reaches the base address has a course, and its result tallies the
visits of that course. A run that does not reach it has nothing to count. -/
theorem run_tallies (page : Page σ ω) (host : Server.Host σ) (options : Options) (plan : Plan) (s : σ) :
    (∀ s', reach page host options plan.root s = (true, s') → ∃ visits there,
      Visits page options plan.root ⟨s', none⟩ plan.scenarios visits there ∧
      Tallies plan.scenarios visits (run page host options plan s).1) ∧
    (∀ s', reach page host options plan.root s = (false, s') →
      (run page host options plan s).1 =
        { success := false, total := 0, passed := 0, failures := [], error := some serverFailed }) := by
  constructor
  · intro s' reached
    obtain ⟨visits, there, course, folded⟩ :=
      exists_visits page options plan.root (Progress.start s') plan.scenarios
    refine ⟨visits, there, course, ?_⟩
    have result : (run page host options plan s).1 =
        ((Progress.start s').extend (turnsOf visits) (visits.flatMap Visit.failures) there).result := by
      simp only [run, reached, folded]
    rw [result]
    exact tallies_result course
  · intro s' unreached
    simp only [run, unreached]
    rfl

/-- A host on which nothing can be started. -/
def idleHost : Server.Host σ where
  spawn _ _ s := (.error .notFound, s)
  accepts _ _ _ s := (false, s)

/-- A page that shows a text, and a button whose click brings a response. -/
def greetingPage : MemoryPage where
  elements := [{ text := "Hi" },
    { text := "Save", onClick := [.respond ⟨"GET", "http://localhost:3000/api/x", 200⟩] }]

/-- One scenario of steps with one key each. -/
def greetingPlan (steps : List (String × String)) : Plan where
  baseUrl := Plan.defaultBaseUrl
  scenarios := [⟨"A", "", steps.map fun (key, value) => ⟨[(.string key, .string value)]⟩⟩]

def greetingOptions : Options where
  server := { command := none, workingDir := "" }

/-- A run of these steps on that page. -/
def greetingRun (steps : List (String × String)) : RunResult × MemoryPage :=
  run MemoryPage.operations idleHost greetingOptions (greetingPlan steps) greetingPage

theorem run_tallies_greeting : ∃ s' visits there,
    reach MemoryPage.operations idleHost greetingOptions Plan.defaultBaseUrl greetingPage = (true, s') ∧
    Visits MemoryPage.operations greetingOptions Plan.defaultBaseUrl ⟨s', none⟩
      (greetingPlan [("see", "Hi"), ("network", "GET /api/x"), ("see", "Bye")]).scenarios visits there ∧
    Tallies (greetingPlan [("see", "Hi"), ("network", "GET /api/x"), ("see", "Bye")]).scenarios visits
      (greetingRun [("see", "Hi"), ("network", "GET /api/x"), ("see", "Bye")]).1 := by
  obtain ⟨s', reached⟩ : ∃ s',
      reach MemoryPage.operations idleHost greetingOptions Plan.defaultBaseUrl greetingPage = (true, s') :=
    ⟨_, Prod.ext (by decide +kernel) rfl⟩
  obtain ⟨visits, there, course, tallies⟩ := (run_tallies MemoryPage.operations idleHost greetingOptions
    (greetingPlan [("see", "Hi"), ("network", "GET /api/x"), ("see", "Bye")]) greetingPage).1 s' reached
  exact ⟨s', visits, there, reached, course, tallies⟩

end Run

end UiCheck
