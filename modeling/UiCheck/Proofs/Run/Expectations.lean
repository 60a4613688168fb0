import UiCheck.Proofs.Run.Slot
import UiCheck.Proofs.Run.Tally

/-! # Expectations of successful runs

In a run that succeeds every step that finds a listener has seen its response come. What the last step of a plan
expects is awaited by no step, so a successful run has met all that its plan expects just if that step is no
expectation. `success_met_iff` says so, and `ignored_not_met` shows a run that succeeds although the response
that its plan asks for never came.
-/

namespace UiCheck

/-- The last step of the plan expects a response. -/
def Plan.endsListening (plan : Plan) : Bool :=
  match ((plan.scenarios.flatMap (·.steps)).map Plan.normalize).getLast? with
  | some (.networkListen ..) => true
  | _ => false

namespace Run

variable {σ ω : Type} {page : Page σ ω} {options : Options}

/-- Every listener that a step armed is awaited by a later step, and its response came. -/
def Met (turns : List (Turn σ ω)) : Prop :=
  ∀ earlier turn later listener, turns = earlier ++ turn :: later →
    listener ∈ turn.calls.filterMap PageCall.armed? → ∃ next ∈ later, .awaited listener (.ok ()) ∈ next.calls

/-- A step that passes has seen the response come that it found awaited. -/
theorem Turn.Orderly.satisfied {turn : Turn σ ω} (orderly : turn.Orderly page options) (passed : turn.passes = true)
    {listener : ω} (found : turn.found = some listener) : .awaited listener (.ok ()) ∈ turn.calls := by
  cases network : turn.action.triggersNetwork with
  | true =>
    obtain ⟨own, _, _, _, _, calls⟩ := orderly.joins listener found network passed
    rw [calls]
    exact List.mem_append_right _ (List.mem_singleton_self _)
  | false =>
    obtain ⟨answer, own, calls, _, refused⟩ := orderly.waits_first listener found network
    rw [calls]
    cases answer with
    | ok _ => exact List.mem_cons_self ..
    | error e =>
      obtain ⟨left, outcome⟩ := turn.passes_iff.mp passed
      rw [(refused e rfl).2] at outcome
      cases outcome

section

variable {turns : List (Turn σ ω)} {last : Option ω}

/-- What a step leaves is met by the very next step if that one passes. -/
theorem KeepsSlot.met_next (kept : KeepsSlot page options turns last) (passed : ∀ turn ∈ turns, turn.passes = true)
    {earlier later : List (Turn σ ω)} {turn next : Turn σ ω} {listener : ω}
    (same : turns = earlier ++ turn :: next :: later) (left : turn.left = some listener) :
    .awaited listener (.ok ()) ∈ next.calls := by
  have split : turns = (earlier ++ [turn]) ++ next :: later := by rw [same, List.append_assoc]; rfl
  have member : next ∈ turns := by
    rw [split]
    exact List.mem_append_right _ (List.mem_cons_self ..)
  refine (kept.orderly next member).satisfied (passed next member) ?_
  rcases found_of_passed_on kept.passed_on split with ⟨none, _⟩ | ⟨before, armer, front, found⟩
  · cases List.append_ne_nil_of_right_ne_nil _ (List.cons_ne_nil turn []) none
  · obtain rfl := List.singleton_inj.mp (List.append_inj' front rfl).2
    exact found.trans left

/-- If all steps pass, everything is met but what the last step left. -/
theorem KeepsSlot.met_iff (kept : KeepsSlot page options turns last) (passed : ∀ turn ∈ turns, turn.passes = true) :
    Met turns ↔ last = none := by
  constructor
  · intro met
    rcases last_of_passed_on kept.passed_on with ⟨_, none⟩ | ⟨before, armer, same, left⟩
    · exact none
    · -- a listener that the last step left is armed, and no step comes after it
      cases ended : armer.left with
      | none => exact left.trans ended
      | some listener =>
        have armed := (kept.orderly armer (by rw [same]; exact List.mem_append_right _ (List.mem_cons_self ..))).armed
        rw [ended] at armed
        obtain ⟨next, later, _⟩ := met before armer [] listener same (by rw [armed]; exact List.mem_singleton_self _)
        cases later
  · intro none earlier turn later listener same member
    have armed := (kept.orderly turn (by rw [same]; exact List.mem_append_right _ (List.mem_cons_self ..))).armed
    rw [armed, Option.mem_toList] at member
    cases later with
    | cons next later => exact ⟨next, List.mem_cons_self .., kept.met_next passed same member⟩
    | nil =>
      rcases last_of_passed_on kept.passed_on with ⟨empty, _⟩ | ⟨before, armer, ending, left⟩
      · rw [same] at empty
        cases List.append_ne_nil_of_right_ne_nil _ (List.cons_ne_nil turn []) empty
      · obtain rfl := List.singleton_inj.mp (List.append_inj' (same.symm.trans ending) rfl).2
        rw [none, member] at left
        cases left

end

section

variable {visits : List (Visit σ ω)}

theorem Visit.of_failures {visit : Visit σ ω} (none : visit.failures = []) :
    visit.isOpen = true ∧ ∀ turn ∈ visit.turns, turn.passes = true := by
  obtain ⟨scenario, answer, turns⟩ := visit
  cases answer with
  | error e => cases none
  | ok _ =>
    refine ⟨rfl, fun turn member => ?_⟩
    have passed : turn.failure? = Option.none := List.filterMap_eq_nil_iff.mp none turn member
    unfold Turn.failure? at passed
    unfold Turn.passes
    split at passed
    · rfl
    · cases passed

/-- Without failures every page opened and every step passed. -/
theorem passes_of_failures (none : visits.flatMap Visit.failures = []) :
    (∀ visit ∈ visits, visit.isOpen = true) ∧ ∀ turn ∈ turnsOf visits, turn.passes = true := by
  rw [List.flatMap_eq_nil_iff] at none
  refine ⟨fun visit member => (Visit.of_failures (none visit member)).1, fun turn member => ?_⟩
  obtain ⟨visit, among, within⟩ := List.mem_flatMap.mp member
  exact (Visit.of_failures (none visit among)).2 turn within

/-- If every page opened, the steps that were carried out are all steps of the plan. -/
theorem Visits.actions {baseUrl : String} {here there : Standing σ ω} {scenarios : List Scenario}
    (course : Visits page options baseUrl here scenarios visits there)
    (opened : ∀ visit ∈ visits, visit.isOpen = true) :
    (turnsOf visits).map (·.action) = (scenarios.flatMap (·.steps)).map Plan.normalize := by
  rw [← course.map_scenario, turnsOf, List.map_flatMap, List.flatMap_map, List.map_flatMap]
  refine congrArg List.flatten (List.map_congr_left fun visit member => ?_)
  rw [course.map_action visit member, if_pos (opened visit member)]

end

theorem Progress.failures_of_success {progress : Progress σ ω} (success : progress.result.success = true) :
    progress.result.failures = [] := by
  rw [result_failures]
  unfold result at success
  split at success
  · cases success
  · exact List.isEmpty_iff.mp (Bool.and_eq_true_iff.mp success).1

theorem failures_of_success {host : Server.Host σ} {plan : Plan} {s : σ}
    (success : (run page host options plan s).1.success = true) :
    (reach page host options plan.root s).1 = true ∧ (run page host options plan s).1.failures = [] := by
  cases reached : reach page host options plan.root s with
  | mk answer s' =>
    cases answer with
    | false =>
      simp only [run, reached] at success
      cases success
    | true =>
      simp only [run, reached] at success ⊢
      exact ⟨trivial, Progress.failures_of_success success⟩

/-- Whether the last step of a plan expects a response shows in the slot if every step of the plan passed. -/
theorem last_isSome_iff {turns : List (Turn σ ω)} {last : Option ω} {plan : Plan}
    (kept : KeepsSlot page options turns last) (passed : ∀ turn ∈ turns, turn.passes = true)
    (actions : turns.map (·.action) = (plan.scenarios.flatMap (·.steps)).map Plan.normalize) :
    last = none ↔ plan.endsListening = false := by
  rw [Plan.endsListening, ← actions]
  rcases last_of_passed_on kept.passed_on with ⟨rfl, rfl⟩ | ⟨before, armer, rfl, rfl⟩
  · exact ⟨fun _ => rfl, fun _ => rfl⟩
  · have member : armer ∈ before ++ [armer] := List.mem_append_right _ (List.mem_singleton_self _)
    have filled := (kept.orderly armer member).left_isSome
    rw [List.map_append, List.map_singleton, List.getLast?_concat, ← Option.not_isSome_iff_eq_none, filled]
    cases action : armer.action with
    | networkListen method urlPart => simp [passed armer member]
    | _ => simp

/-- A course without failures passes all steps of its plan. -/
theorem Course.actions {host : Server.Host σ} {plan : Plan} {s : σ} {visits : List (Visit σ ω)} {there : Standing σ ω}
    (course : Course page host options plan s visits there) (reached : (reach page host options plan.root s).1 = true)
    (none : visits.flatMap Visit.failures = []) :
    (turnsOf visits).map (·.action) = (plan.scenarios.flatMap (·.steps)).map Plan.normalize := by
  cases course with
  | reached _ course => exact course.actions (passes_of_failures none).1
  | unreached failed =>
    rw [failed] at reached
    cases reached

/-- A run that succeeds has a course in which all expectations are met just if the plan does not end with one. -/
theorem exists_course_of_success {host : Server.Host σ} {plan : Plan} {s : σ}
    (success : (run page host options plan s).1.success = true) :
    ∃ visits there, Course page host options plan s visits there ∧
      KeepsSlot page options (turnsOf visits) there.pending ∧ (∀ turn ∈ turnsOf visits, turn.passes = true) ∧
      (Met (turnsOf visits) ↔ plan.endsListening = false) := by
  obtain ⟨visits, there, course, failures, _⟩ := exists_course page host options plan s
  obtain ⟨reached, none⟩ := failures_of_success success
  rw [failures] at none
  have passed := (passes_of_failures none).2
  have kept := course.keepsSlot
  exact ⟨visits, there, course, kept, passed,
    (kept.met_iff passed).trans (last_isSome_iff kept passed (course.actions reached none))⟩

/-- In a run that succeeds what a step expects is met by the very next step, and so everything that the plan
expects is met just if its last step is no expectation. -/
theorem success_met_iff (page : Page σ ω) (host : Server.Host σ) (options : Options) (plan : Plan) (s : σ)
    (success : (run page host options plan s).1.success = true) :
    ∃ visits there, Course page host options plan s visits there ∧
      (∀ earlier turn next later listener, turnsOf visits = earlier ++ turn :: next :: later →
        listener ∈ turn.calls.filterMap PageCall.armed? → .awaited listener (.ok ()) ∈ next.calls) ∧
      (Met (turnsOf visits) ↔ plan.endsListening = false) := by
  obtain ⟨visits, there, course, kept, passed, met⟩ := exists_course_of_success success
  refine ⟨visits, there, course, fun earlier turn next later listener same armed => ?_, met⟩
  have member : turn ∈ turnsOf visits := by
    rw [same]
    exact List.mem_append_right _ (List.mem_cons_self ..)
  rw [(kept.orderly turn member).armed, Option.mem_toList] at armed
  exact kept.met_next passed same armed

theorem success_met_iff_click :
    (greetingRun [("see", "Hi"), ("network", "GET /api/x"), ("click", "Save")]).1.success = true ∧
    ∃ visits there, Course MemoryPage.operations idleHost greetingOptions
        (greetingPlan [("see", "Hi"), ("network", "GET /api/x"), ("click", "Save")]) greetingPage visits there ∧
      Met (turnsOf visits) := by
  have success : (greetingRun [("see", "Hi"), ("network", "GET /api/x"), ("click", "Save")]).1.success = true := by
    decide +kernel
  obtain ⟨visits, there, course, _, met⟩ := success_met_iff _ _ _ _ _ success
  exact ⟨success, visits, there, course, met.mpr (by decide +kernel)⟩

/-- The run succeeds, and at its end the listener of the last step still waits. -/
theorem ignored_not_met :
    (greetingRun [("see", "Hi"), ("network", "GET /api/x")]).1.success = true ∧
    (greetingRun [("see", "Hi"), ("network", "GET /api/x")]).2.armed =
      [⟨0, { method := "GET", urlPart := "/api/x" }⟩] ∧
    ∃ visits there, Course MemoryPage.operations idleHost greetingOptions
        (greetingPlan [("see", "Hi"), ("network", "GET /api/x")]) greetingPage visits there ∧
      ¬ Met (turnsOf visits) := by
  have success : (greetingRun [("see", "Hi"), ("network", "GET /api/x")]).1.success = true := by decide +kernel
  obtain ⟨visits, there, course, _, _, met⟩ := exists_course_of_success success
  refine ⟨success, by decide +kernel, visits, there, course, fun all => ?_⟩
  exact absurd (met.mp all) (by decide +kernel)

end Run

end UiCheck
