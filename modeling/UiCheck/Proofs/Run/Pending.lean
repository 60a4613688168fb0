import UiCheck.Proofs.Page.Listeners
import UiCheck.Proofs.Run.Moving
import UiCheck.Proofs.Run.Slot
import UiCheck.Proofs.Run.Tally

/-! # Steps that find a response expected

On a page in memory no time passes, so a listener that a step finds is answered by that step or not at all. Whether
the step answers it can be read off the page: a click or an input acts on one element, and that element must have
a response with it that the listener expects. `Turn.Settles` says so of one step. It rests on the listener still
waiting when the step begins, which `Standing.Sound` carries from step to step through `run_settles`.
-/

namespace UiCheck

namespace MemoryPage

/-- A page on which the listeners keep numbers of their own if they had them before. -/
def StaysNumbered (before after : MemoryPage) : Prop :=
  before.Numbered → after.Numbered

theorem StaysNumbered.refl (page : MemoryPage) : StaysNumbered page page := id

theorem StaysNumbered.trans (a b c : MemoryPage) (first : StaysNumbered a b) (second : StaysNumbered b c) :
    StaysNumbered a c := second ∘ first

theorem StaysNumbered.of_listening {before after : MemoryPage} (same : after.listening = before.listening) :
    StaysNumbered before after := fun numbered => numbered.of_listening same

theorem operations_moves : operations.Moves StaysNumbered where
  goto url timeout page := .of_listening (goto_listening url timeout page)
  isTextVisible _ _ := .refl _
  waitForSelector selector timeout page := .of_listening (congrArg listening (waitForSelector_snd selector timeout page))
  selectorText selector timeout page := .of_listening (congrArg listening (selectorText_snd selector timeout page))
  clickText text _ page numbered := by
    have noted : (page.note s!"click {text}").Numbered := numbered.of_listening rfl
    simp only [operations, clickText]
    split
    · exact noted.applyEffects _
    · exact noted
  countByLabel _ _ := .refl _
  fillByLabel label value page numbered := by
    have noted : (page.note s!"fill label {label} = {value}").Numbered := numbered.of_listening rfl
    simp only [operations, fillByLabel]
    split
    · exact noted.fillAt _ _
    · exact noted
  countByPlaceholder _ _ := .refl _
  fillByPlaceholder placeholder value page numbered := by
    have noted : (page.note s!"fill placeholder {placeholder} = {value}").Numbered := numbered.of_listening rfl
    simp only [operations, fillByPlaceholder]
    split
    · exact noted.fillAt _ _
    · exact noted
  fillSelector selector value page numbered := by
    have noted : (page.note s!"fill {selector} = {value}").Numbered := numbered.of_listening rfl
    simp only [operations, fillSelector]
    split
    · exact noted.fillAt _ _
    · exact noted
  waitForUrl fragment timeout page := .of_listening (congrArg listening (waitForUrl_snd fragment timeout page))
  computedStyle text property page := .of_listening (congrArg listening (computedStyle_snd text property page))
  expectResponse expected timeout _ numbered := numbered.expectResponse expected timeout
  await listener page := .of_listening (congrArg listening (await_snd listener page))
  wait _ _ := .of_listening rfl

/-- The element that a click or an input acts on. -/
def target? (page : MemoryPage) : Action → Option Element
  | .click value => page.elements.find? fun element => element.isVisible && element.shows value
  | .typeSmart _ label =>
    (page.elements.find? (·.label = some label)).or (page.elements.find? (·.placeholder = some label))
  | _ => none

theorem countP_pos_iff_find? {elements : List Element} {kind : Element → Bool} :
    0 < elements.countP kind ↔ ∃ element, elements.find? kind = some element := by
  rw [List.countP_pos_iff, ← List.find?_isSome, Option.isSome_iff_exists]

end MemoryPage

/-- What happens when an action is carried out on an element. -/
def Element.effectsOf (element : Element) : Action → List Effect
  | .click _ => element.onClick
  | .typeSmart .. => element.onFill
  | _ => []

namespace Run

open MemoryPage (operations)

/-- How a click or an input ends on its own: with the effects on its element, or with a fault if there is none. -/
inductive Strikes (page : MemoryPage) (action : Action) : Except Fault (Option Listener) × MemoryPage → Prop
  | hit {element : Element} {base : MemoryPage} : page.target? action = some element →
      base.listening = page.listening → Strikes page action (.ok none, base.applyEffects (element.effectsOf action))
  | missed {fault : Fault} {after : MemoryPage} : page.target? action = none →
      Strikes page action (.error fault, after)

theorem click_strikes (options : Options) (value : String) (page : MemoryPage) :
    Strikes page (.click value) (perform operations options (.click value) page) := by
  rw [perform_of_trigger? rfl]
  simp only [clickRoutine, Routine.run, operations, MemoryPage.clickText]
  cases found : page.target? (.click value) with
  | some element =>
    have same : (page.note s!"click {value}").elements.find?
        (fun element => element.isVisible && element.shows value) = some element := found
    simp only [same]
    exact .hit found rfl
  | none =>
    have same : (page.note s!"click {value}").elements.find?
        (fun element => element.isVisible && element.shows value) = none := found
    simp only [same]
    exact .missed found

theorem typeSmart_strikes (options : Options) (value label : String) (page : MemoryPage) :
    Strikes page (.typeSmart value label) (perform operations options (.typeSmart value label) page) := by
  rw [perform_of_trigger? rfl]
  simp only [typeRoutine, Routine.run, operations, MemoryPage.countByLabel]
  cases labelled : page.elements.find? (·.label = some label) with
  | some element =>
    have target : page.target? (.typeSmart value label) = some element := by
      simp only [MemoryPage.target?, labelled, Option.some_or]
    obtain ⟨place, base, first, listening, filled⟩ :=
      MemoryPage.exists_fillAt (page.note s!"fill label {label} = {value}") labelled value
    rw [if_pos (MemoryPage.countP_pos_iff_find?.mpr ⟨element, labelled⟩)]
    simp only [Routine.run, MemoryPage.fillByLabel, first, filled]
    exact .hit target listening
  | none =>
    have unlabelled : ¬ 0 < page.elements.countP (·.label = some label) := by
      rw [MemoryPage.countP_pos_iff_find?, labelled]
      rintro ⟨_, found⟩
      cases found
    rw [if_neg unlabelled]
    simp only [Routine.run, MemoryPage.countByPlaceholder]
    cases held : page.elements.find? (·.placeholder = some label) with
    | some element =>
      have target : page.target? (.typeSmart value label) = some element := by
        simp only [MemoryPage.target?, labelled, held, Option.none_or]
      obtain ⟨place, base, first, listening, filled⟩ :=
        MemoryPage.exists_fillAt (page.note s!"fill placeholder {label} = {value}") held value
      rw [if_pos (MemoryPage.countP_pos_iff_find?.mpr ⟨element, held⟩)]
      simp only [Routine.run, MemoryPage.fillByPlaceholder, first, filled]
      exact .hit target listening
    | none =>
      have target : page.target? (.typeSmart value label) = none := by
        simp only [MemoryPage.target?, labelled, held, Option.none_or]
      have unheld : ¬ 0 < page.elements.countP (·.placeholder = some label) := by
        rw [MemoryPage.countP_pos_iff_find?, held]
        rintro ⟨_, found⟩
        cases found
      rw [if_neg unheld]
      exact .missed target

theorem perform_strikes (options : Options) {action : Action} (network : action.triggersNetwork = true)
    (page : MemoryPage) : Strikes page action (perform operations options action page) := by
  cases action with
  | click value => exact click_strikes options value page
  | typeSmart value label => exact typeSmart_strikes options value label page
  | _ => cases network

theorem perform_of_recorded {options : Options} {action : Action} {page after : MemoryPage}
    {outcome : Except Fault (Option Listener)} {calls : List (PageCall Listener)}
    (performed : perform operations.recorded options action (page, []) = (outcome, (after, calls))) :
    perform operations options action page = (outcome, after) := by
  have tracked := perform_tracks operations.recorded_tracks options action (page, [])
  rwa [performed] at tracked

/-- How a step ends that finds a listener waiting. -/
structure Turn.Settles (options : Options) (listener : Listener) (turn : Turn MemoryPage Listener) : Prop where
  /-- It passes just if it is a click or an input that succeeds, and the element has a response that is expected. -/
  passes_iff : turn.passes = true ↔ turn.action.triggersNetwork = true ∧
    (∃ after, perform operations options turn.action turn.before = (.ok none, after)) ∧
    ∃ element response, turn.before.target? turn.action = some element ∧
      .respond response ∈ element.effectsOf turn.action ∧ listener.expected.MetBy response
  /-- A click or an input that fails on its own has its own fault. -/
  own : ∀ fault after, turn.action.triggersNetwork = true →
    perform operations options turn.action turn.before = (.error fault, after) →
    turn.failure? = some ⟨turn.scenario, .action turn.action, fault.message⟩
  /-- Any other step that does not pass has the fault of the wait. -/
  unmet : turn.passes = false →
    (turn.action.triggersNetwork = true →
      ∃ after, perform operations options turn.action turn.before = (.ok none, after)) →
    turn.failure? = some ⟨turn.scenario, .action turn.action,
      s!"Timed out waiting for response {listener.expected.method} {listener.expected.urlPart}"⟩
  /-- A step of another kind awaits the listener and does nothing else. -/
  still : turn.action.triggersNetwork = false →
    turn.calls = [.awaited listener (.error (.timeout s!"waiting for response {listener.expected.label}"))] ∧
    ∀ after, turn.CarriedOut operations options after → after = turn.before

theorem timeout_message (expected : Expectation) :
    (Fault.page (.timeout s!"waiting for response {expected.label}")).message =
      s!"Timed out waiting for response {expected.method} {expected.urlPart}" := by
  rfl

section

variable {options : Options} {listener : Listener} {turn : Turn MemoryPage Listener} {page after : MemoryPage}

theorem Turn.failure?_of_timeout
    (outcome : turn.outcome = .error (.page (.timeout s!"waiting for response {listener.expected.label}"))) :
    turn.failure? = some ⟨turn.scenario, .action turn.action,
      s!"Timed out waiting for response {listener.expected.method} {listener.expected.urlPart}"⟩ := by
  rw [Turn.failure?, outcome, ← timeout_message]

theorem Turn.passes_of_error {fault : Fault} (outcome : turn.outcome = .error fault) : turn.passes = false := by
  rw [Turn.passes, outcome]

/-- A step of another kind finds the listener waiting and does nothing else. -/
theorem settles_of_refused (alone : turn.action.triggersNetwork = false)
    (outcome : turn.outcome = .error (.page (.timeout s!"waiting for response {listener.expected.label}")))
    (calls : turn.calls = [.awaited listener (.error (.timeout s!"waiting for response {listener.expected.label}"))])
    (still : ∀ after, turn.CarriedOut operations options after → after = turn.before) :
    turn.Settles options listener where
  passes_iff := by
    rw [Turn.passes_of_error outcome, alone]
    exact iff_of_false Bool.false_ne_true fun ⟨network, _⟩ => Bool.false_ne_true network
  own _ _ network := by
    rw [alone] at network
    cases network
  unmet _ _ := Turn.failure?_of_timeout outcome
  still _ := ⟨calls, still⟩

/-- A click or an input that fails on its own. -/
theorem settles_of_failed {fault : Fault} (network : turn.action.triggersNetwork = true)
    (performed : perform operations options turn.action turn.before = (.error fault, after))
    (outcome : turn.outcome = .error fault) : turn.Settles options listener where
  passes_iff := by
    rw [Turn.passes_of_error outcome]
    refine iff_of_false Bool.false_ne_true ?_
    rintro ⟨_, ⟨other, succeeded⟩, _⟩
    rw [performed] at succeeded
    cases succeeded
  own other _ _ failed := by
    rw [performed] at failed
    cases failed
    rw [Turn.failure?, outcome]
  unmet _ own := by
    obtain ⟨other, succeeded⟩ := own network
    rw [performed] at succeeded
    cases succeeded
  still alone := by
    rw [network] at alone
    cases alone

/-- A click or an input that succeeds passes just if its effects answer the listener. -/
theorem settles_of_performed (numbered : turn.before.Numbered) (armed : listener ∈ turn.before.armed)
    (network : turn.action.triggersNetwork = true)
    (performed : perform operations options turn.action turn.before = (.ok none, after))
    (outcome : turn.outcome = if after.hasAnswered listener = true then .ok none
      else .error (.page (.timeout s!"waiting for response {listener.expected.label}"))) :
    turn.Settles options listener where
  passes_iff := by
    have strikes := perform_strikes options network turn.before
    rw [performed] at strikes
    generalize same : (Except.ok none, after) = answer at strikes
    cases strikes with
    | missed => cases same
    | @hit element base target listening =>
      obtain rfl : after = base.applyEffects (element.effectsOf turn.action) := congrArg Prod.snd same
      have alike : base.armed = turn.before.armed := congrArg Prod.fst listening
      have waits : listener ∈ base.armed := by rwa [alike]
      have answers := (numbered.of_listening listening).hasAnswered_applyEffects_iff waits
        (element.effectsOf turn.action)
      constructor
      · intro passed
        by_cases answered : (base.applyEffects (element.effectsOf turn.action)).hasAnswered listener = true
        · obtain ⟨response, member, met⟩ := answers.mp answered
          exact ⟨network, ⟨_, performed⟩, element, response, target, member, met⟩
        · rw [if_neg answered] at outcome
          rw [Turn.passes_of_error outcome] at passed
          cases passed
      · rintro ⟨_, _, other, response, same, member, met⟩
        rw [target] at same
        cases same
        rw [if_pos (answers.mpr ⟨response, member, met⟩)] at outcome
        exact turn.passes_iff.mpr ⟨_, outcome⟩
  own fault _ _ failed := by
    rw [performed] at failed
    cases failed
  unmet failed _ := by
    split at outcome
    · rw [turn.passes_iff.mpr ⟨_, outcome⟩] at failed
      cases failed
    · exact Turn.failure?_of_timeout outcome
  still alone := by
    rw [network] at alone
    cases alone

/-- The answer of a wait is the fault of the wait, unless the listener was answered. -/
theorem await_answer {answer : Except PageError Unit} (awaited : operations.await listener page = (answer, after)) :
    after = page ∧ answer = if page.hasAnswered listener = true then .ok ()
      else .error (.timeout s!"waiting for response {listener.expected.label}") := by
  have unfolded : operations.await listener page = MemoryPage.await listener page := rfl
  rw [unfolded, MemoryPage.await] at awaited
  split at awaited <;> cases awaited
  · next answered => exact ⟨rfl, (if_pos answered).symm⟩
  · next open' => exact ⟨rfl, (if_neg open').symm⟩

theorem Turn.CarriedOut.unique {other : MemoryPage} (carried : turn.CarriedOut operations options after)
    (again : turn.CarriedOut operations options other) : other = after :=
  congrArg (·.2.1) (again.symm.trans carried)

theorem Turn.settles (carried : turn.CarriedOut operations options after) (found : turn.found = some listener)
    (numbered : turn.before.Numbered) (armed : listener ∈ turn.before.armed) : turn.Settles options listener := by
  have conduct := conduct_of_execute carried
  have waits := numbered.await armed
  rw [found] at conduct
  generalize outcome : turn.outcome = ended at conduct
  generalize calls : turn.calls = made at conduct
  cases conduct with
  | refused alone awaited =>
    cases awaited.symm.trans waits
    exact settles_of_refused alone outcome calls fun other again => carried.unique again
  | waited _ awaited => cases awaited.symm.trans waits
  | @joined _ middle _ _ network performed awaited =>
    refine settles_of_performed numbered armed network (perform_of_recorded performed) ?_
    obtain ⟨_, answer⟩ := await_answer awaited
    split at answer
    · next answered => rw [outcome, if_pos answered]
    · cases answer
  | @unmet _ e middle _ _ network performed awaited =>
    refine settles_of_performed numbered armed network (perform_of_recorded performed) ?_
    obtain ⟨_, answer⟩ := await_answer awaited
    split at answer
    · cases answer
    · next open' =>
      cases answer
      rw [outcome, if_neg open']
  | failed network performed => exact settles_of_failed network (perform_of_recorded performed) outcome
  | @cut _ e middle _ _ _ settled =>
    -- a wait on a page in memory is never known to have failed
    have unfolded : operations.settled? listener middle = MemoryPage.settled? listener middle := rfl
    rw [unfolded, MemoryPage.settled?] at settled
    split at settled <;> cases settled

end

/-! ## Runs -/

/-- The listener in the slot still waits. -/
structure Standing.Sound (here : Standing MemoryPage Listener) : Prop where
  numbered : here.state.Numbered
  armed : ∀ listener, here.pending = some listener → listener ∈ here.state.armed

/-- How a step deals with the listener that it finds and with the one that it leaves. -/
structure Turn.Heeds (options : Options) (turn : Turn MemoryPage Listener) : Prop where
  settles : ∀ listener, turn.found = some listener → turn.Settles options listener
  arms : ∀ listener, turn.left = some listener →
    ∃ method urlPart, turn.action = .networkListen method urlPart ∧ listener.expected = { method, urlPart }

section

variable {options : Options} {turn : Turn MemoryPage Listener} {after : MemoryPage}

/-- What a step leaves it has armed itself. -/
theorem perform_left {action : Action} {page after : MemoryPage} {outcome : Except Fault (Option Listener)}
    {calls : List (PageCall Listener)} {listener : Listener}
    (performed : perform operations.recorded options action (page, []) = (outcome, (after, calls)))
    (left : slotAfter outcome = some listener) : listener ∈ after.armed ∧
      ∃ method urlPart, action = .networkListen method urlPart ∧ listener.expected = { method, urlPart } := by
  obtain ⟨⟨method, urlPart, rfl⟩, _⟩ := (performs performed).slot.mp (by rw [left]; rfl)
  cases perform_of_recorded performed
  cases left
  exact ⟨List.mem_append_right _ (List.mem_singleton_self _), method, urlPart, rfl, rfl⟩

theorem Conduct.left_armed {action : Action} {page after : MemoryPage} {found : Option Listener}
    {outcome : Except Fault (Option Listener)} {calls : List (PageCall Listener)} {listener : Listener}
    (conduct : Conduct operations options action page found outcome after calls)
    (left : slotAfter outcome = some listener) : listener ∈ after.armed ∧
      ∃ method urlPart, action = .networkListen method urlPart ∧ listener.expected = { method, urlPart } := by
  cases conduct with
  | alone performed => exact perform_left performed left
  | waited _ _ performed => exact perform_left performed left
  | _ => cases left

/-- A step that begins in a sound standing heeds the listeners, and ends in one. -/
theorem Turn.heeds {here : Standing MemoryPage Listener} (sound : here.Sound) (before : turn.before = here.state)
    (found : turn.found = here.pending) (carried : turn.CarriedOut operations options after) :
    turn.Heeds options ∧ Standing.Sound ⟨after, turn.left⟩ := by
  have conduct := conduct_of_execute carried
  have executed := execute_tracks operations.recorded_tracks options turn.found turn.action (turn.before, [])
  have moved := execute_moves .refl .trans MemoryPage.operations_moves options turn.found turn.action turn.before
  rw [carried] at executed
  rw [executed, before] at moved
  refine ⟨⟨fun listener same => ?_, fun listener left => (conduct.left_armed left).2⟩,
    ⟨moved sound.numbered, fun listener left => (conduct.left_armed left).1⟩⟩
  rw [found] at same
  exact Turn.settles carried (found.trans same) (before ▸ sound.numbered) (before ▸ sound.armed listener same)

theorem Steps.heeds {scenario : String} {here there : Standing MemoryPage Listener} {steps : List Step}
    {turns : List (Turn MemoryPage Listener)} (course : Steps operations options scenario here steps turns there)
    (sound : here.Sound) : (∀ turn ∈ turns, turn.Heeds options) ∧ there.Sound := by
  induction course with
  | nil => exact ⟨fun _ member => absurd member List.not_mem_nil, sound⟩
  | cons _ _ before found carried _ ih =>
    obtain ⟨first, middle⟩ := Turn.heeds sound before found carried
    obtain ⟨rest, last⟩ := ih middle
    refine ⟨fun turn member => ?_, last⟩
    rcases List.mem_cons.mp member with rfl | member
    · exact first
    · exact rest turn member

/-- Opening a page leaves a listener waiting. -/
theorem Standing.Sound.goto {here : Standing MemoryPage Listener} (sound : here.Sound) {url : String} {timeout : Nat}
    {answer : Except PageError Unit} (went : operations.goto url timeout here.state = (answer, after)) :
    Standing.Sound ⟨after, here.pending⟩ := by
  have same := MemoryPage.goto_listening url timeout here.state
  rw [show MemoryPage.goto url timeout here.state = (answer, after) from went] at same
  have alike : after.armed = here.state.armed := congrArg Prod.fst same
  exact ⟨sound.numbered.of_listening same, fun listener pending => alike ▸ sound.armed listener pending⟩

theorem Visits.heeds {baseUrl : String} {here there : Standing MemoryPage Listener} {scenarios : List Scenario}
    {visits : List (Visit MemoryPage Listener)}
    (course : Visits operations options baseUrl here scenarios visits there) (sound : here.Sound) :
    (∀ turn ∈ turnsOf visits, turn.Heeds options) ∧ there.Sound := by
  induction course with
  | nil => exact ⟨fun _ member => absurd member List.not_mem_nil, sound⟩
  | skipped went _ ih => exact ih (sound.goto went)
  | opened went steps _ ih =>
    obtain ⟨first, middle⟩ := steps.heeds (sound.goto went)
    obtain ⟨rest, last⟩ := ih middle
    refine ⟨fun turn member => ?_, last⟩
    rcases List.mem_append.mp member with member | member
    · exact first turn member
    · exact rest turn member

theorem Course.heeds {host : Server.Host MemoryPage} (hosts : host.Moves MemoryPage.StaysNumbered) {plan : Plan}
    {s : MemoryPage} (numbered : s.Numbered) {visits : List (Visit MemoryPage Listener)}
    {there : Standing MemoryPage Listener} (course : Course operations host options plan s visits there) :
    (∀ turn ∈ turnsOf visits, turn.Heeds options) ∧ there.Sound := by
  have moved := reach_moves .refl .trans MemoryPage.operations_moves hosts options plan.root s
  cases course with
  | reached reached course =>
    rw [reached] at moved
    exact course.heeds ⟨moved numbered, nofun⟩
  | unreached failed =>
    rw [failed] at moved
    exact ⟨fun _ member => absurd member List.not_mem_nil, moved numbered, nofun⟩

end

/-- Every step of a run that finds a listener settles it, and the listener is the one that the step right before it
armed. A page that is in order at the start is so at the end, for runs that follow. -/
theorem run_settles (host : Server.Host MemoryPage) (hosts : host.Moves MemoryPage.StaysNumbered) (options : Options)
    (plan : Plan) (s : MemoryPage) (numbered : s.Numbered) :
    ∃ visits there, Course operations host options plan s visits there ∧
      (run operations host options plan s).1.failures = visits.flatMap Visit.failures ∧
      (run operations host options plan s).2.Numbered ∧
      ∀ earlier turn later (listener : Listener), turnsOf visits = earlier ++ turn :: later →
        turn.found = some listener → turn.Settles options listener ∧
        ∃ before armer method urlPart, earlier = before ++ [armer] ∧ armer.action = .networkListen method urlPart ∧
          listener.expected = { method, urlPart } := by
  obtain ⟨visits, there, course, failures, ended⟩ := exists_course operations host options plan s
  obtain ⟨heeds, sound⟩ := course.heeds hosts numbered
  refine ⟨visits, there, course, failures, ended ▸ sound.numbered, fun earlier turn later listener same found => ?_⟩
  have member : turn ∈ turnsOf visits := by
    rw [same]
    exact List.mem_append_right _ (List.mem_cons_self ..)
  refine ⟨(heeds turn member).settles listener found, ?_⟩
  rcases found_of_passed_on course.keepsSlot.passed_on same with ⟨_, empty⟩ | ⟨before, armer, front, left⟩
  · rw [found] at empty
    cases empty
  · have among : armer ∈ turnsOf visits := by
      rw [same, front]
      exact List.mem_append_left _ (List.mem_append_right _ (List.mem_singleton_self _))
    obtain ⟨method, urlPart, listens, expected⟩ := (heeds armer among).arms listener (left.symm.trans found)
    exact ⟨before, armer, method, urlPart, front, listens, expected⟩

/-- The click answers the first listener; nothing answers the second one, and the step after it is not carried out. -/
theorem run_settles_greeting :
    (greetingRun [("network", "GET /api/x"), ("click", "Save"), ("network", "GET /api/y"), ("see", "Hi")]).1.failures.map
      (·.error) = ["Timed out waiting for response GET /api/y"] ∧
    ∃ visits there, Course operations idleHost greetingOptions
        (greetingPlan [("network", "GET /api/x"), ("click", "Save"), ("network", "GET /api/y"), ("see", "Hi")])
        greetingPage visits there ∧
      ∀ earlier turn later (listener : Listener), turnsOf visits = earlier ++ turn :: later →
        turn.found = some listener → turn.Settles greetingOptions listener := by
  have hosts : (idleHost : Server.Host MemoryPage).Moves MemoryPage.StaysNumbered :=
    ⟨fun _ _ => .refl, fun _ _ _ => .refl⟩
  obtain ⟨visits, there, course, _, _, settles⟩ := run_settles idleHost hosts greetingOptions
    (greetingPlan [("network", "GET /api/x"), ("click", "Save"), ("network", "GET /api/y"), ("see", "Hi")])
    greetingPage (MemoryPage.numbered_of_fresh rfl rfl)
  exact ⟨by decide +kernel, visits, there, course,
    fun earlier turn later listener same found => (settles earlier turn later listener same found).1⟩

end Run

end UiCheck
