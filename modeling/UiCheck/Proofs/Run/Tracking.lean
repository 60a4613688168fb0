import UiCheck.Proofs.Page.Tracking
import UiCheck.Run.Engine

/-! # Runs on tracked pages

Plans cannot tell a page from one that tracks it: each part of a run on the upper page tracks the same part of
the run on the lower one, up to whole runs of plans from files.
-/

namespace UiCheck.Run

variable {τ σ ω : Type} {view : τ → σ} {upper : Page τ ω} {lower : Page σ ω}

theorem plain_tracks {α : Type} {above : Act τ α} {below : Act σ α} (h : Tracks view above below) :
    Tracks view (fun t => plain (ω := ω) (above t)) (fun s => plain (below s)) := by
  intro t
  simp only [h t]
  rcases above t with ⟨_ | _, _⟩ <;> rfl

theorem lift_tracks {α : Type} {above : Act τ α} {below : Act σ α} (h : Tracks view above below) :
    Tracks view (fun t => lift (above t)) (fun s => lift (below s)) := by
  intro t
  simp only [h t]
  rcases above t with ⟨_ | _, _⟩ <;> rfl

theorem checkColour_tracks (h : upper.Tracks view lower) (check : ColourCheck) (colour element : String) :
    Tracks view (checkColour upper check colour element) (checkColour lower check colour element) := by
  intro t
  simp only [checkColour, h.computedStyle element check.property t]
  rcases upper.computedStyle element check.property t with ⟨_ | found, t'⟩
  · rfl
  · dsimp only
    split <;> rfl

namespace Routine

/-- Routines of the same shape whose operations track each other. -/
inductive Tracks (view : τ → σ) : Routine τ → Routine σ → Prop
  | fail (fault : Fault) : Tracks view (.fail fault) (.fail fault)
  | last {above : Act τ Unit} {below : Act σ Unit} :
      UiCheck.Tracks view above below → Tracks view (.last above) (.last below)
  | count {above : Act τ Nat} {below : Act σ Nat} {nextAbove : Nat → Routine τ} {nextBelow : Nat → Routine σ} :
      UiCheck.Tracks view above below → (∀ n, Tracks view (nextAbove n) (nextBelow n)) →
      Tracks view (.count above nextAbove) (.count below nextBelow)

variable {above : Routine τ} {below : Routine σ}

theorem Tracks.run (h : Tracks view above below) : UiCheck.Tracks view above.run below.run := by
  induction h with
  | fail fault => intro t; rfl
  | last act => exact lift_tracks act
  | @count above _ _ _ act _ ih =>
    intro t
    simp only [Routine.run, act t]
    rcases above t with ⟨_ | n, t'⟩
    · rfl
    · exact ih n t'

theorem Tracks.abandon (h : Tracks view above below) (t : τ) :
    below.abandon (view t) = view (above.abandon t) := by
  cases h with
  | fail fault => rfl
  | last act => simp only [Routine.abandon, act t]
  | count act _ => simp only [Routine.abandon, act t]

theorem waitFault?_tracks (h : upper.Tracks view lower) (listener : ω) (t : τ) :
    waitFault? lower listener (view t) = waitFault? upper listener t := by
  simp only [waitFault?, h.settled? listener t]

theorem Tracks.pursue (h : upper.Tracks view lower) (listener : ω) (waitFirst : Bool)
    (routine : Tracks view above below) :
    UiCheck.Tracks view (Routine.pursue upper listener waitFirst above)
      (Routine.pursue lower listener waitFirst below) := by
  induction routine generalizing waitFirst with
  | fail fault => intro t; cases waitFirst <;> rfl
  | @last above _ act =>
    intro t
    simp only [Routine.pursue, act t, waitFault?_tracks h]
    rcases above t with ⟨answer, t'⟩
    dsimp only
    cases hf : (if waitFirst = true then waitFault? upper listener t' else none) with
    | some e => rfl
    | none =>
      cases answer with
      | error e => rfl
      | ok value => exact lift_tracks (h.await listener) t'
  | @count above _ nextAbove nextBelow act more ih =>
    intro t
    simp only [Routine.pursue, act t, waitFault?_tracks h]
    rcases above t with ⟨answer, t'⟩
    dsimp only
    cases hf : (if waitFirst = true then waitFault? upper listener t' else none) with
    | some e => rfl
    | none =>
      cases answer with
      | error e => rfl
      | ok n =>
        dsimp only
        split
        · exact ih n false t'
        · have going := ih n true t'
          have later := more n
          generalize nextAbove n = mine at going later ⊢
          generalize nextBelow n = other at going later ⊢
          -- what is left of the routine decides whether its next operation is sent in vain
          have left := later.abandon t'
          cases hw : waitFault? upper listener t' with
          | some e => cases later <;> simp only [left]
          | none => cases later <;> exact going

theorem Tracks.joined (h : upper.Tracks view lower) (listener : ω) (routine : Tracks view above below) :
    UiCheck.Tracks view (above.joined upper listener) (below.joined lower listener) := by
  intro t
  simp only [Routine.joined, waitFault?_tracks h]
  cases waitFault? upper listener t with
  | some e => rfl
  | none => exact routine.pursue h listener false t

end Routine

theorem clickRoutine_tracks (h : upper.Tracks view lower) (text : String) (timeout : Nat) :
    Routine.Tracks view (clickRoutine upper text timeout) (clickRoutine lower text timeout) :=
  .last (h.clickText text timeout)

theorem typeRoutine_tracks (h : upper.Tracks view lower) (label value : String) :
    Routine.Tracks view (typeRoutine upper label value) (typeRoutine lower label value) := by
  refine .count (h.countByLabel label) fun labelled => ?_
  split
  · exact .last (h.fillByLabel label value)
  · refine .count (h.countByPlaceholder label) fun held => ?_
    split
    · exact .last (h.fillByPlaceholder label value)
    · exact .fail _

theorem perform_tracks (h : upper.Tracks view lower) (options : Options) (action : Action) :
    Tracks view (perform upper options action) (perform lower options action) := by
  cases action with
  | see value =>
    intro t
    simp only [perform, h.isTextVisible value t]
    rcases upper.isTextVisible value t with ⟨_ | _ | _, _⟩ <;> rfl
  | assertVisible selector => exact plain_tracks (h.waitForSelector selector options.stepTimeout)
  | assertText selector value =>
    intro t
    simp only [perform, h.selectorText selector options.stepTimeout t]
    rcases upper.selectorText selector options.stepTimeout t with ⟨_ | found, _⟩
    · rfl
    · dsimp only
      split <;> rfl
  | click value =>
    intro t
    simp only [perform, (clickRoutine_tracks h value options.stepTimeout).run t]
    rcases (clickRoutine upper value options.stepTimeout).run t with ⟨_ | _, _⟩ <;> rfl
  | typeSmart value label =>
    intro t
    simp only [perform, (typeRoutine_tracks h label value).run t]
    rcases (typeRoutine upper label value).run t with ⟨_ | _, _⟩ <;> rfl
  | typeSelector selector value => exact plain_tracks (h.fillSelector selector value)
  | assertUrl value => exact plain_tracks (h.waitForUrl value options.stepTimeout)
  | networkListen method urlPart =>
    intro t
    simp only [perform, h.expectResponse { method, urlPart } options.networkTimeout t]
    rcases upper.expectResponse { method, urlPart } options.networkTimeout t with ⟨_ | _, _⟩ <;> rfl
  | assertColor colour element => exact checkColour_tracks h .text colour element
  | assertBackground colour element => exact checkColour_tracks h .background colour element
  | assertBorderColor colour element => exact checkColour_tracks h .border colour element
  | wait ms => exact plain_tracks (h.wait ms)
  | unknown step => intro t; rfl

/-- The routine of an action that may cause a response tracks, and the other actions have none. -/
theorem trigger?_tracks (h : upper.Tracks view lower) (options : Options) (action : Action) :
    Option.Rel (Routine.Tracks view) (trigger? upper options action) (trigger? lower options action) := by
  cases action with
  | click value => exact .some (clickRoutine_tracks h value options.stepTimeout)
  | typeSmart value label => exact .some (typeRoutine_tracks h label value)
  | _ => exact .none

theorem execute_tracks (h : upper.Tracks view lower) (options : Options) (pending : Option ω)
    (action : Action) : Tracks view (execute upper options pending action) (execute lower options pending action) := by
  cases pending with
  | none => exact perform_tracks h options action
  | some listener =>
    intro t
    have routine := trigger?_tracks h options action
    simp only [execute]
    generalize trigger? upper options action = above at routine ⊢
    generalize trigger? lower options action = below at routine ⊢
    cases routine with
    | some routine =>
      simp only [routine.joined h listener t]
      rcases Routine.joined upper listener _ t with ⟨_ | _, _⟩ <;> rfl
    | none =>
      simp only [h.await listener t]
      rcases upper.await listener t with ⟨_ | _, t'⟩
      · rfl
      · exact perform_tracks h options action t'

/-- The same progress in a state that looks the same. -/
def Progress.map (view : τ → σ) (progress : Progress τ ω) : Progress σ ω :=
  { progress with state := view progress.state }

@[simp] theorem Progress.map_state (progress : Progress τ ω) :
    (progress.map view).state = view progress.state := rfl

@[simp] theorem Progress.map_pending (progress : Progress τ ω) :
    (progress.map view).pending = progress.pending := rfl

theorem runStep_map (h : upper.Tracks view lower) (options : Options) (scenario : String)
    (progress : Progress τ ω) (step : Step) :
    runStep lower options scenario (progress.map view) step =
      (runStep upper options scenario progress step).map view := by
  have tracked := execute_tracks h options progress.pending (Plan.normalize step) progress.state
  simp only [runStep, Progress.map_pending, Progress.map_state, tracked]
  rcases execute upper options progress.pending (Plan.normalize step) progress.state with ⟨_ | _, _⟩ <;> rfl

theorem runScenario_map (h : upper.Tracks view lower) (options : Options) (baseUrl : String)
    (progress : Progress τ ω) (scenario : Scenario) :
    runScenario lower options baseUrl (progress.map view) scenario =
      (runScenario upper options baseUrl progress scenario).map view := by
  have tracked := h.goto (baseUrl ++ scenario.path) options.navigationTimeout progress.state
  simp only [runScenario, Progress.map_state, tracked]
  rcases upper.goto (baseUrl ++ scenario.path) options.navigationTimeout progress.state with ⟨_ | _, t'⟩
  · rfl
  · have folded : scenario.steps.foldl (runStep lower options scenario.name)
        (Progress.map view { progress with state := t' }) =
        (scenario.steps.foldl (runStep upper options scenario.name) { progress with state := t' }).map view :=
      List.foldl_hom _ (runStep_map h options scenario.name)
    exact folded

variable {hostAbove : Server.Host τ} {hostBelow : Server.Host σ}

theorem start_tracks (h : hostAbove.Tracks view hostBelow) (options : Server.Options) (baseUrl : String) :
    Tracks view (Server.start hostAbove options baseUrl) (Server.start hostBelow options baseUrl) := by
  intro t
  simp only [Server.start]
  cases options.command with
  | none => rfl
  | some command =>
    simp only [h.spawn command options.workingDir t]
    rcases hostAbove.spawn command options.workingDir t with ⟨_ | _, t'⟩
    · rfl
    · simp only [h.accepts _ _ _ t']
      rcases hostAbove.accepts (Server.Address.ofUrl baseUrl) options.startupTimeout options.pollInterval t'
        with ⟨_ | _, _⟩ <;> rfl

theorem reach_tracks (h : upper.Tracks view lower) (hosts : hostAbove.Tracks view hostBelow)
    (options : Options) (baseUrl : String) :
    Tracks view (reach upper hostAbove options baseUrl) (reach lower hostBelow options baseUrl) := by
  intro t
  simp only [reach, h.goto baseUrl options.reachTimeout t]
  rcases upper.goto baseUrl options.reachTimeout t with ⟨_ | _, t₁⟩
  · simp only [start_tracks hosts options.server baseUrl t₁]
    rcases Server.start hostAbove options.server baseUrl t₁ with ⟨_ | _, t₂⟩
    · rfl
    · simp only [h.goto baseUrl options.navigationTimeout t₂]
      rcases upper.goto baseUrl options.navigationTimeout t₂ with ⟨_ | _, _⟩ <;> rfl
  · rfl

/-- A run of a plan tracks the run on the lower page, with the same result. -/
theorem run_tracks (h : upper.Tracks view lower) (hosts : hostAbove.Tracks view hostBelow)
    (options : Options) (plan : Plan) :
    Tracks view (run upper hostAbove options plan) (run lower hostBelow options plan) := by
  intro t
  simp only [run, reach_tracks h hosts options plan.root t]
  rcases reach upper hostAbove options plan.root t with ⟨_ | _, t'⟩
  · rfl
  · have folded : plan.scenarios.foldl (runScenario lower options plan.root) (Progress.map view (.start t')) =
        (plan.scenarios.foldl (runScenario upper options plan.root) (.start t')).map view :=
      List.foldl_hom _ (runScenario_map h options plan.root)
    exact congrArg (fun progress : Progress σ ω => (progress.result, progress.state)) folded

theorem runFile_tracks (h : upper.Tracks view lower) (hosts : hostAbove.Tracks view hostBelow)
    (options : Options) (disk : Files.Disk) (path : String) :
    Tracks view (runFile upper hostAbove options disk path) (runFile lower hostBelow options disk path) := by
  intro t
  simp only [runFile]
  cases Plan.load disk path with
  | ok plan => exact run_tracks h hosts options plan t
  | error e => rfl

end UiCheck.Run
