import UiCheck.Proofs.Run.Joining
import UiCheck.Run.Engine

/-! # Steps along a relation

If each operation of a page moves its states along a relation that is reflexive and transitive, then so does a step
that is carried out on it, and on a host that moves along it too so do the way to the base address and a whole run:
what all operations keep, a run keeps.
-/

namespace UiCheck

/-- Each operation of the page moves along the relation. -/
structure Page.Moves {σ ω : Type} (move : σ → σ → Prop) (page : Page σ ω) : Prop where
  goto (url : String) (timeout : Nat) (s : σ) : move s (page.goto url timeout s).2
  isTextVisible (text : String) (s : σ) : move s (page.isTextVisible text s).2
  waitForSelector (selector : String) (timeout : Nat) (s : σ) : move s (page.waitForSelector selector timeout s).2
  selectorText (selector : String) (timeout : Nat) (s : σ) : move s (page.selectorText selector timeout s).2
  clickText (text : String) (timeout : Nat) (s : σ) : move s (page.clickText text timeout s).2
  countByLabel (label : String) (s : σ) : move s (page.countByLabel label s).2
  fillByLabel (label value : String) (s : σ) : move s (page.fillByLabel label value s).2
  countByPlaceholder (placeholder : String) (s : σ) : move s (page.countByPlaceholder placeholder s).2
  fillByPlaceholder (placeholder value : String) (s : σ) : move s (page.fillByPlaceholder placeholder value s).2
  fillSelector (selector value : String) (s : σ) : move s (page.fillSelector selector value s).2
  waitForUrl (fragment : String) (timeout : Nat) (s : σ) : move s (page.waitForUrl fragment timeout s).2
  computedStyle (text : String) (property : StyleProperty) (s : σ) : move s (page.computedStyle text property s).2
  expectResponse (expected : Expectation) (timeout : Nat) (s : σ) :
    move s (page.expectResponse expected timeout s).2
  await (listener : ω) (s : σ) : move s (page.await listener s).2
  wait (ms : Nat) (s : σ) : move s (page.wait ms s).2

/-- Starting a server moves along the relation. -/
structure Server.Host.Moves {σ : Type} (move : σ → σ → Prop) (host : Server.Host σ) : Prop where
  spawn (command workingDir : String) (s : σ) : move s (host.spawn command workingDir s).2
  accepts (address : Server.Address) (deadline interval : Nat) (s : σ) :
    move s (host.accepts address deadline interval s).2

namespace Part

variable {τ σ ω α : Type} {part : Part τ σ} {move : σ → σ → Prop}

theorem Lawful.on_moves (lawful : part.Lawful) {step : σ → α × σ} (moved : ∀ s, move s (step s).2) (t : τ) :
    move (part.get t) (part.get (part.on step t).2) := by
  simp only [Part.on, lawful.get_put]
  exact moved (part.get t)

/-- A page that works on a part of the states moves that part along the relation. -/
theorem Lawful.page_moves (lawful : part.Lawful) {page : Page σ ω} (moves : page.Moves move) :
    (part.page page).Moves fun t t' => move (part.get t) (part.get t') where
  goto url timeout := lawful.on_moves (moves.goto url timeout)
  isTextVisible text := lawful.on_moves (moves.isTextVisible text)
  waitForSelector selector timeout := lawful.on_moves (moves.waitForSelector selector timeout)
  selectorText selector timeout := lawful.on_moves (moves.selectorText selector timeout)
  clickText text timeout := lawful.on_moves (moves.clickText text timeout)
  countByLabel label := lawful.on_moves (moves.countByLabel label)
  fillByLabel label value := lawful.on_moves (moves.fillByLabel label value)
  countByPlaceholder placeholder := lawful.on_moves (moves.countByPlaceholder placeholder)
  fillByPlaceholder placeholder value := lawful.on_moves (moves.fillByPlaceholder placeholder value)
  fillSelector selector value := lawful.on_moves (moves.fillSelector selector value)
  waitForUrl fragment timeout := lawful.on_moves (moves.waitForUrl fragment timeout)
  computedStyle text property := lawful.on_moves (moves.computedStyle text property)
  expectResponse expected timeout := lawful.on_moves (moves.expectResponse expected timeout)
  await listener := lawful.on_moves (moves.await listener)
  wait ms := lawful.on_moves (moves.wait ms)

end Part

theorem Server.start_moves {σ : Type} {move : σ → σ → Prop} {host : Server.Host σ} (refl : ∀ s, move s s)
    (trans : ∀ a b c, move a b → move b c → move a c) (moves : host.Moves move) (options : Server.Options)
    (baseUrl : String) (s : σ) : move s (Server.start host options baseUrl s).2 := by
  rw [Server.start]
  cases options.command with
  | none => exact refl s
  | some command =>
    have spawned := moves.spawn command options.workingDir s
    dsimp only
    rcases started : host.spawn command options.workingDir s with ⟨_ | _, middle⟩ <;> rw [started] at spawned
    · exact spawned
    · have tried := moves.accepts (Server.Address.ofUrl baseUrl) options.startupTimeout options.pollInterval middle
      dsimp only
      rcases accepted : host.accepts (Server.Address.ofUrl baseUrl) options.startupTimeout options.pollInterval middle
        with ⟨_ | _, after⟩ <;> rw [accepted] at tried <;> exact trans _ _ _ spawned tried

namespace Run

variable {σ ω : Type} {page : Page σ ω} {move : σ → σ → Prop}

theorem plain_moves {α : Type} {s : σ} {answer : Except PageError α × σ} (moved : move s answer.2) :
    move s (plain (ω := ω) answer).2 := by
  rcases answer with ⟨_ | _, _⟩ <;> exact moved

theorem checkColour_moves (moves : page.Moves move) (check : ColourCheck) (colour element : String) (s : σ) :
    move s (checkColour page check colour element s).2 := by
  have moved := moves.computedStyle element check.property s
  rw [checkColour]
  rcases asked : page.computedStyle element check.property s with ⟨_ | found, after⟩ <;> rw [asked] at moved
  · exact moved
  · dsimp only
    split <;> exact moved

theorem clickRoutine_moves (moves : page.Moves move) (text : String) (timeout : Nat) :
    (clickRoutine page text timeout).Within move :=
  .last (moves.clickText text timeout)

theorem typeRoutine_moves (moves : page.Moves move) (label value : String) :
    (typeRoutine page label value).Within move := by
  refine .count (moves.countByLabel label) fun labelled => ?_
  split
  · exact .last (moves.fillByLabel label value)
  · refine .count (moves.countByPlaceholder label) fun held => ?_
    split
    · exact .last (moves.fillByPlaceholder label value)
    · exact .fail _

theorem perform_moves (refl : ∀ s, move s s) (trans : ∀ a b c, move a b → move b c → move a c)
    (moves : page.Moves move) (options : Options) (action : Action) (s : σ) :
    move s (perform page options action s).2 := by
  cases action with
  | see value =>
    have moved := moves.isTextVisible value s
    rw [perform]
    rcases asked : page.isTextVisible value s with ⟨_ | _ | _, after⟩ <;> rw [asked] at moved <;> exact moved
  | assertVisible selector => exact plain_moves (moves.waitForSelector ..)
  | assertText selector value =>
    have moved := moves.selectorText selector options.stepTimeout s
    rw [perform]
    rcases asked : page.selectorText selector options.stepTimeout s with ⟨_ | found, after⟩ <;> rw [asked] at moved
    · exact moved
    · dsimp only
      split <;> exact moved
  | click value =>
    have moved := (clickRoutine_moves moves value options.stepTimeout).run refl trans s
    rw [perform]
    rcases ran : (clickRoutine page value options.stepTimeout).run s with ⟨_ | _, after⟩ <;> rw [ran] at moved <;>
      exact moved
  | typeSmart value label =>
    have moved := (typeRoutine_moves moves label value).run refl trans s
    rw [perform]
    rcases ran : (typeRoutine page label value).run s with ⟨_ | _, after⟩ <;> rw [ran] at moved <;> exact moved
  | typeSelector selector value => exact plain_moves (moves.fillSelector ..)
  | assertUrl value => exact plain_moves (moves.waitForUrl ..)
  | networkListen method urlPart =>
    have moved := moves.expectResponse { method, urlPart } options.networkTimeout s
    rw [perform]
    rcases asked : page.expectResponse { method, urlPart } options.networkTimeout s with ⟨_ | _, after⟩ <;>
      rw [asked] at moved <;> exact moved
  | assertColor colour element => exact checkColour_moves moves .text colour element s
  | assertBackground colour element => exact checkColour_moves moves .background colour element s
  | assertBorderColor colour element => exact checkColour_moves moves .border colour element s
  | wait ms => exact plain_moves (moves.wait ..)
  | unknown step => exact refl s

theorem trigger?_moves (moves : page.Moves move) {options : Options} {action : Action} {routine : Routine σ}
    (triggers : trigger? page options action = some routine) : routine.Within move := by
  cases action with
  | click value => cases triggers; exact clickRoutine_moves moves value options.stepTimeout
  | typeSmart value label => cases triggers; exact typeRoutine_moves moves label value
  | _ => cases triggers

theorem execute_moves (refl : ∀ s, move s s) (trans : ∀ a b c, move a b → move b c → move a c)
    (moves : page.Moves move) (options : Options) (pending : Option ω) (action : Action) (s : σ) :
    move s (execute page options pending action s).2 := by
  cases pending with
  | none => exact perform_moves refl trans moves options action s
  | some listener =>
    cases triggers : trigger? page options action with
    | some routine =>
      have within := trigger?_moves moves triggers
      have ran := within.run refl trans s
      have ending := Routine.joined_cases page listener refl trans within s
      rw [execute, triggers]
      dsimp only
      generalize routine.joined page listener s = joined at ending
      cases ending with
      | @waited middle done =>
        have awaited := moves.await listener middle
        rw [done] at ran
        rcases waited : page.await listener middle with ⟨_ | _, after⟩ <;> rw [waited] at awaited <;>
          exact trans _ _ _ ran awaited
      | failed done =>
        rw [done] at ran
        exact ran
      | cut _ moved => exact moved
    | none =>
      have awaited := moves.await listener s
      rw [execute, triggers]
      dsimp only
      rcases waited : page.await listener s with ⟨_ | _, middle⟩ <;> rw [waited] at awaited
      · exact awaited
      · exact trans _ _ _ awaited (perform_moves refl trans moves options action middle)

theorem reach_moves (refl : ∀ s, move s s) (trans : ∀ a b c, move a b → move b c → move a c) (moves : page.Moves move)
    {host : Server.Host σ} (hosts : host.Moves move) (options : Options) (baseUrl : String) (s : σ) :
    move s (reach page host options baseUrl s).2 := by
  have went := moves.goto baseUrl options.reachTimeout s
  rw [reach]
  rcases first : page.goto baseUrl options.reachTimeout s with ⟨_ | _, middle⟩ <;> rw [first] at went
  · have started := Server.start_moves refl trans hosts options.server baseUrl middle
    dsimp only
    rcases brought : Server.start host options.server baseUrl middle with ⟨_ | _, up⟩ <;> rw [brought] at started
    · exact trans _ _ _ went started
    · have again := moves.goto baseUrl options.navigationTimeout up
      have moved := trans _ _ _ went (trans _ _ _ started again)
      dsimp only
      rcases second : page.goto baseUrl options.navigationTimeout up with ⟨_ | _, after⟩ <;> rw [second] at moved <;>
        exact moved
  · exact went

theorem runStep_moves (refl : ∀ s, move s s) (trans : ∀ a b c, move a b → move b c → move a c)
    (moves : page.Moves move) (options : Options) (scenario : String) (progress : Progress σ ω) (step : Step) :
    move progress.state (runStep page options scenario progress step).state := by
  have moved := execute_moves refl trans moves options progress.pending (Plan.normalize step) progress.state
  rw [runStep]
  rcases done : execute page options progress.pending (Plan.normalize step) progress.state with ⟨_ | _, after⟩ <;>
    rw [done] at moved <;> exact moved

theorem foldl_moves {β : Type} {next : Progress σ ω → β → Progress σ ω} (refl : ∀ s, move s s)
    (trans : ∀ a b c, move a b → move b c → move a c)
    (moved : ∀ progress item, move progress.state (next progress item).state) (items : List β)
    (progress : Progress σ ω) : move progress.state (items.foldl next progress).state := by
  induction items generalizing progress with
  | nil => exact refl progress.state
  | cons item items ih => exact trans _ _ _ (moved progress item) (ih (next progress item))

theorem runScenario_moves (refl : ∀ s, move s s) (trans : ∀ a b c, move a b → move b c → move a c)
    (moves : page.Moves move) (options : Options) (baseUrl : String) (progress : Progress σ ω) (scenario : Scenario) :
    move progress.state (runScenario page options baseUrl progress scenario).state := by
  have went := moves.goto (baseUrl ++ scenario.path) options.navigationTimeout progress.state
  rw [runScenario]
  rcases opened : page.goto (baseUrl ++ scenario.path) options.navigationTimeout progress.state with ⟨_ | _, after⟩ <;>
    rw [opened] at went
  · exact went
  · have stepped := runStep_moves refl trans moves options scenario.name
    exact trans _ _ _ went (foldl_moves refl trans stepped scenario.steps { progress with state := after })

/-- What all operations of a page and its host keep, a run keeps. -/
theorem run_moves (refl : ∀ s, move s s) (trans : ∀ a b c, move a b → move b c → move a c) (moves : page.Moves move)
    {host : Server.Host σ} (hosts : host.Moves move) (options : Options) (plan : Plan) (s : σ) :
    move s (run page host options plan s).2 := by
  have reached := reach_moves refl trans moves hosts options plan.root s
  rw [run]
  rcases way : reach page host options plan.root s with ⟨_ | _, middle⟩ <;> rw [way] at reached
  · exact reached
  · have visited := runScenario_moves refl trans moves options plan.root
    exact trans _ _ _ reached (foldl_moves refl trans visited plan.scenarios (.start middle))

end Run

end UiCheck
