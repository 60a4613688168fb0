import UiCheck.Proofs.Run.Course

/-! # All calls of a run

What a recorded page notes during a run are requests that reach the base address, and then the calls of the visits:
for each the request that opens the page, and what its turns ask. `Course.recorded` says that there is nothing else.
-/

namespace UiCheck.Run

variable {σ ω : Type} {page : Page σ ω} {options : Options}

/-- The calls of a visit under a base address, in order. -/
def Visit.calls (baseUrl : String) (options : Options) (visit : Visit σ ω) : List (PageCall ω) :=
  .ofAnswer (.goto (baseUrl ++ visit.scenario.path) options.navigationTimeout) visit.answer ::
    visit.turns.flatMap (·.calls)

theorem goto_recorded {url : String} {timeout : Nat} {s after : σ} {answer : Except PageError Unit}
    (went : page.goto url timeout s = (answer, after)) (earlier : List (PageCall ω)) :
    page.recorded.goto url timeout (s, earlier) =
      (answer, (after, earlier ++ [.ofAnswer (.goto url timeout) answer])) := by
  simp only [Page.recorded, noted, went]

/-- On a recorded page a turn leaves its calls behind the notes. -/
theorem Turn.CarriedOut.recorded {turn : Turn σ ω} {after : σ} (carried : turn.CarriedOut page options after)
    {progress : Progress (σ × List (PageCall ω)) ω} {log : List (PageCall ω)} {step : Step}
    (standing : progress.standing = ⟨(turn.before, log), turn.found⟩) (action : turn.action = Plan.normalize step) :
    (runStep page.recorded options turn.scenario progress step).standing =
      ⟨(after, log ++ turn.calls), turn.left⟩ := by
  obtain ⟨state, pending, total, passed, failures⟩ := progress
  cases standing
  have executed := apply_behind (execute_tracks (page.recorded_tracks_behind log) options turn.found turn.action)
    turn.before
  rw [carried, action] at executed
  simp only [runStep, executed, Turn.left]
  cases turn.outcome <;> rfl

theorem Steps.recorded {scenario : String} {here there : Standing σ ω} {steps : List Step} {turns : List (Turn σ ω)}
    (course : Steps page options scenario here steps turns there)
    {progress : Progress (σ × List (PageCall ω)) ω} {log : List (PageCall ω)}
    (standing : progress.standing = ⟨(here.state, log), here.pending⟩) :
    (steps.foldl (runStep page.recorded options scenario) progress).standing =
      ⟨(there.state, log ++ turns.flatMap (·.calls)), there.pending⟩ := by
  induction course generalizing progress log with
  | nil =>
    rw [List.flatMap_nil, List.append_nil]
    exact standing
  | cons named action before found carried _ ih =>
    subst named
    rw [← before, ← found] at standing
    rw [List.foldl_cons, ih (carried.recorded standing action), List.flatMap_cons, List.append_assoc]

theorem Visits.recorded {baseUrl : String} {here there : Standing σ ω} {scenarios : List Scenario}
    {visits : List (Visit σ ω)} (course : Visits page options baseUrl here scenarios visits there)
    {progress : Progress (σ × List (PageCall ω)) ω} {log : List (PageCall ω)}
    (standing : progress.standing = ⟨(here.state, log), here.pending⟩) :
    (scenarios.foldl (runScenario page.recorded options baseUrl) progress).standing =
      ⟨(there.state, log ++ visits.flatMap (Visit.calls baseUrl options)), there.pending⟩ := by
  induction course generalizing progress log with
  | nil =>
    rw [List.flatMap_nil, List.append_nil]
    exact standing
  | @skipped here _ scenario _ after e _ went _ ih =>
    obtain ⟨state, pending, total, passed, failures⟩ := progress
    cases standing
    have visited : (runScenario page.recorded options baseUrl
        ⟨(here.state, log), here.pending, total, passed, failures⟩ scenario).standing =
          ⟨(after, log ++ [.ofAnswer (.goto (baseUrl ++ scenario.path) options.navigationTimeout)
            (.error e : Except PageError Unit)]), here.pending⟩ := by
      simp only [runScenario, goto_recorded went]
      rfl
    rw [List.foldl_cons, ih visited, List.flatMap_cons, List.append_assoc]
    rfl
  | @opened here middle _ scenario _ after turns _ went steps _ ih =>
    obtain ⟨state, pending, total, passed, failures⟩ := progress
    cases standing
    have visited : (runScenario page.recorded options baseUrl
        ⟨(here.state, log), here.pending, total, passed, failures⟩ scenario).standing =
          ⟨(middle.state, log ++ [.ofAnswer (.goto (baseUrl ++ scenario.path) options.navigationTimeout)
            (.ok () : Except PageError Unit)] ++ turns.flatMap (·.calls)), middle.pending⟩ := by
      simp only [runScenario, goto_recorded went]
      exact steps.recorded rfl
    rw [List.foldl_cons, ih visited, List.flatMap_cons, List.append_assoc, List.append_assoc]
    rfl

/-- Starting a server asks nothing of the page. -/
theorem start_notes (host : Server.Host σ) (server : Server.Options) (baseUrl : String) (s : σ)
    (log : List (PageCall ω)) : Server.start (beside.host host) server baseUrl (s, log) =
      ((Server.start host server baseUrl s).1, ((Server.start host server baseUrl s).2, log)) :=
  start_tracks (beside_lawful.host_tracks (s, log) host) server baseUrl s

/-- To reach the base address a page is only asked to open it. -/
theorem reach_asks (page : Page σ ω) (host : Server.Host σ) (options : Options) (baseUrl : String)
    (t : σ × List (PageCall ω)) :
    AsksOnly t (reach page.recorded (beside.host host) options baseUrl t).2 := by
  obtain ⟨answer, t₁, first, opened⟩ : ∃ answer t₁,
      page.recorded.goto baseUrl options.reachTimeout t = (answer, t₁) ∧ AsksOnly t t₁ :=
    ⟨_, _, rfl, .noted _ _ t⟩
  obtain ⟨s₁, log⟩ := t₁
  simp only [reach, first]
  cases answer with
  | ok _ => exact opened
  | error e =>
    have waited : ∀ s₂, AsksOnly t (s₂, log) := fun _ => opened
    dsimp only
    rw [start_notes]
    rcases Server.start host options.server baseUrl s₁ with ⟨_ | _, s₂⟩
    · exact waited s₂
    · obtain ⟨answer, t₃, second, reopened⟩ : ∃ answer t₃,
          page.recorded.goto baseUrl options.navigationTimeout (s₂, log) = (answer, t₃) ∧
            AsksOnly (s₂, log) t₃ := ⟨_, _, rfl, .noted _ _ _⟩
      dsimp only
      rw [second]
      cases answer <;> exact .trans _ _ _ (waited s₂) reopened

theorem beside_host_tracks {κ : Type} (host : Server.Host σ) :
    Server.Host.Tracks Prod.fst ((beside : Part (σ × κ) σ).host host) host where
  spawn _ _ := fun _ => rfl
  accepts _ _ _ := fun _ => rfl

/-- A recorded page notes the calls of the course after requests that reach the base address, and no more. -/
theorem Course.recorded {host : Server.Host σ} {plan : Plan} {s : σ} {visits : List (Visit σ ω)} {there : Standing σ ω}
    (course : Course page host options plan s visits there) :
    ∃ reaching, (∀ call ∈ reaching, call.isAsked = true) ∧
      (run page.recorded (beside.host host) options plan (s, [])).2 =
        (there.state, reaching ++ visits.flatMap (Visit.calls plan.root options)) := by
  obtain ⟨reaching, noted, asked⟩ := reach_asks page host options plan.root (s, [])
  have tracked := reach_tracks page.recorded_tracks (beside_host_tracks host) options plan.root (s, [])
  refine ⟨reaching, asked, ?_⟩
  cases attempt : reach page.recorded (beside.host host) options plan.root (s, []) with
  | mk answer t =>
    obtain ⟨s₁, log⟩ := t
    rw [attempt] at noted tracked
    obtain rfl : log = reaching := noted
    cases course with
    | unreached failed =>
      cases failed.symm.trans tracked
      simp only [run, attempt]
      rw [List.flatMap_nil, List.append_nil]
    | reached reached course =>
      cases reached.symm.trans tracked
      simp only [run, attempt]
      have standing : (plan.scenarios.foldl (runScenario page.recorded options plan.root) (.start (s₁, log))).standing =
          ⟨(there.state, log ++ visits.flatMap (Visit.calls plan.root options)), there.pending⟩ := course.recorded rfl
      exact congrArg Standing.state standing

end UiCheck.Run
