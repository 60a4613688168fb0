import UiCheck.Proofs.Run.Course
import UiCheck.Proofs.Run.Joining

/-! # How steps are carried out

A step alone makes requests, or arms a listener if that is what it asks for. A step that finds a listener awaits
it first, or joins the wait with its requests if they may cause the response. `conduct_of_execute` lists all that
can happen then, with the calls that are made.
-/

namespace UiCheck.Run

variable {σ ω : Type} {page : Page σ ω} {options : Options}

theorem clickRoutine_within (text : String) (timeout : Nat) :
    (clickRoutine page.recorded text timeout).Within AsksOnly :=
  .last fun t => .noted _ _ t

theorem typeRoutine_within (label value : String) : (typeRoutine page.recorded label value).Within AsksOnly := by
  refine .count (fun t => .noted _ _ t) fun labelled => ?_
  split
  · exact .last fun t => .noted _ _ t
  · refine .count (fun t => .noted _ _ t) fun held => ?_
    split
    · exact .last fun t => .noted _ _ t
    · exact .fail _

theorem trigger?_within {action : Action} {routine : Routine (σ × List (PageCall ω))}
    (triggers : trigger? page.recorded options action = some routine) : routine.Within AsksOnly := by
  cases action with
  | click value => cases triggers; exact clickRoutine_within value options.stepTimeout
  | typeSmart value label => cases triggers; exact typeRoutine_within label value
  | _ => cases triggers

theorem triggersNetwork_of_trigger? {action : Action} {routine? : Option (Routine σ)}
    (triggers : trigger? page options action = routine?) : action.triggersNetwork = routine?.isSome := by
  subst triggers
  cases action <;> rfl

/-- The answer of a routine as the outcome of a step. -/
def afterRoutine : Except Fault Unit × σ → Except Fault (Option ω) × σ
  | (.ok (), s) => (.ok none, s)
  | (.error fault, s) => (.error fault, s)

theorem perform_of_trigger? {action : Action} {routine : Routine σ}
    (triggers : trigger? page options action = some routine) (s : σ) :
    perform page options action s = afterRoutine (routine.run s) := by
  cases action with
  | click value =>
    cases triggers
    simp only [perform]
    rcases Routine.run _ s with ⟨_ | _, _⟩ <;> rfl
  | typeSmart value label =>
    cases triggers
    simp only [perform]
    rcases Routine.run _ s with ⟨_ | _, _⟩ <;> rfl
  | _ => cases triggers

theorem afterRoutine_within {routine : Routine (σ × List (PageCall ω))} (within : routine.Within AsksOnly)
    (t : σ × List (PageCall ω)) : AsksOnly t (afterRoutine (ω := ω) (routine.run t)).2 ∧
      slotAfter (afterRoutine (ω := ω) (routine.run t)).1 = none := by
  have moved := within.run .refl .trans t
  rcases ran : routine.run t with ⟨_ | _, t'⟩ <;> rw [ran] at moved <;> exact ⟨moved, rfl⟩

/-- A request ends with an answer, and only it was noted. -/
theorem exists_answer {α : Type} (request : PageRequest) (act : Act σ α) (t : σ × List (PageCall ω)) :
    ∃ answer t', noted (.ofAnswer request) act t = (answer, t') ∧ AsksOnly t t' :=
  ⟨_, _, rfl, .noted request act t⟩

theorem plain_asks {α : Type} (request : PageRequest) (act : Act σ α) (t : σ × List (PageCall ω)) :
    AsksOnly t (plain (ω := ω) (noted (.ofAnswer request) act t)).2 ∧
      slotAfter (plain (ω := ω) (noted (.ofAnswer request) act t)).1 = none := by
  obtain ⟨answer, t', asked, moved⟩ := exists_answer request act t
  rw [asked]
  cases answer <;> exact ⟨moved, rfl⟩

theorem checkColour_asks (check : ColourCheck) (colour element : String) (t : σ × List (PageCall ω)) :
    AsksOnly t (checkColour page.recorded check colour element t).2 ∧
      slotAfter (checkColour page.recorded check colour element t).1 = none := by
  obtain ⟨answer, t', asked, moved⟩ : ∃ answer t',
      page.recorded.computedStyle element check.property t = (answer, t') ∧ AsksOnly t t' := exists_answer _ _ t
  simp only [checkColour, asked]
  cases answer with
  | error e => exact ⟨moved, rfl⟩
  | ok found =>
    dsimp only
    split <;> exact ⟨moved, rfl⟩

/-- A step that counts only makes requests, and leaves nothing in the slot. -/
theorem perform_asks (page : Page σ ω) (options : Options) {action : Action} (counted : action.isCounted = true)
    (t : σ × List (PageCall ω)) :
    AsksOnly t (perform page.recorded options action t).2 ∧
      slotAfter (perform page.recorded options action t).1 = none := by
  cases action with
  | see value =>
    obtain ⟨answer, t', asked, moved⟩ : ∃ answer t',
        page.recorded.isTextVisible value t = (answer, t') ∧ AsksOnly t t' := exists_answer _ _ t
    simp only [perform, asked]
    rcases answer with _ | _ | _ <;> exact ⟨moved, rfl⟩
  | assertVisible selector => exact plain_asks _ _ t
  | assertText selector value =>
    obtain ⟨answer, t', asked, moved⟩ : ∃ answer t',
        page.recorded.selectorText selector options.stepTimeout t = (answer, t') ∧ AsksOnly t t' :=
      exists_answer _ _ t
    simp only [perform, asked]
    cases answer with
    | error e => exact ⟨moved, rfl⟩
    | ok found =>
      dsimp only
      split <;> exact ⟨moved, rfl⟩
  | click value =>
    rw [perform_of_trigger? rfl]
    exact afterRoutine_within (clickRoutine_within value options.stepTimeout) t
  | typeSmart value label =>
    rw [perform_of_trigger? rfl]
    exact afterRoutine_within (typeRoutine_within label value) t
  | typeSelector selector value => exact plain_asks _ _ t
  | assertUrl value => exact plain_asks _ _ t
  | networkListen method urlPart => cases counted
  | assertColor colour element => exact checkColour_asks .text colour element t
  | assertBackground colour element => exact checkColour_asks .background colour element t
  | assertBorderColor colour element => exact checkColour_asks .border colour element t
  | wait ms => exact plain_asks _ _ t
  | unknown step => exact ⟨.refl t, rfl⟩

/-- The calls that a step makes of its own accord: requests, or the one that arms a listener. -/
structure Performs (action : Action) (outcome : Except Fault (Option ω)) (calls : List (PageCall ω)) : Prop where
  armed : calls.filterMap PageCall.armed? = (slotAfter outcome).toList
  awaited : calls.filterMap PageCall.awaited? = []
  slot : (slotAfter outcome).isSome = true ↔
    (∃ method urlPart, action = .networkListen method urlPart) ∧ ∃ listener, outcome = .ok listener

theorem Action.isCounted_or_listens (action : Action) :
    action.isCounted = true ∨ ∃ method urlPart, action = .networkListen method urlPart := by
  cases action with
  | networkListen method urlPart => exact .inr ⟨method, urlPart, rfl⟩
  | _ => exact .inl rfl

theorem filterMap_of_asked {calls : List (PageCall ω)} (asked : ∀ call ∈ calls, call.isAsked = true) :
    calls.filterMap PageCall.armed? = [] ∧ calls.filterMap PageCall.awaited? = [] :=
  ⟨List.filterMap_eq_nil_iff.mpr fun call member => PageCall.armed?_of_isAsked (asked call member),
    List.filterMap_eq_nil_iff.mpr fun call member => PageCall.awaited?_of_isAsked (asked call member)⟩

theorem performs {action : Action} {s after : σ} {outcome : Except Fault (Option ω)}
    {calls : List (PageCall ω)}
    (performed : perform page.recorded options action (s, []) = (outcome, (after, calls))) :
    Performs action outcome calls := by
  rcases Action.isCounted_or_listens action with counted | ⟨method, urlPart, rfl⟩
  · obtain ⟨⟨own, noted, asked⟩, slot⟩ := perform_asks page options counted (s, [])
    rw [performed] at noted slot
    obtain rfl : calls = own := noted
    obtain ⟨armed, awaited⟩ := filterMap_of_asked asked
    refine ⟨by rw [armed, slot]; rfl, awaited, ?_⟩
    rw [slot]
    constructor
    · intro filled; cases filled
    · rintro ⟨⟨method, urlPart, rfl⟩, _⟩; cases counted
  · cases answered : page.expectResponse { method, urlPart } options.networkTimeout s with
    | mk answer s' =>
      have armed : page.recorded.expectResponse { method, urlPart } options.networkTimeout (s, []) =
          (answer, (s', [.armed { method, urlPart } options.networkTimeout answer])) := by
        simp only [Page.recorded, noted, answered, List.nil_append]
      simp only [perform, armed] at performed
      cases answer with
      | error e =>
        cases performed
        refine ⟨rfl, rfl, ?_⟩
        constructor
        · intro filled; cases filled
        · rintro ⟨_, _, passed⟩; cases passed
      | ok listener =>
        cases performed
        exact ⟨rfl, rfl, fun _ => ⟨⟨method, urlPart, rfl⟩, _, rfl⟩, fun _ => rfl⟩

/-- How a step is carried out that begins in a state with what it finds in the slot. -/
inductive Conduct (page : Page σ ω) (options : Options) (action : Action) (s : σ) :
    Option ω → Except Fault (Option ω) → σ → List (PageCall ω) → Prop
  | alone {outcome : Except Fault (Option ω)} {after : σ} {calls : List (PageCall ω)} :
      perform page.recorded options action (s, []) = (outcome, (after, calls)) →
      Conduct page options action s none outcome after calls
  | refused {listener : ω} {e : PageError} {after : σ} :
      action.triggersNetwork = false → page.await listener s = (.error e, after) →
      Conduct page options action s (some listener) (.error (.page e)) after [.awaited listener (.error e)]
  | waited {listener : ω} {middle after : σ} {outcome : Except Fault (Option ω)} {own : List (PageCall ω)} :
      action.triggersNetwork = false → page.await listener s = (.ok (), middle) →
      perform page.recorded options action (middle, []) = (outcome, (after, own)) →
      Conduct page options action s (some listener) outcome after (.awaited listener (.ok ()) :: own)
  | joined {listener : ω} {middle after : σ} {own : List (PageCall ω)} :
      action.triggersNetwork = true →
      perform page.recorded options action (s, []) = (.ok none, (middle, own)) →
      page.await listener middle = (.ok (), after) →
      Conduct page options action s (some listener) (.ok none) after (own ++ [.awaited listener (.ok ())])
  | unmet {listener : ω} {e : PageError} {middle after : σ} {own : List (PageCall ω)} :
      action.triggersNetwork = true →
      perform page.recorded options action (s, []) = (.ok none, (middle, own)) →
      page.await listener middle = (.error e, after) →
      Conduct page options action s (some listener) (.error (.page e)) after
        (own ++ [.awaited listener (.error e)])
  | failed {listener : ω} {fault : Fault} {after : σ} {calls : List (PageCall ω)} :
      action.triggersNetwork = true →
      perform page.recorded options action (s, []) = (.error fault, (after, calls)) →
      Conduct page options action s (some listener) (.error fault) after calls
  | cut {listener : ω} {e : PageError} {middle after : σ} {calls : List (PageCall ω)} :
      action.triggersNetwork = true → page.settled? listener middle = some (.error e) →
      (∀ call ∈ calls, call.isAsked = true) →
      Conduct page options action s (some listener) (.error (.page e)) after calls

theorem await_recorded {listener : ω} {s after : σ} {answer : Except PageError Unit}
    (awaited : page.await listener s = (answer, after)) (earlier : List (PageCall ω)) :
    page.recorded.await listener (s, earlier) = (answer, (after, earlier ++ [.awaited listener answer])) := by
  simp only [Page.recorded, noted, awaited]

theorem execute_trigger {pending : ω} {action : Action} {routine : Routine σ}
    (triggers : trigger? page options action = some routine) (s : σ) :
    execute page options (some pending) action s = afterRoutine (routine.joined page pending s) := by
  simp only [execute, triggers]
  rcases Routine.joined page pending routine s with ⟨_ | _, _⟩ <;> rfl

/-- A click or an input in front of which a listener stands joins the wait. -/
theorem conduct_of_trigger {listener : ω} {action : Action} {routine : Routine (σ × List (PageCall ω))}
    (triggers : trigger? page.recorded options action = some routine) {s after : σ}
    {outcome : Except Fault (Option ω)} {calls : List (PageCall ω)}
    (executed : execute page.recorded options (some listener) action (s, []) = (outcome, (after, calls))) :
    Conduct page options action s (some listener) outcome after calls := by
  have network : action.triggersNetwork = true := triggersNetwork_of_trigger? triggers
  have ending := Routine.joined_cases page.recorded listener .refl .trans (trigger?_within triggers) (s, [])
  have performed := perform_of_trigger? triggers (s, ([] : List (PageCall ω)))
  rw [execute_trigger triggers] at executed
  generalize routine.joined page.recorded listener (s, []) = joined at ending executed
  cases ending with
  | @waited middle ran =>
    obtain ⟨middle, own⟩ := middle
    rw [ran] at performed
    cases awaited : page.await listener middle with
    | mk answer s' =>
      rw [await_recorded awaited] at executed
      cases answer with
      | error e =>
        cases executed
        exact .unmet network performed awaited
      | ok _ =>
        cases executed
        exact .joined network performed awaited
  | failed ran =>
    rw [ran] at performed
    cases executed
    exact .failed network performed
  | cut settled moved =>
    obtain ⟨own, noted, asked⟩ := moved
    cases executed
    obtain rfl : calls = own := noted
    exact .cut network settled asked

/-- A step is carried out in one of the seven ways. -/
theorem conduct_of_execute {found : Option ω} {action : Action} {s after : σ}
    {outcome : Except Fault (Option ω)} {calls : List (PageCall ω)}
    (executed : execute page.recorded options found action (s, []) = (outcome, (after, calls))) :
    Conduct page options action s found outcome after calls := by
  cases found with
  | none => exact .alone executed
  | some listener =>
    cases triggers : trigger? page.recorded options action with
    | some routine => exact conduct_of_trigger triggers executed
    | none =>
      have network : action.triggersNetwork = false := triggersNetwork_of_trigger? triggers
      cases awaited : page.await listener s with
      | mk answer middle =>
        simp only [execute, triggers, await_recorded awaited] at executed
        cases answer with
        | error e =>
          cases executed
          exact .refused network awaited
        | ok _ =>
          dsimp only at executed
          -- the calls of the step itself come behind the wait
          rw [apply_behind (perform_tracks (page.recorded_tracks_behind _) options action)] at executed
          cases performed : perform page.recorded options action (middle, []) with
          | mk own rest =>
            rw [performed] at executed
            cases executed
            exact .waited network awaited performed

end UiCheck.Run
