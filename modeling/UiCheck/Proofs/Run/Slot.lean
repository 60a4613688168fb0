import UiCheck.Proofs.Run.Conduct
import UiCheck.Proofs.Run.Record

/-! # The slot for listeners

A listener goes from the step that armed it into the slot and from there to the very next step, which alone may
await it. `run_keeps_slot` says so of every run, together with what that step makes of the wait. `Turn.Orderly`
is the part about one step, and the rest is how the turns of a run hang together.
-/

namespace UiCheck.Run

variable {σ ω : Type} {page : Page σ ω} {options : Options}

/-- How one step deals with the slot. -/
structure Turn.Orderly (page : Page σ ω) (options : Options) (turn : Turn σ ω) : Prop where
  /-- Something is left in the slot just if the step is one that expects a response, and succeeded. -/
  left_isSome : turn.left.isSome = true ↔
    (∃ method urlPart, turn.action = .networkListen method urlPart) ∧ turn.passes = true
  /-- What the step armed is what it leaves. -/
  armed : turn.calls.filterMap PageCall.armed? = turn.left.toList
  /-- What the step awaits is what it found, and that at most once. -/
  awaited : (turn.calls.filterMap PageCall.awaited?).Sublist turn.found.toList
  /-- A step other than a click or an input awaits first, and then does nothing if the wait failed. -/
  waits_first : ∀ listener, turn.found = some listener → turn.action.triggersNetwork = false →
    ∃ answer own, turn.calls = .awaited listener answer :: own ∧ own.filterMap PageCall.awaited? = [] ∧
      ∀ e, answer = .error e → own = [] ∧ turn.outcome = .error (.page e)
  /-- A click or an input that passes has done its own work, and the wait succeeded. -/
  joins : ∀ listener, turn.found = some listener → turn.action.triggersNetwork = true → turn.passes = true →
    ∃ own middle after, perform page.recorded options turn.action (turn.before, []) = (.ok none, (middle, own)) ∧
      page.await listener middle = (.ok (), after) ∧ turn.calls = own ++ [.awaited listener (.ok ())]
  /-- A click or an input that fails has the fault of its own work or the one of the wait. -/
  blames : ∀ listener fault, turn.found = some listener → turn.action.triggersNetwork = true →
    turn.outcome = .error fault →
    (∃ middle own, perform page.recorded options turn.action (turn.before, []) = (.error fault, (middle, own))) ∨
      ∃ e middle, fault = .page e ∧
        (page.settled? listener middle = some (.error e) ∨ (page.await listener middle).1 = .error e)
  /-- A wait that fails is the fault of the step. -/
  charged : ∀ listener e, .awaited listener (.error e) ∈ turn.calls → turn.outcome = .error (.page e)

namespace Conduct

variable {action : Action} {s after : σ} {found : Option ω} {outcome : Except Fault (Option ω)}
  {calls : List (PageCall ω)}

theorem left_isSome (conduct : Conduct page options action s found outcome after calls) :
    (slotAfter outcome).isSome = true ↔
      (∃ method urlPart, action = .networkListen method urlPart) ∧ ∃ listener, outcome = .ok listener := by
  cases conduct with
  | alone performed => exact (performs performed).slot
  | waited _ _ performed => exact (performs performed).slot
  | joined network =>
    constructor
    · intro filled; cases filled
    · rintro ⟨⟨method, urlPart, rfl⟩, _⟩; cases network
  | _ =>
    constructor
    · intro filled; cases filled
    · rintro ⟨_, _, passed⟩; cases passed

theorem armed (conduct : Conduct page options action s found outcome after calls) :
    calls.filterMap PageCall.armed? = (slotAfter outcome).toList := by
  cases conduct with
  | alone performed => exact (performs performed).armed
  | refused => rfl
  | waited _ _ performed => exact (performs performed).armed
  | joined _ performed =>
    rw [List.filterMap_append, (performs performed).armed]
    rfl
  | unmet _ performed =>
    rw [List.filterMap_append, (performs performed).armed]
    rfl
  | failed _ performed => exact (performs performed).armed
  | cut _ _ asked => exact (filterMap_of_asked asked).1

theorem awaited (conduct : Conduct page options action s found outcome after calls) :
    (calls.filterMap PageCall.awaited?).Sublist found.toList := by
  cases conduct with
  | alone performed =>
    rw [(performs performed).awaited]
    exact List.nil_sublist _
  | refused => exact List.Sublist.refl _
  | @waited listener _ _ _ own _ _ performed =>
    have first : (PageCall.awaited listener (.ok ()) :: own).filterMap PageCall.awaited? =
        listener :: own.filterMap PageCall.awaited? := rfl
    rw [first, (performs performed).awaited]
    exact List.Sublist.refl _
  | joined _ performed =>
    rw [List.filterMap_append, (performs performed).awaited]
    exact List.Sublist.refl _
  | unmet _ performed =>
    rw [List.filterMap_append, (performs performed).awaited]
    exact List.Sublist.refl _
  | failed _ performed =>
    rw [(performs performed).awaited]
    exact List.nil_sublist _
  | cut _ _ asked =>
    rw [(filterMap_of_asked asked).2]
    exact List.nil_sublist _

theorem waits_first {listener : ω} (conduct : Conduct page options action s (some listener) outcome after calls)
    (alone : action.triggersNetwork = false) :
    ∃ answer own, calls = .awaited listener answer :: own ∧ own.filterMap PageCall.awaited? = [] ∧
      ∀ e, answer = .error e → own = [] ∧ outcome = .error (.page e) := by
  cases conduct with
  | @refused _ e =>
    refine ⟨.error e, [], rfl, rfl, fun e' same => ?_⟩
    cases same
    exact ⟨rfl, rfl⟩
  | @waited _ _ _ _ own _ _ performed =>
    exact ⟨.ok (), own, rfl, (performs performed).awaited, fun _ failed => by cases failed⟩
  | joined network => rw [alone] at network; cases network
  | unmet network => rw [alone] at network; cases network
  | failed network => rw [alone] at network; cases network
  | cut network => rw [alone] at network; cases network

theorem joins {listener : ω} {left : Option ω}
    (conduct : Conduct page options action s (some listener) (.ok left) after calls)
    (network : action.triggersNetwork = true) :
    ∃ own middle, perform page.recorded options action (s, []) = (.ok none, (middle, own)) ∧
      page.await listener middle = (.ok (), after) ∧ calls = own ++ [.awaited listener (.ok ())] := by
  cases conduct with
  | waited alone => rw [network] at alone; cases alone
  | joined _ performed awaited => exact ⟨_, _, performed, awaited, rfl⟩

theorem blames {listener : ω} {fault : Fault}
    (conduct : Conduct page options action s (some listener) (.error fault) after calls)
    (network : action.triggersNetwork = true) :
    (∃ middle own, perform page.recorded options action (s, []) = (.error fault, (middle, own))) ∨
      ∃ e middle, fault = .page e ∧
        (page.settled? listener middle = some (.error e) ∨ (page.await listener middle).1 = .error e) := by
  cases conduct with
  | refused alone => rw [network] at alone; cases alone
  | waited alone => rw [network] at alone; cases alone
  | unmet _ _ awaited => exact .inr ⟨_, _, rfl, .inr (congrArg Prod.fst awaited)⟩
  | failed _ performed => exact .inl ⟨_, _, performed⟩
  | cut _ settled => exact .inr ⟨_, _, rfl, .inl settled⟩

/-- Calls among which nothing was awaited hold no wait. -/
theorem not_awaited {calls : List (PageCall ω)} {listener : ω} {answer : Except PageError Unit}
    (awaited : calls.filterMap PageCall.awaited? = []) : .awaited listener answer ∉ calls := by
  intro member
  have some := List.filterMap_eq_nil_iff.mp awaited _ member
  cases some

theorem charged (conduct : Conduct page options action s found outcome after calls) (listener : ω) (e : PageError)
    (failed : .awaited listener (.error e) ∈ calls) : outcome = .error (.page e) := by
  cases conduct with
  | alone performed => exact absurd failed (not_awaited (performs performed).awaited)
  | refused =>
    cases List.mem_singleton.mp failed
    rfl
  | waited _ _ performed =>
    rcases List.mem_cons.mp failed with same | member
    · cases same
    · exact absurd member (not_awaited (performs performed).awaited)
  | joined _ performed =>
    rcases List.mem_append.mp failed with member | same
    · exact absurd member (not_awaited (performs performed).awaited)
    · cases List.mem_singleton.mp same
  | unmet _ performed =>
    rcases List.mem_append.mp failed with member | same
    · exact absurd member (not_awaited (performs performed).awaited)
    · cases List.mem_singleton.mp same
      rfl
  | failed _ performed => exact absurd failed (not_awaited (performs performed).awaited)
  | cut _ _ asked => exact absurd failed (not_awaited (filterMap_of_asked asked).2)

end Conduct

theorem Turn.passes_iff (turn : Turn σ ω) : turn.passes = true ↔ ∃ listener, turn.outcome = .ok listener := by
  unfold Turn.passes
  cases turn.outcome with
  | ok listener => exact ⟨fun _ => ⟨listener, rfl⟩, fun _ => rfl⟩
  | error fault =>
    constructor
    · intro passed; cases passed
    · rintro ⟨_, same⟩; cases same

theorem Turn.CarriedOut.orderly {turn : Turn σ ω} {after : σ} (carried : turn.CarriedOut page options after) :
    turn.Orderly page options := by
  have conduct := conduct_of_execute carried
  refine ⟨?_, conduct.armed, conduct.awaited, ?_, ?_, ?_, conduct.charged⟩
  · rw [Turn.passes_iff]
    exact conduct.left_isSome
  · intro listener found alone
    rw [found] at conduct
    exact conduct.waits_first alone
  · intro listener found network passed
    obtain ⟨left, outcome⟩ := turn.passes_iff.mp passed
    rw [found, outcome] at conduct
    obtain ⟨own, middle, performed, awaited, calls⟩ := conduct.joins network
    exact ⟨own, middle, after, performed, awaited, calls⟩
  · intro listener fault found network outcome
    rw [found, outcome] at conduct
    exact conduct.blames network

/-- How the turns of a run pass listeners on, with what the last of them left in the slot. -/
structure KeepsSlot (page : Page σ ω) (options : Options) (turns : List (Turn σ ω)) (last : Option ω) : Prop where
  orderly : ∀ turn ∈ turns, turn.Orderly page options
  /-- The first step finds nothing, and each further one what the step right before it left. -/
  passed_on : turns.map (·.found) ++ [last] = none :: turns.map Turn.left
  /-- What a step awaits was armed by the step right before it, whatever scenarios lie between the two. -/
  next : ∀ earlier turn later listener, turns = earlier ++ turn :: later →
    listener ∈ turn.calls.filterMap PageCall.awaited? →
    ∃ before armer, earlier = before ++ [armer] ∧ armer.calls.filterMap PageCall.armed? = [listener]
  /-- Over the whole run a listener is awaited at most once for each time that it was handed out. -/
  once : ((turns.flatMap (·.calls)).filterMap PageCall.awaited?).Sublist
    ((turns.flatMap (·.calls)).filterMap PageCall.armed?)

theorem Steps.orderly {scenario : String} {here there : Standing σ ω} {steps : List Step} {turns : List (Turn σ ω)}
    (course : Steps page options scenario here steps turns there) : ∀ turn ∈ turns, turn.Orderly page options := by
  induction course with
  | nil => intro turn member; cases member
  | cons _ _ _ _ carried _ ih =>
    intro turn member
    rcases List.mem_cons.mp member with rfl | member
    · exact carried.orderly
    · exact ih turn member

theorem Steps.passed_on {scenario : String} {here there : Standing σ ω} {steps : List Step}
    {turns : List (Turn σ ω)} (course : Steps page options scenario here steps turns there) :
    turns.map (·.found) ++ [there.pending] = here.pending :: turns.map Turn.left := by
  induction course with
  | nil => rfl
  | cons _ _ _ found _ _ ih => rw [List.map_cons, List.map_cons, List.cons_append, ih, found]

section

variable {baseUrl : String} {here there : Standing σ ω} {scenarios : List Scenario} {visits : List (Visit σ ω)}

theorem Visits.orderly (course : Visits page options baseUrl here scenarios visits there) :
    ∀ turn ∈ turnsOf visits, turn.Orderly page options := by
  induction course with
  | nil => intro turn member; cases member
  | skipped _ _ ih => exact ih
  | opened _ steps _ ih =>
    intro turn member
    rcases List.mem_append.mp member with member | member
    · exact steps.orderly turn member
    · exact ih turn member

/-- A page that does not open leaves the slot as it is, so what one scenario leaves is found by the next one
whose page opens. -/
theorem Visits.passed_on (course : Visits page options baseUrl here scenarios visits there) :
    (turnsOf visits).map (·.found) ++ [there.pending] = here.pending :: (turnsOf visits).map Turn.left := by
  induction course with
  | nil => rfl
  | skipped _ _ ih => exact ih
  | @opened here middle there _ _ _ turns visits _ steps _ ih =>
    have first := steps.passed_on
    calc (turns ++ turnsOf visits).map (·.found) ++ [there.pending]
        = turns.map (·.found) ++ ((turnsOf visits).map (·.found) ++ [there.pending]) := by
          rw [List.map_append, List.append_assoc]
      _ = (turns.map (·.found) ++ [middle.pending]) ++ (turnsOf visits).map Turn.left := by
          rw [ih, List.append_assoc]
          rfl
      _ = here.pending :: (turns ++ turnsOf visits).map Turn.left := by
          rw [first, List.map_append]
          rfl

end

section

variable {turns : List (Turn σ ω)} {first last : Option ω}

/-- What is in the slot at the end was left by the last step, if there is one. -/
theorem last_of_passed_on (passed : turns.map (·.found) ++ [last] = first :: turns.map Turn.left) :
    (turns = [] ∧ last = first) ∨ ∃ before armer, turns = before ++ [armer] ∧ last = armer.left := by
  rcases turns.eq_nil_or_concat with rfl | ⟨before, armer, same⟩
  · exact .inl ⟨rfl, (List.cons.inj passed).1⟩
  · rw [List.concat_eq_append] at same
    subst same
    refine .inr ⟨before, armer, rfl, ?_⟩
    have ends : some last = some armer.left :=
      calc some last = ((before ++ [armer]).map (·.found) ++ [last]).getLast? := List.getLast?_concat.symm
        _ = (first :: (before ++ [armer]).map Turn.left).getLast? := congrArg List.getLast? passed
        _ = some armer.left := by
          rw [List.map_append, ← List.cons_append]
          exact List.getLast?_concat
    exact Option.some.inj ends

/-- Up to a step the slot is passed on in the same way. -/
theorem passed_on_of_append {earlier later : List (Turn σ ω)} {turn : Turn σ ω}
    (passed : (earlier ++ turn :: later).map (·.found) ++ [last] = first :: (earlier ++ turn :: later).map Turn.left) :
    earlier.map (·.found) ++ [turn.found] = first :: earlier.map Turn.left := by
  have front := congrArg (List.take (earlier.length + 1)) passed
  simpa [List.take_append, List.take_of_length_le] using front

/-- What a step finds was left by the step right before it, if there is one. -/
theorem found_of_passed_on (passed : turns.map (·.found) ++ [last] = first :: turns.map Turn.left)
    {earlier later : List (Turn σ ω)} {turn : Turn σ ω} (same : turns = earlier ++ turn :: later) :
    (earlier = [] ∧ turn.found = first) ∨ ∃ before armer, earlier = before ++ [armer] ∧ turn.found = armer.left := by
  subst same
  exact last_of_passed_on (passed_on_of_append passed)

theorem armed_of_orderly (orderly : ∀ turn ∈ turns, turn.Orderly page options) :
    (turns.flatMap (·.calls)).filterMap PageCall.armed? = (turns.map Turn.left).flatMap Option.toList := by
  induction turns with
  | nil => rfl
  | cons turn turns ih =>
    rw [List.flatMap_cons, List.filterMap_append, (orderly turn (List.mem_cons_self ..)).armed,
      ih fun other member => orderly other (List.mem_cons_of_mem _ member)]
    rfl

theorem awaited_of_orderly (orderly : ∀ turn ∈ turns, turn.Orderly page options) :
    ((turns.flatMap (·.calls)).filterMap PageCall.awaited?).Sublist
      ((turns.map (·.found)).flatMap Option.toList) := by
  induction turns with
  | nil => exact List.Sublist.refl _
  | cons turn turns ih =>
    rw [List.flatMap_cons, List.filterMap_append, List.map_cons, List.flatMap_cons]
    exact (orderly turn (List.mem_cons_self ..)).awaited.append
      (ih fun other member => orderly other (List.mem_cons_of_mem _ member))

/-- Orderly steps that pass on what they left keep the slot. -/
theorem keepsSlot (orderly : ∀ turn ∈ turns, turn.Orderly page options)
    (passed : turns.map (·.found) ++ [last] = none :: turns.map Turn.left) : KeepsSlot page options turns last := by
  refine ⟨orderly, passed, ?_, ?_⟩
  · intro earlier turn later listener same awaits
    have member : turn ∈ turns := by
      rw [same]
      exact List.mem_append_right _ (List.mem_cons_self ..)
    have found : turn.found = some listener :=
      Option.mem_toList.mp ((orderly turn member).awaited.subset awaits)
    rcases found_of_passed_on passed same with ⟨_, empty⟩ | ⟨before, armer, rfl, left⟩
    · rw [found] at empty; cases empty
    · refine ⟨before, armer, rfl, ?_⟩
      have armed := (orderly armer (by rw [same]; simp)).armed
      rw [armed, ← left, found]
      rfl
  · -- the listeners that were found are those that were left, without the one in the slot at the end
    rw [armed_of_orderly orderly]
    have lefts : (turns.map Turn.left).flatMap Option.toList =
        (turns.map (·.found)).flatMap Option.toList ++ last.toList := by
      have flat := congrArg (List.flatMap Option.toList) passed
      rw [List.flatMap_append, List.flatMap_singleton] at flat
      exact flat.symm
    rw [lefts]
    exact (awaited_of_orderly orderly).trans (List.sublist_append_left _ _)

end

theorem Course.keepsSlot {host : Server.Host σ} {plan : Plan} {s : σ} {visits : List (Visit σ ω)}
    {there : Standing σ ω} (course : Course page host options plan s visits there) :
    KeepsSlot page options (turnsOf visits) there.pending := by
  cases course with
  | reached _ course => exact Run.keepsSlot course.orderly course.passed_on
  | unreached => exact Run.keepsSlot (fun _ member => by cases member) rfl

/-- Every run keeps the slot, from its first step to its last: its failures are those of its steps and of the pages
that did not open, and on a recorded page it makes the calls of these steps and only requests besides. -/
theorem run_keeps_slot (page : Page σ ω) (host : Server.Host σ) (options : Options) (plan : Plan) (s : σ) :
    ∃ visits there, Course page host options plan s visits there ∧
      KeepsSlot page options (turnsOf visits) there.pending ∧
      (run page host options plan s).1.failures = visits.flatMap Visit.failures ∧
      ∃ reaching, (∀ call ∈ reaching, call.isAsked = true) ∧
        run page.recorded (beside.host host) options plan (s, []) =
          ((run page host options plan s).1,
            (there.state, reaching ++ visits.flatMap (Visit.calls plan.root options))) := by
  obtain ⟨visits, there, course, failures, _⟩ := exists_course page host options plan s
  obtain ⟨reaching, asked, recorded⟩ := course.recorded
  have same : (run page host options plan s).1 = (run page.recorded (beside.host host) options plan (s, [])).1 :=
    congrArg Prod.fst (run_tracks page.recorded_tracks (beside_host_tracks host) options plan (s, []))
  exact ⟨visits, there, course, course.keepsSlot, failures, reaching, asked, Prod.ext same.symm recorded⟩

end UiCheck.Run
