import UiCheck.Proofs.Repair.Recording

/-! # The rounds of a repair

A repair is told by its rounds, one for each iteration: what was done in which order, the record that was kept,
and how it went on. `Repairs` says how rounds follow each other, without any bound on their number, and
`exists_repairs` that the loop ends with such rounds. What they do is all that a recorded crew notes.
-/

namespace UiCheck.Repair

namespace Budget

theorem isExhausted_iff (budget : Budget) :
    budget.isExhausted = true ↔ budget.limit.toNat < budget.iteration.toNat := by
  rw [isExhausted, decide_eq_true_iff, UInt32.lt_iff_toNat_lt]

theorem isExhausted_eq_false_iff {budget : Budget} :
    budget.isExhausted = false ↔ budget.iteration.toNat ≤ budget.limit.toNat := by
  rw [← Bool.not_eq_true, budget.isExhausted_iff, Nat.not_lt]

/-- The count goes up by one as long as it is not the largest word. -/
theorem advance_iteration {budget : Budget} (small : budget.iteration.toNat + 1 < UInt32.size) :
    budget.advance.iteration.toNat = budget.iteration.toNat + 1 := by
  rw [advance, UInt32.toNat_add]
  exact Nat.mod_eq_of_lt small

@[simp] theorem advance_limit (budget : Budget) : budget.advance.limit = budget.limit := rfl

end Budget

/-- One iteration of a repair. -/
structure Round where
  number : Nat
  /-- What was done, in order. -/
  deeds : List Deed
  record : IterationRecord
  verdict : Verdict

/-- The calls of the oracle and of the builder. -/
def Round.calls (round : Round) : List Deed :=
  round.deeds.filter Deed.isCall

variable {σ ω : Type}

section

variable (crew : Crew σ ω) (session : Option Session) (options : Options) (moment : Moment)

/-- How an iteration comes about: the plan is written anew if need be, the project is built, and what follows
depends on the build and on the run of the plan. -/
inductive Round.Happens (budget : Budget) (world : World σ) : Round → World σ → Prop
  | unplanned {asks : List Deed} {cause : Error} {after : World σ} :
      renewPlan crew.recorded options moment budget (world.logged []) = (.error cause, after.logged asks) →
      Round.Happens budget world
        ⟨budget.iteration.toNat, asks, stopped { iteration := budget.iteration.toNat } cause, .abort cause⟩ after
  | unbuilt {asks : List Deed} {note : Option String} {planned after : World σ} {e : IoError} :
      renewPlan crew.recorded options moment budget (world.logged []) = (.ok note, planned.logged asks) →
      planned.build crew.builder = (.error e, after) →
      Round.Happens budget world ⟨budget.iteration.toNat, asks ++ [.built (.error e)],
        stopped { iteration := budget.iteration.toNat, note } (.build e), .abort (.build e)⟩ after
  | broken {asks fixes : List Deed} {note : Option String} {planned built after : World σ}
      {outcome : BuildOutcome} {record : IterationRecord} {verdict : Verdict} :
      renewPlan crew.recorded options moment budget (world.logged []) = (.ok note, planned.logged asks) →
      planned.build crew.builder = (.ok outcome, built) → outcome.isSuccess = false →
      mendBuild crew.recorded options { iteration := budget.iteration.toNat, note } outcome (built.logged []) =
        (verdict, record, after.logged fixes) →
      Round.Happens budget world
        ⟨budget.iteration.toNat, asks ++ .built (.ok outcome) :: fixes, record, verdict⟩ after
  | passed {asks : List Deed} {note : Option String} {planned built after : World σ} {result : RunResult} :
      renewPlan crew.recorded options moment budget (world.logged []) = (.ok note, planned.logged asks) →
      planned.build crew.builder = (.ok .success, built) → built.run crew options = (result, after) →
      result.success = true →
      Round.Happens budget world ⟨budget.iteration.toNat, asks ++ [.built (.ok .success), .tested result],
        { iteration := budget.iteration.toNat, note, buildPassed := true, result := some result },
        .pass result⟩ after
  | failed {asks fixes : List Deed} {note : Option String} {planned built tested after : World σ}
      {result : RunResult} {record : IterationRecord} {verdict : Verdict} :
      renewPlan crew.recorded options moment budget (world.logged []) = (.ok note, planned.logged asks) →
      planned.build crew.builder = (.ok .success, built) → built.run crew options = (result, tested) →
      result.success = false →
      mendTests crew.recorded options
        { iteration := budget.iteration.toNat, note, buildPassed := true, result := some result } result
        (tested.logged []) = (verdict, record, after.logged fixes) →
      Round.Happens budget world
        ⟨budget.iteration.toNat, asks ++ .built (.ok .success) :: .tested result :: fixes, record, verdict⟩ after

/-- Rounds follow each other until the budget is used up, a run passes, or a round is stopped. -/
inductive Repairs : Budget → Option RunResult → World σ → List Round → Outcome → World σ → Prop
  | exhausted {budget : Budget} {last : Option RunResult} {world : World σ} :
      budget.isExhausted = true →
      Repairs budget last world [] (.exhausted budget.limit.toNat last) world
  | passed {budget : Budget} {last : Option RunResult} {world after : World σ} {round : Round}
      {result : RunResult} :
      budget.isExhausted = false → round.Happens crew options moment budget world after →
      round.verdict = .pass result →
      Repairs budget last world [round] (.passed round.number result) (keepRecord session round.record after)
  | aborted {budget : Budget} {last : Option RunResult} {world after : World σ} {round : Round} {cause : Error} :
      budget.isExhausted = false → round.Happens crew options moment budget world after →
      round.verdict = .abort cause →
      Repairs budget last world [round] (.aborted round.number cause) (keepRecord session round.record after)
  | again {budget : Budget} {last result : Option RunResult} {world after final : World σ} {round : Round}
      {rounds : List Round} {outcome : Outcome} :
      budget.isExhausted = false → round.Happens crew options moment budget world after →
      round.verdict = .again result →
      Repairs budget.advance (result.or last) (keepRecord session round.record after) rounds outcome final →
      Repairs budget last world (round :: rounds) outcome final

end

variable (crew : Crew σ ω) (session : Option Session) (options : Options) (moment : Moment)

/-- A build that failed and what follows it make a round, after the plan was taken care of. -/
theorem exists_round_of_broken {budget : Budget} {world planned built : World σ} {asks : List Deed}
    {note : Option String} {outcome : BuildOutcome}
    (renewed : ∀ log, renewPlan crew.recorded options moment budget (world.logged log) =
      (.ok note, planned.logged (log ++ asks)))
    (building : planned.build crew.builder = (.ok outcome, built)) (failed : outcome.isSuccess = false) :
    ∃ fixes record verdict after,
      Round.Happens crew options moment budget world
        ⟨budget.iteration.toNat, asks ++ .built (.ok outcome) :: fixes, record, verdict⟩ after ∧
      AtMostAsked (Fixes outcome.logs) fixes ∧
      mendBuild crew options { iteration := budget.iteration.toNat, note } outcome built = (verdict, record, after) ∧
      ∀ log, mendBuild crew.recorded options { iteration := budget.iteration.toNat, note } outcome
        (built.logged log) = (verdict, record, after.logged (log ++ fixes)) := by
  obtain ⟨fixes, mended, fixed⟩ :=
    mendBuild_logged crew options built { iteration := budget.iteration.toNat, note } outcome
  cases mending : mendBuild crew options { iteration := budget.iteration.toNat, note } outcome built with
  | mk verdict rest =>
    simp only [mending] at mended
    exact ⟨fixes, rest.1, verdict, rest.2, .broken (renewed []) building failed (mended []), fixed, rfl, mended⟩

/-- A run that failed and what follows it make a round, after the plan was taken care of. -/
theorem exists_round_of_failed {budget : Budget} {world planned built tested : World σ} {asks : List Deed}
    {note : Option String} {result : RunResult}
    (renewed : ∀ log, renewPlan crew.recorded options moment budget (world.logged log) =
      (.ok note, planned.logged (log ++ asks)))
    (building : planned.build crew.builder = (.ok .success, built))
    (testing : built.run crew options = (result, tested)) (failed : result.success = false) :
    ∃ fixes record verdict after,
      Round.Happens crew options moment budget world
        ⟨budget.iteration.toNat, asks ++ .built (.ok .success) :: .tested result :: fixes, record, verdict⟩ after ∧
      AtMostAsked (Patches result) fixes ∧
      mendTests crew options { iteration := budget.iteration.toNat, note, buildPassed := true, result := some result }
        result tested = (verdict, record, after) ∧
      ∀ log, mendTests crew.recorded options
        { iteration := budget.iteration.toNat, note, buildPassed := true, result := some result } result
        (tested.logged log) = (verdict, record, after.logged (log ++ fixes)) := by
  obtain ⟨fixes, mended, fixed⟩ := mendTests_logged crew options tested
    { iteration := budget.iteration.toNat, note, buildPassed := true, result := some result } result
  cases mending : mendTests crew options
      { iteration := budget.iteration.toNat, note, buildPassed := true, result := some result } result tested with
  | mk verdict rest =>
    simp only [mending] at mended
    exact ⟨fixes, rest.1, verdict, rest.2, .failed (renewed []) building testing failed (mended []), fixed, rfl,
      mended⟩

/-- An iteration is a round, and a recorded crew notes the calls of the round. -/
theorem exists_round (budget : Budget) (world : World σ) : ∃ (round : Round) (after : World σ),
    round.Happens crew options moment budget world after ∧
    iterate crew options moment budget world = (round.verdict, round.record, after) ∧
    ∀ log, iterate crew.recorded options moment budget (world.logged log) =
      (round.verdict, round.record, after.logged (log ++ round.calls)) := by
  obtain ⟨asks, renewed, asked⟩ := renewPlan_logged crew options moment world budget
  cases planning : renewPlan crew options moment budget world with
  | mk answer planned =>
    simp only [planning] at renewed
    cases answer with
    | error cause =>
      refine ⟨_, planned, .unplanned (renewed []), ?_, fun log => ?_⟩
      · simp only [iterate, planning]
      · simp only [iterate, renewed log, Round.calls, asked.filter_isCall, List.nil_append]
    | ok note =>
      cases building : planned.build crew.builder with
      | mk answer built =>
        have noted := build_logged crew planned
        simp only [building] at noted
        cases answer with
        | error e =>
          refine ⟨_, built, .unbuilt (renewed []) building, ?_, fun log => ?_⟩
          · simp only [iterate, planning, building]
          · simp only [iterate, renewed log, noted, Round.calls, List.filter_append, asked.filter_isCall,
              List.nil_append, List.append_assoc]
            rfl
        | ok outcome =>
          cases passed : outcome.isSuccess with
          | false =>
            obtain ⟨fixes, record, verdict, after, happens, fixed, mending, mended⟩ :=
              exists_round_of_broken crew options moment renewed building passed
            refine ⟨_, after, happens, ?_, fun log => ?_⟩
            · simp only [iterate, planning, building, passed, Bool.false_eq_true, if_false]
              exact mending
            · simp only [iterate, renewed log, noted, passed, Bool.false_eq_true, if_false]
              refine (mended _).trans ?_
              rw [Round.calls, List.filter_append, asked.filter_isCall, List.filter_cons_of_pos rfl,
                fixed.filter_isCall, List.append_assoc, List.append_assoc]
              rfl
          | true =>
            obtain rfl : outcome = .success := by
              cases outcome with
              | success => rfl
              | failed _ _ => cases passed
            cases testing : built.run crew options with
            | mk result tested =>
              have ran := run_logged crew options built
              simp only [testing] at ran
              cases success : result.success with
              | true =>
                refine ⟨_, tested, .passed (renewed []) building testing success, ?_, fun log => ?_⟩
                · simp only [iterate, planning, building, passed, checkPlan, testing, success, if_true]
                · simp only [iterate, renewed log, noted, passed, checkPlan, ran, success, if_true]
                  rw [Round.calls, List.filter_append, List.nil_append, asked.filter_isCall, List.append_assoc]
                  rfl
              | false =>
                obtain ⟨fixes, record, verdict, after, happens, fixed, mending, mended⟩ :=
                  exists_round_of_failed crew options moment renewed building testing success
                refine ⟨_, after, happens, ?_, fun log => ?_⟩
                · simp only [iterate, planning, building, passed, checkPlan, testing, success, if_true,
                    Bool.false_eq_true, if_false]
                  exact mending
                · simp only [iterate, renewed log, noted, passed, checkPlan, ran, success, if_true,
                    Bool.false_eq_true, if_false]
                  refine (mended _).trans ?_
                  rw [Round.calls, List.filter_append, asked.filter_isCall, List.filter_cons_of_pos rfl,
                    List.filter_cons_of_neg Bool.false_ne_true, fixed.filter_isCall, List.append_assoc,
                    List.append_assoc]
                  rfl

theorem Round.Happens.number {budget : Budget} {world after : World σ} {round : Round}
    (happens : round.Happens crew options moment budget world after) : round.number = budget.iteration.toNat := by
  cases happens <;> rfl

/-- What adds its notes to a log does the same on every log as on an empty one. -/
theorem eq_of_logged_nil {mend : World (σ × List Deed) → Verdict × IterationRecord × World (σ × List Deed)}
    {world after after' : World σ} {verdict verdict' : Verdict} {record record' : IterationRecord}
    {asks fixes : List Deed}
    (logged : ∀ log, mend (world.logged log) = (verdict', record', after'.logged (log ++ asks)))
    (mended : mend (world.logged []) = (verdict, record, after.logged fixes)) (log : List Deed) :
    mend (world.logged log) = (verdict, record, after.logged (log ++ fixes)) := by
  obtain ⟨rfl, rest⟩ := Prod.mk.inj ((logged []).symm.trans mended)
  obtain ⟨rfl, left⟩ := Prod.mk.inj rest
  obtain ⟨rfl, rfl⟩ := World.logged_inj left
  exact logged log

/-- A round is told by the iteration of a recorded crew. -/
theorem Round.Happens.exists_recorded {budget : Budget} {world after : World σ} {round : Round}
    (happens : round.Happens crew options moment budget world after) : ∃ log,
    iterate crew.recorded options moment budget (world.logged []) = (round.verdict, round.record, after.logged log) := by
  cases happens with
  | @unplanned asks cause after renewed =>
    exact ⟨asks, by simp only [iterate, renewed]⟩
  | @unbuilt asks note planned after e renewed building =>
    have noted := build_logged crew planned asks
    rw [building] at noted
    exact ⟨asks ++ [.built (.error e)], by simp only [iterate, renewed, noted]⟩
  | @broken asks fixes note planned built after outcome record verdict renewed building failed mended =>
    have noted := build_logged crew planned asks
    rw [building] at noted
    obtain ⟨_, logged, _⟩ :=
      mendBuild_logged crew options built { iteration := budget.iteration.toNat, note } outcome
    refine ⟨asks ++ [.built (.ok outcome)] ++ fixes, ?_⟩
    simp only [iterate, renewed, noted, failed, Bool.false_eq_true, if_false]
    exact eq_of_logged_nil logged mended _
  | @passed asks note planned built after result renewed building testing success =>
    have noted := build_logged crew planned asks
    rw [building] at noted
    have ran := run_logged crew options built (asks ++ [.built (.ok .success)])
    rw [testing] at ran
    exact ⟨asks ++ [.built (.ok .success)], by
      simp only [iterate, renewed, noted, BuildOutcome.isSuccess, checkPlan, ran, success, if_true]⟩
  | @failed asks fixes note planned built tested after result record verdict renewed building testing failed mended =>
    have noted := build_logged crew planned asks
    rw [building] at noted
    have ran := run_logged crew options built (asks ++ [.built (.ok .success)])
    rw [testing] at ran
    obtain ⟨_, logged, _⟩ := mendTests_logged crew options tested
      { iteration := budget.iteration.toNat, note, buildPassed := true, result := some result } result
    refine ⟨asks ++ [.built (.ok .success)] ++ fixes, ?_⟩
    simp only [iterate, renewed, noted, BuildOutcome.isSuccess, checkPlan, ran, failed, Bool.false_eq_true, if_false,
      if_true]
    exact eq_of_logged_nil logged mended _

/-- A round is what the iteration does. -/
theorem Round.Happens.iterate_eq {budget : Budget} {world after : World σ} {round : Round}
    (happens : round.Happens crew options moment budget world after) :
    iterate crew options moment budget world = (round.verdict, round.record, after) := by
  obtain ⟨log, recorded⟩ := happens.exists_recorded
  obtain ⟨round', after', _, iterated, noted⟩ := exists_round crew options moment budget world
  obtain ⟨verdict, rest⟩ := Prod.mk.inj ((noted []).symm.trans recorded)
  obtain ⟨record, left⟩ := Prod.mk.inj rest
  rw [iterated, verdict, record, (World.logged_inj left).1]

section

variable {crew session options moment} {fuel : Nat} {budget : Budget} {last : Option RunResult} {world after : World σ}
  {record : IterationRecord}

theorem loop_of_isExhausted (exhausted : budget.isExhausted = true) :
    loop crew session options moment fuel budget last world = (some (.exhausted budget.limit.toNat last), world) := by
  cases fuel <;> simp only [loop, exhausted, if_true]

theorem loop_zero (going : budget.isExhausted = false) :
    loop crew session options moment 0 budget last world = (none, world) := by
  simp only [loop, going, Bool.false_eq_true, if_false]

theorem loop_of_pass {result : RunResult} (going : budget.isExhausted = false)
    (iterated : iterate crew options moment budget world = (.pass result, record, after)) :
    loop crew session options moment (fuel + 1) budget last world =
      (some (.passed budget.iteration.toNat result), keepRecord session record after) := by
  simp only [loop, going, iterated, Bool.false_eq_true, if_false]

theorem loop_of_abort {cause : Error} (going : budget.isExhausted = false)
    (iterated : iterate crew options moment budget world = (.abort cause, record, after)) :
    loop crew session options moment (fuel + 1) budget last world =
      (some (.aborted budget.iteration.toNat cause), keepRecord session record after) := by
  simp only [loop, going, iterated, Bool.false_eq_true, if_false]

theorem loop_of_again {result : Option RunResult} (going : budget.isExhausted = false)
    (iterated : iterate crew options moment budget world = (.again result, record, after)) :
    loop crew session options moment (fuel + 1) budget last world =
      loop crew session options moment fuel budget.advance (result.or last) (keepRecord session record after) := by
  simp only [loop, going, iterated, Bool.false_eq_true, if_false]

/-- A repair that may be tried twice, and after both iterations would go on, is exhausted. -/
theorem run_of_two {first second : World σ} {record' : IterationRecord} {result result' : Option RunResult}
    (limit : options.maxIterations = 2)
    (iterated : iterate crew options moment (.start 2) world = (.again result, record, first))
    (again : iterate crew options moment (Budget.start 2).advance (keepRecord session record first) =
      (.again result', record', second)) :
    run crew session options moment world =
      (some (.exhausted 2 (result'.or result)), keepRecord session record' second) := by
  have fuel : (2 : UInt32).toNat = 2 := rfl
  rw [run, limit, fuel, loop_of_again (by decide) iterated, loop_of_again (by decide) again,
    loop_of_isExhausted (by decide), Option.or_none]
  rfl

end

/-- With fuel for all iterations that are left, the loop ends with the rounds of a repair, and a recorded crew
notes their calls. -/
theorem exists_repairs (fuel : Nat) (budget : Budget) (last : Option RunResult) (world : World σ)
    (small : budget.limit.toNat + 1 < UInt32.size) (fits : budget.iteration.toNat + fuel = budget.limit.toNat + 1) :
    ∃ rounds outcome final, Repairs crew session options moment budget last world rounds outcome final ∧
      loop crew session options moment fuel budget last world = (some outcome, final) ∧
      ∀ log, loop crew.recorded session options moment fuel budget last (world.logged log) =
        (some outcome, final.logged (log ++ rounds.flatMap Round.calls)) := by
  -- the fuel is what the budget has left, so the two run out together
  induction fuel generalizing budget last world with
  | zero =>
    have exhausted : budget.isExhausted = true := budget.isExhausted_iff.mpr (by omega)
    refine ⟨[], _, world, .exhausted exhausted, loop_of_isExhausted exhausted, fun log => ?_⟩
    rw [loop_of_isExhausted exhausted, List.flatMap_nil, List.append_nil]
  | succ fuel ih =>
    have going : budget.isExhausted = false := Budget.isExhausted_eq_false_iff.mpr (by omega)
    obtain ⟨round, after, happens, iterated, noted⟩ := exists_round crew options moment budget world
    have number := happens.number
    cases verdict : round.verdict with
    | pass result =>
      rw [verdict] at iterated noted
      refine ⟨[round], _, _, .passed going happens verdict, ?_, fun log => ?_⟩
      · rw [loop_of_pass going iterated, number]
      · rw [loop_of_pass going (noted log), number, keepRecord_logged, List.flatMap_singleton]
    | abort cause =>
      rw [verdict] at iterated noted
      refine ⟨[round], _, _, .aborted going happens verdict, ?_, fun log => ?_⟩
      · rw [loop_of_abort going iterated, number]
      · rw [loop_of_abort going (noted log), number, keepRecord_logged, List.flatMap_singleton]
    | again result =>
      rw [verdict] at iterated noted
      have advanced : budget.advance.iteration.toNat = budget.iteration.toNat + 1 :=
        Budget.advance_iteration (by omega)
      obtain ⟨rounds, outcome, final, repairs, looped, logged⟩ :=
        ih budget.advance (result.or last) (keepRecord session round.record after) small
          (by rw [advanced, Budget.advance_limit]; omega)
      refine ⟨round :: rounds, outcome, final, .again going happens verdict repairs, ?_, fun log => ?_⟩
      · rw [loop_of_again going iterated, looped]
      · rw [loop_of_again going (noted log), keepRecord_logged, logged, List.flatMap_cons, List.append_assoc]

end UiCheck.Repair
