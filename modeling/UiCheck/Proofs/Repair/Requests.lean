import UiCheck.Proofs.Repair.Order
import UiCheck.Proofs.Run.Summary

/-! # What an oracle is asked to patch

The application is patched only after a run of the plan that was no success, and the oracle is told the summary of
that run. Such a summary is never empty, so no request for a patch comes without failures. This holds of every request
that a recorded crew notes, whatever the limit of the repair.
-/

namespace UiCheck.Repair

variable {σ ω : Type}

/-- A request for a patch tells the failures of a run of the plan that is no success. -/
def Blames (crew : Crew σ ω) (options : Options) : OracleRequest → Prop
  | .repairFiles context => ∃ world : World σ, (world.run crew options).1.success = false ∧
      context.failures = (world.run crew options).1.failureSummary
  | _ => True

theorem AtMostAsked.of_mem {kind : OracleRequest → Prop} {asks : List Deed} {request : OracleRequest}
    {reply : Except OracleError String} (asked : AtMostAsked kind asks) (member : .asked request reply ∈ asks) :
    kind request := by
  rcases asked with rfl | ⟨only, _, rfl, right⟩
  · cases member
  · cases List.mem_singleton.mp member
    exact right

section

variable {crew : Crew σ ω} {options : Options} {moment : Moment} {budget : Budget} {request : OracleRequest}
  {reply : Except OracleError String}

theorem blames_of_plans {instruction : Option String} (plans : Plans instruction request) :
    Blames crew options request := by
  cases request with
  | generatePlan context => trivial
  | _ => cases plans

theorem blames_of_fixes {logs : String} (fixes : Fixes logs request) : Blames crew options request := by
  cases request with
  | repairFile context => trivial
  | _ => cases fixes

theorem blames_of_patches {world tested : World σ} {result : RunResult}
    (ran : world.run crew options = (result, tested)) (failed : result.success = false)
    (patches : Patches result request) : Blames crew options request := by
  obtain rfl : (world.run crew options).1 = result := congrArg Prod.fst ran
  cases request with
  | repairFiles context => exact ⟨world, failed, patches⟩
  | _ => cases patches

/-- Whatever a round asks, it has a run to blame if it asks for a patch. -/
theorem Round.Happens.blames {world after : World σ} {round : Round}
    (happens : round.Happens crew options moment budget world after) (member : .asked request reply ∈ round.deeds) :
    Blames crew options request := by
  cases happens with
  | unplanned renewed => exact blames_of_plans ((plans_of_renewPlan renewed).of_mem member).2.2
  | unbuilt renewed _ | passed renewed _ _ _ =>
    rcases List.mem_append.mp member with first | other
    · exact blames_of_plans ((plans_of_renewPlan renewed).of_mem first).2.2
    · simp at other
  | broken renewed _ _ mended =>
    rcases List.mem_append.mp member with first | later
    · exact blames_of_plans ((plans_of_renewPlan renewed).of_mem first).2.2
    · rcases List.mem_cons.mp later with built | last
      · cases built
      · exact blames_of_fixes ((fixes_of_mendBuild mended).of_mem last)
  | failed renewed _ ran failed mended =>
    rcases List.mem_append.mp member with first | later
    · exact blames_of_plans ((plans_of_renewPlan renewed).of_mem first).2.2
    · rcases List.mem_cons.mp later with built | later
      · cases built
      · rcases List.mem_cons.mp later with tested | last
        · cases tested
        · exact blames_of_patches ran failed ((patches_of_mendTests mended).of_mem last)

end

section

variable (crew : Crew σ ω) (session : Option Session) (options : Options) (moment : Moment)

/-- A recorded crew does what the crew does, and each request that it notes has a run to blame if it is for a patch. -/
theorem exists_calls_of_loop (fuel : Nat) (budget : Budget) (last : Option RunResult) (world : World σ)
    (log : List Deed) : ∃ outcome final calls,
      loop crew session options moment fuel budget last world = (outcome, final) ∧
      loop crew.recorded session options moment fuel budget last (world.logged log) =
        (outcome, final.logged (log ++ calls)) ∧
      ∀ request reply, .asked request reply ∈ calls → Blames crew options request := by
  have spent {fuel : Nat} {budget : Budget} (last : Option RunResult) (world : World σ) (log : List Deed)
      (exhausted : budget.isExhausted = true) : loop crew.recorded session options moment fuel budget last
        (world.logged log) = (some (.exhausted budget.limit.toNat last), world.logged (log ++ [])) := by
    rw [loop_of_isExhausted exhausted, List.append_nil]
  induction fuel generalizing budget last world log with
  | zero =>
    cases going : budget.isExhausted with
    | true => exact ⟨_, world, [], loop_of_isExhausted going, spent last world log going, nofun⟩
    | false => exact ⟨_, world, [], loop_zero going, by rw [loop_zero going, List.append_nil], nofun⟩
  | succ fuel ih =>
    cases going : budget.isExhausted with
    | true => exact ⟨_, world, [], loop_of_isExhausted going, spent last world log going, nofun⟩
    | false =>
      obtain ⟨round, after, happens, iterated, noted⟩ := exists_round crew options moment budget world
      have blamed (request : OracleRequest) (reply : Except OracleError String)
          (member : .asked request reply ∈ round.calls) : Blames crew options request :=
        happens.blames (List.mem_filter.mp member).1
      cases verdict : round.verdict with
      | pass result =>
        rw [verdict] at iterated noted
        exact ⟨_, _, round.calls, loop_of_pass going iterated,
          by rw [loop_of_pass going (noted log), keepRecord_logged], blamed⟩
      | abort cause =>
        rw [verdict] at iterated noted
        exact ⟨_, _, round.calls, loop_of_abort going iterated,
          by rw [loop_of_abort going (noted log), keepRecord_logged], blamed⟩
      | again result =>
        rw [verdict] at iterated noted
        obtain ⟨outcome, final, calls, looped, logged, later⟩ :=
          ih budget.advance (result.or last) (keepRecord session round.record after) (log ++ round.calls)
        refine ⟨outcome, final, round.calls ++ calls, (loop_of_again going iterated).trans looped, ?_,
          fun request reply member => ?_⟩
        · rw [loop_of_again going (noted log), keepRecord_logged, logged, List.append_assoc]
        · exact (List.mem_append.mp member).elim (blamed request reply) (later request reply)

/-- The result of every run of a plan file has a summary that tells what came of the run: it begins with the number one
if the run is no success, lists the failures in order if there are some, and is empty if the run is a success. So in
every repair each request for a patch, among all that are noted, comes with a list of failures that is not empty: the
summary of a run of the plan that was no success. -/
theorem run_asks_with_failures (page : Page σ ω) (host : Server.Host σ) (settings : Run.Options) (disk : Files.Disk)
    (path : String) (s : σ) (world : World σ) :
    Summarised (Run.runFile page host settings disk path s).1 ∧
    ∃ outcome final calls, run crew session options moment world = (outcome, final) ∧
      run crew.recorded session options moment (world.logged []) = (outcome, final.logged calls) ∧
      ∀ context reply, .asked (.repairFiles context) reply ∈ calls →
        (∃ tested : World σ, (tested.run crew options).1.success = false ∧
          context.failures = (tested.run crew options).1.failureSummary) ∧
        ∃ rest, context.failures = "1. " ++ rest := by
  refine ⟨Run.runFile_summarised page host settings disk path s, ?_⟩
  obtain ⟨outcome, final, calls, ran, logged, blamed⟩ := exists_calls_of_loop crew session options moment
    options.maxIterations.toNat (.start options.maxIterations) none world []
  refine ⟨outcome, final, calls, ran, logged, fun context reply member => ?_⟩
  obtain ⟨tested, failed, told⟩ := blamed _ reply member
  have summarised : Summarised (tested.run crew options).1 :=
    Run.runFile_summarised crew.page (crew.host tested.files.disk) options.run tested.files.disk options.planPath
      tested.outside
  obtain ⟨rest, begins⟩ := summarised.failed failed
  exact ⟨⟨tested, failed, told⟩, rest, told.trans begins⟩

end

end UiCheck.Repair
