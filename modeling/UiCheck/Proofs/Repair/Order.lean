import UiCheck.Proofs.Repair.Rounds

/-! # The order within a round

The deeds of a round come in stages, and no stage comes twice: a request for a plan, a build, a run of the plan,
and a request for a repair. Which deed may come next depends on the one before it alone, as `Follows` lists;
`Round.Happens.orderly` says that each round keeps that order, and what its verdict means.
-/

namespace UiCheck.Repair

namespace Deed

/-- The deed is a request for a plan. -/
def isPlanRequest : Deed → Bool
  | .asked (.generatePlan _) _ => true
  | _ => false

/-- The deed is a build. -/
def isBuild : Deed → Bool
  | .built _ => true
  | _ => false

/-- The deed is a request for a repair. -/
def isRepairRequest : Deed → Bool
  | .asked (.repairFile _) _ => true
  | .asked (.repairFiles _) _ => true
  | _ => false

/-- The result of a run of the plan. -/
def tested? : Deed → Option RunResult
  | .tested result => some result
  | _ => none

/-- The stage of a round to which the deed belongs. -/
def stage : Deed → Nat
  | .asked (.generatePlan _) _ => 0
  | .built _ => 1
  | .tested _ => 2
  | .asked (.repairFile _) _ => 3
  | .asked (.repairFiles _) _ => 3

theorem stage_of_isPlanRequest (deed : Deed) (asks : deed.isPlanRequest = true) : deed.stage = 0 := by
  unfold isPlanRequest at asks
  split at asks
  · rfl
  · cases asks

theorem stage_of_isBuild (deed : Deed) (builds : deed.isBuild = true) : deed.stage = 1 := by
  unfold isBuild at builds
  split at builds
  · rfl
  · cases builds

theorem stage_of_isRepairRequest (deed : Deed) (asks : deed.isRepairRequest = true) : deed.stage = 3 := by
  unfold isRepairRequest at asks
  split at asks
  · rfl
  · rfl
  · cases asks

end Deed

/-- Which deed of a round comes right after which, if it is not the first one. -/
inductive Follows (instruction : Option String) (number : Nat) : Option Deed → Deed → Prop
  | plan {context : PlanContext} {reply : Except OracleError String} {text : String} :
      number = 1 → instruction = some text → context.instruction = some text →
      Follows instruction number none (.asked (.generatePlan context) reply)
  | build {answer : Except IoError BuildOutcome} : Follows instruction number none (.built answer)
  | buildPlanned {context : PlanContext} {reply : Except OracleError String}
      {answer : Except IoError BuildOutcome} :
      Follows instruction number (some (.asked (.generatePlan context) reply)) (.built answer)
  | test {result : RunResult} : Follows instruction number (some (.built (.ok .success))) (.tested result)
  | fix {outcome : BuildOutcome} {context : BuildContext} {reply : Except OracleError String} :
      outcome.isSuccess = false → context.logs = outcome.logs →
      Follows instruction number (some (.built (.ok outcome))) (.asked (.repairFile context) reply)
  | patch {result : RunResult} {context : TestContext} {reply : Except OracleError String} :
      result.success = false → context.failures = result.failureSummary →
      Follows instruction number (some (.tested result)) (.asked (.repairFiles context) reply)

/-- Deeds of which each follows the one before it. -/
inductive Ordered (instruction : Option String) (number : Nat) : Option Deed → List Deed → Prop
  | nil {previous : Option Deed} : Ordered instruction number previous []
  | cons {previous : Option Deed} {deed : Deed} {deeds : List Deed} :
      Follows instruction number previous deed → Ordered instruction number (some deed) deeds →
      Ordered instruction number previous (deed :: deeds)

section

variable {instruction : Option String} {number : Nat} {previous : Option Deed} {deeds : List Deed}

theorem Follows.stage_lt {deed next : Deed} (follows : Follows instruction number (some deed) next) :
    deed.stage < next.stage := by
  cases follows <;> simp [Deed.stage]

/-- The stages go up. -/
theorem Ordered.stage_lt {deed : Deed} (ordered : Ordered instruction number (some deed) deeds) :
    ∀ later ∈ deeds, deed.stage < later.stage := by
  induction deeds generalizing deed with
  | nil => intro later member; cases member
  | cons next deeds ih =>
    cases ordered with
    | cons follows ordered =>
      intro later member
      rcases List.mem_cons.mp member with rfl | member
      · exact follows.stage_lt
      · exact Nat.lt_trans follows.stage_lt (ih ordered later member)

/-- What belongs to one stage comes at most once. -/
theorem Ordered.countP_le_one (ordered : Ordered instruction number previous deeds) {p : Deed → Bool} {stage : Nat}
    (belongs : ∀ deed, p deed = true → deed.stage = stage) : deeds.countP p ≤ 1 := by
  induction ordered with
  | nil => exact Nat.zero_le 1
  | @cons _ deed deeds _ ordered ih =>
    cases picked : p deed with
    | false =>
      rw [List.countP_cons_of_neg (by rw [picked]; exact Bool.false_ne_true)]
      exact ih
    | true =>
      have none : deeds.countP p = 0 := by
        refine List.countP_eq_zero.mpr fun later member same => ?_
        have later := ordered.stage_lt later member
        rw [belongs _ picked, belongs _ same] at later
        exact Nat.lt_irrefl _ later
      have one : (deed :: deeds).countP p = 1 := by rw [List.countP_cons_of_pos picked, none]
      exact Nat.le_of_eq one

/-- Each deed follows the one right before it. -/
theorem Ordered.follows {before later : List Deed} {deed : Deed}
    (ordered : Ordered instruction number previous (before ++ deed :: later)) :
    (before = [] ∧ Follows instruction number previous deed) ∨
      ∃ earlier prior, before = earlier ++ [prior] ∧ Follows instruction number (some prior) deed := by
  induction before generalizing previous with
  | nil =>
    cases ordered with
    | cons follows _ => exact .inl ⟨rfl, follows⟩
  | cons first before ih =>
    cases ordered with
    | cons _ ordered =>
      rcases ih ordered with ⟨rfl, follows⟩ | ⟨earlier, prior, rfl, follows⟩
      · exact .inr ⟨[], first, rfl, follows⟩
      · exact .inr ⟨first :: earlier, prior, rfl, follows⟩

/-- A plan is asked for in the first round, as the user wants it. -/
theorem Ordered.of_plan {context : PlanContext} {reply : Except OracleError String}
    (ordered : Ordered instruction number previous deeds) (member : .asked (.generatePlan context) reply ∈ deeds) :
    number = 1 ∧ ∃ text, instruction = some text ∧ context.instruction = some text := by
  obtain ⟨before, later, rfl⟩ := List.append_of_mem member
  rcases ordered.follows with ⟨_, follows⟩ | ⟨_, _, _, follows⟩
  · cases follows with
    | plan first given told => exact ⟨first, _, given, told⟩
  · cases follows

/-- A file is fixed right after a build that failed. -/
theorem Ordered.of_fix {before later : List Deed} {context : BuildContext} {reply : Except OracleError String}
    (ordered : Ordered instruction number none (before ++ .asked (.repairFile context) reply :: later)) :
    ∃ earlier outcome, before = earlier ++ [.built (.ok outcome)] ∧ outcome.isSuccess = false ∧
      context.logs = outcome.logs := by
  rcases ordered.follows with ⟨_, follows⟩ | ⟨earlier, _, rfl, follows⟩
  · cases follows
  · cases follows with
    | fix failed told => exact ⟨earlier, _, rfl, failed, told⟩

/-- The plan is run right after a build that passed. -/
theorem Ordered.of_test {before later : List Deed} {result : RunResult}
    (ordered : Ordered instruction number none (before ++ .tested result :: later)) :
    ∃ earlier, before = earlier ++ [.built (.ok .success)] := by
  rcases ordered.follows with ⟨_, follows⟩ | ⟨earlier, _, rfl, follows⟩
  · cases follows
  · cases follows
    exact ⟨earlier, rfl⟩

/-- The application is patched right after a run that failed, which came right after a build that passed. -/
theorem Ordered.of_patch {before later : List Deed} {context : TestContext} {reply : Except OracleError String}
    (ordered : Ordered instruction number none (before ++ .asked (.repairFiles context) reply :: later)) :
    ∃ earlier result, before = earlier ++ [.built (.ok .success), .tested result] ∧ result.success = false ∧
      context.failures = result.failureSummary := by
  rcases ordered.follows with ⟨_, follows⟩ | ⟨earlier, _, rfl, follows⟩
  · cases follows
  · cases follows with
    | @patch result _ _ failed told =>
      rw [List.append_assoc] at ordered
      obtain ⟨first, rfl⟩ := ordered.of_test
      exact ⟨first, result, by rw [List.append_assoc]; rfl, failed, told⟩

end

section

variable {asks : List Deed} {kind : OracleRequest → Prop}

theorem AtMostAsked.countP_isBuild (asked : AtMostAsked kind asks) : asks.countP Deed.isBuild = 0 := by
  rcases asked with rfl | ⟨request, reply, rfl, _⟩
  · rfl
  · cases request <;> rfl

theorem AtMostAsked.filterMap_tested? (asked : AtMostAsked kind asks) : asks.filterMap Deed.tested? = [] := by
  rcases asked with rfl | ⟨request, reply, rfl, _⟩ <;> rfl

variable {instruction : Option String} {number : Nat}

/-- In front of the build at most a plan was asked for. -/
theorem ordered_of_plans {deeds : List Deed}
    (asked : AtMostAsked (fun request => number = 1 ∧ instruction.isSome = true ∧ Plans instruction request) asks)
    (rest : deeds = [] ∨ ∃ answer later, deeds = .built answer :: later ∧
      Ordered instruction number (some (.built answer)) later) :
    Ordered instruction number none (asks ++ deeds) := by
  rcases asked with rfl | ⟨request, reply, rfl, first, given, plans⟩
  · rcases rest with rfl | ⟨answer, later, rfl, ordered⟩
    · exact .nil
    · exact .cons .build ordered
  · obtain ⟨text, given⟩ := Option.isSome_iff_exists.mp given
    cases request with
    | generatePlan context =>
      have follows : Follows instruction number none (.asked (.generatePlan context) reply) :=
        .plan first given (Eq.trans plans given)
      rcases rest with rfl | ⟨answer, later, rfl, ordered⟩
      · exact .cons follows .nil
      · exact .cons follows (.cons .buildPlanned ordered)
    | _ => cases plans

theorem ordered_of_fixes {outcome : BuildOutcome} (failed : outcome.isSuccess = false)
    (asked : AtMostAsked (Fixes outcome.logs) asks) :
    Ordered instruction number (some (.built (.ok outcome))) asks := by
  rcases asked with rfl | ⟨request, reply, rfl, fixes⟩
  · exact .nil
  · cases request with
    | repairFile context => exact .cons (.fix failed fixes) .nil
    | _ => cases fixes

theorem ordered_of_patches {result : RunResult} (failed : result.success = false)
    (asked : AtMostAsked (Patches result) asks) : Ordered instruction number (some (.tested result)) asks := by
  rcases asked with rfl | ⟨request, reply, rfl, patches⟩
  · exact .nil
  · cases request with
    | repairFiles context => exact .cons (.patch failed patches) .nil
    | _ => cases patches

end

/-- A round keeps the order of deeds, and its verdict says what became of the build and the run. -/
structure Round.Orderly (options : Options) (round : Round) : Prop where
  ordered : Ordered options.instruction round.number none round.deeds
  /-- A round that is not stopped has built once. -/
  built : (∀ cause, round.verdict ≠ .abort cause) → round.deeds.countP Deed.isBuild = 1
  passed : ∀ result, round.verdict = .pass result → result.success = true
  /-- A round after which the repair goes on has not passed, and hands on the result of its run if there was one. -/
  again : ∀ result, round.verdict = .again result →
    round.deeds.filterMap Deed.tested? = result.toList ∧ ∀ tested, result = some tested → tested.success = false
  aborted : ∀ cause, round.verdict = .abort cause → ∀ e, cause ≠ .oracle e

variable {σ ω : Type} {crew : Crew σ ω} {options : Options} {moment : Moment} {budget : Budget}

theorem plans_of_renewPlan {world after : World σ} {answer : Except Error (Option String)} {asks : List Deed}
    (renewed : renewPlan crew.recorded options moment budget (world.logged []) = (answer, after.logged asks)) :
    AtMostAsked (fun request => budget.iteration.toNat = 1 ∧ options.instruction.isSome = true ∧
      Plans options.instruction request) asks := by
  obtain ⟨asks', logged, asked⟩ := renewPlan_logged crew options moment world budget
  obtain ⟨_, rfl⟩ := World.logged_inj (congrArg Prod.snd (renewed.symm.trans (logged [])))
  exact asked.imp_right fun ⟨request, reply, same, first, given⟩ =>
    ⟨request, reply, same, by rw [first]; rfl, given⟩

theorem fixes_of_mendBuild {world after : World σ} {record record' : IterationRecord} {outcome : BuildOutcome}
    {verdict : Verdict} {asks : List Deed}
    (mended : mendBuild crew.recorded options record outcome (world.logged []) =
      (verdict, record', after.logged asks)) : AtMostAsked (Fixes outcome.logs) asks := by
  obtain ⟨asks', logged, asked⟩ := mendBuild_logged crew options world record outcome
  obtain ⟨_, rfl⟩ := World.logged_inj (congrArg (·.2.2) (mended.symm.trans (logged [])))
  exact asked

theorem patches_of_mendTests {world after : World σ} {record record' : IterationRecord} {result : RunResult}
    {verdict : Verdict} {asks : List Deed}
    (mended : mendTests crew.recorded options record result (world.logged []) =
      (verdict, record', after.logged asks)) : AtMostAsked (Patches result) asks := by
  obtain ⟨asks', logged, asked⟩ := mendTests_logged crew options world record result
  obtain ⟨_, rfl⟩ := World.logged_inj (congrArg (·.2.2) (mended.symm.trans (logged [])))
  exact asked

/-- A round that ends with a repair keeps the order if its deeds do. -/
theorem Round.orderly_of_mended {round : Round} {result : Option RunResult}
    (ends : round.verdict = .again result ∨ ∃ cause, round.verdict = .abort cause ∧ ∀ e, cause ≠ .oracle e)
    (ordered : Ordered options.instruction round.number none round.deeds)
    (built : round.deeds.countP Deed.isBuild = 1) (tested : round.deeds.filterMap Deed.tested? = result.toList)
    (failed : ∀ tested, result = some tested → tested.success = false) : round.Orderly options := by
  rcases ends with verdict | ⟨cause, verdict, other⟩
  · refine ⟨ordered, fun _ => built, ?_, ?_, ?_⟩ <;> rw [verdict]
    · nofun
    · intro result' same
      cases same
      exact ⟨tested, failed⟩
    · nofun
  · refine ⟨ordered, fun _ => built, ?_, ?_, ?_⟩ <;> rw [verdict]
    · nofun
    · nofun
    · intro cause' same
      cases same
      exact other

theorem Round.Happens.orderly {world after : World σ} {round : Round}
    (happens : round.Happens crew options moment budget world after) : round.Orderly options := by
  cases happens with
  | @unplanned asks cause _ renewed =>
    have asked := plans_of_renewPlan renewed
    refine ⟨?_, fun going => absurd rfl (going cause), nofun, nofun, ?_⟩
    · have ordered := ordered_of_plans asked (.inl rfl)
      rwa [List.append_nil] at ordered
    · intro cause' same
      cases same
      exact renewPlan_error _ _ _ _ renewed
  | unbuilt renewed _ =>
    have asked := plans_of_renewPlan renewed
    refine ⟨ordered_of_plans asked (.inr ⟨_, _, rfl, .nil⟩), fun going => absurd rfl (going _), nofun, nofun, ?_⟩
    intro cause same e
    cases same
    nofun
  | @broken asks fixes note planned built _ outcome record verdict renewed _ failed mended =>
    have asked := plans_of_renewPlan renewed
    have fixed := fixes_of_mendBuild mended
    have ends := mendBuild_verdict crew.recorded options (built.logged [])
      { iteration := budget.iteration.toNat, note } outcome
    rw [mended] at ends
    refine Round.orderly_of_mended ends
      (ordered_of_plans asked (.inr ⟨_, _, rfl, ordered_of_fixes failed fixed⟩)) ?_ ?_ nofun
    · rw [List.countP_append, List.countP_cons_of_pos rfl, asked.countP_isBuild, fixed.countP_isBuild]
    · rw [List.filterMap_append, List.filterMap_cons_none rfl, asked.filterMap_tested?, fixed.filterMap_tested?]
      rfl
  | @passed asks note _ _ _ result renewed _ _ success =>
    have asked := plans_of_renewPlan renewed
    refine ⟨ordered_of_plans asked (.inr ⟨_, _, rfl, .cons .test .nil⟩), fun _ => ?_, ?_, nofun, nofun⟩
    · rw [List.countP_append, List.countP_cons_of_pos rfl, asked.countP_isBuild]
      rfl
    · intro result' same
      cases same
      exact success
  | @failed asks fixes note planned built tested _ result record verdict renewed _ _ failed mended =>
    have asked := plans_of_renewPlan renewed
    have patched := patches_of_mendTests mended
    have ends := mendTests_verdict crew.recorded options (tested.logged [])
      { iteration := budget.iteration.toNat, note, buildPassed := true, result := some result } result
    rw [mended] at ends
    refine Round.orderly_of_mended ends
      (ordered_of_plans asked (.inr ⟨_, _, rfl, .cons .test (ordered_of_patches failed patched)⟩)) ?_ ?_ ?_
    · rw [List.countP_append, List.countP_cons_of_pos rfl, List.countP_cons_of_neg Bool.false_ne_true,
        asked.countP_isBuild, patched.countP_isBuild]
    · rw [List.filterMap_append, List.filterMap_cons_none rfl, List.filterMap_cons_some (f := Deed.tested?) rfl,
        asked.filterMap_tested?, patched.filterMap_tested?]
      rfl
    · intro tested same
      cases same
      exact failed

end UiCheck.Repair
