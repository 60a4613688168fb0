import UiCheck.Proofs.Files.Disk
import UiCheck.Proofs.Repair.Order
import UiCheck.Rehearsal.Repair

/-! # Repairs are bounded

A repair has no more rounds than its limit allows. If it is neither stopped nor exhausted before its first
round, each of its rounds has built once, so the builds are counted by the outcome; what an exhausted repair
hands back is the result of its latest run. `run_bounded` says so for every crew and every project.
-/

namespace UiCheck.Repair

/-- The number of builds in some rounds. -/
def builds (rounds : List Round) : Nat :=
  (rounds.flatMap (·.deeds)).countP Deed.isBuild

/-- The results of the runs of the plan in some rounds, in order. -/
def results (rounds : List Round) : List RunResult :=
  (rounds.flatMap (·.deeds)).filterMap Deed.tested?

@[simp] theorem builds_cons (round : Round) (rounds : List Round) :
    builds (round :: rounds) = round.deeds.countP Deed.isBuild + builds rounds := by
  rw [builds, List.flatMap_cons, List.countP_append, builds]

@[simp] theorem results_cons (round : Round) (rounds : List Round) :
    results (round :: rounds) = round.deeds.filterMap Deed.tested? ++ results rounds := by
  rw [results, List.flatMap_cons, List.filterMap_append, results]

variable {σ ω : Type} {crew : Crew σ ω} {session : Option Session} {options : Options} {moment : Moment}
  {budget : Budget} {last : Option RunResult} {world final : World σ} {rounds : List Round} {outcome : Outcome}

namespace Repairs

theorem orderly (repairs : Repairs crew session options moment budget last world rounds outcome final) :
    ∀ round ∈ rounds, round.Orderly options := by
  induction repairs with
  | exhausted => intro round member; cases member
  | passed _ happens =>
    intro round member
    rw [List.mem_singleton.mp member]
    exact happens.orderly
  | aborted _ happens =>
    intro round member
    rw [List.mem_singleton.mp member]
    exact happens.orderly
  | again _ happens _ _ ih =>
    intro round member
    rcases List.mem_cons.mp member with rfl | member
    · exact happens.orderly
    · exact ih round member

/-- The count of a budget that goes on stays within the limit. -/
theorem advance_of_going (small : budget.limit.toNat + 1 < UInt32.size) (going : budget.isExhausted = false) :
    budget.iteration.toNat ≤ budget.limit.toNat ∧
      budget.advance.iteration.toNat = budget.iteration.toNat + 1 := by
  rw [Budget.isExhausted_eq_false_iff] at going
  exact ⟨by omega, Budget.advance_iteration (by omega)⟩

/-- The rounds are numbered on from the count of the budget. -/
theorem numbered (repairs : Repairs crew session options moment budget last world rounds outcome final)
    (small : budget.limit.toNat + 1 < UInt32.size) :
    rounds.map (·.number) = List.range' budget.iteration.toNat rounds.length := by
  induction repairs with
  | exhausted => rfl
  | passed _ happens => rw [List.map_singleton, happens.number]; rfl
  | aborted _ happens => rw [List.map_singleton, happens.number]; rfl
  | again going happens _ _ ih =>
    have advanced := (advance_of_going small going).2
    rw [List.map_cons, ih small, happens.number, advanced, List.length_cons, List.range'_succ]

/-- There are no more rounds than the budget has left. -/
theorem length_le (repairs : Repairs crew session options moment budget last world rounds outcome final)
    (small : budget.limit.toNat + 1 < UInt32.size) (within : budget.iteration.toNat ≤ budget.limit.toNat + 1) :
    budget.iteration.toNat + rounds.length ≤ budget.limit.toNat + 1 := by
  induction repairs with
  | exhausted => exact within
  | passed going =>
    have left := (advance_of_going small going).1
    rw [List.length_singleton]
    omega
  | aborted going =>
    have left := (advance_of_going small going).1
    rw [List.length_singleton]
    omega
  | again going _ _ _ ih =>
    obtain ⟨left, advanced⟩ := advance_of_going small going
    have later := ih small (by rw [advanced, Budget.advance_limit]; omega)
    rw [advanced, Budget.advance_limit] at later
    rw [List.length_cons]
    omega

/-- A round after which the repair goes on has built once, and its run did not pass. -/
theorem again_round {round : Round} {after : World σ} {result : Option RunResult}
    (happens : round.Happens crew options moment budget world after) (verdict : round.verdict = .again result) :
    round.deeds.countP Deed.isBuild = 1 ∧ round.deeds.filterMap Deed.tested? = result.toList ∧
      ∀ tested, result = some tested → tested.success = false :=
  ⟨happens.orderly.built (by rw [verdict]; nofun), happens.orderly.again result verdict⟩

/-- A repair that passes has passed in its last round, after one build in each. -/
theorem of_passed (repairs : Repairs crew session options moment budget last world rounds outcome final)
    (small : budget.limit.toNat + 1 < UInt32.size) {i : Nat} {result : RunResult} (passed : outcome = .passed i result) :
    i + 1 = budget.iteration.toNat + rounds.length ∧ 0 < rounds.length ∧ result.success = true ∧
      builds rounds = rounds.length := by
  induction repairs with
  | exhausted => cases passed
  | passed _ happens verdict =>
    cases passed
    have built := happens.orderly.built (by rw [verdict]; nofun)
    refine ⟨?_, Nat.zero_lt_one, happens.orderly.passed _ verdict, ?_⟩
    · rw [happens.number]
      rfl
    · rw [builds_cons, built]
      rfl
  | aborted => cases passed
  | again going happens verdict _ ih =>
    obtain ⟨number, _, success, built⟩ := ih small passed
    rw [(advance_of_going small going).2] at number
    refine ⟨?_, Nat.zero_lt_succ _, success, ?_⟩
    · rw [List.length_cons]
      omega
    · rw [builds_cons, (again_round happens verdict).1, built, List.length_cons, Nat.add_comm]

/-- A repair that is exhausted has used all its rounds, with one build in each and no run that passed, and hands
back the result of its latest run. -/
theorem of_exhausted (repairs : Repairs crew session options moment budget last world rounds outcome final)
    (small : budget.limit.toNat + 1 < UInt32.size) (within : budget.iteration.toNat ≤ budget.limit.toNat + 1) {n : Nat}
    {latest : Option RunResult} (exhausted : outcome = .exhausted n latest) :
    n = budget.limit.toNat ∧ budget.iteration.toNat + rounds.length = budget.limit.toNat + 1 ∧
      builds rounds = rounds.length ∧ (∀ result ∈ results rounds, result.success = false) ∧
      latest = (results rounds).getLast?.or last := by
  induction repairs with
  | @exhausted budget _ _ ended =>
    cases exhausted
    rw [budget.isExhausted_iff] at ended
    refine ⟨rfl, ?_, rfl, nofun, rfl⟩
    rw [List.length_nil]
    omega
  | passed => cases exhausted
  | aborted => cases exhausted
  | @again budget last result _ _ _ round rounds _ going happens verdict _ ih =>
    obtain ⟨left, advanced⟩ := advance_of_going small going
    obtain ⟨limit, length, built, failed, handed⟩ :=
      ih small (by rw [advanced, Budget.advance_limit]; omega) exhausted
    obtain ⟨one, tested, failing⟩ := again_round happens verdict
    rw [advanced, Budget.advance_limit] at length
    refine ⟨limit, ?_, ?_, fun tested' member => ?_, ?_⟩
    · rw [List.length_cons]
      omega
    · rw [builds_cons, one, built, List.length_cons, Nat.add_comm]
    · rw [results_cons, tested] at member
      rcases List.mem_append.mp member with member | member
      · exact failing _ (Option.mem_toList.mp member)
      · exact failed _ member
    · rw [handed, results_cons, tested, List.getLast?_append, Option.or_assoc]
      cases result <;> rfl

/-- A repair that is stopped is stopped in its last round, and not by the oracle. -/
theorem of_aborted (repairs : Repairs crew session options moment budget last world rounds outcome final)
    (small : budget.limit.toNat + 1 < UInt32.size) {i : Nat} {cause : Error} (aborted : outcome = .aborted i cause) :
    i + 1 = budget.iteration.toNat + rounds.length ∧ 0 < rounds.length ∧ ∀ e, cause ≠ .oracle e := by
  induction repairs with
  | exhausted => cases aborted
  | passed => cases aborted
  | aborted _ happens verdict =>
    cases aborted
    refine ⟨?_, Nat.zero_lt_one, happens.orderly.aborted _ verdict⟩
    rw [happens.number]
    rfl
  | again going _ _ _ ih =>
    obtain ⟨number, _, other⟩ := ih small aborted
    rw [(advance_of_going small going).2] at number
    refine ⟨?_, Nat.zero_lt_succ _, other⟩
    rw [List.length_cons]
    omega

end Repairs

/-- Over all rounds a plan is asked for at most once. -/
theorem countP_isPlanRequest_le {instruction : Option String}
    (ordered : ∀ round ∈ rounds, Ordered instruction round.number none round.deeds)
    (numbered : rounds.map (·.number) = List.range' 1 rounds.length) :
    (rounds.flatMap (·.deeds)).countP Deed.isPlanRequest ≤ 1 := by
  cases rounds with
  | nil => exact Nat.zero_le 1
  | cons first rest =>
    rw [List.map_cons, List.length_cons, List.range'_succ] at numbered
    -- only the first round has the number that a request for a plan needs
    have later : ∀ round ∈ rest, round.number ≠ 1 := by
      intro round member same
      have counted := List.mem_map_of_mem (f := Round.number) member
      rw [(List.cons.inj numbered).2, List.mem_range'_1] at counted
      omega
    have none : (rest.flatMap (·.deeds)).countP Deed.isPlanRequest = 0 := by
      refine List.countP_eq_zero.mpr fun deed member asks => ?_
      obtain ⟨round, among, within⟩ := List.mem_flatMap.mp member
      unfold Deed.isPlanRequest at asks
      split at asks
      · exact later round among ((ordered round (List.mem_cons_of_mem _ among)).of_plan within).1
      · cases asks
    rw [List.flatMap_cons, List.countP_append, none]
    exact (ordered first (List.mem_cons_self ..)).countP_le_one Deed.stage_of_isPlanRequest

/-- What a repair with a limit does, given what the user asks for. -/
structure Bounded (limit : Nat) (given : Option String) (rounds : List Round) (outcome : Outcome) : Prop where
  length_le : rounds.length ≤ limit
  numbered : rounds.map (·.number) = List.range' 1 rounds.length
  one_build : ∀ round ∈ rounds, round.deeds.countP Deed.isBuild ≤ 1
  one_repair : ∀ round ∈ rounds, round.deeds.countP Deed.isRepairRequest ≤ 1
  one_plan : (rounds.flatMap (·.deeds)).countP Deed.isPlanRequest ≤ 1
  /-- A plan is asked for in the first round only, and only if the user asks for something. -/
  plan : ∀ round ∈ rounds, ∀ context reply, .asked (.generatePlan context) reply ∈ round.deeds →
    round.number = 1 ∧ ∃ text, given = some text ∧ Text.allBlank text.toList = false ∧
      context.instruction = some text
  /-- A file is fixed right after a build that failed. -/
  fix : ∀ round ∈ rounds, ∀ before context reply later,
    round.deeds = before ++ .asked (.repairFile context) reply :: later →
    ∃ earlier outcome, before = earlier ++ [.built (.ok outcome)] ∧ outcome.isSuccess = false ∧
      context.logs = outcome.logs
  /-- The application is patched right after a build that passed and a run that failed. -/
  patch : ∀ round ∈ rounds, ∀ before context reply later,
    round.deeds = before ++ .asked (.repairFiles context) reply :: later →
    ∃ earlier result, before = earlier ++ [.built (.ok .success), .tested result] ∧ result.success = false ∧
      context.failures = result.failureSummary
  passed : ∀ i result, outcome = .passed i result →
    1 ≤ i ∧ i ≤ limit ∧ result.success = true ∧ builds rounds = i
  exhausted : ∀ n last, outcome = .exhausted n last →
    n = limit ∧ builds rounds = limit ∧ (∀ result ∈ results rounds, result.success = false) ∧
      last = (results rounds).getLast?
  aborted : ∀ i cause, outcome = .aborted i cause → 1 ≤ i ∧ i ≤ limit ∧ ∀ e, cause ≠ .oracle e

theorem instruction_of_withInstruction {given : Option String} {text : String}
    (same : (options.withInstruction given).instruction = some text) :
    given = some text ∧ Text.allBlank text.toList = false := by
  obtain ⟨given, kept⟩ := Option.filter_eq_some_iff.mp same
  exact ⟨given, (Bool.not_eq_true' _).mp kept⟩

/-- From its first round on a repair is bounded. -/
theorem Repairs.bounded {given : Option String} (few : options.maxIterations.toNat < UInt32.size - 1)
    (repairs : Repairs crew session (options.withInstruction given) moment (.start options.maxIterations) none world
      rounds outcome final) : Bounded options.maxIterations.toNat given rounds outcome := by
  have small : (Budget.start options.maxIterations).limit.toNat + 1 < UInt32.size := Nat.add_lt_of_lt_sub few
  have within : (Budget.start options.maxIterations).iteration.toNat ≤
      (Budget.start options.maxIterations).limit.toNat + 1 := Nat.le_add_left 1 _
  have length : 1 + rounds.length ≤ options.maxIterations.toNat + 1 := repairs.length_le small within
  have ordered : ∀ round ∈ rounds, Ordered (options.withInstruction given).instruction round.number none round.deeds :=
    fun round member => (repairs.orderly round member).ordered
  refine ⟨by omega, repairs.numbered small, fun round member => ?_, fun round member => ?_, ?_, ?_, ?_, ?_, ?_, ?_, ?_⟩
  · exact (ordered round member).countP_le_one Deed.stage_of_isBuild
  · exact (ordered round member).countP_le_one Deed.stage_of_isRepairRequest
  · exact countP_isPlanRequest_le ordered (repairs.numbered small)
  · intro round member context reply asked
    obtain ⟨first, text, wanted, told⟩ := (ordered round member).of_plan asked
    obtain ⟨wanted, kept⟩ := instruction_of_withInstruction wanted
    exact ⟨first, text, wanted, kept, told⟩
  · intro round member before context reply later same
    exact (same ▸ ordered round member).of_fix
  · intro round member before context reply later same
    exact (same ▸ ordered round member).of_patch
  · intro i result passed
    obtain ⟨number, some, success, built⟩ := repairs.of_passed small passed
    have number : i + 1 = 1 + rounds.length := number
    exact ⟨by omega, by omega, success, by omega⟩
  · intro n last exhausted
    obtain ⟨limit, number, built, failed, handed⟩ := repairs.of_exhausted small within exhausted
    have number : 1 + rounds.length = options.maxIterations.toNat + 1 := number
    exact ⟨limit, by omega, failed, handed.trans (Option.or_none ..)⟩
  · intro i cause aborted
    obtain ⟨number, some, other⟩ := repairs.of_aborted small aborted
    have number : i + 1 = 1 + rounds.length := number
    exact ⟨by omega, by omega, other⟩

/-- Whatever the page, the oracle and the builder answer, a repair ends within its limit and keeps to the order of
its rounds, whose calls are all that a recorded crew notes. Without any iteration allowed it does nothing. -/
theorem run_bounded (crew : Crew σ ω) (session : Option Session) (options : Options) (given : Option String)
    (moment : Moment) (world : World σ) (few : options.maxIterations.toNat < UInt32.size - 1) :
    ∃ rounds outcome final,
      run crew session (options.withInstruction given) moment world = (some outcome, final) ∧
      Repairs crew session (options.withInstruction given) moment (.start options.maxIterations) none world
        rounds outcome final ∧
      run crew.recorded session (options.withInstruction given) moment (world.logged []) =
        (some outcome, final.logged (rounds.flatMap Round.calls)) ∧
      Bounded options.maxIterations.toNat given rounds outcome ∧
      (options.maxIterations = 0 → rounds = [] ∧ outcome = .exhausted 0 none ∧ final = world) := by
  obtain ⟨rounds, outcome, final, repairs, looped, logged⟩ :=
    exists_repairs crew session (options.withInstruction given) moment options.maxIterations.toNat
      (.start options.maxIterations) none world (Nat.add_lt_of_lt_sub few) (Nat.add_comm 1 _)
  have bounded := repairs.bounded few
  refine ⟨rounds, outcome, final, looped, repairs, logged [], bounded, fun none => ?_⟩
  have empty : rounds = [] := by
    have length := bounded.length_le
    rw [none] at length
    exact List.eq_nil_of_length_eq_zero (Nat.le_zero.mp length)
  subst empty
  cases repairs with
  | exhausted => exact ⟨rfl, by rw [none]; rfl, rfl⟩

/-! ## A repair with two rounds -/

section

open Files

/-- Options for a project that may be repaired twice. -/
def twiceOptions : Options where
  projectDir := "/proj"
  planFile := "vibe.yaml"
  entryFile := "App.tsx"
  manifestFile := "package.json"
  maxIterations := 2
  run := { server := { command := none, workingDir := "/proj" } }

/-- A disk with a project that has an entry file and no plan, beside the directory of a session with some reports. -/
def twiceDisk (reports : Files.Entries) : Disk where
  tree := .directory [("proj", .directory [("App.tsx", .file "".toUTF8)]), ("s", .directory reports)]
  start := []

/-- A world on such a disk, in which the oracle is out of reach and builds go as the script says. -/
def twiceWorld (reports : Files.Entries) (asked : List OracleRequest) (builds : Rehearsal.Builds) :
    World Rehearsal.Stage where
  files := .ofDisk (twiceDisk reports)
  outside := { page := {}, replies := { asked }, builds }

variable {reports : Files.Entries} {asked : List OracleRequest}

theorem node_twiceDisk : (twiceDisk reports).node "/proj/App.tsx" = .ok (.file "".toUTF8) ∧
    (twiceDisk reports).node "/proj/vibe.yaml" = .error .notFound := by
  have way : steps "/proj/App.tsx" = [.root, .name "proj", .name "App.tsx"] ∧
      steps "/proj/vibe.yaml" = [.root, .name "proj", .name "vibe.yaml"] := by decide +kernel
  have short : ¬ nameLimit < "proj".utf8ByteSize ∧ ¬ nameLimit < "App.tsx".utf8ByteSize ∧
      ¬ nameLimit < "vibe.yaml".utf8ByteSize := by decide +kernel
  have free : [("App.tsx", Node.file .empty)].lookup "vibe.yaml" = none := rfl
  constructor
  · rw [Disk.node, Disk.locate_eq (by decide +kernel), way.1]
    simp [walk, twiceDisk, Node.get?, Node.child?, short]
  · rw [Disk.node, Disk.locate_eq (by decide +kernel), way.2]
    simp [walk, twiceDisk, Node.get?, Node.child?, short, free]

theorem findBroken_twiceDisk : findBroken twiceOptions (twiceDisk reports) "App.tsx" = .ok ("/proj/App.tsx", "") := by
  have accepted : Patch.resolve? twiceOptions.projectDir "App.tsx" = some "/proj/App.tsx" := by decide +kernel
  have source : Disk.textOf "".toUTF8 = .ok "" := by rfl
  simp only [findBroken, Patch.resolve, accepted, Disk.exists?, Disk.readText, Disk.read, node_twiceDisk.1, Except.bind,
    source]
  rfl

/-- Such an oracle does not answer. -/
def silence : OracleError :=
  .connectionFailed "scripted outage"

/-- A build that failed in such a world is not mended. -/
theorem mendBuild_twiceWorld (builds : Rehearsal.Builds) : ∃ asked', ∀ record,
    mendBuild Rehearsal.crew twiceOptions record (.failed "boom" "") (twiceWorld reports asked builds) =
      (.again none, { record with brokenFile := none, note := some silence.message },
        twiceWorld reports asked' builds) := by
  have logs : (BuildOutcome.failed "boom" "").logs = "boom\n" := by decide
  have unnamed : Build.errorFile? "boom\n" = none := by decide +kernel
  obtain ⟨asked', repaired⟩ : ∃ asked', repairBuild Rehearsal.crew.oracle twiceOptions "boom\n"
      (twiceWorld reports asked builds) = (.error (.oracle silence), twiceWorld reports asked' builds) := by
    have named : brokenFile twiceOptions "boom\n" = "App.tsx" := by decide +kernel
    have found : findBroken twiceOptions (twiceWorld reports asked builds).files.disk "App.tsx" =
      .ok ("/proj/App.tsx", "") := findBroken_twiceDisk
    unfold repairBuild
    rw [named]
    simp only [found, World.ask]
    exact ⟨.repairFile ⟨"boom\n", "", twiceOptions.manifest (twiceDisk reports)⟩ :: asked, rfl⟩
  refine ⟨asked', fun record => ?_⟩
  unfold mendBuild
  rw [logs, repaired, unnamed]

theorem renewPlan_twiceOptions (crew : Crew σ ω) (budget : Budget) (world : World σ) :
    renewPlan crew twiceOptions ⟨0⟩ budget world = (.ok none, world) := rfl

/-- The record of an iteration whose build failed and was not mended. -/
def unmended (iteration : Nat) : IterationRecord :=
  { iteration, note := some silence.message }

/-- What a run comes to in such a world, in which there is no plan. -/
def planless : RunResult :=
  .fatal (Plan.LoadError.missing "/proj/vibe.yaml").message

/-- The record of an iteration whose run failed for want of a plan, and which was not mended either. -/
def unplanned (iteration : Nat) : IterationRecord :=
  { iteration, buildPassed := true, result := some planless, note := some silence.message }

/-- A build that fails is not mended, and the repair goes on. -/
theorem iterate_first : ∃ asked,
    iterate Rehearsal.crew twiceOptions ⟨0⟩ (.start 2)
        (twiceWorld reports [] { script := [.ok (.failed "boom" "")] }) =
      (.again none, unmended 1, twiceWorld reports asked { built := 1 }) := by
  have building : (twiceWorld reports [] { script := [.ok (.failed "boom" "")] }).build Rehearsal.crew.builder =
      (.ok (.failed "boom" ""), twiceWorld reports [] { built := 1 }) := rfl
  obtain ⟨asked, mended⟩ := @mendBuild_twiceWorld reports [] { built := 1 }
  refine ⟨asked, ?_⟩
  rw [iterate, renewPlan_twiceOptions]
  dsimp only
  rw [building]
  exact mended _

/-- A build that passes is followed by a run that fails, the application is not mended, and the repair goes on. -/
theorem iterate_second : ∃ asked',
    iterate Rehearsal.crew twiceOptions ⟨0⟩ (Budget.start 2).advance (twiceWorld reports asked { built := 1 }) =
      (.again (some planless), unplanned 2, twiceWorld reports asked' { built := 2 }) := by
  have building : (twiceWorld reports asked { built := 1 }).build Rehearsal.crew.builder =
      (.ok .success, twiceWorld reports asked { built := 2 }) := rfl
  have ran : (twiceWorld reports asked { built := 2 }).run Rehearsal.crew twiceOptions =
      (planless, twiceWorld reports asked { built := 2 }) := by
    have path : twiceOptions.planPath = "/proj/vibe.yaml" := by decide +kernel
    have missing : (twiceWorld reports asked { built := 2 }).files.disk.exists? "/proj/vibe.yaml" = false := by
      rw [Disk.exists?]
      exact (@node_twiceDisk reports).2 ▸ rfl
    rw [World.run, Run.runFile, Plan.load, path, missing]
    rfl
  have failed : planless.success = false := rfl
  obtain ⟨asked', repaired⟩ : ∃ asked', repairTests Rehearsal.crew.oracle twiceOptions planless
      (twiceWorld reports asked { built := 2 }) =
        (.error (.oracle silence), twiceWorld reports asked' { built := 2 }) :=
    ⟨.repairFiles (testContext twiceOptions (twiceDisk reports) planless) :: asked, rfl⟩
  refine ⟨asked', ?_⟩
  simp only [iterate, renewPlan_twiceOptions, building, BuildOutcome.isSuccess, if_true, checkPlan, ran, failed,
    Bool.false_eq_true, if_false, mendTests, repaired]
  rfl

/-- After a build that fails and a run that fails the repair is exhausted. -/
theorem run_bounded_twice : twiceOptions.maxIterations.toNat < UInt32.size - 1 ∧ ∃ rounds final,
    run Rehearsal.crew none (twiceOptions.withInstruction none) ⟨0⟩
      (twiceWorld [] [] { script := [.ok (.failed "boom" "")] }) = (some (.exhausted 2 (some planless)), final) ∧
    Bounded 2 none rounds (.exhausted 2 (some planless)) ∧ builds rounds = 2 ∧
    (results rounds).getLast? = some planless := by
  have few : twiceOptions.maxIterations.toNat < UInt32.size - 1 := by decide
  obtain ⟨asked, first⟩ := @iterate_first []
  obtain ⟨asked', second⟩ := @iterate_second [] asked
  have ended := @run_of_two _ _ Rehearsal.crew none twiceOptions _ _ _ _ _ _ _ _ rfl first second
  obtain ⟨rounds, outcome, final, ran, _, _, bounded, _⟩ :=
    run_bounded Rehearsal.crew none twiceOptions none ⟨0⟩ (twiceWorld [] [] { script := [.ok (.failed "boom" "")] }) few
  obtain ⟨same, _⟩ := Prod.mk.inj (ran.symm.trans ended)
  obtain rfl : outcome = _ := Option.some.inj same
  obtain ⟨_, built, _, last⟩ := bounded.exhausted 2 _ rfl
  exact ⟨few, rounds, final, ran, bounded, built, last.symm⟩

end

/-- A crew whose oracle and build tool cannot be reached. -/
def absentCrew : Crew MemoryPage Listener where
  page := MemoryPage.operations
  oracle := { ask := fun _ s => (.error (.connectionFailed "refused"), s) }
  builder := { build := fun disk s => (.error .notFound, disk, s) }
  host _ := { spawn := fun _ _ s => (.error .notFound, s), accepts := fun _ _ _ s => (false, s) }

end UiCheck.Repair
