import UiCheck.Proofs.Page.Recording
import UiCheck.Proofs.Run.Tracking
import UiCheck.Repair.Loop

/-! # Recorded repairs

A recorded crew notes what its oracle is asked and what its builder builds, in order, and otherwise is the crew
that it records. Each phase of a repair does with a recorded crew what it does without the notes; here is also
which requests each phase notes, and how it can end.
-/

namespace UiCheck.Repair

open Files

/-- What a repair does, and what came of it. -/
inductive Deed where
  | asked (request : OracleRequest) (reply : Except OracleError String)
  | built (answer : Except IoError BuildOutcome)
  | tested (result : RunResult)

/-- The deed is a call of the oracle or of the builder. -/
def Deed.isCall : Deed → Bool
  | .tested _ => false
  | _ => true

/-- The deeds are at most one request, which is of a kind. -/
def AtMostAsked (kind : OracleRequest → Prop) (asks : List Deed) : Prop :=
  asks = [] ∨ ∃ request reply, asks = [.asked request reply] ∧ kind request

theorem AtMostAsked.filter_isCall {kind : OracleRequest → Prop} {asks : List Deed} (asked : AtMostAsked kind asks) :
    asks.filter Deed.isCall = asks := by
  rcases asked with rfl | ⟨request, reply, rfl, _⟩ <;> rfl

/-- A plan is asked for, as the user wants it. -/
def Plans (instruction : Option String) : OracleRequest → Prop
  | .generatePlan context => context.instruction = instruction
  | _ => False

/-- A file is to be fixed according to the log of a build. -/
def Fixes (logs : String) : OracleRequest → Prop
  | .repairFile context => context.logs = logs
  | _ => False

/-- The application is to be patched according to the failures of a run. -/
def Patches (result : RunResult) : OracleRequest → Prop
  | .repairFiles context => context.failures = result.failureSummary
  | _ => False

variable {σ ω : Type}

/-- A world in which deeds were noted. -/
def World.logged (world : World σ) (log : List Deed) : World (σ × List Deed) where
  files := world.files
  outside := (world.outside, log)

@[simp] theorem World.logged_files (world : World σ) (log : List Deed) : (world.logged log).files = world.files := rfl

theorem World.logged_inj {world world' : World σ} {log log' : List Deed}
    (same : world.logged log = world'.logged log') : world = world' ∧ log = log' := by
  obtain ⟨files, outside⟩ := world
  obtain ⟨files', outside'⟩ := world'
  cases same
  exact ⟨rfl, rfl⟩

/-- The crew with notes of requests and builds. -/
def Crew.recorded (crew : Crew σ ω) : Crew (σ × List Deed) ω where
  page := beside.page crew.page
  oracle := { ask := fun request => noted (.asked request) (crew.oracle.ask request) }
  builder := { build := fun disk t =>
    let (answer, disk, s) := crew.builder.build disk t.1
    (answer, disk, (s, t.2 ++ [.built answer])) }
  host disk := beside.host (crew.host disk)

section

variable (crew : Crew σ ω) (options : Options) (moment : Moment) (world : World σ)

theorem ask_logged (request : OracleRequest) (log : List Deed) :
    (world.logged log).ask crew.recorded.oracle request = ((world.ask crew.oracle request).1,
      (world.ask crew.oracle request).2.logged (log ++ [.asked request (world.ask crew.oracle request).1])) := rfl

theorem build_logged (log : List Deed) : (world.logged log).build crew.recorded.builder =
    ((world.build crew.builder).1,
      (world.build crew.builder).2.logged (log ++ [.built (world.build crew.builder).1])) := rfl

/-- A run of the plan notes nothing. -/
theorem run_logged (log : List Deed) : (world.logged log).run crew.recorded options =
    ((world.run crew options).1, (world.run crew options).2.logged log) := by
  have tracked := Run.runFile_tracks (beside_lawful.page_tracks (world.outside, log) crew.page)
    (beside_lawful.host_tracks (world.outside, log) (crew.host world.files.disk)) options.run world.files.disk
    options.planPath world.outside
  exact congrArg (fun answer : RunResult × (σ × List Deed) => (answer.1, World.mk world.files answer.2)) tracked

/-- A plan is written with at most one request. -/
theorem generatePlan_logged (instruction : Option String) : ∃ asks,
    (∀ log, generatePlan crew.recorded.oracle options moment instruction (world.logged log) =
      ((generatePlan crew.oracle options moment instruction world).1,
        (generatePlan crew.oracle options moment instruction world).2.logged (log ++ asks))) ∧
    AtMostAsked (Plans instruction) asks := by
  unfold generatePlan
  dsimp only [World.logged_files]
  generalize currentPlan options world.files.disk = known
  simp only [ask_logged]
  cases known with
  | error e => exact ⟨[], fun log => by rw [List.append_nil], .inl rfl⟩
  | ok current =>
    let request : OracleRequest := .generatePlan (planContext options world.files.disk current instruction)
    refine ⟨_, fun log => ?_, .inr ⟨request, (world.ask crew.oracle request).1, rfl, rfl⟩⟩
    dsimp only [request]
    rcases world.ask crew.oracle _ with ⟨_ | reply, middle⟩ <;> rfl

/-- Only in the first iteration, and only if the user asks for something, a plan is asked for. -/
theorem renewPlan_logged (budget : Budget) : ∃ asks,
    (∀ log, renewPlan crew.recorded options moment budget (world.logged log) =
      ((renewPlan crew options moment budget world).1,
        (renewPlan crew options moment budget world).2.logged (log ++ asks))) ∧
    AtMostAsked (fun request => budget.iteration = 1 ∧ options.instruction.isSome = true ∧
      Plans options.instruction request) asks := by
  unfold renewPlan
  cases given : options.instruction with
  | none => exact ⟨[], fun log => by rw [List.append_nil], .inl rfl⟩
  | some instruction =>
    by_cases first : budget.iteration = 1
    · obtain ⟨asks, generated, shape⟩ := generatePlan_logged crew options moment world (some instruction)
      refine ⟨asks, fun log => ?_, shape.imp_right fun ⟨request, reply, asked, plans⟩ =>
        ⟨request, reply, asked, first, rfl, plans⟩⟩
      simp only [first, ne_eq, not_true_eq_false, if_false, generated log]
      rcases generatePlan crew.oracle options moment (some instruction) world with ⟨cause | _, after⟩
      · cases cause <;> rfl
      · rfl
    · refine ⟨[], fun log => ?_, .inl rfl⟩
      simp only [ne_eq, first, not_false_eq_true, if_true, List.append_nil]

/-- A plan that cannot be written stops the repair, unless that is the fault of the oracle. -/
theorem renewPlan_error {budget : Budget} {cause : Error} {after : World σ}
    (failed : renewPlan crew options moment budget world = (.error cause, after)) (e : OracleError) :
    cause ≠ .oracle e := by
  unfold renewPlan at failed
  split at failed
  · cases failed
  · split at failed
    · cases failed
    · split at failed
      · cases failed
      · cases failed
      · next other _ =>
        rintro rfl
        cases failed
        exact other e rfl

/-- A file is fixed with at most one request, which shows the log of the build. -/
theorem repairBuild_logged (logs : String) : ∃ asks,
    (∀ log, repairBuild crew.recorded.oracle options logs (world.logged log) =
      ((repairBuild crew.oracle options logs world).1,
        (repairBuild crew.oracle options logs world).2.logged (log ++ asks))) ∧
    AtMostAsked (Fixes logs) asks := by
  unfold repairBuild
  generalize brokenFile options logs = file
  simp only [World.logged_files, ask_logged]
  cases findBroken options world.files.disk file with
  | error e => exact ⟨[], fun log => by rw [List.append_nil], .inl rfl⟩
  | ok found =>
    obtain ⟨path, source⟩ := found
    let request : OracleRequest := .repairFile { logs, source, manifest := options.manifest world.files.disk }
    refine ⟨_, fun log => ?_, .inr ⟨request, (world.ask crew.oracle request).1, rfl, rfl⟩⟩
    dsimp only [request]
    rcases world.ask crew.oracle _ with ⟨_ | reply, middle⟩
    · rfl
    · simp only [World.logged_files]
      rcases middle.files.writeText path (Patch.stripFences reply) with ⟨_ | _, files⟩ <;> rfl

/-- The application is patched with at most one request, which shows the failures. -/
theorem repairTests_logged (result : RunResult) : ∃ asks,
    (∀ log, repairTests crew.recorded.oracle options result (world.logged log) =
      ((repairTests crew.oracle options result world).1,
        (repairTests crew.oracle options result world).2.logged (log ++ asks))) ∧
    AtMostAsked (Patches result) asks := by
  let request : OracleRequest := .repairFiles (testContext options world.files.disk result)
  refine ⟨_, fun log => ?_, .inr ⟨request, (world.ask crew.oracle request).1, rfl, rfl⟩⟩
  simp only [repairTests, World.logged_files, ask_logged, request]
  rcases world.ask crew.oracle _ with ⟨_ | reply, middle⟩
  · rfl
  · simp only [World.logged_files]
    rcases Patch.apply options.projectDir middle.files ((Patch.parse? reply).getD []) with ⟨_ | _, files⟩ <;> rfl

theorem mendBuild_logged (record : IterationRecord) (outcome : BuildOutcome) : ∃ asks,
    (∀ log, mendBuild crew.recorded options record outcome (world.logged log) =
      ((mendBuild crew options record outcome world).1, (mendBuild crew options record outcome world).2.1,
        (mendBuild crew options record outcome world).2.2.logged (log ++ asks))) ∧
    AtMostAsked (Fixes outcome.logs) asks := by
  obtain ⟨asks, repaired, shape⟩ := repairBuild_logged crew options world outcome.logs
  refine ⟨asks, fun log => ?_, shape⟩
  unfold mendBuild
  rw [repaired log]
  cases repairBuild crew.oracle options outcome.logs world with
  | mk answer after =>
    cases answer with
    | ok file => rfl
    | error cause => cases cause <;> rfl

theorem mendTests_logged (record : IterationRecord) (result : RunResult) : ∃ asks,
    (∀ log, mendTests crew.recorded options record result (world.logged log) =
      ((mendTests crew options record result world).1, (mendTests crew options record result world).2.1,
        (mendTests crew options record result world).2.2.logged (log ++ asks))) ∧
    AtMostAsked (Patches result) asks := by
  obtain ⟨asks, repaired, shape⟩ := repairTests_logged crew options world result
  refine ⟨asks, fun log => ?_, shape⟩
  unfold mendTests
  rw [repaired log]
  rcases repairTests crew.oracle options result world with ⟨cause | written, after⟩
  · cases cause <;> rfl
  · dsimp only
    split <;> rfl

/-- After a build that failed the repair goes on, unless something other than the oracle fails. -/
theorem mendBuild_verdict (record : IterationRecord) (outcome : BuildOutcome) :
    (mendBuild crew options record outcome world).1 = .again none ∨
      ∃ cause, (mendBuild crew options record outcome world).1 = .abort cause ∧ ∀ e, cause ≠ .oracle e := by
  unfold mendBuild
  cases repairBuild crew.oracle options outcome.logs world with
  | mk answer after =>
    cases answer with
    | ok file => exact .inl rfl
    | error cause =>
      cases cause with
      | oracle e => exact .inl rfl
      | _ => exact .inr ⟨_, rfl, fun _ same => by cases same⟩

/-- After a run that failed the repair goes on with its result, unless something other than the oracle fails. -/
theorem mendTests_verdict (record : IterationRecord) (result : RunResult) :
    (mendTests crew options record result world).1 = .again (some result) ∨
      ∃ cause, (mendTests crew options record result world).1 = .abort cause ∧ ∀ e, cause ≠ .oracle e := by
  unfold mendTests
  rcases repairTests crew.oracle options result world with ⟨cause | written, after⟩
  · cases cause with
    | oracle e => exact .inl rfl
    | _ => exact .inr ⟨_, rfl, fun _ same => by cases same⟩
  · dsimp only
    split <;> exact .inl rfl

/-- Keeping a record changes files only. -/
theorem keepRecord_logged (session : Option Session) (record : IterationRecord) (log : List Deed) :
    keepRecord session record (world.logged log) = (keepRecord session record world).logged log := by
  cases session <;> rfl

end

end UiCheck.Repair
