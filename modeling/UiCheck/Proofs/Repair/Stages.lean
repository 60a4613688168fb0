import UiCheck.Proofs.Repair.Writes

/-! # The stages of a round

A round takes care of the plan, builds the project and may then make a fix. `Entry.planned` and `Entry.built` are the
worlds behind the first two stages, and `Entry.Stages` says how the round ends from there on, without the notes that a
recorded crew takes.
-/

namespace UiCheck.Repair

variable {σ ω : Type}

section

variable {crew : Crew σ ω} {options : Options} {moment : Moment} {world after : World σ} {notes : List Deed}

theorem renewPlan_of_recorded {budget : Budget} {answer : Except Error (Option String)}
    (renewed : renewPlan crew.recorded options moment budget (world.logged []) = (answer, after.logged notes)) :
    renewPlan crew options moment budget world = (answer, after) := by
  obtain ⟨asks, plain, _⟩ := renewPlan_logged crew options moment world budget
  rw [plain []] at renewed
  obtain ⟨same, worlds⟩ := Prod.mk.inj renewed
  exact Prod.ext same (World.logged_inj worlds).1

theorem mendBuild_of_recorded {record record' : IterationRecord} {outcome : BuildOutcome} {verdict : Verdict}
    (mended : mendBuild crew.recorded options record outcome (world.logged []) =
      (verdict, record', after.logged notes)) :
    mendBuild crew options record outcome world = (verdict, record', after) := by
  obtain ⟨asks, plain, _⟩ := mendBuild_logged crew options world record outcome
  rw [plain []] at mended
  obtain ⟨same, rest⟩ := Prod.mk.inj mended
  obtain ⟨records, worlds⟩ := Prod.mk.inj rest
  exact Prod.ext same (Prod.ext records (World.logged_inj worlds).1)

theorem mendTests_of_recorded {record record' : IterationRecord} {result : RunResult} {verdict : Verdict}
    (mended : mendTests crew.recorded options record result (world.logged []) =
      (verdict, record', after.logged notes)) :
    mendTests crew options record result world = (verdict, record', after) := by
  obtain ⟨asks, plain, _⟩ := mendTests_logged crew options world record result
  rw [plain []] at mended
  obtain ⟨same, rest⟩ := Prod.mk.inj mended
  obtain ⟨records, worlds⟩ := Prod.mk.inj rest
  exact Prod.ext same (Prod.ext records (World.logged_inj worlds).1)

theorem files_of_run {result : RunResult} (tested : world.run crew options = (result, after)) :
    after.files = world.files := by
  rw [← run_files crew options world, tested]

end

/-- Of the budget the making of a plan looks at the count only. -/
theorem renewPlan_congr (crew : Crew σ ω) (options : Options) (moment : Moment) {budget budget' : Budget}
    (same : budget.iteration = budget'.iteration) (world : World σ) :
    renewPlan crew options moment budget world = renewPlan crew options moment budget' world := by
  rw [renewPlan, renewPlan, same]

section

variable (crew : Crew σ ω) (options : Options) (moment : Moment) (entry : Entry σ)

/-- The answer of the stage that takes care of the plan, and the world behind it. -/
def Entry.planning : Except Error (Option String) × World σ :=
  renewPlan crew options moment ⟨UInt32.ofNat entry.round.number, options.maxIterations⟩ entry.before

/-- The world once the plan is taken care of. -/
def Entry.planned : World σ :=
  (entry.planning crew options moment).2

/-- The answer of the build, and the world behind it. -/
def Entry.building : Except IoError BuildOutcome × World σ :=
  (entry.planned crew options moment).build crew.builder

/-- The world once the project is built. -/
def Entry.built : World σ :=
  (entry.building crew options moment).2

/-- The world from which nothing follows but a fix: the project is built, unless a round stops before that. -/
def Entry.unfixed : World σ :=
  match (entry.planning crew options moment).1 with
  | .ok _ => entry.built crew options moment
  | .error _ => entry.planned crew options moment

/-- How a round ends: with a stage that fails, with a run that passes, or with a fix. -/
inductive Entry.Stages : Prop
  | unplanned {cause : Error} :
      (entry.planning crew options moment).1 = .error cause → entry.after = entry.planned crew options moment →
      entry.round.verdict = .abort cause → entry.round.record.patched = [] → Stages
  | unbuilt {note : Option String} {e : IoError} :
      (entry.planning crew options moment).1 = .ok note → (entry.building crew options moment).1 = .error e →
      entry.after = entry.built crew options moment → entry.round.verdict = .abort (.build e) →
      entry.round.record.patched = [] → Stages
  | broken {note : Option String} {outcome : BuildOutcome} {record : IterationRecord} :
      (entry.planning crew options moment).1 = .ok note → (entry.building crew options moment).1 = .ok outcome →
      outcome.isSuccess = false →
      mendBuild crew options record outcome (entry.built crew options moment) =
        (entry.round.verdict, entry.round.record, entry.after) → record.patched = [] → Stages
  | passed {note : Option String} {result : RunResult} :
      (entry.planning crew options moment).1 = .ok note → (entry.building crew options moment).1 = .ok .success →
      entry.after.files = (entry.built crew options moment).files → entry.round.verdict = .pass result →
      entry.round.record.patched = [] → Stages
  | failed {note : Option String} {result : RunResult} {record : IterationRecord} {tested : World σ} :
      (entry.planning crew options moment).1 = .ok note → (entry.building crew options moment).1 = .ok .success →
      tested.files = (entry.built crew options moment).files →
      mendTests crew options record result tested = (entry.round.verdict, entry.round.record, entry.after) →
      record.patched = [] → Stages

end

section

variable {crew : Crew σ ω} {options : Options} {moment : Moment} {budget : Budget} {entry : Entry σ}
  {planned : World σ} {answer : Except Error (Option String)} {asks : List Deed}

theorem Entry.unfixed_of_ok {note : Option String} (planned : (entry.planning crew options moment).1 = .ok note) :
    entry.unfixed crew options moment = entry.built crew options moment := by
  rw [Entry.unfixed, planned]

theorem Entry.unfixed_of_error {cause : Error} (failed : (entry.planning crew options moment).1 = .error cause) :
    entry.unfixed crew options moment = entry.planned crew options moment := by
  rw [Entry.unfixed, failed]

theorem planning_eq (number : entry.round.number = budget.iteration.toNat)
    (renewed : renewPlan crew.recorded options moment budget (entry.before.logged []) =
      (answer, planned.logged asks)) : entry.planning crew options moment = (answer, planned) := by
  rw [Entry.planning, ← renewPlan_of_recorded renewed]
  refine renewPlan_congr crew options moment ?_ entry.before
  rw [number]
  exact UInt32.ofNat_toNat

theorem building_eq (number : entry.round.number = budget.iteration.toNat)
    (renewed : renewPlan crew.recorded options moment budget (entry.before.logged []) =
      (answer, planned.logged asks)) : entry.building crew options moment = planned.build crew.builder := by
  rw [Entry.building, Entry.planned, planning_eq number renewed]

theorem built_eq {answer : Except IoError BuildOutcome} {built : World σ}
    (building : entry.building crew options moment = (answer, built)) : entry.built crew options moment = built :=
  congrArg Prod.snd building

theorem Round.Happens.stages (happens : entry.round.Happens crew options moment budget entry.before entry.after) :
    entry.Stages crew options moment := by
  have number := happens.number
  obtain ⟨round, before, after⟩ := entry
  cases happens with
  | unplanned renewed =>
    have planning := planning_eq number renewed
    exact .unplanned (congrArg Prod.fst planning) (congrArg Prod.snd planning).symm rfl rfl
  | unbuilt renewed built =>
    have planning := planning_eq number renewed
    have building := (building_eq number renewed).trans built
    exact .unbuilt (congrArg Prod.fst planning) (congrArg Prod.fst building) (built_eq building).symm rfl rfl
  | broken renewed built failed mended =>
    have planning := planning_eq number renewed
    have building := (building_eq number renewed).trans built
    have mended := mendBuild_of_recorded mended
    rw [← built_eq building] at mended
    exact .broken (congrArg Prod.fst planning) (congrArg Prod.fst building) failed mended rfl
  | passed renewed built tested success =>
    have planning := planning_eq number renewed
    have building := (building_eq number renewed).trans built
    have files := files_of_run tested
    rw [← built_eq building] at files
    exact .passed (congrArg Prod.fst planning) (congrArg Prod.fst building) files rfl rfl
  | failed renewed built tested failed mended =>
    have planning := planning_eq number renewed
    have building := (building_eq number renewed).trans built
    have files := files_of_run tested
    rw [← built_eq building] at files
    exact .failed (congrArg Prod.fst planning) (congrArg Prod.fst building) files (mendTests_of_recorded mended) rfl

theorem Chronicle.stages {session : Option Session} {fuel : Nat} {world final : World σ} {entries : List (Entry σ)}
    {outcome : Option Outcome}
    (chronicle : Chronicle crew session options moment fuel budget world entries outcome final) :
    ∀ entry ∈ entries, entry.Stages crew options moment := by
  intro entry member
  obtain ⟨_, happens⟩ := chronicle.happens entry member
  exact happens.stages

end

end UiCheck.Repair
