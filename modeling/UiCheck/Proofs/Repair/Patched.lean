import UiCheck.Proofs.Files.Frame
import UiCheck.Proofs.Files.Way
import UiCheck.Proofs.Repair.Bound
import UiCheck.Proofs.Repair.Edits
import UiCheck.Proofs.Repair.Stages

/-! # The files that a record lists

A record lists the files that the fix of its iteration wrote, by their names below the root, and it lists no other
files. The one exception is a patch that fails after it has written some files: the iteration is stopped, and its
record lists none of them.
-/

namespace UiCheck.Repair

open Files Patch

/-- The error that stops an iteration. -/
def Verdict.cause? : Verdict → Option Error
  | .abort cause => some cause
  | _ => none

/-- The names are those of the paths below the root, in order. -/
def Lists (root : String) (names paths : List String) : Prop :=
  names.map (fun name => way (join root name)) = paths.map way

/-- An empty list of names is right only if nothing was written. -/
theorem lists_iff_of_nil {root : String} {names paths : List String} (unlisted : names = []) :
    Lists root names paths ↔ paths = [] := by
  rw [Lists, unlisted, List.map_nil, eq_comm, List.map_eq_nil_iff]

/-- Accepted paths are listed as they look from the root. -/
theorem lists_relativeTo {root : String} {paths : List String}
    (accepted : ∀ path ∈ paths, ∃ relative, resolve? root relative = some path) :
    Lists root (paths.map (relativeTo root)) paths := by
  rw [Lists, List.map_map, List.map_inj_left]
  intro path member
  obtain ⟨relative, inside⟩ := accepted path member
  have inside := inside_of_resolve? inside
  rw [Function.comp_apply, inside.joined, way_join_relativeTo root inside.relative]

theorem Lists.exists_of_mem {root name : String} {names paths : List String} (lists : Lists root names paths)
    (member : name ∈ names) : ∃ path ∈ paths, way (join root name) = way path := by
  have among : way (join root name) ∈ paths.map way := by
    rw [← lists]
    exact List.mem_map_of_mem member
  obtain ⟨path, written, same⟩ := List.mem_map.mp among
  exact ⟨path, written, same.symm⟩

/-- What a record lists of the files that were written: all of them, unless the iteration is stopped. Only a patch
stops it after a file was written. -/
inductive Accounts (root : String) (paths : List String) : Verdict → List String → Prop
  | listed {verdict : Verdict} {names : List String} :
      verdict.cause? = none → Lists root names paths → Accounts root paths verdict names
  | idle {cause : Error} {names : List String} : names = [] → paths = [] → Accounts root paths (.abort cause) names
  | lost {names : List String} (path : String) (e : IoError) :
      names = [] → Accounts root paths (.abort (.patch (.io path e))) names

section

variable {σ ω : Type} {crew : Crew σ ω} {options : Options} {moment : Moment} {world after : World σ}
  {record record' : IterationRecord} {verdict : Verdict}

theorem mendBuild_accounts {outcome : BuildOutcome} (unlisted : record.patched = [])
    (mended : mendBuild crew options record outcome world = (verdict, record', after)) :
    ∃ made, world.files.Edited made after.files ∧
      Accounts options.projectDir (made.filterMap Edit.file?) verdict record'.patched := by
  obtain ⟨made, edited, fixed⟩ := exists_edited_repairBuild crew.oracle options world outcome.logs
  refine ⟨made, ?_⟩
  unfold mendBuild at mended
  -- a record that is stopped would be unfolded down to the search of the log
  generalize Build.errorFile? outcome.logs = named at mended
  rcases repairing : repairBuild crew.oracle options outcome.logs world with ⟨answer, files⟩
  rw [repairing] at edited fixed mended
  cases fixed with
  | written content accepted =>
    cases mended
    have joined := (inside_of_resolve? accepted).joined
    refine ⟨edited, .listed rfl ?_⟩
    rw [joined]
    rfl
  | @failed cause unpatched =>
    cases cause with
    | oracle e =>
      cases mended
      exact ⟨edited, .listed rfl ((lists_iff_of_nil unlisted).mpr rfl)⟩
    | _ =>
      cases mended
      exact ⟨edited, .idle unlisted rfl⟩

theorem mendTests_accounts {result : RunResult} (unlisted : record.patched = [])
    (mended : mendTests crew options record result world = (verdict, record', after)) :
    ∃ made, world.files.Edited made after.files ∧
      Accounts options.projectDir (made.filterMap Edit.file?) verdict record'.patched := by
  obtain ⟨made, edited, wanted, patched⟩ := exists_edited_repairTests crew.oracle options world result
  refine ⟨made, ?_⟩
  have accepted : ∀ path ∈ made.filterMap Edit.file?, ∃ relative, resolve? options.projectDir relative = some path := by
    intro path member
    obtain ⟨edit, among, written⟩ := List.mem_filterMap.mp member
    obtain ⟨_, _, asked⟩ := wanted edit among
    exact asked.accepted written
  rw [mendTests] at mended
  rcases repairing : repairTests crew.oracle options result world with ⟨answer, files⟩
  rw [repairing] at edited patched mended
  generalize made.filterMap Edit.file? = paths at accepted patched ⊢
  cases patched with
  | written =>
    have listed := lists_relativeTo accepted
    dsimp only at mended
    split at mended <;> cases mended <;> exact ⟨edited, .listed rfl listed⟩
  | unanswered e none =>
    cases mended
    exact ⟨edited, .listed rfl ((lists_iff_of_nil unlisted).mpr none)⟩
  | failed path e =>
    cases mended
    exact ⟨edited, .lost path e unlisted⟩

theorem Entry.Stages.accounts {entry : Entry σ} (stages : entry.Stages crew options moment) :
    ∃ made, (entry.unfixed crew options moment).files.Edited made entry.after.files ∧
      Accounts options.projectDir (made.filterMap Edit.file?) entry.round.verdict entry.round.record.patched := by
  cases stages with
  | unplanned failed same verdict unlisted =>
    rw [Entry.unfixed_of_error failed, same, verdict]
    exact ⟨[], .refl _, .idle unlisted rfl⟩
  | unbuilt planned _ same verdict unlisted =>
    rw [Entry.unfixed_of_ok planned, same, verdict]
    exact ⟨[], .refl _, .idle unlisted rfl⟩
  | broken planned _ _ mended unlisted =>
    rw [Entry.unfixed_of_ok planned]
    exact mendBuild_accounts unlisted mended
  | passed planned _ same verdict unlisted =>
    rw [Entry.unfixed_of_ok planned, same, verdict]
    exact ⟨[], .refl _, .listed rfl ((lists_iff_of_nil unlisted).mpr rfl)⟩
  | failed planned _ tested mended unlisted =>
    rw [Entry.unfixed_of_ok planned, ← tested]
    exact mendTests_accounts unlisted mended

end

namespace Accounts

variable {root : String} {paths names : List String} {verdict : Verdict}

theorem lists_iff (accounts : Accounts root paths verdict names) :
    Lists root names paths ↔ verdict.cause? = none ∨ paths = [] := by
  cases accounts with
  | listed going lists => exact iff_of_true lists (.inl going)
  | idle unlisted none => exact iff_of_true ((lists_iff_of_nil unlisted).mpr none) (.inr none)
  | lost path e unlisted => exact (lists_iff_of_nil unlisted).trans (or_iff_right nofun).symm

theorem exists_of_mem {name : String} (accounts : Accounts root paths verdict names) (member : name ∈ names) :
    ∃ path ∈ paths, way (join root name) = way path := by
  cases accounts with
  | listed _ lists => exact lists.exists_of_mem member
  | idle unlisted | lost _ _ unlisted =>
    rw [unlisted] at member
    exact absurd member List.not_mem_nil

theorem of_cause {cause : Error} (accounts : Accounts root paths verdict names)
    (stopped : verdict.cause? = some cause) :
    names = [] ∧ (paths = [] ∨ ∃ path e, cause = .patch (.io path e)) := by
  cases accounts with
  | listed going => exact absurd (going.symm.trans stopped) nofun
  | idle unlisted none => exact ⟨unlisted, .inl none⟩
  | lost path e unlisted => exact ⟨unlisted, .inr ⟨path, e, (Option.some.inj stopped).symm⟩⟩

end Accounts

/-- The record of every iteration lists the files that its fix wrote, one for one and in order, unless the iteration
is stopped after some file was written; then it lists none, and it is a patch that failed. A file that was not written
is never listed. -/
theorem run_lists_writes {σ ω : Type} (crew : Crew σ ω) (session : Option Session) (options : Options) (moment : Moment)
    (world : World σ) :
    ∃ entries outcome final, run crew session options moment world = (outcome, final) ∧
      Chronicle crew session options moment options.maxIterations.toNat (.start options.maxIterations) world entries
        outcome final ∧
      ∀ entry ∈ entries, ∃ made paths, (entry.unfixed crew options moment).files.Edited made entry.after.files ∧
        made.filterMap Edit.file? = paths ∧
        (Lists options.projectDir entry.round.record.patched paths ↔
          entry.round.verdict.cause? = none ∨ paths = []) ∧
        (∀ cause, entry.round.verdict.cause? = some cause →
          entry.round.record.patched = [] ∧ (paths = [] ∨ ∃ path e, cause = .patch (.io path e))) ∧
        ∀ name ∈ entry.round.record.patched, ∃ path ∈ paths, way (join options.projectDir name) = way path := by
  obtain ⟨entries, outcome, final, ran, chronicle⟩ := exists_chronicle crew session options moment
    options.maxIterations.toNat (.start options.maxIterations) none world
  refine ⟨entries, outcome, final, ran, chronicle, fun entry member => ?_⟩
  obtain ⟨made, edited, accounts⟩ := (chronicle.stages entry member).accounts
  exact ⟨made, _, edited, rfl, accounts.lists_iff, fun _ stopped => accounts.of_cause stopped,
    fun _ listed => accounts.exists_of_mem listed⟩

/-- A crew whose builds pass and whose oracle answers every request with one text. -/
def parrotCrew (reply : String) : Crew MemoryPage Listener :=
  { absentCrew with
    oracle := { ask := fun _ s => (.ok reply, s) }
    builder := { build := fun disk s => (.ok .success, disk, s) } }

/-- A disk with a project that holds these entries. -/
def projectDisk (entries : Files.Entries) : Disk where
  tree := .directory [("p", .directory entries)]
  start := []

section

variable {entries : Files.Entries} {path name : String}

theorem locate_of_missing (admissible : Admissible path) (way : steps path = [.root, .name "p", .name name])
    (fits : ¬ nameLimit < name.utf8ByteSize) (missing : entries.lookup name = none) :
    (projectDisk entries).locate true path = .ok (.vacant ["p"] name) := by
  have named : ¬ nameLimit < "p".utf8ByteSize := by decide +kernel
  rw [Disk.locate_eq admissible, way]
  simp [walk, projectDisk, Node.get?, Node.child?, named, fits, missing]

theorem locate_of_file {content : ByteArray} (admissible : Admissible path)
    (way : steps path = [.root, .name "p", .name name]) (fits : ¬ nameLimit < name.utf8ByteSize)
    (file : entries.lookup name = some (.file content)) :
    (projectDisk entries).locate true path = .ok (.present [name, "p"] (.file content)) := by
  have named : ¬ nameLimit < "p".utf8ByteSize := by decide +kernel
  rw [Disk.locate_eq admissible, way]
  simp [walk, projectDisk, Node.get?, Node.child?, named, fits, file]

theorem ensureDirectory_project (entries : Files.Entries) (attempts : List Attempt) :
    (⟨projectDisk entries, attempts⟩ : Workspace).ensureDirectory "/p" = (.ok (), ⟨projectDisk entries, attempts⟩) := by
  have named : Disk.nameSteps "/p" = [.root, .name "p"] := by decide +kernel
  have way : steps "/p" = [.root, .name "p"] := by decide +kernel
  have fits : ¬ nameLimit < "p".utf8ByteSize := by decide +kernel
  have taken : (projectDisk entries).makeDirectory "/p" = .error .exists := by
    obtain ⟨filled, clean, short⟩ : Admissible "/p" := by decide +kernel
    rw [Disk.makeDirectory, if_neg filled, if_neg clean, if_neg short, named]
    simp [walk, projectDisk, Node.get?, Node.child?, fits]
  have directory : (projectDisk entries).isDirectory "/p" = true := by
    rw [Disk.isDirectory, Disk.node, Disk.locate_eq (by decide +kernel), way]
    simp [walk, projectDisk, Node.get?, Node.child?, fits, Node.isDirectory]
  exact Workspace.ensureDirectory_of_exists (by decide +kernel) taken directory

end

/-- A patch whose second file would lie in the first one. -/
def nestedPatch : String :=
  "--- FILE: a.ts ---\nx\n--- FILE: a.ts/b.ts ---\ny\n"

/-- A world with an empty project, which has no plan that could pass. -/
def bareWorld : World MemoryPage where
  files := .ofDisk (projectDisk [])
  outside := {}

/-- The world once the first file of the patch is written. -/
def filedWorld : World MemoryPage where
  files := ⟨projectDisk [("a.ts", .file "x".toUTF8)], [⟨"/p/a.ts", true⟩]⟩
  outside := {}

theorem writeText_bareWorld : bareWorld.files.writeText "/p/a.ts" "x" = (.ok (), filedWorld.files) := by
  have located : bareWorld.files.disk.locate true "/p/a.ts" = .ok (.vacant ["p"] "a.ts") :=
    locate_of_missing (by decide +kernel) (by decide +kernel) (by decide +kernel) rfl
  have place : bareWorld.files.disk.writable "/p/a.ts" = .ok ["a.ts", "p"] := by
    rw [Disk.writable, if_neg (by decide +kernel), located]
  exact Workspace.writeText_of_writable (by decide +kernel) place

/-- There is no directory where a file is. -/
theorem ensureDirectory_filedWorld :
    filedWorld.files.ensureDirectory "/p/a.ts" = (.error .exists, filedWorld.files) := by
  have named : Disk.nameSteps "/p/a.ts" = [.root, .name "p", .name "a.ts"] := by decide +kernel
  have fits : ¬ nameLimit < "p".utf8ByteSize ∧ ¬ nameLimit < "a.ts".utf8ByteSize := by decide +kernel
  have located : filedWorld.files.disk.locate true "/p/a.ts" = .ok (.present ["a.ts", "p"] (.file "x".toUTF8)) :=
    locate_of_file (by decide +kernel) (by decide +kernel) fits.2 rfl
  have taken : filedWorld.files.disk.makeDirectory "/p/a.ts" = .error .exists := by
    obtain ⟨filled, clean, short⟩ : Admissible "/p/a.ts" := by decide +kernel
    rw [Disk.makeDirectory, if_neg filled, if_neg clean, if_neg short, named]
    simp [walk, filedWorld, projectDisk, Node.get?, Node.child?, fits]
  have file : filedWorld.files.disk.isDirectory "/p/a.ts" = false := by
    rw [Disk.isDirectory, Disk.node, located]
    rfl
  rw [Workspace.ensureDirectory, Disk.ensureDirectory, Disk.makeDirectories, if_neg (by decide +kernel)]
  simp only [taken, file, Bool.false_eq_true, if_false]

theorem repairTests_bareWorld (result : RunResult) :
    repairTests (parrotCrew nestedPatch).oracle planEntry result bareWorld =
      (.error (.patch (.io "a.ts/b.ts" .exists)), filedWorld) := by
  have blocks : parse? nestedPatch = some [⟨"a.ts", "x"⟩, ⟨"a.ts/b.ts", "y"⟩] := by decide +kernel
  have outer : resolve? planEntry.projectDir "a.ts" = some "/p/a.ts" := by decide +kernel
  have inner : resolve? planEntry.projectDir "a.ts/b.ts" = some "/p/a.ts/b.ts" := by decide +kernel
  have first : writeUpdate bareWorld.files "/p/a.ts" "x" = (.ok (), filedWorld.files) := by
    have above : parent "/p/a.ts" = "/p" := by decide +kernel
    have there : bareWorld.files.ensureDirectory "/p" = (.ok (), bareWorld.files) := ensureDirectory_project [] []
    rw [writeUpdate, above, there]
    exact writeText_bareWorld
  have second : writeUpdate filedWorld.files "/p/a.ts/b.ts" "y" = (.error .exists, filedWorld.files) := by
    have above : parent "/p/a.ts/b.ts" = "/p/a.ts" := by decide +kernel
    rw [writeUpdate, above, ensureDirectory_filedWorld]
  have applied : apply planEntry.projectDir bareWorld.files ((parse? nestedPatch).getD []) =
      (.error (.io "a.ts/b.ts" .exists), filedWorld.files) := by
    rw [blocks]
    simp only [Option.getD_some, apply, applyFrom, outer, inner, first, second]
  simp only [repairTests, World.ask, parrotCrew, applied]
  rfl

theorem iterate_bareWorld : ∃ record : IterationRecord, record.patched = [] ∧
    iterate (parrotCrew nestedPatch) planEntry ⟨0⟩ (.start planEntry.maxIterations) bareWorld =
      (.abort (.patch (.io "a.ts/b.ts" .exists)), record, filedWorld) := by
  have plan : planEntry.planPath = "/p/vibe.yaml" := by decide +kernel
  have located : bareWorld.files.disk.locate true "/p/vibe.yaml" = .ok (.vacant ["p"] "vibe.yaml") :=
    locate_of_missing (by decide +kernel) (by decide +kernel) (by decide +kernel) rfl
  have planless : bareWorld.files.disk.exists? "/p/vibe.yaml" = false := by
    rw [Disk.exists?, Disk.node, located]
  obtain ⟨result, failed, ran⟩ : ∃ result, result.success = false ∧
      bareWorld.run (parrotCrew nestedPatch) planEntry = (result, bareWorld) :=
    ⟨_, rfl, by rw [World.run, Run.runFile, Plan.load, plan, planless]; rfl⟩
  have renewed : renewPlan (parrotCrew nestedPatch) planEntry ⟨0⟩ (.start planEntry.maxIterations) bareWorld =
      (.ok none, bareWorld) := rfl
  have built : bareWorld.build (parrotCrew nestedPatch).builder = (.ok .success, bareWorld) := rfl
  refine ⟨stopped { iteration := 1, buildPassed := true, result := some result }
    (.patch (.io "a.ts/b.ts" .exists)), rfl, ?_⟩
  simp only [iterate, renewed, built, BuildOutcome.isSuccess, if_true, checkPlan, ran, failed, Bool.false_eq_true,
    if_false, mendTests, repairTests_bareWorld]
  rfl

/-- A patch that fails hides what it wrote. -/
theorem run_hides_write : ∃ entry final,
    run (parrotCrew nestedPatch) none planEntry ⟨0⟩ bareWorld =
      (some (.aborted 1 (.patch (.io "a.ts/b.ts" .exists))), final) ∧
    Chronicle (parrotCrew nestedPatch) none planEntry ⟨0⟩ planEntry.maxIterations.toNat
      (.start planEntry.maxIterations) bareWorld [entry] (some (.aborted 1 (.patch (.io "a.ts/b.ts" .exists)))) final ∧
    (entry.unfixed (parrotCrew nestedPatch) planEntry ⟨0⟩).files.Edited [.write "/p/a.ts" "x".toUTF8]
      entry.after.files ∧
    entry.round.record.patched = [] ∧ ¬ Lists planEntry.projectDir entry.round.record.patched ["/p/a.ts"] := by
  obtain ⟨record, unlisted, iterated⟩ := iterate_bareWorld
  obtain ⟨round, after, happens, told, _⟩ := exists_round (parrotCrew nestedPatch) planEntry ⟨0⟩
    (.start planEntry.maxIterations) bareWorld
  obtain ⟨verdict, rest⟩ := Prod.mk.inj (told.symm.trans iterated)
  obtain ⟨rfl, rfl⟩ := Prod.mk.inj rest
  have ended : Chronicle (parrotCrew nestedPatch) none planEntry ⟨0⟩ planEntry.maxIterations.toNat
      (.start planEntry.maxIterations) bareWorld [⟨round, bareWorld, filedWorld⟩]
      (some (.aborted round.number (.patch (.io "a.ts/b.ts" .exists)))) filedWorld := .aborted rfl happens verdict
  rw [happens.number] at ended
  have written := Workspace.edited_of_writeText writeText_bareWorld
  refine ⟨⟨round, bareWorld, filedWorld⟩, filedWorld, ?_, ended, written, unlisted, ?_⟩
  · have limit : planEntry.maxIterations.toNat = 5 := rfl
    rw [run, limit, loop, iterated]
    rfl
  · rw [lists_iff_of_nil unlisted]
    exact List.cons_ne_nil _ _

end UiCheck.Repair
