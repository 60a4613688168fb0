import UiCheck.Proofs.Patch.Apply
import UiCheck.Proofs.Repair.Writes

/-! # The edits of the phases

A phase that fails before the oracle has replied makes no edits. A new plan replaces the current one, which is saved
first if it says anything; a broken file is written once; a patch makes the edits that the blocks of the reply ask
for.
-/

namespace UiCheck.Repair

open Files Patch

/-- The edits that replace the text of a plan. Any of them may fail, and then those behind it are not made. -/
inductive Replaces (options : Options) (moment : Moment) (current : String) : List Edit → Prop
  | nothing : Replaces options moment current []
  | overwritten (content : ByteArray) : Text.allBlank current.toList = true →
      Replaces options moment current [.write options.planPath content]
  | saved : Replaces options moment current [.write (Guard.backupPath options.planPath moment) current.toUTF8]
  | replaced (content : ByteArray) : Replaces options moment current
      [.write (Guard.backupPath options.planPath moment) current.toUTF8, .write options.planPath content]

/-- A reply that patches files asks for the edit. -/
def AskedIn (root reply : String) (edit : Edit) : Prop :=
  ∃ update ∈ (parse? reply).getD [], Asks root update edit

/-- A file that a reply asks for is one that is accepted below the root. -/
theorem AskedIn.accepted {root reply path : String} {edit : Edit} (asked : AskedIn root reply edit)
    (written : edit.file? = some path) : ∃ relative, resolve? root relative = some path := by
  obtain ⟨update, _, target, accepted, rfl | ⟨above, rfl, _⟩⟩ := asked
  · cases written
    exact ⟨update.path, accepted⟩
  · cases written

section

variable {σ ω : Type} (oracle : Oracle σ) (options : Options) (moment : Moment) (world : World σ)

theorem exists_edited_replacePlan (ws : Workspace) (current generated : String) (instruction : Option String) :
    ∃ made, ws.Edited made (replacePlan options moment ws current generated instruction).2 ∧
      Replaces options moment current made := by
  rw [replacePlan, Guard.run]
  split
  · next guarded =>
    split at guarded
    · cases guarded
    · dsimp only at guarded
      split at guarded
      · next failed =>
        cases guarded
        exact ⟨[], Workspace.edited_of_writeText_error failed, .nothing⟩
      · cases guarded
  · next outcome middle guarded =>
    split at guarded
    · next blank =>
      cases guarded
      rcases written : ws.writeText options.planPath _ with ⟨_ | _, after⟩
      · exact ⟨[], Workspace.edited_of_writeText_error written, .nothing⟩
      · exact ⟨_, Workspace.edited_of_writeText written, .overwritten _ blank⟩
    · dsimp only at guarded
      split at guarded
      · cases guarded
      · next saved =>
        cases guarded
        have saved := Workspace.edited_of_writeText saved
        rcases written : middle.writeText options.planPath _ with ⟨_ | _, after⟩
        · exact ⟨_, saved.trans (Workspace.edited_of_writeText_error written), .saved⟩
        · exact ⟨_, saved.trans (Workspace.edited_of_writeText written), .replaced _⟩

theorem exists_edited_generatePlan (instruction : Option String) :
    ∃ made, world.files.Edited made (generatePlan oracle options moment instruction world).2.files ∧
      (made = [] ∨ ∃ current, currentPlan options world.files.disk = .ok current ∧
        Replaces options moment current made) := by
  unfold generatePlan
  cases known : currentPlan options world.files.disk with
  | error e => exact ⟨[], .refl _, .inl rfl⟩
  | ok current =>
    let request : OracleRequest := .generatePlan (planContext options world.files.disk current instruction)
    have asked := ask_files oracle world request
    dsimp only
    rcases answered : world.ask oracle request with ⟨_ | reply, middle⟩ <;> rw [answered] at asked
    · rw [← asked]
      exact ⟨[], .refl _, .inl rfl⟩
    · obtain ⟨made, edited, replaces⟩ :=
        exists_edited_replacePlan options moment middle.files current (stripFences reply) instruction
      rw [asked] at edited
      dsimp only
      rw [asked]
      exact ⟨made, edited, .inr ⟨current, rfl, replaces⟩⟩

/-- Only the first iteration makes a new plan, and only if there is an instruction. -/
theorem exists_edited_renewPlan (crew : Crew σ ω) (budget : Budget) :
    ∃ made, world.files.Edited made (renewPlan crew options moment budget world).2.files ∧
      (made = [] ∨ budget.iteration = 1 ∧ options.instruction.isSome = true ∧
        ∃ current, currentPlan options world.files.disk = .ok current ∧ Replaces options moment current made) := by
  rw [renewPlan]
  cases given : options.instruction with
  | none => exact ⟨[], .refl _, .inl rfl⟩
  | some instruction =>
    dsimp only
    split
    · exact ⟨[], .refl _, .inl rfl⟩
    · next first =>
      obtain ⟨made, edited, replaces⟩ :=
        exists_edited_generatePlan crew.oracle options moment world (some instruction)
      refine ⟨made, ?_, replaces.imp_right fun some => ⟨Decidable.not_not.mp first, rfl, some⟩⟩
      rcases generated : generatePlan crew.oracle options moment (some instruction) world with ⟨cause | _, after⟩ <;>
        rw [generated] at edited
      · cases cause <;> exact edited
      · exact edited

/-- How the fix of a broken file ends: the file is written, or nothing is. -/
inductive FileFixed (root file : String) : Except Error String → List Edit → Prop
  | written {path : String} (content : ByteArray) : resolve? root file = some path →
      FileFixed root file (.ok file) [.write path content]
  | failed {cause : Error} : (∀ path e, cause ≠ .patch (.io path e)) → FileFixed root file (.error cause) []

/-- Why a broken file is not found: its path is refused, it is not there, or it cannot be read. -/
theorem findBroken_error {disk : Disk} {file : String} {cause : Error}
    (missed : findBroken options disk file = .error cause) :
    cause = .patch (.unsafePath file) ∧ resolve? options.projectDir file = none ∨
      ∃ path, resolve? options.projectDir file = some path ∧
        (cause = .brokenFileMissing file ∧ disk.exists? path = false ∨
          ∃ e, cause = .io e ∧ disk.readText path = .error e) := by
  rw [findBroken, resolve] at missed
  cases accepted : resolve? options.projectDir file with
  | none =>
    rw [accepted] at missed
    cases missed
    exact .inl ⟨rfl, rfl⟩
  | some path =>
    rw [accepted] at missed
    dsimp only at missed
    refine .inr ⟨path, rfl, ?_⟩
    split at missed
    · next absent =>
      cases missed
      exact .inl ⟨rfl, by simpa using absent⟩
    · split at missed
      · next e unread =>
        cases missed
        exact .inr ⟨e, rfl, unread⟩
      · cases missed

theorem exists_edited_repairBuild (logs : String) :
    ∃ made, world.files.Edited made (repairBuild oracle options logs world).2.files ∧
      FileFixed options.projectDir (brokenFile options logs) (repairBuild oracle options logs world).1 made := by
  unfold repairBuild
  generalize brokenFile options logs = file
  dsimp only
  cases found : findBroken options world.files.disk file with
  | error cause =>
    refine ⟨[], .refl _, .failed ?_⟩
    rintro path e rfl
    rcases findBroken_error options found with ⟨same, _⟩ | ⟨_, _, ⟨same, _⟩ | ⟨_, same, _⟩⟩ <;> cases same
  | ok target =>
    obtain ⟨path, source⟩ := target
    let request : OracleRequest := .repairFile { logs, source, manifest := options.manifest world.files.disk }
    have asked := ask_files oracle world request
    dsimp only
    rcases answered : world.ask oracle request with ⟨e | reply, middle⟩ <;> rw [answered] at asked
    · rw [← asked]
      exact ⟨[], .refl _, .failed nofun⟩
    · dsimp only
      rw [asked]
      rcases written : world.files.writeText path (stripFences reply) with ⟨e | _, after⟩
      · exact ⟨[], Workspace.edited_of_writeText_error written, .failed nofun⟩
      · exact ⟨_, Workspace.edited_of_writeText written, .written _ (findBroken_found options found).1⟩

/-- How a patch of the application ends whose edits write these files. -/
inductive Patched (files : List String) : Except Error (List String) → Prop
  | written : Patched files (.ok files)
  | unanswered (e : OracleError) : files = [] → Patched files (.error (.oracle e))
  | failed (path : String) (e : IoError) : Patched files (.error (.patch (.io path e)))

theorem exists_edited_repairTests (result : RunResult) :
    ∃ made, world.files.Edited made (repairTests oracle options result world).2.files ∧
      (∀ edit ∈ made, ∃ reply, (world.ask oracle (.repairFiles (testContext options world.files.disk result))).1 =
        .ok reply ∧ AskedIn options.projectDir reply edit) ∧
      Patched (made.filterMap Edit.file?) (repairTests oracle options result world).1 := by
  let request : OracleRequest := .repairFiles (testContext options world.files.disk result)
  have asked := ask_files oracle world request
  rw [repairTests]
  rcases answered : world.ask oracle request with ⟨e | reply, middle⟩ <;> rw [answered] at asked
  · rw [← asked]
    exact ⟨[], .refl _, fun _ member => absurd member List.not_mem_nil, .unanswered e rfl⟩
  · obtain ⟨made, edited, wanted, ends⟩ :=
      exists_edited_apply options.projectDir middle.files ((parse? reply).getD [])
    dsimp only
    rw [asked] at edited ends ⊢
    rcases applied : Patch.apply options.projectDir world.files ((parse? reply).getD []) with ⟨answer, after⟩
    rw [applied] at edited ends
    cases ends with
    | written => exact ⟨made, edited, fun edit member => ⟨reply, rfl, wanted edit member⟩, .written⟩
    | failed path e => exact ⟨made, edited, fun edit member => ⟨reply, rfl, wanted edit member⟩, .failed path e⟩

end

end UiCheck.Repair
