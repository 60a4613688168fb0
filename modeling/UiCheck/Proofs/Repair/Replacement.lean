import UiCheck.Proofs.Guard.Address
import UiCheck.Proofs.Guard.Backup
import UiCheck.Proofs.Repair.Writes

/-! # Replacing a plan

A plan is replaced in the order in which nothing can be lost: it is read, the oracle is asked, the text of the plan is
copied, and only then is the plan written. Whichever of these fails, the plan has its old text. Once all went well the
plan has the text that was accepted, its old text is in the backup if it said anything, and all else is as it was.
-/

namespace UiCheck.Guard

open Files

variable {ws after : Workspace} {moment : Moment} {path current updated : String} {prompt : Option String}

/-- What a guard that succeeds has done to the disk: it has copied a plan that says something. -/
inductive Saves (path current : String) (moment : Moment) (before : Disk) : Option String → Disk → Prop
  | blank : Text.allBlank current.toList = true → Saves path current moment before none before
  | copied {after : Disk} : Text.allBlank current.toList = false →
      before.write (backupPath path moment) current.toUTF8 = .ok after →
      Saves path current moment before (some (backupPath path moment)) after

theorem Guards.saves {outcome : Outcome}
    (guards : Guards ws moment path current updated prompt (.ok outcome) after) :
    Saves path current moment ws.disk outcome.backup after.disk := by
  cases guards with
  | blank blank => exact .blank blank
  | saved filled saved => exact .copied filled (Workspace.write_of_writeText saved)

theorem Guards.disk_of_error {cause : IoError}
    (guards : Guards ws moment path current updated prompt (.error cause) after) : after.disk = ws.disk := by
  cases guards with
  | failed _ failed => exact Workspace.disk_of_writeText_error failed

end UiCheck.Guard

namespace UiCheck.Repair

open Files Patch

section

variable {σ : Type} {oracle : Oracle σ} {options : Options} {moment : Moment} {instruction : Option String}
  {world final : World σ} {ws after : Workspace} {current generated : String}

/-- How a plan is replaced: it is written once it was guarded. -/
inductive Replacement (options : Options) (moment : Moment) (ws : Workspace) (current generated : String)
    (instruction : Option String) : Except Error Guard.Outcome → Workspace → Prop
  | unguarded {cause : IoError} {after : Workspace} :
      Guard.Guards ws moment options.planPath current generated instruction (.error cause) after →
      Replacement options moment ws current generated instruction (.error (.io cause)) after
  | unwritten {outcome : Guard.Outcome} {cause : IoError} {middle after : Workspace} :
      Guard.Guards ws moment options.planPath current generated instruction (.ok outcome) middle →
      middle.writeText options.planPath outcome.content = (.error cause, after) →
      Replacement options moment ws current generated instruction (.error (.io cause)) after
  | written {outcome : Guard.Outcome} {middle after : Workspace} :
      Guard.Guards ws moment options.planPath current generated instruction (.ok outcome) middle →
      middle.writeText options.planPath outcome.content = (.ok (), after) →
      Replacement options moment ws current generated instruction (.ok outcome) after

theorem replacement_of_replacePlan {answer : Except Error Guard.Outcome}
    (ran : replacePlan options moment ws current generated instruction = (answer, after)) :
    Replacement options moment ws current generated instruction answer after := by
  rw [replacePlan] at ran
  split at ran
  · next guarded =>
    cases ran
    exact .unguarded (Guard.guards_run guarded)
  · next guarded =>
    split at ran
    · next failed =>
      cases ran
      exact .unwritten (Guard.guards_run guarded) failed
    · next written =>
      cases ran
      exact .written (Guard.guards_run guarded) written

/-- How a new plan comes about: the current one is read, then the oracle is asked, then the reply replaces it. -/
inductive Renewal (oracle : Oracle σ) (options : Options) (moment : Moment) (instruction : Option String)
    (world : World σ) : Except Error Guard.Outcome → World σ → Prop
  | unread {cause : IoError} : currentPlan options world.files.disk = .error cause →
      Renewal oracle options moment instruction world (.error (.io cause)) world
  | unanswered {current : String} {cause : OracleError} {middle : World σ} :
      currentPlan options world.files.disk = .ok current →
      world.ask oracle (.generatePlan (planContext options world.files.disk current instruction)) =
        (.error cause, middle) →
      middle.files = world.files → Renewal oracle options moment instruction world (.error (.oracle cause)) middle
  | answered {current reply : String} {middle : World σ} {answer : Except Error Guard.Outcome} {after : Workspace} :
      currentPlan options world.files.disk = .ok current →
      world.ask oracle (.generatePlan (planContext options world.files.disk current instruction)) =
        (.ok reply, middle) →
      Replacement options moment world.files current (stripFences reply) instruction answer after →
      Renewal oracle options moment instruction world answer { middle with files := after }

theorem renewal_of_generatePlan {answer : Except Error Guard.Outcome}
    (ran : generatePlan oracle options moment instruction world = (answer, final)) :
    Renewal oracle options moment instruction world answer final := by
  unfold generatePlan at ran
  cases known : currentPlan options world.files.disk with
  | error cause =>
    rw [known] at ran
    cases ran
    exact .unread known
  | ok current =>
    let request : OracleRequest := .generatePlan (planContext options world.files.disk current instruction)
    have asked := ask_files oracle world request
    rw [known] at ran
    dsimp only at ran
    rcases answered : world.ask oracle request with ⟨cause | reply, middle⟩ <;> rw [answered] at asked ran
    · cases ran
      exact .unanswered known answered asked
    · dsimp only at ran asked
      rw [asked] at ran
      cases ran
      exact .answered known answered (replacement_of_replacePlan rfl)

/-- A plan that says something is there to be read. -/
theorem readText_of_currentPlan {disk : Disk} (known : currentPlan options disk = .ok current)
    (filled : Text.allBlank current.toList = false) : disk.readText options.planPath = .ok current := by
  rw [currentPlan] at known
  split at known
  · exact known
  · cases known
    cases filled

/-- What the guard saves leaves the plan as it was. -/
theorem read_of_saves {before after : Disk} {backup : Option String}
    (known : currentPlan options before = .ok current)
    (saves : Guard.Saves options.planPath current moment before backup after) :
    after.read options.planPath = before.read options.planPath := by
  cases saves with
  | blank => rfl
  | copied filled copied =>
    have read := readText_of_currentPlan known filled
    rw [Disk.read_of_readText read, Disk.read_of_readText (Disk.readText_of_copy read copied)]

/-- A replacement that fails leaves the plan as it was. -/
theorem Replacement.read_of_error {cause : Error} (known : currentPlan options ws.disk = .ok current)
    (replacement : Replacement options moment ws current generated instruction (.error cause) after) :
    after.disk.read options.planPath = ws.disk.read options.planPath := by
  cases replacement with
  | unguarded guards => rw [guards.disk_of_error]
  | unwritten guards failed => rw [Workspace.disk_of_writeText_error failed, read_of_saves known guards.saves]

/-- What a plan that was replaced leaves behind: its new text, a copy of the old one, and all else as it was. -/
structure Replaced (plan current content : String) (moment : Moment) (before : Disk) (backup : Option String)
    (after : Disk) : Prop where
  written : after.read plan = .ok content.toUTF8
  backup_eq : backup = if Text.allBlank current.toList then none else some (Guard.backupPath plan moment)
  saved : ∀ path, backup = some path → before.read plan = .ok current.toUTF8 ∧
    (¬ before.LandsOn path plan → after.read path = before.read plan)
  spared : before.SameBut (plan :: backup.toList) after

/-- Where there are no links the old text is in the backup, whatever is at its name. -/
theorem Replaced.read_backup {plan content path : String} {before after : Disk} {backup : Option String}
    (replaced : Replaced plan current content moment before backup after) (linkless : before.tree.Linkless)
    (saved : backup = some path) : after.read path = before.read plan := by
  obtain ⟨_, apart⟩ := replaced.saved path saved
  rw [replaced.backup_eq] at saved
  split at saved
  · cases saved
  · cases saved
    exact apart (Guard.not_landsOn_backupPath linkless plan moment)

theorem replaced_of_saves {before middle after : Disk} {backup : Option String} {content : String}
    (known : currentPlan options before = .ok current)
    (saves : Guard.Saves options.planPath current moment before backup middle)
    (replaced : middle.write options.planPath content.toUTF8 = .ok after) :
    Replaced options.planPath current content moment before backup after := by
  have written := Disk.read_of_readText (Disk.readText_of_write replaced)
  cases saves with
  | blank blank =>
    refine ⟨written, ?_, nofun, Disk.sameBut_of_write replaced⟩
    rw [blank, if_pos rfl]
  | copied filled copied =>
    have read := readText_of_currentPlan known filled
    refine ⟨written, ?_, ?_, Disk.sameBut_of_replaced read copied replaced⟩
    · rw [filled, if_neg Bool.false_ne_true]
    · intro path same
      cases same
      refine ⟨Disk.read_of_readText read, fun apart => ?_⟩
      rw [Disk.read_of_readText read, Disk.read_of_readText (Disk.readText_of_replaced read copied replaced apart)]

end

/-- Replacing a plan is safe for the plan. If it fails, the plan is as it was, and if the plan could not be read or the
oracle failed, nothing was written at all. If it succeeds, the plan has the reply without its fences, with the settings
of the old plan exactly if the reply cannot stand as it is. The old text is in the backup, which is there exactly if
that text is not blank; only a link that was put at the name of the backup and leads to the plan itself spoils it. All
that is elsewhere is as it was. -/
theorem generatePlan_safe {σ : Type} (oracle : Oracle σ) (options : Options) (moment : Moment)
    (instruction : Option String) (world : World σ) :
    (∀ cause, currentPlan options world.files.disk = .error cause →
      generatePlan oracle options moment instruction world = (.error (.io cause), world)) ∧
    (∀ cause final, generatePlan oracle options moment instruction world = (.error (.oracle cause), final) →
      final.files = world.files) ∧
    (∀ cause final, generatePlan oracle options moment instruction world = (.error cause, final) →
      final.files.disk.read options.planPath = world.files.disk.read options.planPath) ∧
    ∀ outcome final, generatePlan oracle options moment instruction world = (.ok outcome, final) →
      ∃ current reply, currentPlan options world.files.disk = .ok current ∧
        (world.ask oracle (.generatePlan (planContext options world.files.disk current instruction))).1 = .ok reply ∧
        (Guard.Unsound (stripFences reply) →
          outcome.content = Guard.preserveSettings current (stripFences reply)) ∧
        (¬ Guard.Unsound (stripFences reply) → outcome.content = stripFences reply) ∧
        Replaced options.planPath current outcome.content moment world.files.disk outcome.backup
          final.files.disk := by
  refine ⟨fun cause unread => ?_, fun cause final ran => ?_, fun cause final ran => ?_, fun outcome final ran => ?_⟩
  · unfold generatePlan
    rw [unread]
  · cases renewal_of_generatePlan ran with
    | unanswered _ _ same => exact same
    | answered _ _ replacement => cases replacement
  · cases renewal_of_generatePlan ran with
    | unread => rfl
    | unanswered _ _ same => rw [same]
    | answered known _ replacement => exact replacement.read_of_error known
  · cases renewal_of_generatePlan ran with
    | @answered current reply _ _ _ known answered replacement =>
      cases replacement with
      | written guards written =>
        have content := guards.content_eq
        refine ⟨current, reply, known, by rw [answered], fun unsound => ?_, fun sound => ?_, ?_⟩
        · rw [content, Guard.accepted_of_unsound unsound]
        · rw [content, Guard.accepted_of_not_unsound sound]
        · exact replaced_of_saves known guards.saves (Workspace.write_of_writeText written)

end UiCheck.Repair
