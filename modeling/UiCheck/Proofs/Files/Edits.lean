import UiCheck.Files.Disk
import UiCheck.Files.Tree

/-! # Edits that were made

What a program does to a disk is told by the files that it writes and the directories that it makes, one by one. An
operation that fails has made what came before the failure: a file that cannot be written is not there, but the
directories on the way to it may be.
-/

namespace UiCheck.Files

/-- The file that an edit writes. -/
def Edit.file? : Edit → Option String
  | .write path _ => some path
  | _ => none

/-- The edit succeeds on a disk and leaves another one. -/
inductive Edit.Makes : Edit → Disk → Disk → Prop
  | write {disk after : Disk} {path : String} {content : ByteArray} :
      disk.write path content = .ok after → (Edit.write path content).Makes disk after
  | makeDirectory {disk after : Disk} {path : String} :
      disk.makeDirectory path = .ok after → (Edit.makeDirectory path).Makes disk after

/-- One disk comes from another by these edits, in this order. -/
inductive Disk.Edited : Disk → List Edit → Disk → Prop
  | nil (disk : Disk) : Disk.Edited disk [] disk
  | cons {disk middle after : Disk} {edit : Edit} {made : List Edit} :
      edit.Makes disk middle → Disk.Edited middle made after → Disk.Edited disk (edit :: made) after

/-- One path is another one or the parent of such a path. -/
inductive Above : String → String → Prop
  | self (path : String) : Above path path
  | parent {path above : String} : Above (parent path) above → Above path above

/-- The edits make directories at or above a path. -/
def Paves (path : String) (made : List Edit) : Prop :=
  ∀ edit ∈ made, ∃ above, edit = .makeDirectory above ∧ Above path above

namespace Disk

variable {disk middle after : Disk} {made more : List Edit} {edit : Edit}

theorem Edited.single (makes : edit.Makes disk after) : disk.Edited [edit] after :=
  .cons makes (.nil after)

theorem Edited.trans (first : disk.Edited made middle) (second : middle.Edited more after) :
    disk.Edited (made ++ more) after := by
  induction first with
  | nil => exact second
  | cons makes _ ih => exact .cons makes (ih second)

/-- Directories are made from the top down, whether the last one is made or not. -/
theorem makeDirectories_edited (fuel : Nat) (disk : Disk) (path : String) :
    ∃ made, disk.Edited made (disk.makeDirectories fuel path).2 ∧ Paves path made := by
  have none {disk : Disk} {path : String} : disk.Edited [] disk ∧ Paves path [] :=
    ⟨.nil disk, fun _ member => absurd member List.not_mem_nil⟩
  have one {disk after : Disk} {path : String} (made : disk.makeDirectory path = .ok after) :
      disk.Edited [.makeDirectory path] after ∧ Paves path [.makeDirectory path] :=
    ⟨.single (.makeDirectory made), fun edit member => ⟨path, List.mem_singleton.mp member, .self path⟩⟩
  induction fuel generalizing disk path with
  | zero => exact ⟨[], none⟩
  | succ fuel ih =>
    rw [makeDirectories]
    split
    · exact ⟨[], none⟩
    · split
      · next made => exact ⟨_, one made⟩
      · obtain ⟨above, edited, paves⟩ := ih disk (parent path)
        have higher : Paves path above := fun edit member =>
          (paves edit member).imp fun _ both => ⟨both.1, .parent both.2⟩
        split
        · next upper =>
          rw [upper] at edited
          exact ⟨above, edited, higher⟩
        · next upper =>
          rw [upper] at edited
          split
          · next made =>
            obtain ⟨last, lowest⟩ := one made
            refine ⟨_, edited.trans last, fun edit member => ?_⟩
            exact (List.mem_append.mp member).elim (higher edit) (lowest edit)
          · exact ⟨above, edited, higher⟩
      · exact ⟨[], none⟩

end Disk

theorem Paves.files {path : String} {made : List Edit} (paves : Paves path made) : made.filterMap Edit.file? = [] := by
  rw [List.filterMap_eq_nil_iff]
  intro edit member
  obtain ⟨above, rfl, _⟩ := paves edit member
  rfl

/-- Between two workspaces writes of these files were recorded as successful, in this order. -/
def Workspace.Recorded (before : Workspace) (files : List String) (after : Workspace) : Prop :=
  ∃ attempts, after.attempts = attempts ++ before.attempts ∧
    (attempts.filter (·.succeeded)).map (·.path) = files.reverse

/-- One workspace comes from another by these edits, and the writes among them were recorded. -/
structure Workspace.Edited (before : Workspace) (made : List Edit) (after : Workspace) : Prop where
  disk : before.disk.Edited made after.disk
  recorded : before.Recorded (made.filterMap Edit.file?) after

namespace Workspace

variable {before middle after : Workspace} {made more : List Edit} {files files' : List String} {path text : String}
  {e : IoError}

theorem Recorded.of_attempts (same : after.attempts = before.attempts) : before.Recorded [] after :=
  ⟨[], same, rfl⟩

theorem Recorded.trans (first : before.Recorded files middle) (second : middle.Recorded files' after) :
    before.Recorded (files ++ files') after := by
  obtain ⟨attempts, journal, among⟩ := first
  obtain ⟨attempts', journal', among'⟩ := second
  refine ⟨attempts' ++ attempts, ?_, ?_⟩
  · rw [journal', journal, List.append_assoc]
  · rw [List.filter_append, List.map_append, among', among, List.reverse_append]

theorem Edited.refl (ws : Workspace) : ws.Edited [] ws :=
  ⟨.nil ws.disk, .of_attempts rfl⟩

theorem Edited.trans (first : before.Edited made middle) (second : middle.Edited more after) :
    before.Edited (made ++ more) after := by
  refine ⟨first.disk.trans second.disk, ?_⟩
  rw [List.filterMap_append]
  exact first.recorded.trans second.recorded

/-- Between a workspace and itself no file was written. -/
theorem Edited.files_of_self {ws : Workspace} (edited : ws.Edited made ws) : made.filterMap Edit.file? = [] := by
  obtain ⟨attempts, journal, among⟩ := edited.recorded
  rw [List.self_eq_append_left.mp journal] at among
  exact List.reverse_eq_nil_iff.mp among.symm

theorem write_of_writeText (written : before.writeText path text = (.ok (), after)) :
    before.disk.write path text.toUTF8 = .ok after.disk := by
  rw [writeText] at written
  split at written
  · next disk done =>
    cases written
    exact done
  · cases written

theorem disk_of_writeText_error (failed : before.writeText path text = (.error e, after)) :
    after.disk = before.disk := by
  rw [writeText] at failed
  split at failed <;> cases failed
  rfl

theorem edited_of_writeText (written : before.writeText path text = (.ok (), after)) :
    before.Edited [.write path text.toUTF8] after := by
  rw [writeText] at written
  split at written
  · next disk done =>
    cases written
    exact ⟨.single (.write done), [⟨path, true⟩], rfl, rfl⟩
  · cases written

theorem edited_of_writeText_error (failed : before.writeText path text = (.error e, after)) :
    before.Edited [] after := by
  rw [writeText] at failed
  split at failed
  · cases failed
  · cases failed
    exact ⟨.nil before.disk, [⟨path, false⟩], rfl, rfl⟩

theorem exists_edited_ensureDirectory (ws : Workspace) (path : String) :
    ∃ made, ws.Edited made (ws.ensureDirectory path).2 ∧ Paves path made := by
  obtain ⟨made, edited, paves⟩ := Disk.makeDirectories_edited (path.length + 1) ws.disk path
  refine ⟨made, ⟨edited, ?_⟩, paves⟩
  rw [paves.files]
  exact .of_attempts rfl

end Workspace

end UiCheck.Files
