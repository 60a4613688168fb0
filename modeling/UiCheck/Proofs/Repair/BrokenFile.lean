import UiCheck.Proofs.Build.Log
import UiCheck.Proofs.Files.Frame
import UiCheck.Proofs.Patch.Accepted
import UiCheck.Proofs.Repair.Edits

/-! # Fixing the file that a build log names

A file that a log names is accepted below every root, so only the entry file of the options can be refused. A file is
looked for before the oracle is asked, and is written only with a reply. Up to then nothing is changed, and a fix
changes the one file that it names, which was there before.
-/

namespace UiCheck.Repair

open Files Patch

/-- What an oracle that fixes a broken file is asked. -/
def fixRequest (options : Options) (logs source : String) (disk : Disk) : OracleRequest :=
  .repairFile { logs, source, manifest := options.manifest disk }

section

variable {options : Options} {logs named : String}

/-- A file that a log names is a dot, a slash and a path that stays below every root. -/
theorem brokenFile_of_errorFile? (found : Build.errorFile? logs = some named) :
    named = "./" ++ brokenFile options logs ∧ staysInside (brokenFile options logs) = true := by
  obtain ⟨chars, searched, rfl⟩ := Option.map_eq_some_iff.mp found
  obtain ⟨path, rfl, source⟩ := Build.exists_of_findSourcePath? searched
  have file : brokenFile options logs = String.ofList path := by
    have stripped : Text.after? "./".toList (['.', '/'] ++ path) = some path := Text.after?_append _ _
    unfold brokenFile
    rw [found]
    simp only [Option.getD_some, String.toList_ofList, stripped]
  rw [file]
  refine ⟨?_, source.staysInside⟩
  rw [String.ofList_append]

/-- A file that a log names is accepted below every root. -/
theorem resolve?_brokenFile (found : Build.errorFile? logs = some named) :
    resolve? options.projectDir (brokenFile options logs) =
      some (join options.projectDir (brokenFile options logs)) := by
  rw [resolve?, if_pos (brokenFile_of_errorFile? found).2]

/-- If a log names no file, the entry file is fixed. -/
theorem entryFile_of_errorFile?_eq_none (unnamed : Build.errorFile? logs = none) :
    options.entryFile = brokenFile options logs ∨ options.entryFile = "./" ++ brokenFile options logs := by
  unfold brokenFile
  rw [unnamed, Option.getD_none]
  dsimp only
  split
  · next rest stripped =>
    refine .inr ?_
    rw [← String.toList_inj, Text.after?_eq_some_iff.mp stripped]
    simp only [String.toList_append, String.toList_ofList]
  · exact .inl rfl

end

section

variable {σ : Type} {oracle : Oracle σ} {options : Options} {logs file : String} {world final : World σ}

/-- How a broken file is fixed: it is found and read, then the oracle is asked, then the reply takes its place. -/
inductive Mending (oracle : Oracle σ) (options : Options) (logs file : String) (world : World σ) :
    Except Error String → World σ → Prop
  | unfound {cause : Error} : findBroken options world.files.disk file = .error cause →
      Mending oracle options logs file world (.error cause) world
  | unanswered {target source : String} {cause : OracleError} {middle : World σ} :
      findBroken options world.files.disk file = .ok (target, source) →
      world.ask oracle (fixRequest options logs source world.files.disk) = (.error cause, middle) →
      middle.files = world.files → Mending oracle options logs file world (.error (.oracle cause)) middle
  | unwritten {target source reply : String} {cause : IoError} {middle : World σ} {after : Workspace} :
      findBroken options world.files.disk file = .ok (target, source) →
      world.ask oracle (fixRequest options logs source world.files.disk) = (.ok reply, middle) →
      world.files.writeText target (stripFences reply) = (.error cause, after) →
      Mending oracle options logs file world (.error (.io cause)) { middle with files := after }
  | written {target source reply : String} {middle : World σ} {after : Workspace} :
      findBroken options world.files.disk file = .ok (target, source) →
      world.ask oracle (fixRequest options logs source world.files.disk) = (.ok reply, middle) →
      world.files.writeText target (stripFences reply) = (.ok (), after) →
      Mending oracle options logs file world (.ok file) { middle with files := after }

theorem mending_of_repairBuild {answer : Except Error String}
    (ran : repairBuild oracle options logs world = (answer, final)) :
    Mending oracle options logs (brokenFile options logs) world answer final := by
  unfold repairBuild at ran
  generalize brokenFile options logs = file at ran ⊢
  dsimp only at ran
  cases found : findBroken options world.files.disk file with
  | error cause =>
    rw [found] at ran
    cases ran
    exact .unfound found
  | ok pair =>
    obtain ⟨target, source⟩ := pair
    have asked := ask_files oracle world (fixRequest options logs source world.files.disk)
    rw [found] at ran
    dsimp only at ran
    rw [← fixRequest] at ran
    rcases answered : world.ask oracle (fixRequest options logs source world.files.disk) with ⟨cause | reply, middle⟩ <;>
      rw [answered] at asked ran
    · cases ran
      exact .unanswered found answered asked
    · dsimp only at ran asked
      rw [asked] at ran
      rcases written : world.files.writeText target (stripFences reply) with ⟨cause | _, after⟩ <;> rw [written] at ran
      · cases ran
        exact .unwritten found answered written
      · cases ran
        exact .written found answered written

/-- What fails changes nothing on the disk. -/
theorem Mending.disk_of_error {cause : Error} (mending : Mending oracle options logs file world (.error cause) final) :
    final.files.disk = world.files.disk := by
  cases mending with
  | unfound => rfl
  | unanswered _ _ same => rw [same]
  | unwritten _ _ failed => exact Workspace.disk_of_writeText_error failed

/-- A path is refused before anything is done. -/
theorem Mending.refused {path : String}
    (mending : Mending oracle options logs file world (.error (.patch (.unsafePath path))) final) :
    path = file ∧ resolve? options.projectDir file = none := by
  cases mending with
  | unfound missed =>
    rcases findBroken_error options missed with ⟨same, refused⟩ | ⟨_, _, ⟨same, _⟩ | ⟨_, same, _⟩⟩ <;> cases same
    exact ⟨rfl, refused⟩

/-- A file that is not there is missed before the oracle is asked. -/
theorem repairBuild_missing {target : String}
    (accepted : resolve? options.projectDir (brokenFile options logs) = some target)
    (absent : world.files.disk.exists? target = false) :
    repairBuild oracle options logs world = (.error (.brokenFileMissing (brokenFile options logs)), world) := by
  unfold repairBuild
  generalize brokenFile options logs = file at accepted ⊢
  have missed : findBroken options world.files.disk file = .error (.brokenFileMissing file) := by
    simp only [findBroken, resolve, accepted, absent, Bool.not_false, if_true]
  dsimp only
  rw [missed]

/-- A file that was there holds a new text, and is read by its path; all else is as it was. -/
structure Overwrites (before after : Disk) (target source code : String) (place : List String) : Prop where
  there : before.locate true target = .ok (.present place (.file source.toUTF8))
  replaced : after.locate true target = .ok (.present place (.file code.toUTF8))
  read : after.readText target = .ok code
  others : ∀ names, names ≠ place.reverse → Node.faceAt names after.tree = Node.faceAt names before.tree

theorem Mending.overwrites {answer : String} (mending : Mending oracle options logs file world (.ok answer) final) :
    answer = file ∧ ∃ target source reply place, resolve options.projectDir file = .ok target ∧
      (world.ask oracle (fixRequest options logs source world.files.disk)).1 = .ok reply ∧
      Overwrites world.files.disk final.files.disk target source (stripFences reply) place := by
  cases mending with
  | @written target source reply middle after found answered written =>
    obtain ⟨accepted, read⟩ := findBroken_found options found
    obtain ⟨place, content, located, right⟩ := Disk.exists_of_readText read
    obtain rfl := Disk.toUTF8_of_textOf right
    have wrote := Workspace.write_of_writeText written
    obtain ⟨names, belongs, same⟩ := Disk.exists_put_of_write wrote
    obtain rfl : place = names := by
      rcases Disk.locate_of_writable belongs with ⟨_, there⟩ | ⟨_, _, _, there⟩
      · exact (Place.present.inj (Except.ok.inj (located.symm.trans there))).1
      · cases located.symm.trans there
    have places := (Disk.places_of_writable belongs (stripFences reply).toUTF8).1
    rw [← same] at places
    have now := Disk.locate_of_write wrote belongs
    refine ⟨rfl, target, source, reply, place, resolve_eq_ok_iff.mpr accepted, congrArg Prod.fst answered, ?_⟩
    exact ⟨located, now, Disk.readText_of_write wrote, places.same⟩

/-- A file that a log names is the dot and the slash in front of a path that every root accepts. A fix that fails leaves
the disk as it was, and is refused as leaving the project only if the log names no file and the path is that of the
entry file. A file that is not there is reported with the oracle unasked. A fix that succeeds has replaced what a file
held by the code of the reply to a request that told of it, and all else is as it was. -/
theorem repairBuild_mends (oracle : Oracle σ) (options : Options) (logs : String) (world : World σ) :
    (∀ named, Build.errorFile? logs = some named → named = "./" ++ brokenFile options logs ∧
      resolve options.projectDir (brokenFile options logs) =
        .ok (join options.projectDir (brokenFile options logs))) ∧
    (∀ cause final, repairBuild oracle options logs world = (.error cause, final) →
      final.files.disk = world.files.disk ∧
      ∀ path, cause = .patch (.unsafePath path) → Build.errorFile? logs = none ∧
        (options.entryFile = path ∨ options.entryFile = "./" ++ path)) ∧
    (∀ target, resolve options.projectDir (brokenFile options logs) = .ok target →
      world.files.disk.exists? target = false →
      repairBuild oracle options logs world = (.error (.brokenFileMissing (brokenFile options logs)), world)) ∧
    ∀ file final, repairBuild oracle options logs world = (.ok file, final) →
      file = brokenFile options logs ∧ ∃ target source reply place,
        resolve options.projectDir file = .ok target ∧
        (world.ask oracle (fixRequest options logs source world.files.disk)).1 = .ok reply ∧
        Overwrites world.files.disk final.files.disk target source (stripFences reply) place := by
  refine ⟨fun named found => ?_, fun cause final ran => ?_, fun target accepted absent => ?_, fun file final ran => ?_⟩
  · exact ⟨(brokenFile_of_errorFile? found).1, resolve_eq_ok_iff.mpr (resolve?_brokenFile found)⟩
  · have mending := mending_of_repairBuild ran
    refine ⟨mending.disk_of_error, ?_⟩
    rintro path rfl
    obtain ⟨same, refused⟩ := mending.refused
    rw [same]
    cases found : Build.errorFile? logs with
    | none => exact ⟨rfl, entryFile_of_errorFile?_eq_none found⟩
    | some named => cases refused.symm.trans (resolve?_brokenFile found)
  · exact repairBuild_missing (resolve_eq_ok_iff.mp accepted) absent
  · obtain ⟨same, overwrites⟩ := (mending_of_repairBuild ran).overwrites
    rw [same]
    exact ⟨rfl, overwrites⟩

end

end UiCheck.Repair
