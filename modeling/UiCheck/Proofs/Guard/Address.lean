import UiCheck.Guard.Basic
import UiCheck.Proofs.Files.Frame
import UiCheck.Proofs.Guard.Structure

/-! # The base address of a guarded plan

A new text that cannot stand as it is gets the settings of the current plan, unless it names a base address itself. So
of a current plan that names one the address is kept exactly if the new text names one too or cannot stand: a text
that passes the check is taken as it is, and the address may be lost with it.
-/

namespace UiCheck.Guard

open Files

variable {ws after : Workspace} {moment : Moment} {path current updated : String} {prompt : Option String}
  {settings : Settings}

/-! ## How the guard ends -/

/-- How a plan is guarded: nothing is saved of a blank one, and the outcome is there once the current one is saved. -/
inductive Guards (ws : Workspace) (moment : Moment) (path current updated : String) (prompt : Option String) :
    Except IoError Outcome → Workspace → Prop
  | blank : Text.allBlank current.toList = true →
      Guards ws moment path current updated prompt (.ok (outcome current updated prompt none)) ws
  | saved {after : Workspace} : Text.allBlank current.toList = false →
      ws.writeText (backupPath path moment) current = (.ok (), after) →
      Guards ws moment path current updated prompt
        (.ok (outcome current updated prompt (some (backupPath path moment)))) after
  | failed {cause : IoError} {after : Workspace} : Text.allBlank current.toList = false →
      ws.writeText (backupPath path moment) current = (.error cause, after) →
      Guards ws moment path current updated prompt (.error cause) after

theorem guards_run {answer : Except IoError Outcome}
    (ran : run ws moment path current updated prompt = (answer, after)) :
    Guards ws moment path current updated prompt answer after := by
  rw [run] at ran
  split at ran
  · next blank =>
    cases ran
    exact .blank blank
  · next filled =>
    have filled := Bool.eq_false_iff.mpr filled
    dsimp only at ran
    split at ran
    · next failed =>
      cases ran
      exact .failed filled failed
    · next saved =>
      cases ran
      exact .saved filled saved

theorem Guards.content_eq {outcome : Outcome}
    (guards : Guards ws moment path current updated prompt (.ok outcome) after) :
    outcome.content = accepted current updated := by
  cases guards <;> rfl

/-- A text that cannot stand as it is gets the settings of the current one. -/
theorem accepted_of_unsound (unsound : Unsound updated) :
    accepted current updated = preserveSettings current updated := by
  rw [accepted, isSound_eq_false_iff.mpr unsound, if_neg Bool.false_ne_true]

theorem accepted_of_not_unsound (sound : ¬ Unsound updated) : accepted current updated = updated := by
  rw [← isSound_eq_false_iff, Bool.not_eq_false] at sound
  rw [accepted, sound, if_pos rfl]

/-! ## Settings that are carried over -/

/-- The text names a base address. -/
def NamesAddress (s : List Char) : Prop :=
  "baseUrl:".toList <:+: s

instance (s : List Char) : Decidable (NamesAddress s) :=
  inferInstanceAs (Decidable (_ <:+: _))

theorem prefix_endLine (s : List Char) : s <+: endLine s := by
  rw [endLine]
  split
  · exact List.prefix_refl s
  · exact List.prefix_append s ['\n']

/-- A text that names an address of its own is left as it is. -/
theorem preserveSettings_of_named (named : NamesAddress updated.toList) :
    preserveSettings current updated = updated := by
  rw [preserveSettings, Text.occursIn_iff.mpr named, if_pos rfl]

/-- Any other text gets the settings of the current one, with a line end, in the place of its own or in front. -/
theorem toList_preserveSettings (found : findSettings? current = some settings)
    (absent : ¬ NamesAddress updated.toList) : (preserveSettings current updated).toList =
      match findSettings? updated with
      | some own => own.before ++ endLine settings.block ++ own.after
      | none => endLine settings.block ++ updated.toList := by
  have missing : Text.occursIn "baseUrl:" updated = false := by
    rw [← Bool.not_eq_true, Text.occursIn_iff]
    exact absent
  simp only [preserveSettings, missing, found, Bool.false_eq_true, if_false]
  cases findSettings? updated <;> exact String.toList_ofList

theorem infix_preserveSettings (found : findSettings? current = some settings)
    (absent : ¬ NamesAddress updated.toList) :
    endLine settings.block <:+: (preserveSettings current updated).toList := by
  rw [toList_preserveSettings found absent]
  cases findSettings? updated with
  | none => exact (List.prefix_append _ _).isInfix
  | some own => exact ⟨own.before, own.after, rfl⟩

/-- A guarded text names a base address, if the settings of the current plan do, exactly if it named one before or
cannot stand as it is. In the first case it is taken as it is, as is any text that can stand; in the second it gets
the settings of the current plan. -/
theorem run_keeps_address (ws : Workspace) (moment : Moment) (path current updated : String) (prompt : Option String)
    {settings : Settings} {outcome : Outcome} {after : Workspace} (found : findSettings? current = some settings)
    (named : NamesAddress settings.block)
    (ran : run ws moment path current updated prompt = (.ok outcome, after)) :
    (NamesAddress outcome.content.toList ↔ NamesAddress updated.toList ∨ Unsound updated) ∧
    (NamesAddress updated.toList ∨ ¬ Unsound updated → outcome.content = updated) ∧
    (¬ NamesAddress updated.toList → Unsound updated → endLine settings.block <:+: outcome.content.toList) := by
  have content := (guards_run ran).content_eq
  have taken (kept : NamesAddress updated.toList ∨ ¬ Unsound updated) : outcome.content = updated := by
    rw [content]
    by_cases unsound : Unsound updated
    · rw [accepted_of_unsound unsound, preserveSettings_of_named (kept.resolve_right (not_not_intro unsound))]
    · exact accepted_of_not_unsound unsound
  have carried (absent : ¬ NamesAddress updated.toList) (unsound : Unsound updated) :
      endLine settings.block <:+: outcome.content.toList := by
    rw [content, accepted_of_unsound unsound]
    exact infix_preserveSettings found absent
  refine ⟨⟨fun kept => ?_, fun either => ?_⟩, taken, carried⟩
  · by_cases unsound : Unsound updated
    · exact .inr unsound
    · rw [taken (.inr unsound)] at kept
      exact .inl kept
  · by_cases own : NamesAddress updated.toList
    · rwa [taken (.inl own)]
    · have block := carried own (either.resolve_left own)
      exact (named.trans (prefix_endLine settings.block).isInfix).trans block

/-! ## A plan and two texts that replace it -/

/-- A plan whose settings name a base address. -/
def addressedPlan : String :=
  "meta:\n  baseUrl: http://localhost:4000\nscenarios: []\n"

/-- A workspace without any file. -/
def bareWorkspace : Workspace :=
  .ofDisk { tree := .directory [], start := [] }

theorem addressedPlan_named : ∃ settings, findSettings? addressedPlan = some settings ∧
    NamesAddress settings.block :=
  ⟨⟨[], "meta:\n  baseUrl: http://localhost:4000\n".toList, "scenarios: []\n".toList⟩, by decide +kernel,
    by decide +kernel⟩

/-- The current plan can be saved where there is no file at all. -/
theorem run_bareWorkspace (updated : String) (prompt : Option String) : ∃ outcome after,
    run bareWorkspace ⟨0⟩ "/vibe.yaml" addressedPlan updated prompt = (.ok outcome, after) := by
  have backup : backupPath "/vibe.yaml" ⟨0⟩ = "/vibe.backup.1970-01-01T00-00-00-000Z.yaml" := by decide +kernel
  have way : steps "/vibe.backup.1970-01-01T00-00-00-000Z.yaml" =
      [.root, .name "vibe.backup.1970-01-01T00-00-00-000Z.yaml"] := by decide +kernel
  have short : ¬ nameLimit < "vibe.backup.1970-01-01T00-00-00-000Z.yaml".utf8ByteSize := by decide +kernel
  have place : bareWorkspace.disk.writable "/vibe.backup.1970-01-01T00-00-00-000Z.yaml" =
      .ok ["vibe.backup.1970-01-01T00-00-00-000Z.yaml"] := by
    rw [Disk.writable, if_neg (by decide +kernel), Disk.locate_eq (by decide +kernel), way]
    simp [walk, bareWorkspace, Workspace.ofDisk, Node.get?, short]
  obtain ⟨after, written⟩ : ∃ after, bareWorkspace.writeText "/vibe.backup.1970-01-01T00-00-00-000Z.yaml"
      addressedPlan = (.ok (), after) := ⟨_, Workspace.writeText_of_writable (by decide +kernel) place⟩
  have filled : ¬ Text.allBlank addressedPlan.toList = true := by decide +kernel
  simp only [run, if_neg filled, backup, written]
  exact ⟨_, _, rfl⟩

/-- A text without settings gets those of the current plan. -/
theorem run_keeps_address_bare : ∃ settings outcome after,
    (findSettings? addressedPlan = some settings ∧ NamesAddress settings.block ∧
      run bareWorkspace ⟨0⟩ "/vibe.yaml" addressedPlan "scenarios: []\n" none = (.ok outcome, after)) ∧
    Unsound "scenarios: []\n" ∧ NamesAddress outcome.content.toList := by
  obtain ⟨settings, found, named⟩ := addressedPlan_named
  obtain ⟨outcome, after, ran⟩ := run_bareWorkspace "scenarios: []\n" none
  have unsound : Unsound "scenarios: []\n" := isSound_eq_false_iff.mp (by decide +kernel)
  exact ⟨settings, outcome, after, ⟨found, named, ran⟩, unsound,
    (run_keeps_address _ _ _ _ _ _ found named ran).1.mpr (.inr unsound)⟩

/-- A text that passes the check replaces the current plan, and the base address is lost. -/
theorem run_loses_address :
    (∃ settings, findSettings? addressedPlan = some settings ∧ NamesAddress settings.block) ∧
    ∃ outcome after,
      run bareWorkspace ⟨0⟩ "/vibe.yaml" addressedPlan "meta: {}\nscenarios: []\n" none = (.ok outcome, after) ∧
      ¬ NamesAddress outcome.content.toList := by
  obtain ⟨outcome, after, ran⟩ := run_bareWorkspace "meta: {}\nscenarios: []\n" none
  have sound : ¬ Unsound "meta: {}\nscenarios: []\n" := by
    rw [← isSound_eq_false_iff]
    decide +kernel
  refine ⟨addressedPlan_named, outcome, after, ran, ?_⟩
  rw [(guards_run ran).content_eq, accepted_of_not_unsound sound]
  decide +kernel

end UiCheck.Guard
