import UiCheck.Proofs.Files.Disk
import UiCheck.Proofs.Patch.Apply
import UiCheck.Proofs.Repair.Chronicle

/-! # What a repair writes

All that a repair writes into the project is the plan, the backup beside it, or a file strictly below the root that a
build log, the options or a reply names. `Reaches` says so of the writes between two workspaces, `Confined` also says in
which order they come, and `repair_confined` says it of each phase and of every repair. The plan and its backup are
written by the phase that makes a new plan, and beyond that only if they are named like any other file.
-/

namespace UiCheck.Repair

open Files Patch

/-- Between two workspaces writes to these paths were asked for, in this order, whether they succeeded or not. -/
def Wrote (before after : Workspace) (paths : List String) : Prop :=
  after.attempts.map (·.path) = paths.reverse ++ before.attempts.map (·.path)

namespace Wrote

variable {before middle after : Workspace} {paths more : List String}

theorem of_attempts (same : after.attempts = before.attempts) : Wrote before after [] :=
  congrArg (List.map Attempt.path) same

theorem refl (ws : Workspace) : Wrote ws ws [] :=
  of_attempts rfl

theorem trans (first : Wrote before middle paths) (second : Wrote middle after more) :
    Wrote before after (paths ++ more) := by
  rw [Wrote, second, first, List.reverse_append, List.append_assoc]

theorem writeText (ws : Workspace) (path text : String) : Wrote ws (ws.writeText path text).2 [path] := by
  rw [Workspace.writeText]
  split <;> rfl

end Wrote

/-- The writes between two workspaces are first some of the paths that the program chooses itself, in their order and
each at most once, and then paths inside the root that were named to it. -/
def Confined (root : String) (own : List String) (named : String → Prop) (before after : Workspace) : Prop :=
  ∃ chosen others, Wrote before after (chosen ++ others) ∧ chosen.Sublist own ∧
    ∀ path ∈ others, ∃ relative, named relative ∧ Inside root relative path

namespace Confined

variable {root : String} {own own' : List String} {named named' : String → Prop} {before middle after : Workspace}

theorem of_attempts (same : after.attempts = before.attempts) : Confined root own named before after :=
  ⟨[], [], .of_attempts same, List.nil_sublist _, fun _ member => absurd member List.not_mem_nil⟩

theorem of_wrote {paths : List String} (wrote : Wrote before after paths) (chosen : paths.Sublist own) :
    Confined root own named before after :=
  ⟨paths, [], by rwa [List.append_nil], chosen, fun _ member => absurd member List.not_mem_nil⟩

theorem of_named {relative path : String} (accepted : resolve? root relative = some path) (told : named relative)
    (wrote : Wrote before after [path]) : Confined root own named before after := by
  refine ⟨[], [path], wrote, List.nil_sublist _, fun other member => ?_⟩
  rw [List.mem_singleton.mp member]
  exact ⟨relative, told, inside_of_resolve? accepted⟩

theorem mono (confined : Confined root own named before after) (more : own.Sublist own')
    (weaker : ∀ relative, named relative → named' relative) : Confined root own' named' before after := by
  obtain ⟨chosen, others, wrote, among, inside⟩ := confined
  refine ⟨chosen, others, wrote, among.trans more, fun path member => ?_⟩
  obtain ⟨relative, told, within⟩ := inside path member
  exact ⟨relative, weaker relative told, within⟩

/-- Writes that were named may come behind any others. -/
theorem trans (first : Confined root own named before middle) (second : Confined root [] named middle after) :
    Confined root own named before after := by
  obtain ⟨chosen, others, wrote, among, inside⟩ := first
  obtain ⟨none, more, later, empty, within⟩ := second
  obtain rfl := List.sublist_nil.mp empty
  refine ⟨chosen, others ++ more, ?_, among, fun path member => ?_⟩
  · rw [← List.append_assoc]
    exact wrote.trans later
  · rcases List.mem_append.mp member with member | member
    · exact inside path member
    · exact within path member

end Confined

/-- The writes between two workspaces go to paths that the program chooses itself, or to paths inside the root that were
named to it. -/
def Reaches (root : String) (own : List String) (named : String → Prop) (before after : Workspace) : Prop :=
  ∃ paths, Wrote before after paths ∧
    ∀ path ∈ paths, path ∈ own ∨ ∃ relative, named relative ∧ Inside root relative path

theorem Confined.reaches {root : String} {own : List String} {named : String → Prop} {before after : Workspace}
    (confined : Confined root own named before after) : Reaches root own named before after := by
  obtain ⟨chosen, others, wrote, among, inside⟩ := confined
  refine ⟨chosen ++ others, wrote, fun path member => ?_⟩
  rcases List.mem_append.mp member with member | member
  · exact .inl (among.subset member)
  · exact .inr (inside path member)

namespace Reaches

variable {root : String} {own own' : List String} {named named' : String → Prop} {before middle after : Workspace}

theorem refl (ws : Workspace) : Reaches root own named ws ws :=
  ⟨[], .refl ws, fun _ member => absurd member List.not_mem_nil⟩

theorem mono (reaches : Reaches root own named before after) (more : ∀ path ∈ own, path ∈ own')
    (weaker : ∀ relative, named relative → named' relative) : Reaches root own' named' before after := by
  obtain ⟨paths, wrote, among⟩ := reaches
  refine ⟨paths, wrote, fun path member => ?_⟩
  rcases among path member with chosen | ⟨relative, told, within⟩
  · exact .inl (more path chosen)
  · exact .inr ⟨relative, weaker relative told, within⟩

theorem trans (first : Reaches root own named before middle) (second : Reaches root own named middle after) :
    Reaches root own named before after := by
  obtain ⟨paths, wrote, among⟩ := first
  obtain ⟨more, later, within⟩ := second
  refine ⟨paths ++ more, wrote.trans later, fun path member => ?_⟩
  rcases List.mem_append.mp member with member | member
  · exact among path member
  · exact within path member

end Reaches

/-! ## Phases -/

/-- The paths that a new plan is written to: first the backup of the current one, then the plan. -/
def Options.ownPaths (options : Options) (moment : Moment) : List String :=
  [Guard.backupPath options.planPath moment, options.planPath]

/-- A path in one of the blocks of a reply. -/
def NamedIn (reply relative : String) : Prop :=
  ∃ update ∈ (parse? reply).getD [], update.path = relative

theorem guard_wrote (ws : Workspace) (moment : Moment) (path current updated : String) (prompt : Option String) :
    ∃ paths, Wrote ws (Guard.run ws moment path current updated prompt).2 paths ∧
      paths.Sublist [Guard.backupPath path moment] := by
  rw [Guard.run]
  split
  · exact ⟨[], .refl ws, List.nil_sublist _⟩
  · have wrote := Wrote.writeText ws (Guard.backupPath path moment) current
    refine ⟨_, ?_, List.Sublist.refl _⟩
    dsimp only
    rcases written : ws.writeText (Guard.backupPath path moment) current with ⟨_ | _, after⟩ <;>
      rw [written] at wrote <;> exact wrote

theorem replacePlan_wrote (options : Options) (moment : Moment) (ws : Workspace) (current generated : String)
    (instruction : Option String) :
    ∃ paths, Wrote ws (replacePlan options moment ws current generated instruction).2 paths ∧
      paths.Sublist (options.ownPaths moment) := by
  obtain ⟨saved, wrote, among⟩ := guard_wrote ws moment options.planPath current generated instruction
  rw [replacePlan]
  rcases guarded : Guard.run ws moment options.planPath current generated instruction with ⟨_ | outcome, middle⟩ <;>
    rw [guarded] at wrote
  · exact ⟨saved, wrote, among.trans (List.sublist_append_left _ _)⟩
  · have plan := Wrote.writeText middle options.planPath outcome.content
    refine ⟨saved ++ [options.planPath], ?_, among.append (List.Sublist.refl _)⟩
    dsimp only
    rcases written : middle.writeText options.planPath outcome.content with ⟨_ | _, after⟩ <;>
      rw [written] at plan <;> exact wrote.trans plan

section

variable {σ ω : Type} (oracle : Oracle σ) (options : Options) (moment : Moment) (world : World σ)

theorem ask_files (request : OracleRequest) : (world.ask oracle request).2.files = world.files := rfl

theorem generatePlan_confined (instruction : Option String) (named : String → Prop) :
    Confined options.projectDir (options.ownPaths moment) named world.files
      (generatePlan oracle options moment instruction world).2.files := by
  unfold generatePlan
  cases currentPlan options world.files.disk with
  | error e => exact .of_attempts rfl
  | ok current =>
    let request : OracleRequest := .generatePlan (planContext options world.files.disk current instruction)
    have asked := ask_files oracle world request
    dsimp only
    rcases answered : world.ask oracle request with ⟨_ | reply, middle⟩ <;> rw [answered] at asked
    · exact .of_attempts (congrArg Workspace.attempts asked)
    · obtain ⟨paths, wrote, among⟩ :=
        replacePlan_wrote options moment middle.files current (stripFences reply) instruction
      rw [asked] at wrote
      dsimp only
      rw [asked]
      exact .of_wrote wrote among

/-- A broken file that is found is accepted, and is read. -/
theorem findBroken_found {disk : Disk} {file path source : String}
    (found : findBroken options disk file = .ok (path, source)) :
    resolve? options.projectDir file = some path ∧ disk.readText path = .ok source := by
  rw [findBroken, resolve] at found
  cases accepted : resolve? options.projectDir file with
  | none =>
    rw [accepted] at found
    cases found
  | some target =>
    rw [accepted] at found
    dsimp only at found
    split at found
    · cases found
    · split at found
      · cases found
      · next read =>
        cases found
        exact ⟨rfl, read⟩

theorem repairBuild_confined (logs : String) :
    Confined options.projectDir [] (· = brokenFile options logs) world.files
      (repairBuild oracle options logs world).2.files := by
  unfold repairBuild
  generalize brokenFile options logs = file
  dsimp only
  cases found : findBroken options world.files.disk file with
  | error e => exact .of_attempts rfl
  | ok target =>
    obtain ⟨path, source⟩ := target
    let request : OracleRequest := .repairFile { logs, source, manifest := options.manifest world.files.disk }
    have asked := ask_files oracle world request
    dsimp only
    rcases answered : world.ask oracle request with ⟨_ | reply, middle⟩ <;> rw [answered] at asked
    · exact .of_attempts (congrArg Workspace.attempts asked)
    · have wrote := Wrote.writeText middle.files path (stripFences reply)
      have confined : Confined options.projectDir [] (· = file) middle.files
          (middle.files.writeText path (stripFences reply)).2 :=
        .of_named (findBroken_found options found).1 rfl wrote
      dsimp only
      rw [asked] at confined ⊢
      rcases written : world.files.writeText path (stripFences reply) with ⟨_ | _, after⟩ <;>
        rw [written] at confined <;> exact confined

theorem ensureDirectory_attempts (ws : Workspace) (path : String) :
    (ws.ensureDirectory path).2.attempts = ws.attempts := by
  rw [Workspace.ensureDirectory]

theorem writeUpdate_confined {root relative target : String} {named : String → Prop}
    (accepted : resolve? root relative = some target) (told : named relative) (ws : Workspace) (content : String) :
    Confined root [] named ws (writeUpdate ws target content).2 := by
  have same := ensureDirectory_attempts ws (parent target)
  rw [writeUpdate]
  rcases made : ws.ensureDirectory (parent target) with ⟨_ | _, middle⟩ <;> rw [made] at same
  · exact .of_attempts same
  · exact .of_named accepted told (Wrote.trans (.of_attempts same) (.writeText middle target content))

theorem applyFrom_confined (root : String) {named : String → Prop} (updates : List FileUpdate)
    (told : ∀ update ∈ updates, named update.path) (ws : Workspace) (written : List String) :
    Confined root [] named ws (applyFrom root ws written updates).2 := by
  induction updates generalizing ws written with
  | nil => exact .of_attempts rfl
  | cons update updates ih =>
    have rest := ih fun other member => told other (List.mem_cons_of_mem _ member)
    rw [applyFrom]
    cases accepted : resolve? root update.path with
    | none => exact rest ws written
    | some target =>
      have first := writeUpdate_confined accepted (told update (List.mem_cons_self ..)) ws update.content
      dsimp only
      rcases wrote : writeUpdate ws target update.content with ⟨_ | _, middle⟩ <;> rw [wrote] at first
      · exact first
      · exact first.trans (rest middle (target :: written))

theorem repairTests_confined (result : RunResult) :
    Confined options.projectDir []
      (fun relative => ∃ reply, (world.ask oracle (.repairFiles (testContext options world.files.disk result))).1 =
        .ok reply ∧ NamedIn reply relative)
      world.files (repairTests oracle options result world).2.files := by
  let request : OracleRequest := .repairFiles (testContext options world.files.disk result)
  have asked := ask_files oracle world request
  rw [repairTests]
  rcases answered : world.ask oracle request with ⟨_ | reply, middle⟩ <;> rw [answered] at asked
  · exact .of_attempts (congrArg Workspace.attempts asked)
  · have named (update : FileUpdate) (member : update ∈ (parse? reply).getD []) : NamedIn reply update.path :=
      ⟨update, member, rfl⟩
    have confined := applyFrom_confined options.projectDir _ named middle.files []
    dsimp only
    rw [asked] at confined ⊢
    rw [Patch.apply]
    rcases applied : applyFrom options.projectDir world.files [] ((parse? reply).getD []) with ⟨_ | _, after⟩ <;>
      rw [applied] at confined <;>
      exact confined.mono (List.Sublist.refl _) fun relative told => ⟨reply, rfl, told⟩

end

/-! ## Rounds -/

/-- A relative path that a round is told: by the log of a build that failed, or by a reply that patches files. -/
def Round.Told (options : Options) (round : Round) (relative : String) : Prop :=
  (∃ outcome, .built (.ok outcome) ∈ round.deeds ∧ outcome.isSuccess = false ∧
    relative = brokenFile options outcome.logs) ∨
  ∃ context reply, .asked (.repairFiles context) (.ok reply) ∈ round.deeds ∧ NamedIn reply relative

/-- The paths that a round with a number chooses itself. -/
def Options.roundPaths (options : Options) (moment : Moment) (number : Nat) : List String :=
  if number = 1 ∧ options.instruction.isSome then options.ownPaths moment else []

section

variable {σ ω : Type} (crew : Crew σ ω) (options : Options) (moment : Moment)

theorem build_attempts (builder : Builder σ) (world : World σ) :
    (world.build builder).2.files.attempts = world.files.attempts := rfl

theorem run_files (world : World σ) : (world.run crew options).2.files = world.files := by
  rw [World.run]

theorem keepRecord_attempts (session : Option Session) (record : IterationRecord) (world : World σ) :
    (keepRecord session record world).files.attempts = world.files.attempts := by
  cases session <;> rfl

theorem renewPlan_confined (budget : Budget) (world : World σ) (named : String → Prop) :
    Confined options.projectDir (options.roundPaths moment budget.iteration.toNat) named world.files
      (renewPlan crew options moment budget world).2.files := by
  rw [renewPlan]
  cases given : options.instruction with
  | none => exact .of_attempts rfl
  | some instruction =>
    dsimp only
    split
    · exact .of_attempts rfl
    · next first =>
      have number : budget.iteration.toNat = 1 := congrArg UInt32.toNat (Decidable.not_not.mp first)
      have own : options.roundPaths moment budget.iteration.toNat = options.ownPaths moment :=
        if_pos ⟨number, by rw [given]; rfl⟩
      have confined := generatePlan_confined crew.oracle options moment world (some instruction) named
      rw [own]
      rcases generated : generatePlan crew.oracle options moment (some instruction) world with ⟨cause | _, after⟩ <;>
        rw [generated] at confined
      · cases cause <;> exact confined
      · exact confined

theorem mendBuild_world (record : IterationRecord) (outcome : BuildOutcome) (world : World σ) :
    (mendBuild crew options record outcome world).2.2 =
      (repairBuild crew.oracle options outcome.logs world).2 := by
  unfold mendBuild
  cases repairBuild crew.oracle options outcome.logs world with
  | mk answer after =>
    cases answer with
    | ok file => rfl
    | error cause => cases cause <;> rfl

theorem mendTests_world (record : IterationRecord) (result : RunResult) (world : World σ) :
    (mendTests crew options record result world).2.2 = (repairTests crew.oracle options result world).2 := by
  rw [mendTests]
  rcases repairTests crew.oracle options result world with ⟨cause | written, after⟩
  · cases cause <;> rfl
  · dsimp only
    split <;> rfl

theorem repairTests_outside (oracle : Oracle σ) (result : RunResult) (world : World σ) :
    (repairTests oracle options result world).2.outside =
      (world.ask oracle (.repairFiles (testContext options world.files.disk result))).2.outside := by
  rw [repairTests]
  rcases world.ask oracle _ with ⟨_ | reply, middle⟩
  · rfl
  · dsimp only
    rcases Patch.apply options.projectDir middle.files ((parse? reply).getD []) with ⟨_ | _, files⟩ <;> rfl

/-- The reply that patches files is among what a recorded crew notes. -/
theorem mendTests_asked {record record' : IterationRecord} {result : RunResult} {world after : World σ}
    {verdict : Verdict} {fixes : List Deed}
    (mended : mendTests crew.recorded options record result (world.logged []) =
      (verdict, record', after.logged fixes)) :
    fixes = [.asked (.repairFiles (testContext options world.files.disk result))
      ((world.logged []).ask crew.recorded.oracle (.repairFiles (testContext options world.files.disk result))).1] := by
  have outside := repairTests_outside options crew.recorded.oracle result (world.logged [])
  rw [← mendTests_world crew.recorded options record result (world.logged []), mended] at outside
  exact congrArg Prod.snd outside

end

section

variable {σ ω : Type} {crew : Crew σ ω} {session : Option Session} {options : Options} {moment : Moment}
  {fuel : Nat} {budget : Budget} {world final : World σ} {entries : List (Entry σ)} {outcome : Option Outcome}

/-- The writes before the build of a round are those of a new plan. -/
theorem planned_confined {answer : Except Error (Option String)} {planned : World σ} {asks : List Deed}
    (renewed : renewPlan crew.recorded options moment budget (world.logged []) = (answer, planned.logged asks))
    (named : String → Prop) :
    Confined options.projectDir (options.roundPaths moment budget.iteration.toNat) named world.files planned.files := by
  have confined := renewPlan_confined crew.recorded options moment budget (world.logged []) named
  rwa [renewed] at confined

/-- A round writes a new plan only in the first place, and then what it is told to write. -/
theorem Round.Happens.confined {after : World σ} {round : Round}
    (happens : round.Happens crew options moment budget world after) :
    Confined options.projectDir (options.roundPaths moment round.number) (round.Told options) world.files
      after.files := by
  cases happens with
  | unplanned renewed => exact planned_confined renewed _
  | @unbuilt _ _ planned _ _ renewed building =>
    have built := build_attempts crew.builder planned
    rw [building] at built
    exact (planned_confined renewed _).trans (.of_attempts built)
  | @broken asks fixes _ planned built _ outcome record verdict renewed building failed mended =>
    have same := build_attempts crew.builder planned
    rw [building] at same
    have fixed := repairBuild_confined crew.recorded.oracle options (built.logged []) outcome.logs
    rw [← mendBuild_world crew.recorded options { iteration := budget.iteration.toNat, note := _ } outcome, mended]
      at fixed
    refine ((planned_confined renewed _).trans (.of_attempts same)).trans (fixed.mono (List.Sublist.refl _) ?_)
    intro relative same
    exact .inl ⟨outcome, List.mem_append_right _ (List.mem_cons_self ..), failed, same⟩
  | @passed _ _ planned built _ result renewed building testing =>
    have same := build_attempts crew.builder planned
    rw [building] at same
    have ran := run_files crew options built
    rw [testing] at ran
    exact (planned_confined renewed _).trans (.of_attempts ((congrArg Workspace.attempts ran).trans same))
  | @failed asks fixes _ planned built tested _ result record verdict renewed building testing _ mended =>
    have same := build_attempts crew.builder planned
    rw [building] at same
    have ran := run_files crew options built
    rw [testing] at ran
    have noted := mendTests_asked crew options mended
    have patched := repairTests_confined crew.recorded.oracle options (tested.logged []) result
    rw [World.logged_files, ← mendTests_world crew.recorded options
      { iteration := budget.iteration.toNat, note := _, buildPassed := true, result := some result } result, mended]
      at patched
    refine ((planned_confined renewed _).trans (.of_attempts ((congrArg Workspace.attempts ran).trans same))).trans
      (patched.mono (List.Sublist.refl _) ?_)
    rintro relative ⟨reply, answered, named⟩
    refine .inr ⟨testContext options tested.files.disk result, reply,
      List.mem_append_right _ (List.mem_cons_of_mem _ (List.mem_cons_of_mem _ ?_)), named⟩
    rw [noted, answered]
    exact List.mem_singleton_self _

/-- A relative path that some round is told. -/
def ToldIn (options : Options) (entries : List (Entry σ)) (relative : String) : Prop :=
  ∃ entry ∈ entries, entry.round.Told options relative

/-- Keeping the record of a round writes nothing into the project. -/
theorem kept_confined (session : Option Session) {after : World σ} {round : Round}
    (happens : round.Happens crew options moment budget world after) (rest : List (Entry σ)) :
    Confined options.projectDir (options.roundPaths moment round.number)
      (ToldIn options (⟨round, world, after⟩ :: rest)) world.files (keepRecord session round.record after).files := by
  have told := happens.confined.mono (List.Sublist.refl _) fun relative told =>
    (⟨_, List.mem_cons_self .., told⟩ : ToldIn options (⟨round, world, after⟩ :: rest) relative)
  exact told.trans (.of_attempts (keepRecord_attempts session _ _))

theorem roundPaths_of_later {number : Nat} (later : number ≠ 1) : options.roundPaths moment number = [] :=
  if_neg fun both => later both.1

theorem roundPaths_subset (number : Nat) : ∀ path ∈ options.roundPaths moment number, path ∈ options.ownPaths moment := by
  intro path member
  rw [Options.roundPaths] at member
  split at member
  · exact member
  · cases member

/-- Whatever its limit, a repair writes a new plan or what some round is told. -/
theorem Chronicle.reaches
    (chronicle : Chronicle crew session options moment fuel budget world entries outcome final) :
    Reaches options.projectDir (options.ownPaths moment) (ToldIn options entries) world.files final.files := by
  induction chronicle with
  | exhausted | unfinished => exact .refl _
  | passed _ happens | aborted _ happens =>
    exact (kept_confined session happens []).reaches.mono (roundPaths_subset _) fun _ told => told
  | @again _ _ _ _ _ _ _ entries _ _ happens _ _ ih =>
    have first := (kept_confined session happens entries).reaches.mono (roundPaths_subset _) fun _ told => told
    refine first.trans (ih.mono (fun _ chosen => chosen) ?_)
    rintro relative ⟨entry, member, told⟩
    exact ⟨entry, List.mem_cons_of_mem _ member, told⟩

/-- Rounds behind the first one write only what some round is told. -/
theorem Chronicle.confined_later
    (chronicle : Chronicle crew session options moment fuel budget world entries outcome final)
    (later : ∀ entry ∈ entries, entry.round.number ≠ 1) :
    Confined options.projectDir [] (ToldIn options entries) world.files final.files := by
  induction chronicle with
  | exhausted | unfinished => exact .of_attempts rfl
  | passed _ happens | aborted _ happens =>
    rw [← roundPaths_of_later (later _ (List.mem_cons_self ..))]
    exact kept_confined session happens []
  | @again _ _ _ _ _ _ _ entries _ _ happens _ _ ih =>
    have rest := ih fun entry member => later entry (List.mem_cons_of_mem _ member)
    have first := kept_confined session happens entries
    rw [roundPaths_of_later (later _ (List.mem_cons_self ..))] at first
    refine first.trans (rest.mono (List.Sublist.refl _) ?_)
    rintro relative ⟨entry, member, told⟩
    exact ⟨entry, List.mem_cons_of_mem _ member, told⟩

/-- A repair whose count does not wrap around writes a new plan first, and then only what some round is told. -/
theorem Chronicle.confined
    (chronicle : Chronicle crew session options moment fuel budget world entries outcome final)
    (fits : budget.Fits fuel) (first : budget.iteration.toNat = 1) :
    Confined options.projectDir (options.roundPaths moment 1) (ToldIn options entries) world.files final.files := by
  cases chronicle with
  | exhausted | unfinished => exact .of_attempts rfl
  | passed _ happens | aborted _ happens =>
    rw [← first, ← happens.number]
    exact kept_confined session happens []
  | @again fuel _ _ _ _ round _ entries _ _ happens _ rest =>
    have later : ∀ entry ∈ entries, entry.round.number ≠ 1 := by
      intro entry member
      have counted := List.mem_map_of_mem (f := (·.round.number)) member
      have left : 0 < fuel := Nat.lt_of_lt_of_le (List.length_pos_of_mem member) rest.length_le
      rw [rest.numbered fits.advance.1, List.mem_range'_1, fits.advance.2 left, first] at counted
      omega
    have chosen := kept_confined session happens entries
    rw [happens.number, first] at chosen
    refine chosen.trans ((rest.confined_later later).mono (List.Sublist.refl _) ?_)
    rintro relative ⟨entry, member, told⟩
    exact ⟨entry, List.mem_cons_of_mem _ member, told⟩

end

/-- Every phase and every repair writes only the backup, the plan, and files strictly below the root that it is told of:
by the log of a failed build, for which the entry file may stand, or by a block of a reply. This holds for a repair with
any limit, however many of its rounds are looked at, and for each of them: only a first round with an instruction makes
a new plan, and before it writes anything else. With a limit below the largest word there is one first round, so the
backup and the plan are each written at most once then, and before all that the rounds are told of. -/
theorem repair_confined {σ ω : Type} (crew : Crew σ ω) (session : Option Session) (options : Options) (moment : Moment)
    (world : World σ) :
    (∀ instruction, Confined options.projectDir (options.ownPaths moment) (fun _ => False) world.files
      (generatePlan crew.oracle options moment instruction world).2.files) ∧
    (∀ logs, Confined options.projectDir [] (· = brokenFile options logs) world.files
      (repairBuild crew.oracle options logs world).2.files) ∧
    (∀ result, Confined options.projectDir []
      (fun relative => ∃ reply, (world.ask crew.oracle (.repairFiles (testContext options world.files.disk result))).1 =
        .ok reply ∧ NamedIn reply relative)
      world.files (repairTests crew.oracle options result world).2.files) ∧
    (∀ fuel, ∃ entries outcome final,
      loop crew session options moment fuel (.start options.maxIterations) none world = (outcome, final) ∧
      Chronicle crew session options moment fuel (.start options.maxIterations) world entries outcome final ∧
      Reaches options.projectDir (options.ownPaths moment) (ToldIn options entries) world.files final.files ∧
      ∀ entry ∈ entries, Confined options.projectDir (options.roundPaths moment entry.round.number)
        (entry.round.Told options) entry.before.files entry.after.files) ∧
    (options.maxIterations.toNat < UInt32.size - 1 → ∃ entries outcome final,
      run crew session options moment world = (some outcome, final) ∧
      Chronicle crew session options moment options.maxIterations.toNat (.start options.maxIterations) world entries
        (some outcome) final ∧
      entries.map (·.round.number) = List.range' 1 entries.length ∧
      Confined options.projectDir (options.roundPaths moment 1) (ToldIn options entries) world.files final.files) := by
  refine ⟨fun instruction => generatePlan_confined crew.oracle options moment world instruction _,
    fun logs => repairBuild_confined crew.oracle options world logs,
    fun result => repairTests_confined crew.oracle options world result, fun fuel => ?_, fun few => ?_⟩
  · obtain ⟨entries, outcome, final, looped, chronicle⟩ := exists_chronicle crew session options moment fuel
      (.start options.maxIterations) none world
    refine ⟨entries, outcome, final, looped, chronicle, chronicle.reaches, fun entry member => ?_⟩
    obtain ⟨_, happens⟩ := chronicle.happens entry member
    exact happens.confined
  · obtain ⟨entries, outcome, final, ran, chronicle⟩ := exists_finished crew session options moment world few
    exact ⟨entries, outcome, final, ran, chronicle, chronicle.numbered (Budget.start_fits _),
      chronicle.confined (Budget.start_fits _) rfl⟩

/-- Options for a project whose entry file is its plan. -/
def planEntry : Options where
  projectDir := "/p"
  planFile := "vibe.yaml"
  entryFile := "vibe.yaml"
  manifestFile := "package.json"
  maxIterations := 5
  run := { server := { command := none, workingDir := "/p" } }

/-- A world with a plan and nothing else. -/
def planWorld : World Unit where
  files := .ofDisk { tree := .directory [("p", .directory [("vibe.yaml", .file "meta: {}\n".toUTF8)])], start := [] }
  outside := ()

/-- An oracle that answers every request with one text. -/
def parrot (reply : String) : Oracle Unit where
  ask _ s := (.ok reply, s)

theorem locate_plan : planWorld.files.disk.locate true "/p/vibe.yaml" =
    .ok (.present ["vibe.yaml", "p"] (.file "meta: {}\n".toUTF8)) := by
  have way : steps "/p/vibe.yaml" = [.root, .name "p", .name "vibe.yaml"] := by decide +kernel
  rw [Disk.locate_eq (by decide +kernel), way]
  have short : ¬ nameLimit < "p".utf8ByteSize ∧ ¬ nameLimit < "vibe.yaml".utf8ByteSize := by decide +kernel
  simp [walk, planWorld, Workspace.ofDisk, Node.get?, Node.child?, short]

theorem findBroken_plan :
    findBroken planEntry planWorld.files.disk "vibe.yaml" = .ok ("/p/vibe.yaml", "meta: {}\n") := by
  have accepted : resolve? planEntry.projectDir "vibe.yaml" = some "/p/vibe.yaml" := by decide +kernel
  have node : planWorld.files.disk.node "/p/vibe.yaml" = .ok (.file "meta: {}\n".toUTF8) := by
    rw [Disk.node, locate_plan]
  have source : Disk.textOf "meta: {}\n".toUTF8 = .ok "meta: {}\n" := by rfl
  simp only [findBroken, resolve, accepted, Disk.exists?, Disk.readText, Disk.read, node, Except.bind, source]
  rfl

theorem write_plan (text : String) : ∃ disk, planWorld.files.disk.writeText "/p/vibe.yaml" text = .ok disk := by
  have place : planWorld.files.disk.writable "/p/vibe.yaml" = .ok ["vibe.yaml", "p"] := by
    rw [Disk.writable, if_neg (by decide +kernel), locate_plan]
  rw [Disk.writeText_eq (by decide +kernel), place]
  exact ⟨_, rfl⟩

theorem repairBuild_writes_plan :
    (repairBuild (parrot "import x") planEntry "boom" planWorld).2.files.attempts = [⟨planEntry.planPath, true⟩] ∧
    ∀ relative, ¬ NamedIn "import x" relative := by
  have file : brokenFile planEntry "boom" = "vibe.yaml" := by decide +kernel
  have plan : planEntry.planPath = "/p/vibe.yaml" := by decide +kernel
  have none : parse? "import x" = none := by decide +kernel
  constructor
  · obtain ⟨disk, written⟩ := write_plan (stripFences "import x")
    rw [plan]
    unfold repairBuild
    rw [file]
    simp only [findBroken_plan, World.ask, parrot, Workspace.writeText, written]
    rfl
  · rintro relative ⟨update, member, _⟩
    rw [none] at member
    cases member

end UiCheck.Repair
