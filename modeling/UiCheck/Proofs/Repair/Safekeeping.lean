import UiCheck.Proofs.Files.Frame
import UiCheck.Proofs.Repair.History

/-! # The plan is kept

A new plan replaces the current one only after that was saved. So the text of a plan that says anything stays on the
disk, at its path or in the backup beside it, as long as no fix writes to one of the two. A fix that does write to the
plan saves nothing.
-/

namespace UiCheck.Repair

open Files Patch

/-- The text can be read at the path of the plan or at that of its backup. -/
def Kept (plan backup text : String) (disk : Disk) : Prop :=
  disk.readText plan = .ok text ∨ disk.readText backup = .ok text

/-- The change belongs to the phase that makes a new plan. -/
def Change.isPlanned : Change → Bool
  | .planned _ => true
  | _ => false

/-- A fix that writes to neither the plan nor its backup, or a build or a report after which both read as before. -/
def Move.Spares (plan backup : String) (move : Move) : Prop :=
  match move.change with
  | .planned _ => True
  | .fixed edit => ∀ path, edit.file? = some path →
      ¬ move.before.LandsOn path plan ∧ ¬ move.before.LandsOn path backup
  | .built | .reported _ => ∀ path, path = plan ∨ path = backup →
      ∀ text, move.before.readText path = .ok text → move.after.readText path = .ok text

section

variable {σ ω : Type} {crew : Crew σ ω} {session : Option Session} {plan backup text : String} {disk last : Disk}
  {move : Move} {moves : List Move}

/-- A move that spares the plan and its backup keeps the text in either. -/
theorem Move.Made.kept (made : move.Made crew session) (unplanned : move.change.isPlanned = false)
    (spares : move.Spares plan backup) (kept : Kept plan backup text move.before) :
    Kept plan backup text move.after := by
  cases made with
  | planned => cases unplanned
  | built disk outside => exact kept.imp (spares plan (.inl rfl) text) (spares backup (.inr rfl) text)
  | fixed makes =>
    exact kept.imp (fun read => Disk.readText_of_makes makes read fun path written => (spares path written).1)
      (fun read => Disk.readText_of_makes makes read fun path written => (spares path written).2)
  | reported => exact kept.imp (spares plan (.inl rfl) text) (spares backup (.inr rfl) text)

theorem History.kept (history : History crew session disk moves last)
    (unplanned : ∀ move ∈ moves, move.change.isPlanned = false) (spares : ∀ move ∈ moves, move.Spares plan backup)
    (kept : Kept plan backup text disk) : Kept plan backup text last := by
  induction history with
  | nil => exact kept
  | cons made _ ih =>
    obtain ⟨first, unplanned⟩ := List.forall_mem_cons.mp unplanned
    obtain ⟨spared, spares⟩ := List.forall_mem_cons.mp spares
    exact ih unplanned spares (made.kept first spared kept)

/-- Once the text is saved it is at both places. A new plan goes to the backup only if the backup went to the plan. -/
theorem Move.Made.saved (made : move.Made crew session) (saves : move.change = .planned (.write backup text.toUTF8))
    (read : move.before.readText plan = .ok text) :
    move.after.readText plan = .ok text ∧ move.after.readText backup = .ok text ∧
      (move.after.LandsOn plan backup → move.before.LandsOn backup plan) := by
  cases made with
  | @planned before after _ makes =>
    cases saves
    cases makes with
    | write written =>
      refine ⟨?_, Disk.readText_of_write written, Disk.landsOn_of_write written read⟩
      by_cases lands : before.LandsOn backup plan
      · exact Disk.readText_of_landsOn written lands
      · refine Disk.readText_of_makes (.write written) read fun path same => ?_
        rwa [← Option.some.inj same]
  | built | fixed | reported => cases saves

/-- A new plan leaves the backup as it is. -/
theorem Move.Made.replaced {content : ByteArray} (made : move.Made crew session)
    (replaces : move.change = .planned (.write plan content)) (read : move.before.readText backup = .ok text)
    (apart : ¬ move.before.LandsOn plan backup) : move.after.readText backup = .ok text := by
  cases made with
  | planned makes =>
    cases replaces
    refine Disk.readText_of_makes makes read fun path same => ?_
    rwa [← Option.some.inj same]
  | built | fixed | reported => cases replaces

/-- A new plan is written only after the text of the current one, and only at the start. -/
inductive Saves (plan backup text : String) : List Move → Prop
  | unplanned {moves : List Move} : (∀ move ∈ moves, move.change.isPlanned = false) → Saves plan backup text moves
  | saved {first : Move} {moves : List Move} : first.change = .planned (.write backup text.toUTF8) →
      (∀ move ∈ moves, move.change.isPlanned = false) → Saves plan backup text (first :: moves)
  | replaced {first second : Move} {moves : List Move} {content : ByteArray} :
      first.change = .planned (.write backup text.toUTF8) → second.change = .planned (.write plan content) →
      (∀ move ∈ moves, move.change.isPlanned = false) → Saves plan backup text (first :: second :: moves)

theorem Saves.take (saves : Saves plan backup text moves) (n : Nat) : Saves plan backup text (moves.take n) := by
  have among {moves : List Move} (unplanned : ∀ move ∈ moves, move.change.isPlanned = false) (n : Nat) :
      ∀ move ∈ moves.take n, move.change.isPlanned = false := fun move member =>
    unplanned move (List.mem_of_mem_take member)
  cases saves with
  | unplanned none => exact .unplanned (among none n)
  | saved saves none =>
    cases n with
    | zero => exact .unplanned nofun
    | succ n => exact .saved saves (among none n)
  | replaced saves replaces none =>
    match n with
    | 0 => exact .unplanned nofun
    | 1 => exact .saved saves nofun
    | n + 2 => exact .replaced saves replaces (among none n)

theorem History.kept_of_saves (history : History crew session disk moves last) (saves : Saves plan backup text moves)
    (read : disk.readText plan = .ok text) (apart : ¬ disk.LandsOn backup plan)
    (spares : ∀ move ∈ moves, move.Spares plan backup) : Kept plan backup text last := by
  cases saves with
  | unplanned none => exact history.kept none spares (.inl read)
  | saved saves none =>
    cases history with
    | cons made rest =>
      obtain ⟨_, spares⟩ := List.forall_mem_cons.mp spares
      exact rest.kept none spares (.inl (made.saved saves read).1)
  | replaced saves replaces none =>
    cases history with
    | cons made rest =>
      obtain ⟨_, saved, lands⟩ := made.saved saves read
      generalize middle : Move.after _ = disk at rest saved lands
      cases rest with
      | cons made' rest =>
        obtain ⟨_, spares⟩ := List.forall_mem_cons.mp (List.forall_mem_cons.mp spares).2
        exact rest.kept none spares (.inr (made'.replaced replaces saved (mt lands apart)))

/-- Only edits for a new plan are planned. -/
theorem Entry.isPlanned_of_mem {options : Options} {moment : Moment} {entry : Entry σ} {fixes : List Edit} :
    ∀ change ∈ entry.builds crew options moment ++ fixes.map .fixed ++ entry.reports session,
      change.isPlanned = false := by
  intro change member
  rcases List.mem_append.mp member with member | member
  · rcases List.mem_append.mp member with member | member
    · rw [Entry.builds] at member
      split at member
      · rw [List.mem_singleton.mp member]
        rfl
      · cases member
    · obtain ⟨edit, _, rfl⟩ := List.mem_map.mp member
      rfl
  · obtain ⟨_, _, rfl⟩ := List.mem_map.mp member
    rfl

theorem unplanned_of_changes {changes : List Change} (same : moves.map (·.change) = changes)
    (unplanned : ∀ change ∈ changes, change.isPlanned = false) : ∀ move ∈ moves, move.change.isPlanned = false := by
  intro move member
  refine unplanned _ ?_
  rw [← same]
  exact List.mem_map_of_mem member

/-- The edits that replace a text that says something save it. -/
theorem saves_of_changes {options : Options} {moment : Moment} {planned : List Edit} {rest : List Change}
    (filled : Text.allBlank text.toList = false) (replaces : planned = [] ∨ Replaces options moment text planned)
    (changes : moves.map (·.change) = planned.map .planned ++ rest)
    (unplanned : ∀ change ∈ rest, change.isPlanned = false) :
    Saves options.planPath (Guard.backupPath options.planPath moment) text moves := by
  rcases replaces with rfl | replaces
  · exact .unplanned (unplanned_of_changes changes unplanned)
  · cases replaces with
    | nothing => exact .unplanned (unplanned_of_changes changes unplanned)
    | overwritten _ blank => cases blank.symm.trans filled
    | saved =>
      obtain ⟨first, moves, rfl, saves, changes⟩ := List.map_eq_cons_iff.mp changes
      exact .saved saves (unplanned_of_changes changes unplanned)
    | replaced =>
      obtain ⟨first, moves, rfl, saves, changes⟩ := List.map_eq_cons_iff.mp changes
      obtain ⟨second, moves, rfl, replaces, changes⟩ := List.map_eq_cons_iff.mp changes
      exact .replaced saves replaces (unplanned_of_changes changes unplanned)

theorem Telling.unplanned {options : Options} {moment : Moment} {entries : List (Entry σ)}
    (telling : Telling crew session options moment entries moves)
    (later : ∀ entry ∈ entries, entry.round.number ≠ 1) : ∀ move ∈ moves, move.change.isPlanned = false := by
  induction telling with
  | nil => nofun
  | cons tells _ ih =>
    obtain ⟨not_first, later⟩ := List.forall_mem_cons.mp later
    obtain rfl : _ = [] := tells.replans.resolve_right fun first => not_first first.1
    intro move member
    rcases List.mem_append.mp member with member | member
    · exact unplanned_of_changes tells.changes Entry.isPlanned_of_mem move member
    · exact ih later move member

theorem currentPlan_of_readText {options : Options} (read : disk.readText options.planPath = .ok text) :
    currentPlan options disk = .ok text := by
  obtain ⟨names, content, located, _⟩ := Disk.exists_of_readText read
  rw [currentPlan, Disk.exists?, Disk.node, located]
  exact read

/-- A repair that begins with a plan that says something saves it before it writes a new one. -/
theorem Chronicle.saves {options : Options} {moment : Moment} {fuel : Nat} {budget : Budget} {world final : World σ}
    {entries : List (Entry σ)} {outcome : Option Outcome}
    (chronicle : Chronicle crew session options moment fuel budget world entries outcome final)
    (fits : budget.Fits fuel) (first : budget.iteration.toNat = 1)
    (telling : Telling crew session options moment entries moves)
    (read : world.files.disk.readText options.planPath = .ok text) (filled : Text.allBlank text.toList = false) :
    Saves options.planPath (Guard.backupPath options.planPath moment) text moves := by
  have numbered := chronicle.numbered fits
  cases telling with
  | nil => exact .unplanned nofun
  | @cons entry entries planned fixes moves more tells rest =>
    have later : ∀ other ∈ entries, other.round.number ≠ 1 := by
      have distinct : ((entry :: entries).map (·.round.number)).Nodup := by
        rw [numbered]
        exact List.nodup_range'
      rw [List.map_cons, List.length_cons, List.range'_succ, first] at numbered
      intro other member same
      rw [List.map_cons, (List.cons.inj numbered).1, List.nodup_cons] at distinct
      exact distinct.1 (same ▸ List.mem_map_of_mem member)
    have same : entry.before = world := by cases chronicle <;> rfl
    have replaces : planned = [] ∨ Replaces options moment text planned := by
      refine tells.replans.imp_right fun ⟨_, _, current, known, replaces⟩ => ?_
      rw [same, currentPlan_of_readText read] at known
      rwa [Except.ok.inj known]
    have changes : (moves ++ more).map (·.change) = planned.map .planned ++
        (entry.builds crew options moment ++ fixes.map .fixed ++ entry.reports session ++ more.map (·.change)) := by
      rw [List.map_append, tells.changes]
      simp only [List.append_assoc]
    refine saves_of_changes filled replaces changes fun change member => ?_
    rcases List.mem_append.mp member with member | member
    · exact Entry.isPlanned_of_mem change member
    · obtain ⟨move, among, rfl⟩ := List.mem_map.mp member
      exact rest.unplanned later move among

end

/-- The text of a plan that says anything can be read at every point of a repair, at its path or in the backup beside
it, as long as no fix has written to the file of either, and builds and reports have left both as they were. The
backup must not have led to the file of the plan in the first place; where there are no links it never does, by
`Guard.not_landsOn_backupPath`. -/
theorem run_keeps_plan {σ ω : Type} (crew : Crew σ ω) (session : Option Session) (options : Options) (moment : Moment)
    (world : World σ) (text : String) (read : world.files.disk.readText options.planPath = .ok text)
    (filled : Text.allBlank text.toList = false)
    (apart : ¬ world.files.disk.LandsOn (Guard.backupPath options.planPath moment) options.planPath) :
    ∃ entries outcome final moves, run crew session options moment world = (outcome, final) ∧
      Chronicle crew session options moment options.maxIterations.toNat (.start options.maxIterations) world entries
        outcome final ∧
      Telling crew session options moment entries moves ∧
      History crew session world.files.disk moves final.files.disk ∧
      ∀ n, ∃ disk, History crew session world.files.disk (moves.take n) disk ∧
        ((∀ move ∈ moves.take n, move.Spares options.planPath (Guard.backupPath options.planPath moment)) →
          Kept options.planPath (Guard.backupPath options.planPath moment) text disk) := by
  obtain ⟨entries, outcome, final, ran, chronicle⟩ := exists_chronicle crew session options moment
    options.maxIterations.toNat (.start options.maxIterations) none world
  obtain ⟨moves, telling, history⟩ := chronicle.exists_history
  have saves := chronicle.saves (Budget.start_fits _) rfl telling read filled
  refine ⟨entries, outcome, final, moves, ran, chronicle, telling, history, fun n => ?_⟩
  obtain ⟨disk, reached⟩ := history.exists_take n
  exact ⟨disk, reached, reached.kept_of_saves (saves.take n) read apart⟩

/-- A patch that is about the plan. -/
def planPatch : String :=
  "--- FILE: vibe.yaml ---\nx\n"

/-- Options with a single iteration. -/
def onceEntry : Options :=
  { planEntry with maxIterations := 1 }

/-- A world with a plan whose page cannot be opened at first. -/
def closedWorld : World MemoryPage where
  files := .ofDisk (projectDisk [("vibe.yaml", .file "meta: {}\n".toUTF8)])
  outside := { failingNavigations := 1 }

theorem locate_closedWorld : closedWorld.files.disk.locate true "/p/vibe.yaml" =
    .ok (.present ["vibe.yaml", "p"] (.file "meta: {}\n".toUTF8)) :=
  locate_of_file (by decide +kernel) (by decide +kernel) (by decide +kernel) rfl

theorem planPath_onceEntry : onceEntry.planPath = "/p/vibe.yaml" := by
  decide +kernel

theorem readText_closedWorld : closedWorld.files.disk.readText onceEntry.planPath = .ok "meta: {}\n" := by
  rw [planPath_onceEntry, Disk.readText_of_locate locate_closedWorld, Disk.textOf_toUTF8]

/-- A crew whose oracle answers but whose build tool cannot be started. -/
def idleCrew : Crew MemoryPage Listener :=
  { parrotCrew planPatch with builder := absentCrew.builder }

/-- Options with which a new plan is made. -/
def renewEntry : Options :=
  { onceEntry with instruction := some "more" }

theorem backupPath_renewEntry :
    Guard.backupPath renewEntry.planPath ⟨0⟩ = "/p/vibe.backup.1970-01-01T00-00-00-000Z.yaml" := by
  decide +kernel

theorem not_landsOn_closedWorld :
    ¬ closedWorld.files.disk.LandsOn (Guard.backupPath renewEntry.planPath ⟨0⟩) renewEntry.planPath := by
  have plan : renewEntry.planPath = "/p/vibe.yaml" := planPath_onceEntry
  have free : closedWorld.files.disk.locate true "/p/vibe.backup.1970-01-01T00-00-00-000Z.yaml" =
      .ok (.vacant ["p"] "vibe.backup.1970-01-01T00-00-00-000Z.yaml") :=
    locate_of_missing (by decide +kernel) (by decide +kernel) (by decide +kernel) (by decide +kernel)
  rw [backupPath_renewEntry, plan]
  rintro ⟨names, node, found, located⟩
  rw [Disk.writable, if_neg (by decide +kernel), free] at found
  obtain rfl := Except.ok.inj found
  rw [locate_closedWorld] at located
  obtain ⟨same, _⟩ := Place.present.inj (Except.ok.inj located)
  exact absurd (List.cons.inj same).1 (by decide)

theorem file?_of_idle {options : Options} {moment : Moment} {entries : List (Entry MemoryPage)}
    {moves : List Move} (telling : Telling idleCrew none options moment entries moves)
    (stages : ∀ entry ∈ entries, entry.Stages idleCrew options moment) :
    ∀ move ∈ moves, ∀ edit, move.change = .fixed edit → edit.file? = none := by
  induction telling with
  | nil => nofun
  | @cons entry entries planned fixes moves more tells _ ih =>
    obtain ⟨stage, stages⟩ := List.forall_mem_cons.mp stages
    have missing : (entry.building idleCrew options moment).1 = .error .notFound := rfl
    have same : entry.after = entry.unfixed idleCrew options moment := by
      cases stage with
      | unplanned failed same => rw [same, Entry.unfixed_of_error failed]
      | unbuilt planned _ same => rw [same, Entry.unfixed_of_ok planned]
      | broken _ built | passed _ built | failed _ built => cases missing.symm.trans built
    have fixing := tells.fixing
    rw [same] at fixing
    intro move member edit fixed
    rcases List.mem_append.mp member with member | member
    · have listed := tells.mem_fixes member fixed
      exact List.filterMap_eq_nil_iff.mp fixing.files_of_self edit listed
    · exact ih stages move member edit fixed

/-- A plan that is made anew is saved. -/
theorem run_keeps_plan_renewed : ∃ outcome final,
    run idleCrew none renewEntry ⟨0⟩ closedWorld = (outcome, final) ∧
    Kept renewEntry.planPath (Guard.backupPath renewEntry.planPath ⟨0⟩) "meta: {}\n" final.files.disk := by
  obtain ⟨entries, outcome, final, moves, ran, chronicle, telling, history, points⟩ :=
    run_keeps_plan idleCrew none renewEntry ⟨0⟩ closedWorld "meta: {}\n" readText_closedWorld (by decide +kernel)
      not_landsOn_closedWorld
  obtain ⟨disk, reached, kept⟩ := points moves.length
  rw [List.take_length] at reached kept
  rw [reached.unique history] at kept
  refine ⟨outcome, final, ran, kept fun move member => ?_⟩
  have unwritten := file?_of_idle telling chronicle.stages move member
  cases history.made move member with
  | planned => trivial
  | built disk outside => exact fun path _ text read => read
  | fixed makes => exact fun path written => absurd ((unwritten _ rfl).symm.trans written) nofun
  | reported shelf => cases shelf

/-- The disk once the plan is overwritten. -/
def lostDisk : Disk :=
  projectDisk [("vibe.yaml", .file "x".toUTF8)]

theorem run_closedWorld : ∃ result page, result.success = false ∧
    closedWorld.run (parrotCrew planPatch) onceEntry = (result, { closedWorld with outside := page }) := by
  rw [World.run, Run.runFile]
  cases Plan.load closedWorld.files.disk onceEntry.planPath with
  | error e => exact ⟨_, _, rfl, rfl⟩
  | ok plan => exact ⟨_, _, rfl, rfl⟩

theorem apply_planPatch (attempts : List Attempt) :
    apply onceEntry.projectDir ⟨closedWorld.files.disk, attempts⟩ ((parse? planPatch).getD []) =
      (.ok ["/p/vibe.yaml"], ⟨lostDisk, ⟨"/p/vibe.yaml", true⟩ :: attempts⟩) := by
  have blocks : parse? planPatch = some [⟨"vibe.yaml", "x"⟩] := by decide +kernel
  have accepted : resolve? onceEntry.projectDir "vibe.yaml" = some "/p/vibe.yaml" := by decide +kernel
  have above : parent "/p/vibe.yaml" = "/p" := by decide +kernel
  have there : (⟨closedWorld.files.disk, attempts⟩ : Workspace).ensureDirectory "/p" =
      (.ok (), ⟨closedWorld.files.disk, attempts⟩) := ensureDirectory_project _ attempts
  have place : closedWorld.files.disk.writable "/p/vibe.yaml" = .ok ["vibe.yaml", "p"] := by
    rw [Disk.writable, if_neg (by decide +kernel), locate_closedWorld]
  have written : closedWorld.files.disk.writeText "/p/vibe.yaml" "x" = .ok lostDisk := by
    rw [Disk.writeText_eq (by decide +kernel), place]
    rfl
  rw [blocks]
  simp only [Option.getD_some, apply, applyFrom, accepted, writeUpdate, above, there, Workspace.writeText, written]
  rfl

theorem get?_lostDisk {place : List String} {content : ByteArray}
    (file : lostDisk.tree.get? place = some (.file content)) : content = "x".toUTF8 := by
  have only {name first : String} {node below : Node} (found : List.lookup first [(name, node)] = some below) :
      below = node := by
    rw [List.lookup_cons] at found
    split at found
    · exact (Option.some.inj found).symm
    · cases found
  cases place with
  | nil => cases file
  | cons first place =>
    obtain ⟨entries, below, same, found, rest⟩ := Node.exists_of_get?_cons file
    cases same
    rw [only found] at rest
    cases place with
    | nil => cases rest
    | cons second place =>
      obtain ⟨entries, below, same, found, rest⟩ := Node.exists_of_get?_cons rest
      cases same
      rw [only found] at rest
      cases place with
      | nil =>
        cases rest
        rfl
      | cons => cases rest

/-- A fix that is about the plan overwrites it, and its text is nowhere on the disk. -/
theorem run_loses_plan : ∃ last final,
    run (parrotCrew planPatch) none onceEntry ⟨0⟩ closedWorld = (some (.exhausted 1 last), final) ∧
    closedWorld.files.disk.readText onceEntry.planPath = .ok "meta: {}\n" ∧
    final.files.disk.readText onceEntry.planPath = .ok "x" ∧
    ∀ path, final.files.disk.readText path ≠ .ok "meta: {}\n" := by
  obtain ⟨result, page, failed, ran⟩ := run_closedWorld
  have renewed : renewPlan (parrotCrew planPatch) onceEntry ⟨0⟩ (.start onceEntry.maxIterations) closedWorld =
      (.ok none, closedWorld) := rfl
  have built : closedWorld.build (parrotCrew planPatch).builder = (.ok .success, closedWorld) := rfl
  have repaired : repairTests (parrotCrew planPatch).oracle onceEntry result { closedWorld with outside := page } =
      (.ok ["/p/vibe.yaml"], ⟨⟨lostDisk, [⟨"/p/vibe.yaml", true⟩]⟩, page⟩) := by
    have applied : apply onceEntry.projectDir closedWorld.files ((parse? planPatch).getD []) =
        (.ok ["/p/vibe.yaml"], ⟨lostDisk, [⟨"/p/vibe.yaml", true⟩]⟩) := apply_planPatch []
    simp only [repairTests, World.ask, parrotCrew, applied]
  have limit : onceEntry.maxIterations.toNat = 1 := rfl
  have located : lostDisk.locate true "/p/vibe.yaml" = .ok (.present ["vibe.yaml", "p"] (.file "x".toUTF8)) :=
    locate_of_file (by decide +kernel) (by decide +kernel) (by decide +kernel) rfl
  refine ⟨some result, ⟨⟨lostDisk, [⟨"/p/vibe.yaml", true⟩]⟩, page⟩, ?_, readText_closedWorld, ?_,
    fun path read => ?_⟩
  · rw [run, limit, loop]
    simp only [iterate, renewed, built, BuildOutcome.isSuccess, if_true, checkPlan, ran, failed, Bool.false_eq_true,
      if_false, mendTests, repaired]
    rfl
  · rw [planPath_onceEntry, Disk.readText_of_locate located, Disk.textOf_toUTF8]
  · obtain ⟨names, content, found, text⟩ := Disk.exists_of_readText read
    rw [get?_lostDisk (Disk.arrives_of_locate found).get?, Disk.textOf_toUTF8] at text
    exact absurd (Except.ok.inj text) (by decide)

end UiCheck.Repair
