import UiCheck.Proofs.Repair.BrokenFile
import UiCheck.Proofs.Repair.Safekeeping

/-! # Repairs without replies

Every phase asks its oracle before it writes anything, and a request that is refused ends it. So a repair whose oracle
refuses every request changes nothing itself: what happens to the disk is what the builds and the reports do, and it
is never the oracle that stops the repair.
-/

namespace UiCheck.Repair

open Files Patch

/-- How a phase ends that asks an oracle once, before it writes anything: it fails without a request, its request is
refused, or it is replied to. -/
inductive Consults {σ α : Type} (oracle : Oracle σ) (fails : Error → Prop) (world : World σ) :
    Except Error α → World σ → Prop
  | unasked {cause : Error} : fails cause → Consults oracle fails world (.error cause) world
  | refused {request : OracleRequest} {e : OracleError} {after : World σ} :
      world.ask oracle request = (.error e, after) → Consults oracle fails world (.error (.oracle e)) after
  | replied {request : OracleRequest} {reply : String} {answer : Except Error α} {middle after : World σ} :
      world.ask oracle request = (.ok reply, middle) → after.outside = middle.outside →
      Consults oracle fails world answer after

section

variable {σ ω : Type} (oracle : Oracle σ) (options : Options) (moment : Moment) (world : World σ)

theorem generatePlan_consults (instruction : Option String) :
    Consults oracle (fun cause => ∃ e, cause = .io e ∧ currentPlan options world.files.disk = .error e) world
      (generatePlan oracle options moment instruction world).1
      (generatePlan oracle options moment instruction world).2 := by
  unfold generatePlan
  cases known : currentPlan options world.files.disk with
  | error e => exact .unasked ⟨e, rfl, rfl⟩
  | ok current =>
    let request : OracleRequest := .generatePlan (planContext options world.files.disk current instruction)
    dsimp only
    rcases answered : world.ask oracle request with ⟨e | reply, middle⟩
    · exact .refused answered
    · exact .replied answered rfl

theorem repairBuild_consults (logs : String) :
    Consults oracle (fun cause => findBroken options world.files.disk (brokenFile options logs) = .error cause) world
      (repairBuild oracle options logs world).1 (repairBuild oracle options logs world).2 := by
  unfold repairBuild
  generalize brokenFile options logs = file
  dsimp only
  cases found : findBroken options world.files.disk file with
  | error cause => exact .unasked rfl
  | ok target =>
    obtain ⟨path, source⟩ := target
    let request : OracleRequest := .repairFile { logs, source, manifest := options.manifest world.files.disk }
    dsimp only
    rcases answered : world.ask oracle request with ⟨e | reply, middle⟩
    · exact .refused answered
    · dsimp only
      split <;> exact .replied answered rfl

theorem repairTests_consults (result : RunResult) :
    Consults oracle (fun _ => False) world (repairTests oracle options result world).1
      (repairTests oracle options result world).2 := by
  let request : OracleRequest := .repairFiles (testContext options world.files.disk result)
  rw [repairTests]
  rcases answered : world.ask oracle request with ⟨e | reply, middle⟩
  · exact .refused answered
  · dsimp only
    split <;> exact .replied answered rfl

end

/-- None of the requests was replied to. -/
def Unreplied (deeds : List Deed) : Prop :=
  ∀ request reply, .asked request reply ∈ deeds → ∃ e, reply = .error e

theorem unreplied_nil : Unreplied [] :=
  nofun

theorem unreplied_append_iff {deeds more : List Deed} :
    Unreplied (deeds ++ more) ↔ Unreplied deeds ∧ Unreplied more := by
  constructor
  · intro unreplied
    constructor
    · intro request reply member
      exact unreplied request reply (List.mem_append_left _ member)
    · intro request reply member
      exact unreplied request reply (List.mem_append_right _ member)
  · rintro ⟨first, second⟩ request reply member
    rcases List.mem_append.mp member with member | member
    · exact first request reply member
    · exact second request reply member

/-- Whatever else is done asks for no reply. -/
theorem Unreplied.cons {deed : Deed} {deeds : List Deed} (other : ∀ request reply, deed ≠ .asked request reply)
    (unreplied : Unreplied deeds) : Unreplied (deed :: deeds) := by
  intro request reply member
  rcases List.mem_cons.mp member with same | member
  · exact absurd same.symm (other request reply)
  · exact unreplied request reply member

section

variable {σ ω α : Type} {crew : Crew σ ω} {options : Options} {moment : Moment} {world after : World σ}
  {fails : Error → Prop} {answer : Except Error α} {asks : List Deed}

/-- A phase of a recorded crew notes its one request. -/
theorem Consults.of_unreplied
    (consults : Consults crew.recorded.oracle fails (world.logged []) answer (after.logged asks))
    (unreplied : Unreplied asks) :
    after.files = world.files ∧ ∀ cause, answer = .error cause → (∀ e, cause ≠ .oracle e) → fails cause := by
  generalize before : world.logged [] = start at consults
  generalize behind : after.logged asks = final at consults
  cases consults with
  | unasked failed =>
    have same := (World.logged_inj (before.trans behind.symm)).1
    refine ⟨congrArg World.files same.symm, fun cause stopped _ => ?_⟩
    cases stopped
    exact failed
  | refused asked =>
    subst before behind
    have files := congrArg (fun answer => answer.2.files) asked
    refine ⟨files.symm, fun cause stopped other => ?_⟩
    cases stopped
    exact absurd rfl (other _)
  | @replied request reply _ middle _ asked outside =>
    subst before behind
    have noted : asks = [.asked request (.ok reply)] := by
      rw [ask_logged] at asked
      obtain ⟨answered, same⟩ := Prod.mk.inj asked
      rw [← same, answered] at outside
      exact congrArg Prod.snd outside
    obtain ⟨e, error⟩ := unreplied request (.ok reply) (noted ▸ List.mem_singleton_self _)
    cases error

/-- An oracle that refuses every request replies to none. -/
theorem Consults.unreplied (mute : ∀ request s, ∃ e, (crew.oracle.ask request s).1 = .error e)
    (consults : Consults crew.recorded.oracle fails (world.logged []) answer (after.logged asks)) :
    Unreplied asks := by
  generalize before : world.logged [] = start at consults
  generalize behind : after.logged asks = final at consults
  cases consults with
  | unasked failed =>
    have same := (World.logged_inj (before.trans behind.symm)).2
    rw [← same]
    intro request reply member
    cases member
  | @refused request e _ asked =>
    subst before behind
    have noted : asks = [.asked request (.error e)] := by
      rw [ask_logged] at asked
      obtain ⟨answered, same⟩ := Prod.mk.inj asked
      rw [answered] at same
      exact (World.logged_inj same).2.symm
    intro request' reply member
    rw [noted] at member
    cases List.mem_singleton.mp member
    exact ⟨e, rfl⟩
  | replied asked =>
    subst before
    rw [ask_logged] at asked
    obtain ⟨e, error⟩ := mute _ world.outside
    cases error.symm.trans (Prod.mk.inj asked).1

/-! ## The stages of a round -/

/-- A new plan is asked for only in the first iteration, and what stops the stage has stopped the request. -/
theorem renewPlan_consults (crew : Crew σ ω) (options : Options) (moment : Moment) (world : World σ)
    (budget : Budget) :
    renewPlan crew options moment budget world = (.ok none, world) ∨
      budget.iteration = 1 ∧ options.instruction.isSome = true ∧ ∃ generated : Except Error Guard.Outcome,
        Consults crew.oracle (fun cause => ∃ e, cause = .io e ∧ currentPlan options world.files.disk = .error e) world
          generated (renewPlan crew options moment budget world).2 ∧
        ∀ cause, (renewPlan crew options moment budget world).1 = .error cause → generated = .error cause := by
  rw [renewPlan]
  cases given : options.instruction with
  | none => exact .inl rfl
  | some instruction =>
    dsimp only
    split
    · exact .inl rfl
    · next first =>
      have consults := generatePlan_consults crew.oracle options moment world (some instruction)
      refine .inr ⟨Decidable.not_not.mp first, rfl, ?_⟩
      rcases generated : generatePlan crew.oracle options moment (some instruction) world with ⟨cause | _, after⟩ <;>
        rw [generated] at consults
      · cases cause <;> refine ⟨_, consults, fun _ stopped => ?_⟩ <;> cases stopped <;> rfl
      · exact ⟨_, consults, by simp⟩

theorem renewPlan_of_unreplied {budget : Budget} {answer : Except Error (Option String)}
    (renewed : renewPlan crew.recorded options moment budget (world.logged []) = (answer, after.logged asks))
    (unreplied : Unreplied asks) :
    after.files = world.files ∧ ∀ cause, answer = .error cause → budget.iteration = 1 ∧
      options.instruction.isSome = true ∧ ∃ e, cause = .io e ∧ currentPlan options world.files.disk = .error e := by
  rcases renewPlan_consults crew.recorded options moment (world.logged []) budget with
    idle | ⟨first, given, generated, consults, stops⟩
  · rw [renewed] at idle
    obtain ⟨rfl, same⟩ := Prod.mk.inj idle
    refine ⟨congrArg World.files (World.logged_inj same).1, ?_⟩
    intro cause stopped
    cases stopped
  · rw [renewed] at consults stops
    obtain ⟨files, failed⟩ := consults.of_unreplied unreplied
    refine ⟨files, fun cause stopped => ⟨first, given, ?_⟩⟩
    rw [stopped] at renewed
    exact failed cause (stops cause stopped) (renewPlan_error crew.recorded options moment _ renewed)

theorem unreplied_of_renewPlan {budget : Budget} {answer : Except Error (Option String)}
    (mute : ∀ request s, ∃ e, (crew.oracle.ask request s).1 = .error e)
    (renewed : renewPlan crew.recorded options moment budget (world.logged []) = (answer, after.logged asks)) :
    Unreplied asks := by
  rcases renewPlan_consults crew.recorded options moment (world.logged []) budget with
    idle | ⟨_, _, generated, consults, _⟩
  · rw [renewed] at idle
    have none : asks = [] := (World.logged_inj (Prod.mk.inj idle).2).2
    intro request reply member
    rw [none] at member
    cases member
  · rw [renewed] at consults
    exact consults.unreplied mute

section

variable {record record' : IterationRecord} {verdict : Verdict}

theorem repairBuild_of_abort {outcome : BuildOutcome} {cause : Error}
    (aborted : (mendBuild crew options record outcome world).1 = .abort cause) :
    (repairBuild crew.oracle options outcome.logs world).1 = .error cause ∧ ∀ e, cause ≠ .oracle e := by
  unfold mendBuild at aborted
  generalize repairBuild crew.oracle options outcome.logs world = ended at aborted
  obtain ⟨cause' | file, after⟩ := ended
  · cases cause' <;> cases aborted <;> exact ⟨rfl, nofun⟩
  · cases aborted

theorem repairTests_of_abort {result : RunResult} {cause : Error}
    (aborted : (mendTests crew options record result world).1 = .abort cause) :
    (repairTests crew.oracle options result world).1 = .error cause ∧ ∀ e, cause ≠ .oracle e := by
  rw [mendTests] at aborted
  rcases repaired : repairTests crew.oracle options result world with ⟨cause' | written, after⟩ <;>
    rw [repaired] at aborted
  · cases cause' <;> cases aborted <;> exact ⟨rfl, by simp⟩
  · dsimp only at aborted
    split at aborted <;> cases aborted

theorem mendBuild_consults {outcome : BuildOutcome}
    (mended : mendBuild crew.recorded options record outcome (world.logged []) =
      (verdict, record', after.logged asks)) :
    Consults crew.recorded.oracle
      (fun cause => findBroken options world.files.disk (brokenFile options outcome.logs) = .error cause)
      (world.logged []) (repairBuild crew.recorded.oracle options outcome.logs (world.logged [])).1
      (after.logged asks) := by
  have consults := repairBuild_consults crew.recorded.oracle options (world.logged []) outcome.logs
  rwa [← mendBuild_world crew.recorded options record outcome, mended] at consults

theorem mendTests_consults {result : RunResult}
    (mended : mendTests crew.recorded options record result (world.logged []) =
      (verdict, record', after.logged asks)) :
    Consults crew.recorded.oracle (fun _ => False) (world.logged [])
      (repairTests crew.recorded.oracle options result (world.logged [])).1 (after.logged asks) := by
  have consults := repairTests_consults crew.recorded.oracle options (world.logged []) result
  rwa [← mendTests_world crew.recorded options record result, mended] at consults

theorem mendBuild_of_unreplied {outcome : BuildOutcome}
    (mended : mendBuild crew.recorded options record outcome (world.logged []) =
      (verdict, record', after.logged asks)) (unreplied : Unreplied asks) :
    after.files = world.files ∧ ∀ cause, verdict = .abort cause →
      findBroken options world.files.disk (brokenFile options outcome.logs) = .error cause := by
  obtain ⟨files, failed⟩ := (mendBuild_consults mended).of_unreplied unreplied
  refine ⟨files, fun cause aborted => ?_⟩
  obtain ⟨stopped, other⟩ := repairBuild_of_abort ((congrArg Prod.fst mended).trans aborted)
  exact failed cause stopped other

theorem mendTests_of_unreplied {result : RunResult}
    (mended : mendTests crew.recorded options record result (world.logged []) =
      (verdict, record', after.logged asks)) (unreplied : Unreplied asks) :
    after.files = world.files ∧ ∀ cause, verdict ≠ .abort cause := by
  obtain ⟨files, failed⟩ := (mendTests_consults mended).of_unreplied unreplied
  refine ⟨files, fun cause aborted => ?_⟩
  obtain ⟨stopped, other⟩ := repairTests_of_abort ((congrArg Prod.fst mended).trans aborted)
  exact failed cause stopped other

end

end

/-- What stops a round without any reply: a plan that cannot be read, a build tool that cannot be started, an entry
file outside the project, or a file to fix that is not there or cannot be read. -/
inductive Entry.Stops {σ ω : Type} (crew : Crew σ ω) (options : Options) (moment : Moment) (entry : Entry σ) :
    Error → Prop
  | unreadablePlan {e : IoError} :
      entry.round.number = 1 → options.instruction.isSome = true →
      entry.before.files.disk.exists? options.planPath = true →
      entry.before.files.disk.readText options.planPath = .error e → Entry.Stops crew options moment entry (.io e)
  | unbuilt {e : IoError} :
      (entry.building crew options moment).1 = .error e → Entry.Stops crew options moment entry (.build e)
  | unsafeEntry {outcome : BuildOutcome} :
      (entry.building crew options moment).1 = .ok outcome → outcome.isSuccess = false →
      Build.errorFile? outcome.logs = none →
      resolve? options.projectDir (brokenFile options outcome.logs) = none →
      Entry.Stops crew options moment entry (.patch (.unsafePath (brokenFile options outcome.logs)))
  | missing {outcome : BuildOutcome} {path : String} :
      (entry.building crew options moment).1 = .ok outcome → outcome.isSuccess = false →
      resolve? options.projectDir (brokenFile options outcome.logs) = some path →
      (entry.built crew options moment).files.disk.exists? path = false →
      Entry.Stops crew options moment entry (.brokenFileMissing (brokenFile options outcome.logs))
  | unreadable {outcome : BuildOutcome} {path : String} {e : IoError} :
      (entry.building crew options moment).1 = .ok outcome → outcome.isSuccess = false →
      resolve? options.projectDir (brokenFile options outcome.logs) = some path →
      (entry.built crew options moment).files.disk.readText path = .error e →
      Entry.Stops crew options moment entry (.io e)

section

variable {σ ω : Type} {crew : Crew σ ω} {session : Option Session} {options : Options} {moment : Moment}
  {budget : Budget} {entry : Entry σ}

theorem Entry.stops_of_findBroken {outcome : BuildOutcome} {cause : Error}
    (built : (entry.building crew options moment).1 = .ok outcome) (failed : outcome.isSuccess = false)
    (missed : findBroken options (entry.built crew options moment).files.disk (brokenFile options outcome.logs) =
      .error cause) : entry.Stops crew options moment cause := by
  rcases findBroken_error options missed with
    ⟨rfl, refused⟩ | ⟨path, accepted, ⟨rfl, absent⟩ | ⟨e, rfl, unread⟩⟩
  · have unnamed : Build.errorFile? outcome.logs = none := by
      cases found : Build.errorFile? outcome.logs with
      | none => rfl
      | some named =>
        rw [resolve?_brokenFile found] at refused
        cases refused
    exact .unsafeEntry built failed unnamed refused
  · exact .missing built failed accepted absent
  · exact .unreadable built failed accepted unread

theorem Entry.stops_of_currentPlan {e : IoError} (first : entry.round.number = 1)
    (given : options.instruction.isSome = true)
    (unread : currentPlan options entry.before.files.disk = .error e) : entry.Stops crew options moment (.io e) := by
  rw [currentPlan] at unread
  split at unread
  · next there => exact .unreadablePlan first given there unread
  · cases unread

/-- The round changes no files itself, and if it is stopped, then not by the oracle. -/
structure Entry.Idles (crew : Crew σ ω) (options : Options) (moment : Moment) (entry : Entry σ) : Prop where
  planned : (entry.planned crew options moment).files = entry.before.files
  fixed : entry.after.files = (entry.unfixed crew options moment).files
  stops : ∀ cause, entry.round.verdict = .abort cause → entry.Stops crew options moment cause

/-- A round whose requests are not replied to changes no files itself. -/
theorem Entry.idles (entry : Entry σ)
    (happens : entry.round.Happens crew options moment budget entry.before entry.after)
    (unreplied : Unreplied entry.round.deeds) : entry.Idles crew options moment := by
  have number := happens.number
  obtain ⟨round, before, after⟩ := entry
  cases happens with
  | unplanned renewed =>
    have planning := planning_eq number renewed
    obtain ⟨files, stopped⟩ := renewPlan_of_unreplied renewed unreplied
    have same : Entry.planned crew options moment _ = after := congrArg Prod.snd planning
    refine ⟨same ▸ files, ?_, fun cause aborted => ?_⟩
    · rw [Entry.unfixed_of_error (congrArg Prod.fst planning), same]
    · cases aborted
      obtain ⟨first, given, e, rfl, unread⟩ := stopped _ rfl
      exact Entry.stops_of_currentPlan (congrArg UInt32.toNat first) given unread
  | unbuilt renewed built =>
    have planning := planning_eq number renewed
    have building := (building_eq number renewed).trans built
    obtain ⟨files, _⟩ := renewPlan_of_unreplied renewed (unreplied_append_iff.mp unreplied).1
    refine ⟨(congrArg (·.2.files) planning).trans files, ?_, fun cause aborted => ?_⟩
    · rw [Entry.unfixed_of_ok (congrArg Prod.fst planning), built_eq building]
    · cases aborted
      exact .unbuilt (congrArg Prod.fst building)
  | broken renewed built failed mended =>
    have planning := planning_eq number renewed
    have building := (building_eq number renewed).trans built
    obtain ⟨asks, rest⟩ := unreplied_append_iff.mp unreplied
    have fixes := ((@unreplied_append_iff [_] _).mp rest).2
    obtain ⟨files, _⟩ := renewPlan_of_unreplied renewed asks
    obtain ⟨same, missed⟩ := mendBuild_of_unreplied mended fixes
    refine ⟨(congrArg (·.2.files) planning).trans files, ?_, fun cause aborted => ?_⟩
    · rw [Entry.unfixed_of_ok (congrArg Prod.fst planning), built_eq building]
      exact same
    · have missed := missed cause aborted
      rw [← built_eq building] at missed
      exact Entry.stops_of_findBroken (congrArg Prod.fst building) failed missed
  | passed renewed built tested success =>
    have planning := planning_eq number renewed
    have building := (building_eq number renewed).trans built
    obtain ⟨files, _⟩ := renewPlan_of_unreplied renewed (unreplied_append_iff.mp unreplied).1
    refine ⟨(congrArg (·.2.files) planning).trans files, ?_, fun cause aborted => ?_⟩
    · rw [Entry.unfixed_of_ok (congrArg Prod.fst planning), built_eq building]
      exact files_of_run tested
    · cases aborted
  | failed renewed built tested failed mended =>
    have planning := planning_eq number renewed
    have building := (building_eq number renewed).trans built
    obtain ⟨asks, rest⟩ := unreplied_append_iff.mp unreplied
    have fixes := ((@unreplied_append_iff [_, _] _).mp rest).2
    obtain ⟨files, _⟩ := renewPlan_of_unreplied renewed asks
    obtain ⟨same, going⟩ := mendTests_of_unreplied mended fixes
    refine ⟨(congrArg (·.2.files) planning).trans files, ?_, fun cause aborted => absurd aborted (going cause)⟩
    rw [Entry.unfixed_of_ok (congrArg Prod.fst planning), built_eq building]
    exact same.trans (files_of_run tested)

/-- A round whose oracle refuses every request is not replied to. -/
theorem Round.Happens.unreplied (mute : ∀ request s, ∃ e, (crew.oracle.ask request s).1 = .error e)
    (happens : entry.round.Happens crew options moment budget entry.before entry.after) :
    Unreplied entry.round.deeds := by
  generalize entry.round = round at happens ⊢
  cases happens with
  | unplanned renewed => exact unreplied_of_renewPlan mute renewed
  | unbuilt renewed =>
    have asks := unreplied_of_renewPlan mute renewed
    exact unreplied_append_iff.mpr ⟨asks, .cons nofun unreplied_nil⟩
  | broken renewed _ _ mended =>
    have asks := unreplied_of_renewPlan mute renewed
    have fixes := (mendBuild_consults mended).unreplied mute
    exact unreplied_append_iff.mpr ⟨asks, .cons nofun fixes⟩
  | passed renewed =>
    have asks := unreplied_of_renewPlan mute renewed
    exact unreplied_append_iff.mpr ⟨asks, .cons nofun (.cons nofun unreplied_nil)⟩
  | failed renewed _ _ _ mended =>
    have asks := unreplied_of_renewPlan mute renewed
    have fixes := (mendTests_consults mended).unreplied mute
    exact unreplied_append_iff.mpr ⟨asks, .cons nofun (.cons nofun fixes)⟩

/-! ## Whole repairs -/

/-- What is not changed by any move of a history is in the end as it was. -/
theorem History.node_eq {disk last : Disk} {moves : List Move} {path : String}
    (history : History crew session disk moves last)
    (keeps : ∀ move ∈ moves, move.after.node path = move.before.node path) : last.node path = disk.node path := by
  induction history with
  | nil => rfl
  | cons _ _ ih =>
    obtain ⟨first, rest⟩ := List.forall_mem_cons.mp keeps
    exact (ih rest).trans first

/-- The build and the report of a round are all that happens to the disk in it. -/
theorem Entry.Idles.exists_history (idles : entry.Idles crew options moment) :
    ∃ moves, History crew session entry.before.files.disk moves
        (keepRecord session entry.round.record entry.after).files.disk ∧
      moves.map (·.change) = entry.builds crew options moment ++ entry.reports session ∧
      (keepRecord session entry.round.record entry.after).files.attempts = entry.before.files.attempts := by
  obtain ⟨build, building, built⟩ := @exists_history_unfixed σ ω crew session options moment entry
  obtain ⟨report, reporting, reported⟩ := @exists_history_reported σ ω crew session entry entry.after
  rw [idles.planned] at built
  rw [idles.fixed] at reported
  refine ⟨build ++ report, built.trans reported, ?_, ?_⟩
  · rw [List.map_append, building, reporting]
  · have unfixed : (entry.unfixed crew options moment).files.attempts =
        (entry.planned crew options moment).files.attempts := by
      rw [Entry.unfixed]
      split
      · exact build_attempts crew.builder _
      · rfl
    rw [keepRecord_attempts, idles.fixed, unfixed, idles.planned]

/-- Rounds whose requests are not replied to leave the disk to the builds and the reports. -/
theorem Chronicle.exists_history_of_unreplied {fuel : Nat} {world final : World σ} {entries : List (Entry σ)}
    {outcome : Option Outcome}
    (chronicle : Chronicle crew session options moment fuel budget world entries outcome final)
    (unreplied : ∀ entry ∈ entries, Unreplied entry.round.deeds) :
    ∃ moves, History crew session world.files.disk moves final.files.disk ∧
      (moves.map (·.change) = entries.flatMap fun entry => entry.builds crew options moment ++ entry.reports session) ∧
      final.files.attempts = world.files.attempts := by
  induction chronicle with
  | exhausted | unfinished => exact ⟨[], .nil _, rfl, rfl⟩
  | passed _ happens | aborted _ happens =>
    have idles := Entry.idles ⟨_, _, _⟩ happens (unreplied _ (List.mem_singleton_self _))
    obtain ⟨moves, history, changes, attempts⟩ := idles.exists_history
    refine ⟨moves, history, ?_, attempts⟩
    rw [changes, List.flatMap_singleton]
  | again _ happens _ _ ih =>
    obtain ⟨first, rest⟩ := List.forall_mem_cons.mp unreplied
    have idles := Entry.idles ⟨_, _, _⟩ happens first
    obtain ⟨moves, history, changes, attempts⟩ := idles.exists_history
    obtain ⟨more, later, latest, same⟩ := ih rest
    refine ⟨moves ++ more, history.trans later, ?_, same.trans attempts⟩
    rw [List.map_append, changes, latest, List.flatMap_cons]

/-- A repair that is stopped is stopped by its last round. -/
theorem Chronicle.exists_of_aborted {fuel : Nat} {world final : World σ} {entries : List (Entry σ)} {i : Nat}
    {cause : Error}
    (chronicle : Chronicle crew session options moment fuel budget world entries (some (.aborted i cause)) final) :
    ∃ entry ∈ entries, entry.round.number = i ∧ entry.round.verdict = .abort cause := by
  generalize ended : some (Outcome.aborted i cause) = outcome at chronicle
  induction chronicle with
  | exhausted | unfinished | passed => cases ended
  | aborted _ _ verdict =>
    cases ended
    exact ⟨_, List.mem_singleton_self _, rfl, verdict⟩
  | again _ _ _ _ ih =>
    obtain ⟨entry, member, stopped⟩ := ih ended
    exact ⟨entry, List.mem_cons_of_mem _ member, stopped⟩

end

/-- A repair whose requests are not replied to leaves the disk to the builds and the reports: it does not even try to
write a file, and a project that they leave as it is stays as it was. If it is stopped, then by a plan that cannot be
read, a build tool that cannot be started, an entry file outside the project, or a file to fix that is not there or
cannot be read. It goes on for ever only if its limit is the largest word. An oracle that refuses every request
replies to none. -/
theorem run_without_replies {σ ω : Type} (crew : Crew σ ω) (session : Option Session) (options : Options)
    (moment : Moment) (world : World σ) :
    ∃ entries outcome final, run crew session options moment world = (outcome, final) ∧
      Chronicle crew session options moment options.maxIterations.toNat (.start options.maxIterations) world entries
        outcome final ∧
      (outcome = none → options.maxIterations.toNat = UInt32.size - 1) ∧
      ((∀ request s, ∃ e, (crew.oracle.ask request s).1 = .error e) →
        ∀ entry ∈ entries, Unreplied entry.round.deeds) ∧
      ((∀ entry ∈ entries, Unreplied entry.round.deeds) →
        (∃ moves, History crew session world.files.disk moves final.files.disk ∧
          (moves.map (·.change) =
            entries.flatMap fun entry => entry.builds crew options moment ++ entry.reports session) ∧
          ((∀ move ∈ moves, move.after.node options.projectDir = move.before.node options.projectDir) →
            final.files.disk.node options.projectDir = world.files.disk.node options.projectDir)) ∧
        final.files.attempts = world.files.attempts ∧
        ∀ i cause, outcome = some (.aborted i cause) →
          (∀ e, cause ≠ .oracle e) ∧
          ∃ entry ∈ entries, entry.round.number = i ∧ entry.Stops crew options moment cause) := by
  obtain ⟨entries, outcome, final, ran, chronicle⟩ := exists_chronicle crew session options moment
    options.maxIterations.toNat (.start options.maxIterations) none world
  refine ⟨entries, outcome, final, ran, chronicle, chronicle.largest_of_none, fun mute entry member => ?_,
    fun unreplied => ?_⟩
  · obtain ⟨_, happens⟩ := chronicle.happens entry member
    exact happens.unreplied mute
  · obtain ⟨moves, history, changes, attempts⟩ := chronicle.exists_history_of_unreplied unreplied
    refine ⟨⟨moves, history, changes, history.node_eq⟩, attempts, ?_⟩
    rintro i cause rfl
    obtain ⟨entry, member, number, aborted⟩ := chronicle.exists_of_aborted
    obtain ⟨_, happens⟩ := chronicle.happens entry member
    have stops := (entry.idles happens (unreplied entry member)).stops cause aborted
    refine ⟨?_, entry, member, number, stops⟩
    cases stops <;> exact nofun

/-- A crew whose builds fail and whose oracle cannot be reached. -/
def muteCrew : Crew MemoryPage Listener :=
  { absentCrew with builder := { build := fun disk s => (.ok (.failed "boom" ""), disk, s) } }

theorem repairBuild_muteCrew : repairBuild muteCrew.oracle renewEntry "boom\n" closedWorld =
    (.error (.oracle (.connectionFailed "refused")), closedWorld) := by
  have file : brokenFile renewEntry "boom\n" = "vibe.yaml" := by decide +kernel
  have found : findBroken renewEntry closedWorld.files.disk "vibe.yaml" = .ok ("/p/vibe.yaml", "meta: {}\n") :=
    findBroken_plan
  unfold repairBuild
  rw [file]
  simp only [found, World.ask]
  rfl

theorem mendBuild_muteCrew (record : IterationRecord) : ∃ record',
    mendBuild muteCrew renewEntry record (.failed "boom" "") closedWorld = (.again none, record', closedWorld) := by
  have logs : (BuildOutcome.failed "boom" "").logs = "boom\n" := by decide
  unfold mendBuild
  rw [logs, repairBuild_muteCrew]
  generalize Build.errorFile? "boom\n" = named
  exact ⟨_, rfl⟩

theorem generatePlan_muteCrew : generatePlan muteCrew.oracle renewEntry ⟨0⟩ (some "more") closedWorld =
    (.error (.oracle (.connectionFailed "refused")), closedWorld) := by
  have read : closedWorld.files.disk.readText renewEntry.planPath = .ok "meta: {}\n" := readText_closedWorld
  have known := currentPlan_of_readText read
  unfold generatePlan
  simp only [known, World.ask]
  rfl

theorem iterate_muteCrew : ∃ record,
    iterate muteCrew renewEntry ⟨0⟩ (.start renewEntry.maxIterations) closedWorld =
      (.again none, record, closedWorld) := by
  obtain ⟨note, renewed⟩ : ∃ note, renewPlan muteCrew renewEntry ⟨0⟩ (.start renewEntry.maxIterations) closedWorld =
      (.ok note, closedWorld) := by
    have given : renewEntry.instruction = some "more" := rfl
    have first : ¬ (Budget.start renewEntry.maxIterations).iteration ≠ 1 := by decide
    simp only [renewPlan, given, if_neg first, generatePlan_muteCrew]
    exact ⟨_, rfl⟩
  have built : closedWorld.build muteCrew.builder = (.ok (.failed "boom" ""), closedWorld) := rfl
  obtain ⟨record, mended⟩ := mendBuild_muteCrew { iteration := 1, note }
  refine ⟨record, ?_⟩
  rw [iterate, renewed]
  dsimp only
  rw [built]
  exact mended

theorem run_without_replies_mute : ∃ final,
    run muteCrew none renewEntry ⟨0⟩ closedWorld = (some (.exhausted 1 none), final) ∧
    final.files.disk.node "/p" = closedWorld.files.disk.node "/p" ∧ final.files.attempts = [] := by
  obtain ⟨record, iterated⟩ := iterate_muteCrew
  have ended : run muteCrew none renewEntry ⟨0⟩ closedWorld = (some (.exhausted 1 none), closedWorld) := by
    have limit : renewEntry.maxIterations.toNat = 1 := rfl
    rw [run, limit, loop, iterated]
    rfl
  obtain ⟨entries, outcome, final, ran, _, _, refused, quiet⟩ :=
    run_without_replies muteCrew none renewEntry ⟨0⟩ closedWorld
  have mute : ∀ request s, ∃ e, (muteCrew.oracle.ask request s).1 = .error e := fun _ _ => ⟨_, rfl⟩
  obtain ⟨⟨moves, history, changes, keeps⟩, attempts, _⟩ := quiet (refused mute)
  obtain ⟨rfl, _⟩ := Prod.mk.inj (ran.symm.trans ended)
  refine ⟨final, ran, keeps fun move member => ?_, attempts⟩
  have made := history.made move member
  have among : move.change ∈ moves.map (·.change) := List.mem_map_of_mem member
  rw [changes] at among
  cases made with
  | built => rfl
  | reported given => cases given
  | planned | fixed =>
    obtain ⟨entry, _, among⟩ := List.mem_flatMap.mp among
    rw [Entry.builds] at among
    split at among <;> simp [Entry.reports] at among

end UiCheck.Repair
