import UiCheck.Proofs.Repair.Bound
import UiCheck.Proofs.Repair.Chronicle
import UiCheck.Proofs.Session.Shelf

/-! # The reports of a repair

Each iteration that was begun leaves one report, whichever way it ends, and what the report says is what happened.
`Round.Faithful` compares the record of a round with its deeds and its verdict, `Reported` the records of a repair
with its outcome. If nothing else touches the reports of the session, all of them lie on its shelf at the end.
-/

namespace UiCheck.Repair

open Files

variable {σ ω : Type}

section

variable (crew : Crew σ ω) (options : Options) (record : IterationRecord) (world : World σ)

/-- After a build that failed the record has the file that the log names, what was patched, and a note. -/
theorem mendBuild_record (outcome : BuildOutcome) : ∃ patched note,
    (mendBuild crew options record outcome world).2.1 =
      { record with brokenFile := Build.errorFile? outcome.logs, patched, note } ∧
    ∀ cause, (mendBuild crew options record outcome world).1 = .abort cause → note = some cause.message := by
  unfold mendBuild
  generalize Build.errorFile? outcome.logs = named
  split
  · next file _ _ => exact ⟨[file], record.note, rfl, nofun⟩
  · next e _ _ => exact ⟨record.patched, some e.message, rfl, nofun⟩
  · next cause _ _ _ => exact ⟨record.patched, some cause.message, rfl, fun _ same => by rw [Verdict.abort.inj same]⟩

/-- After a run that failed the record has what was patched, and a note. -/
theorem mendTests_record (result : RunResult) : ∃ patched note,
    (mendTests crew options record result world).2.1 = { record with patched, note } ∧
    ∀ cause, (mendTests crew options record result world).1 = .abort cause → note = some cause.message := by
  have nothing : ∀ result, ∀ cause : Error, Verdict.again result ≠ .abort cause := fun _ _ same => by cases same
  rw [mendTests]
  split
  · split
    · exact ⟨_, _, rfl, fun cause same => absurd same (nothing _ cause)⟩
    · exact ⟨_, record.note, rfl, fun cause same => absurd same (nothing _ cause)⟩
  · next e _ _ => exact ⟨record.patched, some e.message, rfl, fun cause same => absurd same (nothing _ cause)⟩
  · next cause _ _ _ => exact ⟨record.patched, some cause.message, rfl, fun _ same => by rw [Verdict.abort.inj same]⟩

end

/-- The record of a round tells what was done in it and how it ended. -/
structure Round.Faithful (round : Round) : Prop where
  numbered : round.record.iteration = round.number
  buildPassed : round.record.buildPassed = true ↔ .built (.ok .success) ∈ round.deeds
  /-- A build that failed is told by the file that its log names. -/
  broken : ∀ outcome, .built (.ok outcome) ∈ round.deeds → outcome.isSuccess = false →
    round.record.brokenFile = Build.errorFile? outcome.logs
  brokenFile : ∀ file, round.record.brokenFile = some file →
    ∃ outcome, .built (.ok outcome) ∈ round.deeds ∧ outcome.isSuccess = false ∧
      Build.errorFile? outcome.logs = some file
  /-- The result is that of the run of the plan. -/
  result : round.record.result.toList = round.deeds.filterMap Deed.tested?
  tested : round.record.result.isSome = round.record.buildPassed
  success : ∀ result, round.record.result = some result → result.success = true → round.verdict = .pass result
  passed : ∀ result, round.verdict = .pass result → round.record.result = some result
  aborted : ∀ cause, round.verdict = .abort cause → round.record.note = some cause.message

section

variable {asks : List Deed} {kind : OracleRequest → Prop}

theorem AtMostAsked.not_built (asked : AtMostAsked kind asks) (answer : Except IoError BuildOutcome) :
    .built answer ∉ asks := by
  rcases asked with rfl | ⟨request, reply, rfl, _⟩
  · exact List.not_mem_nil
  · intro built
    cases List.mem_singleton.mp built

/-- Between what is asked for there is one build. -/
theorem mem_of_one_build (asked : AtMostAsked kind asks) (answer : Except IoError BuildOutcome) {later : List Deed}
    (once : ∀ answer, .built answer ∉ later) (other : Except IoError BuildOutcome) :
    .built other ∈ asks ++ .built answer :: later ↔ other = answer := by
  constructor
  · intro member
    rcases List.mem_append.mp member with before | behind
    · exact absurd before (asked.not_built other)
    · rcases List.mem_cons.mp behind with same | after
      · exact Deed.built.inj same
      · exact absurd after (once other)
  · rintro rfl
    exact List.mem_append_right _ (List.mem_cons_self ..)

end

/-- A repair does not make a round pass. -/
theorem ne_pass_of_mended {verdict : Verdict} {result : Option RunResult} {kind : Error → Prop}
    (ends : verdict = .again result ∨ ∃ cause, verdict = .abort cause ∧ kind cause) (other : RunResult) :
    verdict ≠ .pass other := by
  rcases ends with rfl | ⟨cause, rfl, _⟩
  · nofun
  · nofun

section

variable {asks fixes : List Deed} {kind kind' : OracleRequest → Prop} {number : Nat} {patched : List String}
  {note : Option String} {verdict : Verdict}

/-- A build that failed, and what follows it, is told by a record without a result. -/
theorem faithful_of_broken {outcome : BuildOutcome} {file : Option String} (asked : AtMostAsked kind asks)
    (fixed : AtMostAsked kind' fixes) (failed : outcome.isSuccess = false)
    (named : Build.errorFile? outcome.logs = file) (unpassed : ∀ result, verdict ≠ .pass result)
    (aborted : ∀ cause, verdict = .abort cause → note = some cause.message) :
    Round.Faithful ⟨number, asks ++ .built (.ok outcome) :: fixes,
      { iteration := number, brokenFile := file, patched, note }, verdict⟩ := by
  have only := mem_of_one_build asked (.ok outcome) fixed.not_built
  exact {
    numbered := rfl
    buildPassed := by
      refine ⟨nofun, fun built => ?_⟩
      cases (only _).mp built
      cases failed
    broken := fun other built _ => by rw [Except.ok.inj ((only _).mp built), named]
    brokenFile := fun _ same => ⟨outcome, (only _).mpr rfl, failed, named.trans same⟩
    result := by
      rw [List.filterMap_append, List.filterMap_cons_none rfl, asked.filterMap_tested?, fixed.filterMap_tested?]
      rfl
    tested := rfl
    success := nofun
    passed := fun result same => absurd same (unpassed result)
    aborted }

/-- A build that passed, and what follows it, is told by a record with the result of the run. -/
theorem faithful_of_tested {result : RunResult} (asked : AtMostAsked kind asks) (fixed : AtMostAsked kind' fixes)
    (success : result.success = true → verdict = .pass result)
    (passed : ∀ other, verdict = .pass other → other = result)
    (aborted : ∀ cause, verdict = .abort cause → note = some cause.message) :
    Round.Faithful ⟨number, asks ++ .built (.ok .success) :: .tested result :: fixes,
      { iteration := number, buildPassed := true, result := some result, patched, note }, verdict⟩ := by
  have once : ∀ answer, .built answer ∉ .tested result :: fixes := fun answer built =>
    fixed.not_built answer ((List.mem_cons.mp built).resolve_left nofun)
  have only := mem_of_one_build asked (.ok .success) once
  exact {
    numbered := rfl
    buildPassed := ⟨fun _ => (only _).mpr rfl, fun _ => rfl⟩
    broken := fun other built failed => by
      cases (only _).mp built
      cases failed
    brokenFile := nofun
    result := by
      rw [List.filterMap_append, List.filterMap_cons_none rfl, List.filterMap_cons_some (f := Deed.tested?) rfl,
        asked.filterMap_tested?, fixed.filterMap_tested?]
      rfl
    tested := rfl
    success := fun other same succeeded => by
      rw [← Option.some.inj same] at succeeded ⊢
      exact success succeeded
    passed := fun other same => by rw [passed other same]
    aborted }

end

section

variable {crew : Crew σ ω} {options : Options} {moment : Moment} {budget : Budget}

theorem Round.Happens.faithful {world after : World σ} {round : Round}
    (happens : round.Happens crew options moment budget world after) : round.Faithful := by
  cases happens with
  | @unplanned asks cause _ renewed =>
    have asked := plans_of_renewPlan renewed
    exact {
      numbered := rfl
      buildPassed := ⟨nofun, fun built => absurd built (asked.not_built _)⟩
      broken := fun outcome built => absurd built (asked.not_built _)
      brokenFile := nofun
      result := asked.filterMap_tested?.symm
      tested := rfl
      success := nofun
      passed := nofun
      aborted := fun _ same => by rw [← Verdict.abort.inj same, stopped] }
  | @unbuilt asks note _ _ e renewed _ =>
    have asked := plans_of_renewPlan renewed
    have only := mem_of_one_build asked (.error e) fun _ => List.not_mem_nil
    exact {
      numbered := rfl
      buildPassed := ⟨nofun, fun built => nomatch (only _).mp built⟩
      broken := fun outcome built => nomatch (only _).mp built
      brokenFile := nofun
      result := by
        rw [List.filterMap_append, asked.filterMap_tested?]
        rfl
      tested := rfl
      success := nofun
      passed := nofun
      aborted := fun _ same => by rw [← Verdict.abort.inj same, stopped] }
  | @broken asks fixes note _ built _ outcome record verdict renewed _ failed mended =>
    obtain ⟨patched, note', recorded, noted⟩ := mendBuild_record crew.recorded options
      { iteration := budget.iteration.toNat, note } (built.logged []) outcome
    have ends := mendBuild_verdict crew.recorded options (built.logged [])
      { iteration := budget.iteration.toNat, note } outcome
    rw [mended] at recorded noted ends
    dsimp only at recorded noted ends
    generalize named : Build.errorFile? outcome.logs = file at recorded
    subst recorded
    exact faithful_of_broken (plans_of_renewPlan renewed) (fixes_of_mendBuild mended) failed named
      (ne_pass_of_mended ends) noted
  | @passed asks note _ _ _ result renewed _ _ success =>
    have nothing : AtMostAsked (fun _ => False) [] := .inl rfl
    exact faithful_of_tested (plans_of_renewPlan renewed) nothing (fun _ => rfl)
      (fun other same => (Verdict.pass.inj same).symm) nofun
  | @failed asks fixes note _ _ tested _ result record verdict renewed _ _ failed mended =>
    obtain ⟨patched, note', recorded, noted⟩ := mendTests_record crew.recorded options
      { iteration := budget.iteration.toNat, note, buildPassed := true, result := some result } (tested.logged [])
      result
    have ends := mendTests_verdict crew.recorded options (tested.logged [])
      { iteration := budget.iteration.toNat, note, buildPassed := true, result := some result } result
    rw [mended] at recorded noted ends
    dsimp only at recorded noted ends
    subst recorded
    refine faithful_of_tested (plans_of_renewPlan renewed) (patches_of_mendTests mended) (fun success => ?_)
      (fun other same => absurd same (ne_pass_of_mended ends other)) noted
    rw [failed] at success
    cases success

end

namespace Chronicle

section

variable {crew : Crew σ ω} {session : Option Session} {options : Options} {moment : Moment} {fuel limit : Nat}
  {budget : Budget} {world final : World σ} {entries earlier later : List (Entry σ)} {entry : Entry σ}
  {outcome : Option Outcome}

theorem faithful (chronicle : Chronicle crew session options moment fuel budget world entries outcome final) :
    ∀ entry ∈ entries, entry.round.Faithful := by
  intro entry member
  obtain ⟨_, happens⟩ := chronicle.happens entry member
  exact happens.faithful

/-- The reports have the numbers of the rounds. -/
theorem reports_numbered (chronicle : Chronicle crew session options moment fuel budget world entries outcome final)
    (fits : budget.Fits fuel) :
    entries.map (·.round.record.iteration) = List.range' budget.iteration.toNat entries.length := by
  rw [← chronicle.numbered fits]
  exact List.map_congr_left fun entry member => (chronicle.faithful entry member).numbered

/-- A round that passes is the last one, and the repair has passed in it. -/
theorem Ends.last_of_pass (ends : Ends fuel limit entries outcome) (cut : entries = earlier ++ entry :: later)
    {result : RunResult} (verdict : entry.round.verdict = .pass result) :
    later = [] ∧ outcome = some (.passed entry.round.number result) := by
  have not_before {front : List (Entry σ)} (goes : GoesOn front) : entry ∉ front := by
    intro member
    obtain ⟨tested, again⟩ := goes entry member
    rw [verdict] at again
    cases again
  have last {front : List (Entry σ)} {other : Entry σ} (goes : GoesOn front)
      (same : front ++ [other] = earlier ++ entry :: later) : later = [] ∧ other = entry := by
    rcases List.eq_nil_or_concat later with rfl | ⟨behind, end', rfl⟩
    · exact ⟨rfl, List.singleton_inj.mp (List.append_inj' same rfl).2⟩
    · rw [List.concat_eq_append, ← List.cons_append, ← List.append_assoc] at same
      refine absurd ?_ (not_before goes)
      rw [(List.append_inj' same rfl).1]
      exact List.mem_append_right _ (List.mem_cons_self ..)
  cases ends with
  | exhausted goes _ | unfinished goes _ =>
    refine absurd ?_ (not_before goes)
    rw [cut]
    exact List.mem_append_right _ (List.mem_cons_self ..)
  | passed goes passed =>
    obtain ⟨none, rfl⟩ := last goes cut
    rw [verdict] at passed
    exact ⟨none, by rw [Verdict.pass.inj passed]⟩
  | aborted goes stopped =>
    obtain ⟨_, rfl⟩ := last goes cut
    rw [verdict] at stopped
    cases stopped

theorem number_of_last
    (numbered : (earlier ++ [entry]).map (·.round.number) = List.range' 1 (earlier ++ [entry]).length) :
    entry.round.number = (earlier ++ [entry]).length := by
  rw [List.map_append, List.length_append, List.length_singleton, List.range'_1_concat] at numbered
  have last := List.singleton_inj.mp (List.append_inj' numbered rfl).2
  rw [List.length_append, List.length_singleton, Nat.add_comm]
  exact last

end

end Chronicle

/-- What the records of a repair with a limit tell, and what they say about its outcome. -/
structure Reported (limit : Nat) (entries : List (Entry σ)) (outcome : Outcome) : Prop where
  faithful : ∀ entry ∈ entries, entry.round.Faithful
  numbered : entries.map (·.round.record.iteration) = List.range' 1 entries.length
  passed : ∀ i result, outcome = .passed i result → entries.length = i ∧
    ∃ earlier entry, entries = earlier ++ [entry] ∧ entry.round.record.result = some result
  aborted : ∀ i cause, outcome = .aborted i cause → entries.length = i ∧
    ∃ earlier entry, entries = earlier ++ [entry] ∧ entry.round.record.note = some cause.message
  exhausted : ∀ n last, outcome = .exhausted n last → n = limit ∧ entries.length = limit
  /-- A result that is a success is in the last record, and the repair has passed with it. -/
  success : ∀ earlier entry later result, entries = earlier ++ entry :: later →
    entry.round.record.result = some result → result.success = true →
    later = [] ∧ outcome = .passed entries.length result

/-- From its first round on the records of a repair tell what happened. -/
theorem Chronicle.reported {crew : Crew σ ω} {session : Option Session} {options : Options} {moment : Moment}
    {limit : UInt32} {world final : World σ} {entries : List (Entry σ)} {outcome : Outcome}
    (chronicle : Chronicle crew session options moment limit.toNat (.start limit) world entries (some outcome) final) :
    Reported limit.toNat entries outcome := by
  have fits := Budget.start_fits limit
  have ends := chronicle.ends fits
  have numbered := chronicle.numbered fits
  have faithful := chronicle.faithful
  refine ⟨faithful, chronicle.reports_numbered fits, ?_, ?_, ?_, ?_⟩
  · intro i result passed
    cases ends with
    | @passed earlier entry _ _ verdict =>
      cases passed
      have last := faithful entry (List.mem_append_right _ (List.mem_singleton_self _))
      exact ⟨(Chronicle.number_of_last numbered).symm, earlier, entry, rfl, last.passed _ verdict⟩
    | _ => cases passed
  · intro i cause aborted
    cases ends with
    | @aborted earlier entry _ _ verdict =>
      cases aborted
      have last := faithful entry (List.mem_append_right _ (List.mem_singleton_self _))
      exact ⟨(Chronicle.number_of_last numbered).symm, earlier, entry, rfl, last.aborted _ verdict⟩
    | _ => cases aborted
  · intro n last exhausted
    cases ends with
    | exhausted _ length =>
      cases exhausted
      exact ⟨rfl, length⟩
    | _ => cases exhausted
  · intro earlier entry later result cut found success
    have member : entry ∈ entries := by
      rw [cut]
      exact List.mem_append_right _ (List.mem_cons_self ..)
    have verdict := (faithful entry member).success result found success
    obtain ⟨rfl, passed⟩ := ends.last_of_pass cut verdict
    subst cut
    exact ⟨rfl, by rw [Option.some.inj passed, Chronicle.number_of_last numbered]⟩

/-! ## On the shelf -/

/-- The report of the entry could be written. -/
def Entry.Written (session : Session) (entry : Entry σ) : Prop :=
  ∃ path, (session.record entry.after.files.disk entry.round.record).1 = .ok path

/-- Up to its report the entry leaves those of the session alone. -/
def Entry.LeavesAlone (session : Session) (entry : Entry σ) : Prop :=
  session.shelf? entry.after.files.disk = session.shelf? entry.before.files.disk

theorem Entry.Written.keeps {session : Session} {entry : Entry σ} (written : entry.Written session) :
    session.Keeps entry.after.files.disk (keepRecord (some session) entry.round.record entry.after).files.disk
      entry.round.record := by
  obtain ⟨path, wrote⟩ := written
  have recorded : session.record entry.after.files.disk entry.round.record =
      (.ok path, (session.record entry.after.files.disk entry.round.record).2) := Prod.ext wrote rfl
  exact Session.keeps_of_record recorded

/-- The reports of the entries have come onto a shelf, on which the others stayed. -/
def Shelves (session : Session) (entries : List (Entry σ)) (shelf : Nat → Option Node) (disk : Disk) : Prop :=
  ∃ shelf', session.shelf? disk = some shelf' ∧
    (∀ entry ∈ entries, Session.Shelved shelf' entry.round.record) ∧
    ∀ other, other ∉ entries.map (·.round.record.iteration) → shelf' other = shelf other

section

variable {session : Session} {entries : List (Entry σ)} {shelf : Nat → Option Node}

theorem shelves_nil {disk : Disk} (there : session.shelf? disk = some shelf) :
    Shelves session ([] : List (Entry σ)) shelf disk :=
  ⟨shelf, there, fun _ member => absurd member List.not_mem_nil, fun _ _ => rfl⟩

/-- The report of an iteration comes onto the shelf, and with other numbers those of the rest. -/
theorem shelves_cons {round : Round} {before after : World σ} {final : Disk}
    (written : (⟨round, before, after⟩ : Entry σ).Written session)
    (alone : (⟨round, before, after⟩ : Entry σ).LeavesAlone session)
    (distinct : ((⟨round, before, after⟩ :: entries).map fun entry : Entry σ => entry.round.record.iteration).Nodup)
    (there : session.shelf? before.files.disk = some shelf) (unlinked : ∀ n target, shelf n ≠ some (.link target))
    (rest : ∀ shelf', session.shelf? (keepRecord (some session) round.record after).files.disk = some shelf' →
      (∀ n target, shelf' n ≠ some (.link target)) → Shelves session entries shelf' final) :
    Shelves session (⟨round, before, after⟩ :: entries) shelf final := by
  rw [List.map_cons, List.nodup_cons] at distinct
  obtain ⟨middle, kept, shelved, others⟩ := written.keeps shelf (alone.trans there) (unlinked _)
  dsimp only at kept
  have unlinked' : ∀ n target, middle n ≠ some (.link target) := by
    intro n target linked
    by_cases own : n = round.record.iteration
    · obtain ⟨_, _, file⟩ := shelved
      rw [own, file] at linked
      cases linked
    · rw [others n own] at linked
      exact unlinked n target linked
  obtain ⟨shelf', left, later, untouched⟩ := rest middle kept unlinked'
  refine ⟨shelf', left, fun other among => ?_, fun other outside => ?_⟩
  · rcases List.mem_cons.mp among with rfl | among
    · -- the reports behind this one have other numbers
      obtain ⟨doc, printed, file⟩ := shelved
      exact ⟨doc, printed, (untouched _ distinct.1).trans file⟩
    · exact later other among
  · rw [List.map_cons, List.mem_cons, not_or] at outside
    rw [untouched other outside.2, others other outside.1]

/-- Reports with different numbers all stay on the shelf. -/
theorem Chronicle.shelves {crew : Crew σ ω} {options : Options} {moment : Moment} {fuel : Nat} {budget : Budget}
    {world final : World σ} {outcome : Option Outcome}
    (chronicle : Chronicle crew (some session) options moment fuel budget world entries outcome final)
    (written : ∀ entry ∈ entries, entry.Written session) (alone : ∀ entry ∈ entries, entry.LeavesAlone session)
    (distinct : (entries.map (·.round.record.iteration)).Nodup)
    (there : session.shelf? world.files.disk = some shelf) (unlinked : ∀ n target, shelf n ≠ some (.link target)) :
    Shelves session entries shelf final.files.disk := by
  have first {entry : Entry σ} {rest : List (Entry σ)} : entry ∈ entry :: rest := List.mem_cons_self ..
  -- each report changes the shelf on which the later ones come
  induction chronicle generalizing shelf with
  | exhausted | unfinished => exact shelves_nil there
  | passed | aborted =>
    exact shelves_cons (written _ first) (alone _ first) distinct there unlinked fun _ kept _ => shelves_nil kept
  | again _ _ _ _ ih =>
    refine shelves_cons (written _ first) (alone _ first) distinct there unlinked fun shelf' kept unlinked' => ?_
    exact ih (fun entry member => written entry (List.mem_cons_of_mem _ member))
      (fun entry member => alone entry (List.mem_cons_of_mem _ member)) (List.nodup_cons.mp distinct).2 kept unlinked'

end

/-- Whatever the page, the oracle and the builder answer, a repair with a limit below the largest word keeps one report of
each iteration that it begins, numbered from one, and each tells what happened. A report that can be written replaces
none with another number, so if all can be and nothing else touches them, the session holds them at the end, and under
other numbers what it held before. -/
theorem run_reports (crew : Crew σ ω) (session : Session) (options : Options) (moment : Moment) (world : World σ)
    (few : options.maxIterations.toNat < UInt32.size - 1) :
    ∃ entries outcome final, run crew (some session) options moment world = (some outcome, final) ∧
      Chronicle crew (some session) options moment options.maxIterations.toNat (.start options.maxIterations) world
        entries (some outcome) final ∧
      Reported options.maxIterations.toNat entries outcome ∧
      (∀ entry ∈ entries, entry.Written session → session.Keeps entry.after.files.disk
        (keepRecord (some session) entry.round.record entry.after).files.disk entry.round.record) ∧
      ∀ shelf, session.shelf? world.files.disk = some shelf → (∀ n target, shelf n ≠ some (.link target)) →
        (∀ entry ∈ entries, entry.Written session) → (∀ entry ∈ entries, entry.LeavesAlone session) →
        ∃ shelf', session.shelf? final.files.disk = some shelf' ∧
          (∀ entry ∈ entries, Session.Shelved shelf' entry.round.record) ∧
          ∀ other, other = 0 ∨ entries.length < other → shelf' other = shelf other := by
  obtain ⟨entries, outcome, final, ran, chronicle⟩ := exists_finished crew (some session) options moment world few
  have reported := chronicle.reported
  refine ⟨entries, outcome, final, ran, chronicle, reported, fun _ _ written => written.keeps,
    fun shelf there unlinked written alone => ?_⟩
  have distinct : (entries.map (·.round.record.iteration)).Nodup := by
    rw [reported.numbered]
    exact List.nodup_range'
  obtain ⟨shelf', left, shelved, others⟩ := chronicle.shelves written alone distinct there unlinked
  refine ⟨shelf', left, shelved, fun other outside => others other fun among => ?_⟩
  rw [reported.numbered, List.mem_range'_1] at among
  omega

/-! ## Sessions of a repair with two rounds -/

/-- The session whose directory lies beside the project. -/
def shelfSession : Session where
  id := "s"
  dir := "/s"
  keep := true

section

variable {reports : Files.Entries} {record : IterationRecord} {doc : Json}

theorem get?_twiceDisk : (twiceDisk reports).tree.get? ["s"] = some (.directory reports) := rfl

theorem walk_twiceDisk (way : List Files.Part) : walk (twiceDisk reports).tree true linkLimit [] (.root :: .name "s" :: way) =
    walk (twiceDisk reports).tree true linkLimit ["s"] way := by
  have short : ¬ nameLimit < "s".utf8ByteSize := by decide +kernel
  have found (entries : Files.Entries) (node : Node) :
      List.lookup "s" [("proj", .directory entries), ("s", node)] = some node := rfl
  simp [walk, twiceDisk, Node.get?, short, found]

theorem shelf?_twiceDisk : shelfSession.shelf? (twiceDisk reports) =
    some fun iteration => reports.lookup (Session.reportName iteration) := by
  have way : steps "/s" = [.root, .name "s"] := by decide +kernel
  have start : (twiceDisk reports).start.reverse = [] := rfl
  have node : (twiceDisk reports).node "/s" = .ok (.directory reports) := by
    rw [Disk.node, Disk.locate_eq (by decide +kernel), way, start, walk_twiceDisk, walk, List.reverse_singleton,
      get?_twiceDisk]
  have dir : shelfSession.dir = "/s" := rfl
  rw [Session.shelf?, dir, node]

/-- A file goes into the directory of the session. -/
theorem put_twiceDisk (name : String) (node : Node) :
    (twiceDisk reports).put [name, "s"] node = twiceDisk (Entries.insert name node reports) := rfl

/-- The first two reports go where their names lead: there, if they are free, or where a link leads. -/
theorem record_twiceDisk {name : String} (among : record.iteration ∈ [1, 2]) (printed : record.toJson = .ok doc)
    (leads : (twiceDisk reports).locate true (shelfSession.recordPath record.iteration) = .ok (.vacant ["s"] name)) :
    ∃ path, shelfSession.record (twiceDisk reports) record =
      (.ok path, twiceDisk (Entries.insert name (Session.reportFile doc) reports)) := by
  have admissible : ∀ n ∈ [1, 2], Admissible (shelfSession.recordPath n) := by decide +kernel
  have path : shelfSession.recordPath record.iteration = join "/s" (Session.reportName record.iteration) := rfl
  have place : (twiceDisk reports).writable (shelfSession.recordPath record.iteration) = .ok [name, "s"] := by
    rw [path] at leads ⊢
    rw [Disk.writable_join (by decide +kernel) (Session.isName_reportName _), leads]
  refine ⟨shelfSession.recordPath record.iteration, ?_⟩
  rw [Session.record, printed]
  dsimp only
  rw [Disk.writeText_eq (admissible _ among), place, ← put_twiceDisk]
  rfl

theorem locate_twiceDisk {number : Nat} (among : number ∈ [1, 2]) :
    (twiceDisk reports).locate true (shelfSession.recordPath number) =
      walk (twiceDisk reports).tree true linkLimit ["s"] [.name (Session.reportName number)] := by
  have way : ∀ n ∈ [1, 2], Admissible (shelfSession.recordPath n) ∧
      steps (shelfSession.recordPath n) = [.root, .name "s", .name (Session.reportName n)] := by decide +kernel
  rw [Disk.locate_eq (way _ among).1, (way _ among).2]
  exact walk_twiceDisk _

theorem locate_twiceDisk_of_free {number : Nat} (among : number ∈ [1, 2])
    (free : reports.lookup (Session.reportName number) = none) :
    (twiceDisk reports).locate true (shelfSession.recordPath number) =
      .ok (.vacant ["s"] (Session.reportName number)) := by
  have short : ∀ n ∈ [1, 2], ¬ nameLimit < (Session.reportName n).utf8ByteSize := by decide +kernel
  rw [locate_twiceDisk among]
  simp [walk, get?_twiceDisk, short _ among, free]

variable {asked : List OracleRequest} {builds : Rehearsal.Builds}

theorem keepRecord_twiceWorld {name : String} (among : record.iteration ∈ [1, 2]) (printed : record.toJson = .ok doc)
    (leads : (twiceDisk reports).locate true (shelfSession.recordPath record.iteration) = .ok (.vacant ["s"] name)) :
    (∃ path, (shelfSession.record (twiceWorld reports asked builds).files.disk record).1 = .ok path) ∧
    keepRecord (some shelfSession) record (twiceWorld reports asked builds) =
      twiceWorld (Entries.insert name (Session.reportFile doc) reports) asked builds := by
  obtain ⟨path, wrote⟩ := record_twiceDisk among printed leads
  have wrote : shelfSession.record (twiceWorld reports asked builds).files.disk record = _ := wrote
  refine ⟨⟨path, congrArg Prod.fst wrote⟩, ?_⟩
  rw [keepRecord]
  dsimp only
  rw [wrote]
  rfl

/-- After a build that fails and a run that fails the session holds the reports of both iterations and no other. -/
theorem run_reports_twice : twiceOptions.maxIterations.toNat < UInt32.size - 1 ∧ ∃ final shelf,
    run Rehearsal.crew (some shelfSession) twiceOptions ⟨0⟩
      (twiceWorld [] [] { script := [.ok (.failed "boom" "")] }) = (some (.exhausted 2 (some planless)), final) ∧
    shelfSession.shelf? final.files.disk = some shelf ∧ Session.Shelved shelf (unmended 1) ∧
    Session.Shelved shelf (unplanned 2) ∧ ∀ other, other = 0 ∨ 2 < other → shelf other = none := by
  have few : twiceOptions.maxIterations.toNat < UInt32.size - 1 := by decide
  obtain ⟨doc, printed⟩ : ∃ doc, (unmended 1).toJson = .ok doc := ⟨_, rfl⟩
  obtain ⟨doc', printed'⟩ : ∃ doc, (unplanned 2).toJson = .ok doc := ⟨_, rfl⟩
  obtain ⟨asked, first⟩ := @iterate_first []
  obtain ⟨written, kept⟩ := @keepRecord_twiceWorld [] (unmended 1) doc asked { built := 1 } _ (by decide) printed
    (locate_twiceDisk_of_free (by decide) rfl)
  obtain ⟨asked', second⟩ := @iterate_second (Entries.insert (Session.reportName 1) (Session.reportFile doc) []) asked
  obtain ⟨written', kept'⟩ := @keepRecord_twiceWorld (Entries.insert (Session.reportName 1) (Session.reportFile doc) [])
    (unplanned 2) doc' asked' { built := 2 } _ (by decide) printed' (locate_twiceDisk_of_free (by decide) rfl)
  have again := second
  rw [← show _ = twiceWorld (Entries.insert (Session.reportName 1) _ _) _ _ from kept] at again
  have ended := run_of_two rfl first again
  obtain ⟨entries, outcome, final, ran, chronicle, _, _, shelved⟩ :=
    run_reports Rehearsal.crew shelfSession twiceOptions ⟨0⟩
      (twiceWorld [] [] { script := [.ok (.failed "boom" "")] }) few
  obtain ⟨same, _⟩ := Prod.mk.inj (ran.symm.trans ended)
  obtain rfl : outcome = _ := Option.some.inj same
  obtain ⟨round, round', rfl, recorded, recorded'⟩ := chronicle.eq_of_two first again
  obtain ⟨shelf, there, held, others⟩ := shelved _ shelf?_twiceDisk nofun
    (List.forall_mem_cons.mpr ⟨by rw [Entry.Written, recorded]; exact written,
      List.forall_mem_singleton.mpr (by rw [Entry.Written, recorded']; exact written')⟩)
    (List.forall_mem_cons.mpr ⟨rfl, List.forall_mem_singleton.mpr (by rw [Entry.LeavesAlone, kept]; rfl)⟩)
  obtain ⟨held, held'⟩ := List.forall_mem_cons.mp held
  exact ⟨few, final, shelf, ran, there, recorded ▸ held, recorded' ▸ held' _ (List.mem_singleton_self _), others⟩

/-- A crew whose builds fail and clear the directory of the session. -/
def sweepingCrew : Crew Rehearsal.Stage Listener :=
  { Rehearsal.crew with builder := { build := fun _ s => (.ok (.failed "boom" ""), twiceDisk [], s) } }

theorem iterate_sweepingCrew (budget : Budget) : ∃ asked',
    iterate sweepingCrew twiceOptions ⟨0⟩ budget (twiceWorld reports asked builds) =
      (.again none, unmended budget.iteration.toNat, twiceWorld [] asked' builds) := by
  have building : (twiceWorld reports asked builds).build sweepingCrew.builder =
      (.ok (.failed "boom" ""), twiceWorld [] asked builds) := rfl
  obtain ⟨asked', mended⟩ := @mendBuild_twiceWorld [] asked builds
  refine ⟨asked', ?_⟩
  rw [iterate, renewPlan_twiceOptions]
  dsimp only
  rw [building]
  exact mended _

/-- A report that was written is gone once a later build has cleared the directory. -/
theorem exists_swept : ∃ first second final shelf,
    run sweepingCrew (some shelfSession) twiceOptions ⟨0⟩ (twiceWorld [] [] {}) = (some (.exhausted 2 none), final) ∧
    Chronicle sweepingCrew (some shelfSession) twiceOptions ⟨0⟩ 2 (.start 2) (twiceWorld [] [] {}) [first, second]
      (some (.exhausted 2 none)) final ∧
    first.Written shelfSession ∧ second.Written shelfSession ∧
    shelfSession.shelf? final.files.disk = some shelf ∧ shelf 1 = none := by
  obtain ⟨doc, printed⟩ : ∃ doc, (unmended 1).toJson = .ok doc := ⟨_, rfl⟩
  obtain ⟨doc', printed'⟩ : ∃ doc, (unmended 2).toJson = .ok doc := ⟨_, rfl⟩
  obtain ⟨asked, iterated⟩ := @iterate_sweepingCrew [] [] {} (.start 2)
  obtain ⟨written, kept⟩ := @keepRecord_twiceWorld [] (unmended 1) doc asked {} _ (by decide) printed
    (locate_twiceDisk_of_free (by decide) rfl)
  obtain ⟨asked', again⟩ := @iterate_sweepingCrew (Entries.insert (Session.reportName 1) (Session.reportFile doc) [])
    asked {} (Budget.start 2).advance
  rw [← show _ = twiceWorld (Entries.insert (Session.reportName 1) _ _) _ _ from kept] at again
  obtain ⟨written', kept'⟩ := @keepRecord_twiceWorld [] (unmended 2) doc' asked' {} _ (by decide) printed'
    (locate_twiceDisk_of_free (by decide) rfl)
  have ended := run_of_two rfl iterated again
  obtain ⟨entries, outcome, final, ran, chronicle⟩ :=
    exists_chronicle sweepingCrew (some shelfSession) twiceOptions ⟨0⟩ 2 (.start 2) none (twiceWorld [] [] {})
  obtain ⟨rfl, rfl⟩ := Prod.mk.inj (ran.symm.trans ended)
  obtain ⟨round, round', rfl, recorded, recorded'⟩ := chronicle.eq_of_two iterated again
  refine ⟨_, _, _, _, ran, chronicle, by rw [Entry.Written, recorded]; exact written,
    by rw [Entry.Written, recorded']; exact written', (congrArg _ (congrArg (·.files.disk) kept')).trans shelf?_twiceDisk,
    ?_⟩
  rfl

/-- A build that cannot be started leaves one report, which goes where its name leads. -/
theorem exists_unbuilt {name : String}
    (leads : (twiceDisk reports).locate true (shelfSession.recordPath 1) = .ok (.vacant ["s"] name)) :
    ∃ entry final doc,
      run Rehearsal.crew (some shelfSession) twiceOptions ⟨0⟩ (twiceWorld reports [] { script := [.error .notFound] }) =
        (some (.aborted 1 (.build .notFound)), final) ∧
      Chronicle Rehearsal.crew (some shelfSession) twiceOptions ⟨0⟩ 2 (.start 2)
        (twiceWorld reports [] { script := [.error .notFound] }) [entry] (some (.aborted 1 (.build .notFound))) final ∧
      entry.Written shelfSession ∧ entry.round.record.iteration = 1 ∧
      shelfSession.shelf? final.files.disk =
        some fun n => (Entries.insert name (Session.reportFile doc) reports).lookup (Session.reportName n) := by
  have iterated : iterate Rehearsal.crew twiceOptions ⟨0⟩ (.start 2)
      (twiceWorld reports [] { script := [.error .notFound] }) =
        (.abort (.build .notFound), stopped { iteration := 1 } (.build .notFound), twiceWorld reports [] { built := 1 }) :=
    rfl
  obtain ⟨doc, printed⟩ : ∃ doc, (stopped { iteration := 1 } (.build .notFound)).toJson = .ok doc := ⟨_, rfl⟩
  obtain ⟨written, kept⟩ := @keepRecord_twiceWorld reports (stopped { iteration := 1 } (.build .notFound)) doc []
    { built := 1 } _ (by decide) printed leads
  obtain ⟨entries, outcome, final, ran, chronicle⟩ := exists_chronicle Rehearsal.crew (some shelfSession) twiceOptions ⟨0⟩
    2 (.start 2) none (twiceWorld reports [] { script := [.error .notFound] })
  obtain ⟨rfl, rfl⟩ := Prod.mk.inj (ran.symm.trans (loop_of_abort (by decide) iterated))
  obtain ⟨round, rfl, recorded⟩ := chronicle.exists_of_abort (by decide) iterated
  exact ⟨_, _, doc, ran, chronicle, by rw [Entry.Written, recorded]; exact written, congrArg _ recorded,
    (congrArg _ (congrArg (·.files.disk) kept)).trans shelf?_twiceDisk⟩

/-- A report whose name is a link to another one goes there. -/
theorem locate_linked : (twiceDisk [(Session.reportName 1, .link (Session.reportName 7))]).locate true
    (shelfSession.recordPath 1) = .ok (.vacant ["s"] (Session.reportName 7)) := by
  have way : steps (Session.reportName 7) = [.name (Session.reportName 7)] := by decide +kernel
  have filled : (Session.reportName 7).isEmpty = false := by decide +kernel
  have short : ∀ n ∈ [1, 7], ¬ nameLimit < (Session.reportName n).utf8ByteSize := by decide +kernel
  have linked (node : Node) : List.lookup (Session.reportName 1) [(Session.reportName 1, node)] = some node :=
    List.lookup_cons_self
  have free (node : Node) : List.lookup (Session.reportName 7) [(Session.reportName 1, node)] = none := rfl
  rw [locate_twiceDisk (by decide)]
  simp [walk, get?_twiceDisk, short, linked, free, way, filled, linkLimit]

/-- Written reports are gone if a build removes them, come beside those that an earlier session has left, and go where a
link under their name leads. -/
theorem run_reports_disturbed :
    (∃ first second final shelf,
      run sweepingCrew (some shelfSession) twiceOptions ⟨0⟩ (twiceWorld [] [] {}) = (some (.exhausted 2 none), final) ∧
      Chronicle sweepingCrew (some shelfSession) twiceOptions ⟨0⟩ 2 (.start 2) (twiceWorld [] [] {}) [first, second]
        (some (.exhausted 2 none)) final ∧
      first.Written shelfSession ∧ second.Written shelfSession ∧
      shelfSession.shelf? final.files.disk = some shelf ∧ shelf 1 = none) ∧
    (∃ former entry final shelf,
      run Rehearsal.crew (some shelfSession) twiceOptions ⟨0⟩
        (twiceWorld [(Session.reportName 7, Session.reportFile former)] [] { script := [.error .notFound] }) =
          (some (.aborted 1 (.build .notFound)), final) ∧
      (unmended 7).toJson = .ok former ∧ entry.Written shelfSession ∧ entry.round.record.iteration = 1 ∧
      Chronicle Rehearsal.crew (some shelfSession) twiceOptions ⟨0⟩ 2 (.start 2)
        (twiceWorld [(Session.reportName 7, Session.reportFile former)] [] { script := [.error .notFound] }) [entry]
        (some (.aborted 1 (.build .notFound))) final ∧
      shelfSession.shelf? final.files.disk = some shelf ∧ shelf 7 = some (Session.reportFile former)) ∧
    ∃ entry final shelf,
      run Rehearsal.crew (some shelfSession) twiceOptions ⟨0⟩
        (twiceWorld [(Session.reportName 1, .link (Session.reportName 7))] [] { script := [.error .notFound] }) =
          (some (.aborted 1 (.build .notFound)), final) ∧
      entry.Written shelfSession ∧ entry.round.record.iteration = 1 ∧
      Chronicle Rehearsal.crew (some shelfSession) twiceOptions ⟨0⟩ 2 (.start 2)
        (twiceWorld [(Session.reportName 1, .link (Session.reportName 7))] [] { script := [.error .notFound] }) [entry]
        (some (.aborted 1 (.build .notFound))) final ∧
      shelfSession.shelf? final.files.disk = some shelf ∧ shelf 1 = some (.link (Session.reportName 7)) := by
  have different : Session.reportName 7 ≠ Session.reportName 1 :=
    fun same => absurd (Session.reportName_inj same) (by decide)
  refine ⟨exists_swept, ?_, ?_⟩
  · obtain ⟨former, printed⟩ : ∃ doc, (unmended 7).toJson = .ok doc := ⟨_, rfl⟩
    have free : [(Session.reportName 7, Session.reportFile former)].lookup (Session.reportName 1) = none := by rfl
    obtain ⟨entry, final, doc, ran, chronicle, written, first, there⟩ :=
      exists_unbuilt (locate_twiceDisk_of_free (by decide) free)
    exact ⟨former, entry, final, _, ran, printed, written, first, chronicle, there,
      (Entries.lookup_insert_of_ne different _ _).trans List.lookup_cons_self⟩
  · obtain ⟨entry, final, doc, ran, chronicle, written, first, there⟩ := exists_unbuilt locate_linked
    exact ⟨entry, final, _, ran, written, first, chronicle, there,
      (Entries.lookup_insert_of_ne different.symm _ _).trans List.lookup_cons_self⟩

end

end UiCheck.Repair
