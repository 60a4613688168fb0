import UiCheck.Proofs.Run.Tally

/-! # What a summary tells

A run that is no success has failed somewhere or says why it checked nothing, so its summary is never empty: it has
one line for each failure, in order and numbered from one, or a first line with the reason. A run that is a success
has nothing to tell.
-/

namespace UiCheck

/-- A result whose summary tells what came of the run. -/
structure Summarised (result : RunResult) : Prop where
  /-- What is no success has a failure or a reason. -/
  blamed : result.success = false → result.failures ≠ [] ∨ ∃ reason, result.error = some reason
  failed : result.success = false → ∃ rest, result.failureSummary = "1. " ++ rest
  listed : result.failures ≠ [] → result.failureSummary = "\n".intercalate (result.failures.mapIdx fun i failure =>
    s!"{i + 1}. [{failure.scenario}] {failure.step.describe}: {failure.error}")
  reason : ∀ reason, result.failures = [] → result.error = some reason → result.failureSummary = "1. " ++ reason
  passed : result.success = true → result.failureSummary = ""

namespace RunResult

variable {result : RunResult}

theorem numbered_eq (start : Nat) (failures : List Failure) : numbered start failures =
    failures.mapIdx fun i failure =>
      s!"{i + start}. [{failure.scenario}] {failure.step.describe}: {failure.error}" := by
  induction failures generalizing start with
  | nil => rfl
  | cons failure failures ih =>
    have later (i : Nat) : i + (start + 1) = i + 1 + start := by omega
    rw [numbered, ih, List.mapIdx_cons, Nat.zero_add]
    simp only [later]

theorem failureSummary_of_reason {reason : String} (none : result.failures = []) (known : result.error = some reason) :
    result.failureSummary = "1. " ++ reason := by
  rw [failureSummary, none, known]
  rfl

theorem failureSummary_of_failures (some : result.failures ≠ []) :
    result.failureSummary = "\n".intercalate (numbered 1 result.failures) := by
  rw [failureSummary]
  split
  · next empty => exact absurd empty some
  · rfl

theorem exists_of_intercalate_cons (between first : String) (lines : List String) :
    ∃ rest, between.intercalate (first :: lines) = first ++ rest := by
  refine ⟨String.ofList ((between.toList.intercalate ((first :: lines).map String.toList)).drop first.toList.length), ?_⟩
  rw [← String.toList_inj, String.toList_intercalate, String.toList_append, String.toList_ofList, List.map_cons]
  cases lines with
  | nil => simp
  | cons second lines =>
    rw [List.map_cons, List.intercalate_cons_cons, List.append_assoc, List.drop_left]

/-- The first line of a list that has one begins with its number. -/
theorem exists_of_numbered {failures : List Failure} (some : failures ≠ []) :
    ∃ rest, "\n".intercalate (numbered 1 failures) = "1. " ++ rest := by
  obtain ⟨failure, failures, rfl⟩ := List.exists_cons_of_ne_nil some
  let line := s!"[{failure.scenario}] {failure.step.describe}: {failure.error}"
  have first : s!"{1}. [{failure.scenario}] {failure.step.describe}: {failure.error}" = "1. " ++ line := by
    have one : toString 1 = "1" := rfl
    rw [one, ← String.toList_inj]
    simp only [line, String.toList_append, List.append_assoc]
    rfl
  obtain ⟨rest, lines⟩ := exists_of_intercalate_cons "\n" ("1. " ++ line) (numbered (1 + 1) failures)
  refine ⟨line ++ rest, ?_⟩
  rw [numbered, first, lines, String.append_assoc]

end RunResult

namespace Run

variable {σ ω : Type} {result : RunResult}

/-- Why a run stops before its first scenario is all that its summary tells. -/
theorem summarised_fatal (reason : String) : Summarised (.fatal reason) := by
  have summary : (RunResult.fatal reason).failureSummary = "1. " ++ reason :=
    RunResult.failureSummary_of_reason rfl rfl
  refine ⟨fun _ => .inr ⟨reason, rfl⟩, fun _ => ⟨reason, summary⟩, fun some => absurd rfl some, ?_, nofun⟩
  intro other _ known
  rw [summary, Option.some.inj known]

/-- What the counts of a run agree on makes its summary tell. -/
theorem summarised_of_tallies {scenarios : List Scenario} {visits : List (Visit σ ω)}
    (tallies : Tallies scenarios visits result) : Summarised result := by
  have blamed : result.success = false → result.failures ≠ [] ∨ ∃ reason, result.error = some reason := by
    intro failed
    by_cases none : result.failures = []
    · rcases Nat.eq_zero_or_pos result.total with nothing | some
      · exact .inr ⟨noTestsExecuted, by rw [tallies.error_eq, if_pos nothing]⟩
      · have success := tallies.success_iff.mpr ⟨some, none⟩
        cases failed.symm.trans success
    · exact .inl none
  refine ⟨blamed, fun failed => ?_, fun some => ?_, fun reason none known => ?_, fun success => ?_⟩
  · by_cases none : result.failures = []
    · obtain some | ⟨reason, known⟩ := blamed failed
      · exact absurd none some
      · exact ⟨reason, RunResult.failureSummary_of_reason none known⟩
    · rw [RunResult.failureSummary_of_failures none]
      exact RunResult.exists_of_numbered none
  · rw [RunResult.failureSummary_of_failures some, RunResult.numbered_eq]
  · exact RunResult.failureSummary_of_reason none known
  · obtain ⟨some, none⟩ := tallies.success_iff.mp success
    have unblamed : result.error = Option.none := by
      rw [tallies.error_eq, if_neg (Nat.pos_iff_ne_zero.mp some)]
    rw [RunResult.failureSummary, none, unblamed]
    rfl

theorem run_summarised (page : Page σ ω) (host : Server.Host σ) (options : Options) (plan : Plan) (s : σ) :
    Summarised (run page host options plan s).1 := by
  rw [run]
  rcases reach page host options plan.root s with ⟨_ | _, s'⟩
  · exact summarised_fatal serverFailed
  · obtain ⟨visits, there, course, folded⟩ :=
      exists_visits page options plan.root (Progress.start s') plan.scenarios
    dsimp only
    rw [folded]
    exact summarised_of_tallies (tallies_result course)

theorem runFile_summarised (page : Page σ ω) (host : Server.Host σ) (options : Options) (disk : Files.Disk)
    (path : String) (s : σ) :
    Summarised (runFile page host options disk path s).1 := by
  rw [runFile]
  cases Plan.load disk path with
  | error e => exact summarised_fatal e.message
  | ok plan => exact run_summarised page host options plan s

end Run

end UiCheck
