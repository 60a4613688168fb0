import UiCheck.Proofs.Repair.Patched

/-! # What a repair does to the disk

The history of a repair lists every change to the disk, one by one and in order: the edits of the phase that makes a
new plan, what the builds do, the edits of the fixes, and the reports. Every round tells its part of the history.
-/

namespace UiCheck.Repair

open Files

/-- What changes the disk. -/
inductive Change where
  /-- An edit of the phase that makes a new plan. -/
  | planned (edit : Edit)
  | built
  /-- An edit of a fix. -/
  | fixed (edit : Edit)
  | reported (record : IterationRecord)

/-- A change with the disks around it. -/
structure Move where
  before : Disk
  change : Change
  after : Disk

section

variable {σ ω : Type}

/-- The change takes the disk before it to the one after it. -/
inductive Move.Made (crew : Crew σ ω) (session : Option Session) : Move → Prop
  | planned {before after : Disk} {edit : Edit} :
      edit.Makes before after → Move.Made crew session ⟨before, .planned edit, after⟩
  | built (disk : Disk) (outside : σ) :
      Move.Made crew session ⟨disk, .built, (crew.builder.build disk outside).2.1⟩
  | fixed {before after : Disk} {edit : Edit} :
      edit.Makes before after → Move.Made crew session ⟨before, .fixed edit, after⟩
  | reported {disk : Disk} {record : IterationRecord} {shelf : Session} :
      session = some shelf → Move.Made crew session ⟨disk, .reported record, (shelf.record disk record).2⟩

/-- The moves lead from one disk to another. -/
inductive History (crew : Crew σ ω) (session : Option Session) : Disk → List Move → Disk → Prop
  | nil (disk : Disk) : History crew session disk [] disk
  | cons {move : Move} {moves : List Move} {last : Disk} :
      move.Made crew session → History crew session move.after moves last →
      History crew session move.before (move :: moves) last

namespace History

variable {crew : Crew σ ω} {session : Option Session} {disk middle last : Disk} {moves more : List Move}

theorem trans (first : History crew session disk moves middle) (second : History crew session middle more last) :
    History crew session disk (moves ++ more) last := by
  induction first with
  | nil => exact second
  | cons made _ ih => exact .cons made (ih second)

theorem made (history : History crew session disk moves last) : ∀ move ∈ moves, move.Made crew session := by
  induction history with
  | nil => nofun
  | cons made _ ih => exact List.forall_mem_cons.mpr ⟨made, ih⟩

theorem unique {last' : Disk} (history : History crew session disk moves last)
    (other : History crew session disk moves last') : last = last' := by
  induction history with
  | nil =>
    cases other
    rfl
  | @cons move _ _ _ _ ih =>
    generalize move.before = start at other
    cases other with
    | cons _ rest => exact ih rest

/-- A history can be followed up to any point. -/
theorem exists_take (history : History crew session disk moves last) (n : Nat) :
    ∃ middle, History crew session disk (moves.take n) middle := by
  induction history generalizing n with
  | nil => exact ⟨_, by rw [List.take_nil]; exact .nil _⟩
  | cons made _ ih =>
    cases n with
    | zero => exact ⟨_, .nil _⟩
    | succ n =>
      obtain ⟨middle, rest⟩ := ih n
      exact ⟨middle, .cons made rest⟩

/-- Edits that each are a move are a part of a history. -/
theorem exists_of_edited {kind : Edit → Change}
    (move : ∀ {before after : Disk} {edit : Edit}, edit.Makes before after →
      Move.Made crew session ⟨before, kind edit, after⟩)
    {made : List Edit} (edited : disk.Edited made last) :
    ∃ moves, History crew session disk moves last ∧ moves.map (·.change) = made.map kind := by
  induction edited with
  | nil disk => exact ⟨[], .nil disk, rfl⟩
  | cons makes _ ih =>
    obtain ⟨moves, history, changes⟩ := ih
    exact ⟨_ :: moves, .cons (move makes) history, congrArg (_ :: ·) changes⟩

end History

section

variable (crew : Crew σ ω) (session : Option Session) (options : Options) (moment : Moment) (entry : Entry σ)

/-- The round makes these edits for a new plan: only the first one makes any, and only if there is an instruction. -/
def Entry.Replans (planned : List Edit) : Prop :=
  planned = [] ∨ entry.round.number = 1 ∧ options.instruction.isSome = true ∧
    ∃ current, currentPlan options entry.before.files.disk = .ok current ∧ Replaces options moment current planned

/-- The project is built unless the round stops before that. -/
def Entry.builds : List Change :=
  match (entry.planning crew options moment).1 with
  | .ok _ => [.built]
  | .error _ => []

/-- The report of the round, if there is a session. -/
def Entry.reports : List Change :=
  session.toList.map fun _ => .reported entry.round.record

/-- The part of the history that a round tells: the edits for a new plan, the build, the fix, and the report. -/
structure Entry.Tells (planned fixes : List Edit) (moves : List Move) : Prop where
  replans : entry.Replans options moment planned
  planning : entry.before.files.Edited planned (entry.planned crew options moment).files
  fixing : (entry.unfixed crew options moment).files.Edited fixes entry.after.files
  changes : moves.map (·.change) = planned.map .planned ++ entry.builds crew options moment ++ fixes.map .fixed ++
    entry.reports session
  history : History crew session entry.before.files.disk moves
    (keepRecord session entry.round.record entry.after).files.disk

end

section

variable {crew : Crew σ ω} {session : Option Session} {options : Options} {moment : Moment} {budget : Budget}
  {entry : Entry σ}

theorem exists_history_unfixed (entry : Entry σ) : ∃ moves, moves.map (·.change) = entry.builds crew options moment ∧
    History crew session (entry.planned crew options moment).files.disk moves
      (entry.unfixed crew options moment).files.disk := by
  rw [Entry.builds, Entry.unfixed]
  cases (entry.planning crew options moment).1 with
  | error cause => exact ⟨[], rfl, .nil _⟩
  | ok note =>
    let planned := entry.planned crew options moment
    exact ⟨_, rfl, .cons (.built planned.files.disk planned.outside) (.nil _)⟩

theorem exists_history_reported (entry : Entry σ) (world : World σ) :
    ∃ moves, moves.map (·.change) = entry.reports session ∧
      History crew session world.files.disk moves (keepRecord session entry.round.record world).files.disk := by
  cases session with
  | none => exact ⟨[], rfl, .nil _⟩
  | some shelf => exact ⟨_, rfl, .cons (.reported rfl) (.nil _)⟩

/-- A move that fixes is one of the edits of the fix. -/
theorem Entry.Tells.mem_fixes {planned fixes : List Edit} {moves : List Move}
    (tells : entry.Tells crew session options moment planned fixes moves) {move : Move} (member : move ∈ moves)
    {edit : Edit} (fixed : move.change = .fixed edit) : edit ∈ fixes := by
  have among : Change.fixed edit ∈ moves.map (·.change) := fixed ▸ List.mem_map_of_mem member
  rw [tells.changes, Entry.builds, Entry.reports] at among
  rcases List.mem_append.mp among with among | among
  · rcases List.mem_append.mp among with among | among
    · rcases List.mem_append.mp among with among | among
      · obtain ⟨_, _, same⟩ := List.mem_map.mp among
        cases same
      · split at among
        · cases List.mem_singleton.mp among
        · cases among
    · obtain ⟨fix, listed, same⟩ := List.mem_map.mp among
      cases same
      exact listed
  · obtain ⟨_, _, same⟩ := List.mem_map.mp among
    cases same

theorem Entry.exists_planned (entry : Entry σ)
    (happens : entry.round.Happens crew options moment budget entry.before entry.after) :
    ∃ planned, entry.Replans options moment planned ∧
      entry.before.files.Edited planned (entry.planned crew options moment).files := by
  have number := happens.number
  obtain ⟨planned, edited, replans⟩ := exists_edited_renewPlan options moment entry.before crew
    ⟨UInt32.ofNat entry.round.number, options.maxIterations⟩
  refine ⟨planned, replans.imp_right fun ⟨first, given, current⟩ => ⟨?_, given, current⟩, edited⟩
  have counted : budget.iteration = 1 := by rw [← first, number, UInt32.ofNat_toNat]
  rw [number, counted]
  rfl

/-- Every round tells its part of the history. -/
theorem Entry.exists_tells (entry : Entry σ)
    (happens : entry.round.Happens crew options moment budget entry.before entry.after) :
    ∃ planned fixes moves, entry.Tells crew session options moment planned fixes moves := by
  obtain ⟨planned, replans, planning⟩ := entry.exists_planned happens
  obtain ⟨fixes, fixing, _⟩ := happens.stages.accounts
  obtain ⟨renewal, renewed, renewals⟩ := History.exists_of_edited .planned planning.disk
  obtain ⟨build, building, built⟩ := exists_history_unfixed entry
  obtain ⟨fix, fixed, fixings⟩ := History.exists_of_edited .fixed fixing.disk
  obtain ⟨report, reporting, reported⟩ := exists_history_reported entry entry.after
  refine ⟨planned, fixes, renewal ++ build ++ fix ++ report, replans, planning, fixing, ?_,
    ((renewed.trans built).trans fixed).trans reported⟩
  rw [List.map_append, List.map_append, List.map_append, renewals, building, fixings, reporting]

end

/-- Rounds tell these moves, each its part. -/
inductive Telling (crew : Crew σ ω) (session : Option Session) (options : Options) (moment : Moment) :
    List (Entry σ) → List Move → Prop
  | nil : Telling crew session options moment [] []
  | cons {entry : Entry σ} {entries : List (Entry σ)} {planned fixes : List Edit} {moves more : List Move} :
      entry.Tells crew session options moment planned fixes moves → Telling crew session options moment entries more →
      Telling crew session options moment (entry :: entries) (moves ++ more)

/-- The rounds of a repair tell its whole history. -/
theorem Chronicle.exists_history {crew : Crew σ ω} {session : Option Session} {options : Options} {moment : Moment}
    {fuel : Nat} {budget : Budget} {world final : World σ} {entries : List (Entry σ)}
    {outcome : Option Outcome}
    (chronicle : Chronicle crew session options moment fuel budget world entries outcome final) :
    ∃ moves, Telling crew session options moment entries moves ∧
      History crew session world.files.disk moves final.files.disk := by
  induction chronicle with
  | exhausted | unfinished => exact ⟨[], .nil, .nil _⟩
  | passed _ happens | aborted _ happens =>
    obtain ⟨planned, fixes, moves, tells⟩ := Entry.exists_tells ⟨_, _, _⟩ happens
    refine ⟨moves ++ [], .cons tells .nil, ?_⟩
    rw [List.append_nil]
    exact tells.history
  | again _ happens _ _ ih =>
    obtain ⟨planned, fixes, moves, tells⟩ := Entry.exists_tells ⟨_, _, _⟩ happens
    obtain ⟨more, told, rest⟩ := ih
    exact ⟨moves ++ more, .cons tells told, tells.history.trans rest⟩

end

end UiCheck.Repair
