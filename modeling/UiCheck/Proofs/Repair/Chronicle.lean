import UiCheck.Proofs.Repair.Rounds

/-! # Chronicles of repairs

A chronicle tells the rounds of a repair with the worlds between them, so that it can be asked what each round did
to the files. It ends where the loop ends, also when the fuel does, and so every repair has one, whatever its limit.
The rounds are numbered from one, and an exhausted repair has used up its limit. With a limit below the largest word
the fuel is enough, and there is an outcome.
-/

namespace UiCheck.Repair

variable {σ ω : Type}

/-- A round with the world in which it begins and the one in which its record is about to be kept. -/
structure Entry (σ : Type) where
  round : Round
  before : World σ
  after : World σ

section

variable (crew : Crew σ ω) (session : Option Session) (options : Options) (moment : Moment)

/-- The entries of a repair that has some fuel left, with its outcome and the world at its end. A repair that still
goes on when the fuel is used up has no outcome. -/
inductive Chronicle : Nat → Budget → World σ → List (Entry σ) → Option Outcome → World σ → Prop
  | exhausted {fuel : Nat} {budget : Budget} {world : World σ} {last : Option RunResult} :
      budget.isExhausted = true →
      Chronicle fuel budget world [] (some (.exhausted budget.limit.toNat last)) world
  | unfinished {budget : Budget} {world : World σ} :
      budget.isExhausted = false → Chronicle 0 budget world [] none world
  | passed {fuel : Nat} {budget : Budget} {world after : World σ} {round : Round} {result : RunResult} :
      budget.isExhausted = false → round.Happens crew options moment budget world after →
      round.verdict = .pass result →
      Chronicle (fuel + 1) budget world [⟨round, world, after⟩] (some (.passed round.number result))
        (keepRecord session round.record after)
  | aborted {fuel : Nat} {budget : Budget} {world after : World σ} {round : Round} {cause : Error} :
      budget.isExhausted = false → round.Happens crew options moment budget world after →
      round.verdict = .abort cause →
      Chronicle (fuel + 1) budget world [⟨round, world, after⟩] (some (.aborted round.number cause))
        (keepRecord session round.record after)
  | again {fuel : Nat} {budget : Budget} {world after final : World σ} {round : Round} {result : Option RunResult}
      {entries : List (Entry σ)} {outcome : Option Outcome} :
      budget.isExhausted = false → round.Happens crew options moment budget world after →
      round.verdict = .again result →
      Chronicle fuel budget.advance (keepRecord session round.record after) entries outcome final →
      Chronicle (fuel + 1) budget world (⟨round, world, after⟩ :: entries) outcome final

theorem exists_chronicle (fuel : Nat) (budget : Budget) (last : Option RunResult) (world : World σ) :
    ∃ entries outcome final, loop crew session options moment fuel budget last world = (outcome, final) ∧
      Chronicle crew session options moment fuel budget world entries outcome final := by
  induction fuel generalizing budget last world with
  | zero =>
    cases going : budget.isExhausted with
    | true => exact ⟨[], _, world, loop_of_isExhausted going, .exhausted going⟩
    | false => exact ⟨[], _, world, loop_zero going, .unfinished going⟩
  | succ fuel ih =>
    cases going : budget.isExhausted with
    | true => exact ⟨[], _, world, loop_of_isExhausted going, .exhausted going⟩
    | false =>
      obtain ⟨round, after, happens, iterated, _⟩ := exists_round crew options moment budget world
      have number := happens.number
      cases verdict : round.verdict with
      | pass result =>
        rw [verdict] at iterated
        exact ⟨_, _, _, by rw [loop_of_pass going iterated, number], .passed going happens verdict⟩
      | abort cause =>
        rw [verdict] at iterated
        exact ⟨_, _, _, by rw [loop_of_abort going iterated, number], .aborted going happens verdict⟩
      | again result =>
        rw [verdict] at iterated
        obtain ⟨entries, outcome, final, looped, chronicle⟩ :=
          ih budget.advance (result.or last) (keepRecord session round.record after)
        exact ⟨_, outcome, final, (loop_of_again going iterated).trans looped, .again going happens verdict chronicle⟩

end

/-- The fuel is what the budget has left, or there is none. -/
def Budget.Fits (budget : Budget) (fuel : Nat) : Prop :=
  fuel = 0 ∨ budget.iteration.toNat + fuel = budget.limit.toNat + 1

theorem Budget.start_fits (limit : UInt32) : (Budget.start limit).Fits limit.toNat :=
  .inr (Nat.add_comm ..)

/-- Only a budget with the largest limit wraps around, and then the fuel has come to its end. -/
theorem Budget.Fits.advance {budget : Budget} {fuel : Nat} (fits : budget.Fits (fuel + 1)) :
    budget.advance.Fits fuel ∧ (0 < fuel → budget.advance.iteration.toNat = budget.iteration.toNat + 1) := by
  have fits : budget.iteration.toNat + (fuel + 1) = budget.limit.toNat + 1 := by
    rcases fits with none | fits
    · cases none
    · exact fits
  have limit := budget.limit.toNat_lt_size
  cases fuel with
  | zero => exact ⟨.inl rfl, fun some => absurd some (Nat.lt_irrefl 0)⟩
  | succ fuel =>
    have advanced : budget.advance.iteration.toNat = budget.iteration.toNat + 1 :=
      Budget.advance_iteration (by omega)
    exact ⟨.inr (by rw [advanced, Budget.advance_limit]; omega), fun _ => advanced⟩

namespace Chronicle

variable {crew : Crew σ ω} {session : Option Session} {options : Options} {moment : Moment} {fuel : Nat}
  {budget : Budget} {world final : World σ} {entries : List (Entry σ)} {outcome : Option Outcome}

theorem happens (chronicle : Chronicle crew session options moment fuel budget world entries outcome final) :
    ∀ entry ∈ entries, ∃ budget : Budget, entry.round.Happens crew options moment budget entry.before entry.after := by
  induction chronicle with
  | exhausted | unfinished => intro entry member; cases member
  | passed _ happens | aborted _ happens =>
    intro entry member
    rw [List.mem_singleton.mp member]
    exact ⟨_, happens⟩
  | again _ happens _ _ ih =>
    intro entry member
    rcases List.mem_cons.mp member with rfl | member
    · exact ⟨_, happens⟩
    · exact ih entry member

theorem length_le (chronicle : Chronicle crew session options moment fuel budget world entries outcome final) :
    entries.length ≤ fuel := by
  induction chronicle with
  | exhausted | unfinished => exact Nat.zero_le _
  | passed | aborted => exact Nat.succ_le_succ (Nat.zero_le _)
  | again _ _ _ _ ih => exact Nat.succ_le_succ ih

/-- The rounds are numbered on from the count of the budget. -/
theorem numbered (chronicle : Chronicle crew session options moment fuel budget world entries outcome final)
    (fits : budget.Fits fuel) :
    entries.map (·.round.number) = List.range' budget.iteration.toNat entries.length := by
  induction chronicle with
  | exhausted | unfinished => rfl
  | passed _ happens | aborted _ happens => rw [List.map_singleton, happens.number]; rfl
  | @again fuel budget _ _ _ _ _ entries _ _ happens _ rest ih =>
    rw [List.map_cons, ih fits.advance.1, happens.number, List.length_cons, List.range'_succ]
    congr 1
    cases entries with
    | nil => rfl
    | cons entry entries =>
      have left : 0 < fuel := Nat.lt_of_lt_of_le (Nat.succ_pos _) rest.length_le
      rw [fits.advance.2 left]

theorem eq_nil_of_isExhausted (exhausted : budget.isExhausted = true)
    (chronicle : Chronicle crew session options moment fuel budget world entries outcome final) : entries = [] := by
  cases chronicle with
  | exhausted => rfl
  | unfinished going | passed going | aborted going | again going => cases exhausted.symm.trans going

/-- An iteration that stops the repair is its only round. -/
theorem exists_of_abort {record : IterationRecord} {after : World σ} {cause : Error} (going : budget.isExhausted = false)
    (iterated : iterate crew options moment budget world = (.abort cause, record, after))
    (chronicle : Chronicle crew session options moment (fuel + 1) budget world entries outcome final) :
    ∃ round, entries = [⟨round, world, after⟩] ∧ round.record = record := by
  cases chronicle with
  | exhausted exhausted => cases going.symm.trans exhausted
  | passed _ happens verdict | again _ happens verdict =>
    have same := congrArg Prod.fst (happens.iterate_eq.symm.trans iterated)
    cases verdict.symm.trans same
  | aborted _ happens =>
    obtain ⟨_, left⟩ := Prod.mk.inj (happens.iterate_eq.symm.trans iterated)
    obtain ⟨rfl, rfl⟩ := Prod.mk.inj left
    exact ⟨_, rfl, rfl⟩

/-- An iteration after which the repair goes on is the first round, and the others follow it. -/
theorem exists_of_again {record : IterationRecord} {after : World σ} {result : Option RunResult}
    (going : budget.isExhausted = false)
    (iterated : iterate crew options moment budget world = (.again result, record, after))
    (chronicle : Chronicle crew session options moment (fuel + 1) budget world entries outcome final) :
    ∃ round rest, entries = ⟨round, world, after⟩ :: rest ∧ round.record = record ∧
      Chronicle crew session options moment fuel budget.advance (keepRecord session record after) rest outcome
        final := by
  cases chronicle with
  | exhausted exhausted => cases going.symm.trans exhausted
  | passed _ happens verdict | aborted _ happens verdict =>
    have same := congrArg Prod.fst (happens.iterate_eq.symm.trans iterated)
    cases verdict.symm.trans same
  | again _ happens verdict rest =>
    obtain ⟨_, left⟩ := Prod.mk.inj (happens.iterate_eq.symm.trans iterated)
    obtain ⟨rfl, rfl⟩ := Prod.mk.inj left
    exact ⟨_, _, rfl, rfl, rest⟩

/-- Two iterations after which a repair would go on are the rounds of a repair that may be tried twice. -/
theorem eq_of_two {first second : World σ} {record record' : IterationRecord} {result result' : Option RunResult}
    (iterated : iterate crew options moment (.start 2) world = (.again result, record, first))
    (again : iterate crew options moment (Budget.start 2).advance (keepRecord session record first) =
      (.again result', record', second))
    (chronicle : Chronicle crew session options moment 2 (.start 2) world entries outcome final) :
    ∃ round round', entries = [⟨round, world, first⟩, ⟨round', keepRecord session record first, second⟩] ∧
      round.record = record ∧ round'.record = record' := by
  obtain ⟨round, rest, rfl, recorded, chronicle⟩ := chronicle.exists_of_again (by decide) iterated
  obtain ⟨round', rest, rfl, recorded', chronicle⟩ := chronicle.exists_of_again (by decide) again
  obtain rfl := chronicle.eq_nil_of_isExhausted (by decide)
  exact ⟨round, round', rfl, recorded, recorded'⟩

/-- With fuel for all iterations that are left, and a limit that the count can exceed, the repair ends. -/
theorem isSome (chronicle : Chronicle crew session options moment fuel budget world entries outcome final)
    (small : budget.limit.toNat + 1 < UInt32.size) (fits : budget.iteration.toNat + fuel = budget.limit.toNat + 1) :
    outcome.isSome = true := by
  induction chronicle with
  | exhausted | passed | aborted => rfl
  | unfinished going =>
    rw [Budget.isExhausted_eq_false_iff] at going
    omega
  | again going _ _ _ ih =>
    rw [Budget.isExhausted_eq_false_iff] at going
    exact ih small (by rw [Budget.advance_iteration (by omega), Budget.advance_limit]; omega)

/-- After each of the entries the repair goes on. -/
def GoesOn (entries : List (Entry σ)) : Prop :=
  ∀ entry ∈ entries, ∃ result, entry.round.verdict = .again result

theorem goesOn_nil : GoesOn ([] : List (Entry σ)) :=
  fun _ member => absurd member List.not_mem_nil

theorem GoesOn.cons {first : Entry σ} {result : Option RunResult} (verdict : first.round.verdict = .again result)
    (goes : GoesOn entries) : GoesOn (first :: entries) := by
  intro other member
  rcases List.mem_cons.mp member with rfl | member
  · exact ⟨result, verdict⟩
  · exact goes other member

/-- How entries end a repair with a limit: the last one tells the outcome, unless there are as many as there was
fuel. -/
inductive Ends (fuel limit : Nat) : List (Entry σ) → Option Outcome → Prop
  | exhausted {entries : List (Entry σ)} {last : Option RunResult} :
      GoesOn entries → entries.length = fuel → Ends fuel limit entries (some (.exhausted limit last))
  | unfinished {entries : List (Entry σ)} : GoesOn entries → entries.length = fuel → Ends fuel limit entries none
  | passed {earlier : List (Entry σ)} {entry : Entry σ} {result : RunResult} :
      GoesOn earlier → entry.round.verdict = .pass result →
      Ends fuel limit (earlier ++ [entry]) (some (.passed entry.round.number result))
  | aborted {earlier : List (Entry σ)} {entry : Entry σ} {cause : Error} :
      GoesOn earlier → entry.round.verdict = .abort cause →
      Ends fuel limit (earlier ++ [entry]) (some (.aborted entry.round.number cause))

theorem Ends.cons {fuel limit : Nat} {first : Entry σ} {result : Option RunResult}
    (verdict : first.round.verdict = .again result) (ends : Ends fuel limit entries outcome) :
    Ends (fuel + 1) limit (first :: entries) outcome := by
  cases ends with
  | exhausted goes length => exact .exhausted (goes.cons verdict) (congrArg Nat.succ length)
  | unfinished goes length => exact .unfinished (goes.cons verdict) (congrArg Nat.succ length)
  | passed goes last => exact .passed (goes.cons verdict) last
  | aborted goes last => exact .aborted (goes.cons verdict) last

theorem ends (chronicle : Chronicle crew session options moment fuel budget world entries outcome final)
    (fits : budget.Fits fuel) : Ends fuel budget.limit.toNat entries outcome := by
  induction chronicle with
  | @exhausted fuel budget _ last spent =>
    refine .exhausted goesOn_nil ?_
    rw [List.length_nil]
    rcases fits with none | left
    · exact none.symm
    · rw [budget.isExhausted_iff] at spent
      omega
  | unfinished => exact .unfinished goesOn_nil rfl
  | passed _ _ verdict => exact @Ends.passed σ _ _ [] _ _ goesOn_nil verdict
  | aborted _ _ verdict => exact @Ends.aborted σ _ _ [] _ _ goesOn_nil verdict
  | again _ _ verdict _ ih => exact .cons verdict (ih fits.advance.1)

end Chronicle

/-- A repair without an outcome has the largest word as its limit. -/
theorem Chronicle.largest_of_none {crew : Crew σ ω} {session : Option Session} {options : Options} {moment : Moment}
    {limit : UInt32} {world final : World σ} {entries : List (Entry σ)} {outcome : Option Outcome}
    (chronicle : Chronicle crew session options moment limit.toNat (.start limit) world entries outcome final)
    (unfinished : outcome = none) : limit.toNat = UInt32.size - 1 := by
  subst unfinished
  have small : ¬ limit.toNat + 1 < UInt32.size := fun small => nomatch chronicle.isSome small (Nat.add_comm 1 _)
  have word := limit.toNat_lt_size
  omega

/-- A repair whose limit the count can exceed ends with an outcome. -/
theorem exists_finished (crew : Crew σ ω) (session : Option Session) (options : Options) (moment : Moment)
    (world : World σ) (few : options.maxIterations.toNat < UInt32.size - 1) : ∃ entries outcome final,
      run crew session options moment world = (some outcome, final) ∧
      Chronicle crew session options moment options.maxIterations.toNat (.start options.maxIterations) world entries
        (some outcome) final := by
  obtain ⟨entries, ended, final, ran, chronicle⟩ := exists_chronicle crew session options moment
    options.maxIterations.toNat (.start options.maxIterations) none world
  cases ended with
  | some outcome => exact ⟨entries, outcome, final, ran, chronicle⟩
  | none => exact absurd (chronicle.largest_of_none rfl) (Nat.ne_of_lt few)

end UiCheck.Repair
