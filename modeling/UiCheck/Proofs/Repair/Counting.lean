import UiCheck.Proofs.Repair.Chronicle

/-! # How far a budget counts

A repair advances its budget as long as that is not exhausted. `Reached` holds of the budgets that this leads through.
Their count is one more than the number of advances, up to multiples of the size of a word; below the largest word
there is no multiple, and the limit ends the counting after as many advances as it allows. No count lies beyond the
largest word, so a budget with that limit is never exhausted. `counts_iff` says that there is no other such limit.
-/

namespace UiCheck.Repair

namespace Budget

/-- The budgets that a limit leads through, with the number of advances behind them. -/
inductive Reached (limit : UInt32) : Nat → Budget → Prop
  | start : Reached limit 0 (.start limit)
  | advance {n : Nat} {budget : Budget} :
    Reached limit n budget → budget.isExhausted = false → Reached limit (n + 1) budget.advance

variable {limit : UInt32} {n : Nat} {budget : Budget}

namespace Reached

theorem limit_eq (reached : Reached limit n budget) : budget.limit = limit := by
  induction reached with
  | start => rfl
  | advance _ _ ih => exact ih

/-- The count is one more than the number of advances, modulo the size of a word. -/
theorem iteration_mod (reached : Reached limit n budget) : budget.iteration.toNat = (n + 1) % UInt32.size := by
  induction reached with
  | start => rfl
  | advance _ _ ih =>
    rw [Budget.advance, UInt32.toNat_add, ih]
    exact Nat.mod_add_mod _ UInt32.size 1

theorem iteration_eq (reached : Reached limit n budget) (small : n + 1 < UInt32.size) :
    budget.iteration.toNat = n + 1 := by
  rw [reached.iteration_mod, Nat.mod_eq_of_lt small]

/-- A budget that goes on has advanced less often than its limit allows. -/
theorem lt_of_going (reached : Reached limit n budget) (small : n + 1 < UInt32.size)
    (going : budget.isExhausted = false) : n < limit.toNat := by
  rwa [isExhausted_eq_false_iff, reached.iteration_eq small, reached.limit_eq] at going

/-- Below the largest word the limit bounds the number of advances. -/
theorem le_limit (reached : Reached limit n budget) (small : limit.toNat + 1 < UInt32.size) : n ≤ limit.toNat := by
  induction reached with
  | start => exact Nat.zero_le _
  | advance reached going ih => exact reached.lt_of_going (by omega) going

/-- A limit is led through up to as many advances as it allows. -/
theorem exists_of_le (within : n ≤ limit.toNat) : ∃ budget, Reached limit n budget := by
  induction n with
  | zero => exact ⟨_, .start⟩
  | succ n ih =>
    obtain ⟨budget, reached⟩ := ih (by omega)
    have small : n + 1 < UInt32.size := Nat.lt_of_le_of_lt within limit.toNat_lt
    refine ⟨_, reached.advance ?_⟩
    rw [isExhausted_eq_false_iff, reached.iteration_eq small, reached.limit_eq]
    exact within

/-- No count lies beyond the largest word. -/
theorem going_of_largest (reached : Reached limit n budget) (largest : limit.toNat + 1 = UInt32.size) :
    budget.isExhausted = false := by
  have below : budget.iteration.toNat < UInt32.size := budget.iteration.toNat_lt
  rw [isExhausted_eq_false_iff, reached.limit_eq]
  omega

theorem exists_of_largest (largest : limit.toNat + 1 = UInt32.size) (n : Nat) : ∃ budget, Reached limit n budget := by
  induction n with
  | zero => exact ⟨_, .start⟩
  | succ n ih =>
    obtain ⟨budget, reached⟩ := ih
    exact ⟨_, reached.advance (reached.going_of_largest largest)⟩

end Reached

/-- Counting up to a limit goes as it should. -/
structure Counts (limit : UInt32) : Prop where
  /-- The next count is a word. -/
  fits : ∀ n budget, Reached limit n budget → budget.isExhausted = false →
    budget.iteration.toNat + 1 < UInt32.size
  iteration : ∀ n budget, Reached limit n budget → budget.iteration.toNat = n + 1
  /-- The budget is exhausted after as many advances as the limit says, and not before. -/
  exhausted : ∀ n budget, Reached limit n budget → (budget.isExhausted = true ↔ n = limit.toNat)
  ends : ∃ budget, Reached limit limit.toNat budget

/-- Counting up to a limit never ends. -/
def Endless (limit : UInt32) : Prop :=
  ∀ n, ∃ budget, Reached limit n budget ∧ budget.isExhausted = false

theorem counts_of_small (small : limit.toNat + 1 < UInt32.size) : Counts limit where
  fits n budget reached going := by
    rw [isExhausted_eq_false_iff, reached.limit_eq] at going
    omega
  iteration n budget reached := reached.iteration_eq (by have := reached.le_limit small; omega)
  exhausted n budget reached := by
    have within := reached.le_limit small
    rw [budget.isExhausted_iff, reached.limit_eq, reached.iteration_eq (by omega)]
    omega
  ends := Reached.exists_of_le (Nat.le_refl _)

theorem endless_of_largest (largest : limit.toNat + 1 = UInt32.size) : Endless limit := by
  intro n
  obtain ⟨budget, reached⟩ := Reached.exists_of_largest largest n
  exact ⟨budget, reached, reached.going_of_largest largest⟩

/-- Counting that goes as it should ends. -/
theorem Counts.not_endless (counts : Counts limit) : ¬ Endless limit := by
  intro endless
  obtain ⟨budget, reached, going⟩ := endless limit.toNat
  rw [(counts.exhausted _ _ reached).mpr rfl] at going
  cases going

theorem small_or_largest (limit : UInt32) : limit.toNat + 1 < UInt32.size ∨ limit.toNat + 1 = UInt32.size :=
  Nat.lt_or_eq_of_le limit.toNat_lt

/-- Counting goes as it should up to every limit but the largest word, and for that one it never ends. -/
theorem counts_iff (limit : UInt32) :
    (Counts limit ↔ limit.toNat + 1 < UInt32.size) ∧ (Endless limit ↔ limit.toNat + 1 = UInt32.size) := by
  rcases small_or_largest limit with small | largest
  · have counts := counts_of_small small
    exact ⟨iff_of_true counts small, iff_of_false counts.not_endless (Nat.ne_of_lt small)⟩
  · have endless := endless_of_largest largest
    exact ⟨iff_of_false (fun counts => counts.not_endless endless) (Nat.not_lt.mpr (Nat.le_of_eq largest.symm)),
      iff_of_true endless largest⟩

example : (start 2).advance.isExhausted = false ∧ (start 2).advance.advance.isExhausted = true := by
  decide

/-- With the largest word as its limit, a budget that has come to that word goes on, although the next count is no
word: it starts over at zero. -/
theorem largest_starts_over : ∃ budget, Reached 4294967295 4294967294 budget ∧ budget.iteration = 4294967295 ∧
    budget.isExhausted = false ∧ ¬ budget.iteration.toNat + 1 < UInt32.size ∧
    budget.advance.iteration = 0 ∧ budget.advance.isExhausted = false ∧ ¬ Counts 4294967295 := by
  have largest : (4294967295 : UInt32).toNat + 1 = UInt32.size := rfl
  obtain ⟨budget, reached⟩ := Reached.exists_of_largest largest 4294967294
  have going := reached.going_of_largest largest
  have count : budget.iteration = 4294967295 := UInt32.toNat_inj.mp (reached.iteration_eq (by decide))
  refine ⟨budget, reached, count, going, ?_, ?_, (reached.advance going).going_of_largest largest, fun counts => ?_⟩
  · rw [count]
    decide
  · rw [Budget.advance, count]
    rfl
  · exact counts.not_endless (endless_of_largest largest)

end Budget

variable {σ ω : Type} {crew : Crew σ ω} {session : Option Session} {options : Options} {moment : Moment}
  {budget : Budget} {world final : World σ}

/-- A budget whose limit is the largest word is never exhausted, so neither is a repair that has it. -/
theorem Chronicle.ne_exhausted_of_largest {fuel : Nat} {entries : List (Entry σ)} {outcome : Option Outcome}
    (chronicle : Chronicle crew session options moment fuel budget world entries outcome final)
    (largest : budget.limit.toNat + 1 = UInt32.size) (m : Nat) (latest : Option RunResult) :
    outcome ≠ some (.exhausted m latest) := by
  induction chronicle with
  | @exhausted _ budget _ _ spent =>
    have word := budget.iteration.toNat_lt_size
    rw [budget.isExhausted_iff] at spent
    omega
  | again _ _ _ _ ih => exact ih largest
  | unfinished | passed | aborted => exact nofun

/-- However many of its iterations are looked at, a repair whose limit is the largest word is not exhausted. -/
theorem loop_ne_exhausted_of_largest (fuel : Nat) (largest : options.maxIterations.toNat + 1 = UInt32.size) (m : Nat)
    (latest : Option RunResult) :
    (loop crew session options moment fuel (.start options.maxIterations) none world).1 ≠
      some (.exhausted m latest) := by
  obtain ⟨_, _, _, looped, chronicle⟩ := exists_chronicle crew session options moment fuel
    (.start options.maxIterations) none world
  rw [looped]
  exact chronicle.ne_exhausted_of_largest largest m latest

end UiCheck.Repair
