import UiCheck.Proofs.Run.Tracking

/-! # Joining a wait with a routine

A routine that is carried out while a response is awaited ends in one of three ways: its operations all
succeed, and the wait has the last word; an operation fails, with the fault that it has without a wait; or the
wait is known to have failed on the way, and its fault ends both. `joined_cases` says so for every page.
-/

namespace UiCheck.Run

variable {σ ω : Type} {page : Page σ ω} {options : Options}

namespace Routine

/-- Each operation of the routine moves along a relation of states. -/
inductive Within (move : σ → σ → Prop) : Routine σ → Prop
  | fail (fault : Fault) : Within move (.fail fault)
  | last {act : Act σ Unit} : (∀ s, move s (act s).2) → Within move (.last act)
  | count {act : Act σ Nat} {next : Nat → Routine σ} :
      (∀ s, move s (act s).2) → (∀ n, Within move (next n)) → Within move (.count act next)

variable {move : σ → σ → Prop} {routine : Routine σ}

theorem Within.run (refl : ∀ s, move s s) (trans : ∀ a b c, move a b → move b c → move a c)
    (within : Within move routine) (s : σ) : move s (routine.run s).2 := by
  induction within generalizing s with
  | fail fault => exact refl s
  | @last act moves =>
    have moved := moves s
    simp only [Routine.run]
    rcases acted : act s with ⟨_ | _, s'⟩ <;> rw [acted] at moved <;> exact moved
  | @count act next moves _ ih =>
    have moved := moves s
    simp only [Routine.run]
    rcases acted : act s with ⟨_ | n, s'⟩ <;> rw [acted] at moved
    · exact moved
    · exact trans _ _ _ moved (ih n s')

theorem Within.abandon (refl : ∀ s, move s s) (within : Within move routine) (s : σ) :
    move s (routine.abandon s) := by
  cases within with
  | fail fault => exact refl s
  | last moves => exact moves s
  | count moves _ => exact moves s

/-- How a routine ends that is carried out while a listener waits. -/
inductive Ending (page : Page σ ω) (listener : ω) (move : σ → σ → Prop) (routine : Routine σ) (s : σ) :
    Except Fault Unit × σ → Prop
  | waited {middle : σ} : routine.run s = (.ok (), middle) →
      Ending page listener move routine s (lift (page.await listener middle))
  | failed {fault : Fault} {middle : σ} : routine.run s = (.error fault, middle) →
      Ending page listener move routine s (.error fault, middle)
  | cut {e : PageError} {middle after : σ} : page.settled? listener middle = some (.error e) → move s after →
      Ending page listener move routine s (.error (.page e), after)

theorem settled_of_waitFault? {listener : ω} {s : σ} {e : PageError}
    (known : waitFault? page listener s = some e) : page.settled? listener s = some (.error e) := by
  unfold waitFault? at known
  split at known
  · next e' settled =>
    cases known
    exact settled
  · cases known

/-- An operation that succeeds in front of a routine that ends. -/
theorem Ending.count {listener : ω} (trans : ∀ a b c, move a b → move b c → move a c) {act : Act σ Nat}
    {next : Nat → Routine σ} {s s' : σ} {n : Nat} {answer : Except Fault Unit × σ}
    (counted : act s = (.ok n, s')) (moved : move s s') (ending : Ending page listener move (next n) s' answer) :
    Ending page listener move (.count act next) s answer := by
  cases ending with
  | waited ran => exact .waited (by simp only [Routine.run, counted, ran])
  | failed ran => exact .failed (by simp only [Routine.run, counted, ran])
  | cut settled later => exact .cut settled (trans _ _ _ moved later)

theorem pursue_cases (page : Page σ ω) (listener : ω) (refl : ∀ s, move s s)
    (trans : ∀ a b c, move a b → move b c → move a c) (within : Within move routine) (waitFirst : Bool) (s : σ) :
    Ending page listener move routine s (pursue page listener waitFirst routine s) := by
  induction within generalizing waitFirst s with
  | fail fault => cases waitFirst <;> exact .failed rfl
  | @last act moves =>
    have moved := moves s
    simp only [pursue]
    cases acted : act s with
    | mk answer s' =>
      rw [acted] at moved
      dsimp only
      cases known : (if waitFirst then waitFault? page listener s' else none) with
      | some e =>
        cases waitFirst with
        | false => cases known
        | true => exact .cut (settled_of_waitFault? known) moved
      | none =>
        cases answer with
        | error e => exact .failed (by simp only [Routine.run, acted, lift])
        | ok _ => exact .waited (by simp only [Routine.run, acted, lift])
  | @count act next moves more ih =>
    have moved := moves s
    simp only [pursue]
    cases acted : act s with
    | mk answer s' =>
      rw [acted] at moved
      dsimp only
      cases known : (if waitFirst then waitFault? page listener s' else none) with
      | some e =>
        cases waitFirst with
        | false => cases known
        | true => exact .cut (settled_of_waitFault? known) moved
      | none =>
        cases answer with
        | error e => exact .failed (by simp only [Routine.run, acted])
        | ok n =>
          dsimp only
          split
          · exact .count trans acted moved (ih n false s')
          · -- what is left of the routine is either no operation at all or one that may be sent in vain
            split
            · next fault same => exact .count trans acted moved (same ▸ .failed rfl)
            · next e known _ =>
              exact .count trans acted moved (.cut (settled_of_waitFault? known) ((more n).abandon refl s'))
            · exact .count trans acted moved (ih n true s')

theorem joined_cases (page : Page σ ω) (listener : ω) (refl : ∀ s, move s s)
    (trans : ∀ a b c, move a b → move b c → move a c) (within : Within move routine) (s : σ) :
    Ending page listener move routine s (joined page listener routine s) := by
  unfold joined
  split
  · next e known => exact .cut (settled_of_waitFault? known) (refl s)
  · exact pursue_cases page listener refl trans within false s

end Routine

end UiCheck.Run
