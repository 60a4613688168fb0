import UiCheck.Browser.Link

/-! # Who waits, and for what

The reader of the output learns one thing at a time: a line, or that the output has ended. What it learns settles at
most one of those who wait, or all of them at the end. So what becomes of a waiter, its `fate`, is told by the first
of the readings since its registration that settles it, and no other reading matters to it.
-/

namespace UiCheck.Browser

/-- What is known counts; somebody who still waits gets what comes later. -/
def Waiter.orLater : Waiter → Waiter → Waiter
  | .waiting, later => later
  | known, _ => known

theorem Waiter.orLater_waiting (waiter : Waiter) : waiter.orLater .waiting = waiter := by
  cases waiter <;> rfl

theorem Waiter.orLater_assoc (a b c : Waiter) : (a.orLater b).orLater c = a.orLater (b.orLater c) := by
  cases a <;> rfl

namespace Waiters

theorem find?_register (waiters : Waiters) (id other : Nat) :
    (waiters.register id).find? other = if other = id then some .waiting else waiters.find? other := by
  rw [register, find?, List.lookup_cons, find?]
  by_cases same : other = id
  · rw [if_pos same, beq_iff_eq.mpr same]
  · rw [if_neg same, beq_false_of_ne same]

theorem find?_forget_of_ne {id other : Nat} (different : other ≠ id) (waiters : Waiters) :
    (waiters.forget id).find? other = waiters.find? other := by
  induction waiters with
  | nil => rfl
  | cons entry rest ih =>
    obtain ⟨key, waiter⟩ := entry
    by_cases gone : key = id
    · subst gone
      have dropped : forget key ((key, waiter) :: rest) = forget key rest := by
        rw [forget, List.filter_cons, if_neg (by simp), ← forget]
      rw [dropped, ih, find?, find?, List.lookup_cons, beq_false_of_ne different]
    · have kept : forget id ((key, waiter) :: rest) = (key, waiter) :: forget id rest := by
        rw [forget, List.filter_cons, if_pos (by simpa using gone), ← forget]
      rw [kept, find?, find?, List.lookup_cons, List.lookup_cons, ← find?, ← find?, ih]

theorem settle_cons_self (id : Nat) (waiter : Waiter) (reply : Reply) (rest : Waiters) :
    settle id reply ((id, waiter) :: rest) = (id, waiter.orLater (.answered reply)) :: rest := by
  cases waiter <;> simp [settle, Waiter.orLater]

theorem settle_cons_of_ne {id other : Nat} (different : other ≠ id) (waiter : Waiter) (reply : Reply)
    (rest : Waiters) : settle id reply ((other, waiter) :: rest) = (other, waiter) :: settle id reply rest := by
  simp [settle, different]

theorem find?_settle (waiters : Waiters) (id other : Nat) (reply : Reply) :
    (waiters.settle id reply).find? other =
      (waiters.find? other).map (·.orLater (if other = id then .answered reply else .waiting)) := by
  induction waiters with
  | nil => rfl
  | cons entry rest ih =>
    obtain ⟨key, waiter⟩ := entry
    by_cases here : key = id
    · subst here
      rw [settle_cons_self]
      by_cases asked : other = key
      · simp [find?, asked]
      · simp [find?, List.lookup_cons, beq_false_of_ne asked, if_neg asked, Waiter.orLater_waiting]
    · rw [settle_cons_of_ne here]
      by_cases asked : other = key
      · subst asked
        simp [find?, here, Waiter.orLater_waiting]
      · simpa only [find?, List.lookup_cons, beq_false_of_ne asked] using ih

theorem find?_loseAll (waiters : Waiters) (id : Nat) :
    waiters.loseAll.find? id = (waiters.find? id).map (·.orLater .lost) := by
  induction waiters with
  | nil => rfl
  | cons entry rest ih =>
    obtain ⟨key, waiter⟩ := entry
    have first : loseAll ((key, waiter) :: rest) = (key, waiter.orLater .lost) :: loseAll rest := by
      cases waiter <;> rfl
    rw [first]
    by_cases asked : id = key
    · simp [find?, asked]
    · simpa only [find?, List.lookup_cons, beq_false_of_ne asked] using ih

/-- Where nobody waits nothing is settled. -/
theorem settle_eq_self {waiters : Waiters} {id : Nat} (absent : waiters.find? id ≠ some .waiting) (reply : Reply) :
    waiters.settle id reply = waiters := by
  induction waiters with
  | nil => rfl
  | cons entry rest ih =>
    obtain ⟨key, waiter⟩ := entry
    by_cases here : key = id
    · subst here
      rw [settle_cons_self]
      cases waiter with
      | waiting => simp [find?] at absent
      | _ => rfl
    · rw [settle_cons_of_ne here, ih]
      rwa [find?, List.lookup_cons, beq_false_of_ne (Ne.symm here)] at absent

end Waiters

/-! ## Readings -/

/-- What the reader of the output learns. -/
inductive Reading where
  | line (text : String)
  | ended
  deriving DecidableEq

namespace Reading

/-- What the reading brings to somebody who waits for the request of a number, for its answer or for its event. -/
def settles? (event : Bool) (id : Nat) : Reading → Option Waiter
  | .line text =>
    match Reply.ofText text with
    | .ok reply => if reply.id = some id ∧ reply.isEvent = event then some (.answered reply) else none
    | .error _ => none
  | .ended => some .lost

end Reading

/-- What becomes of somebody who waits during some readings: the first that settles the matter decides. -/
def fate (event : Bool) (id : Nat) (readings : List Reading) : Waiter :=
  (readings.findSome? (Reading.settles? event id)).getD .waiting

theorem fate_cons (event : Bool) (id : Nat) (reading : Reading) (readings : List Reading) :
    fate event id (reading :: readings) =
      ((reading.settles? event id).getD .waiting).orLater (fate event id readings) := by
  rw [fate, List.findSome?_cons, fate]
  cases known : reading.settles? event id with
  | none => rfl
  | some waiter =>
    cases waiter with
    | waiting =>
      cases reading with
      | ended => cases known
      | line text =>
        rw [Reading.settles?] at known
        split at known
        · split at known <;> cases known
        · cases known
    | _ => rfl

theorem fate_append (event : Bool) (id : Nat) (readings later : List Reading) :
    fate event id (readings ++ later) = (fate event id readings).orLater (fate event id later) := by
  induction readings with
  | nil => rfl
  | cons reading readings ih => rw [List.cons_append, fate_cons, fate_cons, ih, Waiter.orLater_assoc]

theorem settles?_eq_answered {reading : Reading} {event : Bool} {id : Nat} {reply : Reply} :
    reading.settles? event id = some (.answered reply) ↔
      ∃ text, reading = .line text ∧ Reply.ofText text = .ok reply ∧ reply.id = some id ∧ reply.isEvent = event := by
  cases reading with
  | ended => simp [Reading.settles?]
  | line text =>
    rw [Reading.settles?]
    cases parsed : Reply.ofText text with
    | error _ => simp [parsed]
    | ok other =>
      simp only [Option.ite_none_right_eq_some, Option.some.injEq, Waiter.answered.injEq, Reading.line.injEq,
        exists_eq_left', parsed, Except.ok.injEq]
      constructor
      · rintro ⟨meant, rfl⟩
        exact ⟨rfl, meant⟩
      · rintro ⟨rfl, meant⟩
        exact ⟨meant, rfl⟩

theorem settles?_eq_lost {reading : Reading} {event : Bool} {id : Nat} :
    reading.settles? event id = some .lost ↔ reading = .ended := by
  cases reading with
  | ended => simp [Reading.settles?]
  | line text =>
    rw [Reading.settles?]
    cases Reply.ofText text <;> simp

theorem fate_eq_iff {event : Bool} {id : Nat} {readings : List Reading} (waiter : Waiter)
    (known : waiter ≠ .waiting) :
    fate event id readings = waiter ↔
      ∃ before reading after, readings = before ++ reading :: after ∧ reading.settles? event id = some waiter ∧
        ∀ earlier ∈ before, earlier.settles? event id = none := by
  rw [fate, ← List.findSome?_eq_some_iff]
  cases readings.findSome? (Reading.settles? event id) with
  | none => simpa using known.symm
  | some other => simp

/-- Lines tell nothing once they have ended. -/
theorem fate_ne_answered {readings : List Reading} (silent : ∀ text, .line text ∉ readings) (event : Bool) (id : Nat)
    (reply : Reply) : fate event id readings ≠ .answered reply := by
  induction readings with
  | nil => nofun
  | cons reading readings ih =>
    cases reading with
    | line text => exact absurd (List.mem_cons_self ..) (silent text)
    | ended => rw [fate_cons]; nofun

/-- What the output of a program comes to for its reader; a line that is no text ends it. -/
def readingsOf (ended : Bool) : List (Option String) → List Reading
  | [] => if ended then [.ended] else []
  | none :: _ => [.ended]
  | some line :: rest => .line line :: readingsOf ended rest

/-! ## Links -/

namespace Link

/-- What the reader learns from what is printed, as long as it reads. -/
def hears (link : Link) (burst : Burst) : List Reading :=
  if link.isOpen then readingsOf burst.ended burst.lines else []

/-- Takes in a reading. -/
def take (link : Link) : Reading → Link
  | .line text => link.receiveLine text
  | .ended => link.shut

/-- Who waits for the request of a number, for its answer or for its event. -/
def waiter? (event : Bool) (id : Nat) (link : Link) : Option Waiter :=
  if event then link.events.find? id else link.calls.find? id

theorem receiveLines_eq (ended : Bool) (link : Link) (lines : List (Option String)) :
    receiveLines ended link lines = (readingsOf ended lines).foldl take link := by
  induction lines generalizing link with
  | nil =>
    rw [receiveLines, readingsOf]
    cases ended <;> rfl
  | cons line rest ih =>
    cases line with
    | none => rfl
    | some text => exact ih (link.receiveLine text)

theorem absorb_eq (link : Link) (burst : Burst) : link.absorb burst = (link.hears burst).foldl take link := by
  rw [absorb, hears]
  split
  · exact receiveLines_eq burst.ended link burst.lines
  · rfl

theorem waiter?_receive (link : Link) (reply : Reply) (event : Bool) (id : Nat) :
    (link.receive reply).waiter? event id = (link.waiter? event id).map
      (·.orLater (if reply.id = some id ∧ reply.isEvent = event then .answered reply else .waiting)) := by
  rw [receive]
  split
  · next unnumbered =>
    simp [unnumbered, Waiter.orLater_waiting]
  · next number numbered =>
    cases event <;> cases reply.isEvent <;>
      simp [waiter?, numbered, Waiters.find?_settle, Waiter.orLater_waiting, eq_comm]

/-- A reading brings what it brings to everybody who still waits. -/
theorem waiter?_take (link : Link) (reading : Reading) (event : Bool) (id : Nat) :
    (link.take reading).waiter? event id =
      (link.waiter? event id).map (·.orLater ((reading.settles? event id).getD .waiting)) := by
  cases reading with
  | ended => cases event <;> exact Waiters.find?_loseAll _ id
  | line text =>
    rw [take, receiveLine, Reading.settles?]
    cases Reply.ofText text with
    | ok reply =>
      dsimp only
      rw [waiter?_receive]
      split <;> rfl
    | error _ => simp [Waiter.orLater_waiting]

theorem waiter?_foldl_take (link : Link) (readings : List Reading) (event : Bool) (id : Nat) :
    (readings.foldl take link).waiter? event id = (link.waiter? event id).map (·.orLater (fate event id readings)) := by
  induction readings generalizing link with
  | nil => simp [fate, Waiter.orLater_waiting]
  | cons reading readings ih =>
    rw [List.foldl_cons, ih, waiter?_take, Option.map_map, fate_cons]
    simp only [Function.comp_def, Waiter.orLater_assoc]

theorem take_nextId (link : Link) (reading : Reading) : (link.take reading).nextId = link.nextId := by
  cases reading with
  | ended => rfl
  | line text =>
    simp only [take, receiveLine, receive]
    split
    · split
      · rfl
      · split <;> rfl
    · rfl

theorem foldl_take_nextId (link : Link) (readings : List Reading) :
    (readings.foldl take link).nextId = link.nextId := by
  induction readings generalizing link with
  | nil => rfl
  | cons reading readings ih => rw [List.foldl_cons, ih, take_nextId]

theorem take_isOpen (link : Link) (reading : Reading) :
    (link.take reading).isOpen = (link.isOpen && reading != .ended) := by
  cases reading with
  | ended => simp [take, shut]
  | line text =>
    simp only [take, receiveLine, receive]
    split
    · split
      · simp
      · split <;> simp
    · simp

/-- The output is read until it ends. -/
theorem foldl_take_isOpen (link : Link) (readings : List Reading) :
    (readings.foldl take link).isOpen = true ↔ link.isOpen = true ∧ .ended ∉ readings := by
  induction readings generalizing link with
  | nil => simp
  | cons reading readings ih =>
    rw [List.foldl_cons, ih, take_isOpen, Bool.and_eq_true, bne_iff_ne, List.mem_cons, not_or, and_assoc,
      ne_comm]

/-! ## One line -/

/-- A line settles at most one waiter. -/
theorem settles?_unique {text : String} {event event' : Bool} {id id' : Nat}
    (one : ((Reading.line text).settles? event id).isSome = true)
    (other : ((Reading.line text).settles? event' id').isSome = true) : event = event' ∧ id = id' := by
  rw [Reading.settles?] at one other
  cases parsed : Reply.ofText text with
  | error _ => simp [parsed] at one
  | ok reply =>
    simp only [parsed, Option.isSome_ite] at one other
    exact ⟨one.2.symm.trans other.2, Option.some.inj (one.1.symm.trans other.1)⟩

/-- A line that is not for a waiter changes nothing for it. -/
theorem waiter?_receiveLine_of_none {text : String} {event : Bool} {id : Nat}
    (foreign : (Reading.line text).settles? event id = none) (link : Link) :
    (link.receiveLine text).waiter? event id = link.waiter? event id := by
  have taken := link.waiter?_take (.line text) event id
  rw [foreign] at taken
  rw [take] at taken
  simp [taken, Waiter.orLater_waiting]

/-- A line for which nobody waits changes nothing at all. -/
theorem receiveLine_eq_self {link : Link} {text : String}
    (unwanted : ∀ event id, ((Reading.line text).settles? event id).isSome = true →
      link.waiter? event id ≠ some .waiting) : link.receiveLine text = link := by
  rw [receiveLine]
  cases parsed : Reply.ofText text with
  | error _ => rfl
  | ok reply =>
    dsimp only
    rw [receive]
    split
    · rfl
    · next id numbered =>
      have absent : link.waiter? reply.isEvent id ≠ some .waiting := by
        refine unwanted _ _ ?_
        rw [Reading.settles?, parsed]
        simp [numbered]
      split
      · next event =>
        rw [event] at absent
        rw [Waiters.settle_eq_self absent]
      · next answer =>
        rw [Bool.not_eq_true] at answer
        rw [answer] at absent
        rw [Waiters.settle_eq_self absent]

end Link

end UiCheck.Browser
