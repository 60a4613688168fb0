import UiCheck.Json.Reader

/-! # What readers take

A reader that succeeds takes the bytes before a point and answers something, wherever they stand in a document. What
it takes is composed along its steps, and the place that the cursor keeps for messages does not matter.
-/

namespace UiCheck.Json.Reader

variable {α β σ : Type} {before between after rest : List UInt8} {a : α} {b : β}

/-- The reader takes what stands before `after` and answers `a`, wherever that is in a document. -/
def Takes (reader : Reader α) (before : List UInt8) (a : α) (after : List UInt8) : Prop :=
  after.length ≤ before.length ∧ ∀ place size, before.length ≤ size →
    ∃ place', reader.run ⟨before, place, size⟩ = (.ok a, ⟨after, place', size⟩)

/-- The reader comes to what another reader comes to further on. -/
def Leads (reader : Reader α) (before : List UInt8) (reader' : Reader α) (before' : List UInt8) : Prop :=
  before'.length ≤ before.length ∧ ∀ place size, before.length ≤ size →
    ∃ place', reader.run ⟨before, place, size⟩ = reader'.run ⟨before', place', size⟩

/-- The reader refuses what it stands before. -/
def Fails (reader : Reader α) (before : List UInt8) : Prop :=
  ∀ place size, before.length ≤ size → ∃ e cursor, reader.run ⟨before, place, size⟩ = (.error e, cursor)

/-! ## Steps -/

theorem run_bind {reader : Reader α} {next : α → Reader β} {cursor cursor' : Cursor}
    (first : reader.run cursor = (.ok a, cursor')) : (reader >>= next).run cursor = (next a).run cursor' := by
  show (match reader.run cursor with | (answer, cursor) => (ExceptT.bindCont next answer) cursor) = _
  rw [first]
  rfl

theorem run_bind_error {reader : Reader α} {next : α → Reader β} {e : Error} {cursor cursor' : Cursor}
    (first : reader.run cursor = (.error e, cursor')) : (reader >>= next).run cursor = (.error e, cursor') := by
  show (match reader.run cursor with | (answer, cursor) => (ExceptT.bindCont next answer) cursor) = _
  rw [first]
  rfl

theorem run_tryCatch (reader : Reader α) (handler : Error → Reader α) (cursor : Cursor) :
    (tryCatch reader handler).run cursor = match reader.run cursor with
      | (.ok a, cursor) => (.ok a, cursor)
      | (.error e, cursor) => (handler e).run cursor := by
  simp only [tryCatch, tryCatchThe, MonadExceptOf.tryCatch, ExceptT.tryCatch, ExceptT.run, ExceptT.mk, bind,
    StateT.bind]
  rcases reader cursor with ⟨_ | _, _⟩ <;> rfl

theorem Takes.leads {reader : Reader α} (first : Takes reader before a between) (next : α → Reader β) :
    Leads (reader >>= next) before (next a) between := by
  refine ⟨first.1, fun place size fits => ?_⟩
  obtain ⟨place', ran⟩ := first.2 place size fits
  exact ⟨place', run_bind ran⟩

namespace Leads

variable {reader reader' reader'' : Reader α} {before' before'' : List UInt8}

theorem refl (reader : Reader α) (before : List UInt8) : Leads reader before reader before :=
  ⟨Nat.le_refl _, fun place _ _ => ⟨place, rfl⟩⟩

theorem trans (first : Leads reader before reader' before') (second : Leads reader' before' reader'' before'') :
    Leads reader before reader'' before'' := by
  refine ⟨Nat.le_trans second.1 first.1, fun place size fits => ?_⟩
  obtain ⟨place', same⟩ := first.2 place size fits
  obtain ⟨place'', same'⟩ := second.2 place' size (Nat.le_trans first.1 fits)
  exact ⟨place'', same.trans same'⟩

theorem takes (leads : Leads reader before reader' before') (taken : Takes reader' before' a after) :
    Takes reader before a after := by
  refine ⟨Nat.le_trans taken.1 leads.1, fun place size fits => ?_⟩
  obtain ⟨place', same⟩ := leads.2 place size fits
  obtain ⟨place'', ran⟩ := taken.2 place' size (Nat.le_trans leads.1 fits)
  exact ⟨place'', same.trans ran⟩

theorem fails (leads : Leads reader before reader' before') (refused : Fails reader' before') :
    Fails reader before := by
  intro place size fits
  obtain ⟨place', same⟩ := leads.2 place size fits
  obtain ⟨e, cursor, ran⟩ := refused place' size (Nat.le_trans leads.1 fits)
  exact ⟨e, cursor, same.trans ran⟩

end Leads

namespace Takes

theorem pure (a : α) (rest : List UInt8) : Takes (Pure.pure a) rest a rest :=
  ⟨Nat.le_refl _, fun place _ _ => ⟨place, rfl⟩⟩

theorem bind {reader : Reader α} {next : α → Reader β} (first : Takes reader before a between)
    (second : Takes (next a) between b after) : Takes (reader >>= next) before b after :=
  (first.leads next).takes second

/-- The document is at least as long as what is left of it. -/
theorem bind_size {next : Nat → Reader α} (second : ∀ n, before.length ≤ n → Takes (next n) before a after) :
    Takes (size >>= next) before a after :=
  ⟨(second _ (Nat.le_refl _)).1, fun place n fits => (second n fits).2 place n fits⟩

theorem placed {reader : Reader α} (taken : Takes reader before a after) : Takes (placed reader) before a after := by
  refine ⟨taken.1, fun place size fits => ?_⟩
  obtain ⟨place', ran⟩ := taken.2 place size fits
  refine ⟨place', ?_⟩
  rw [Reader.placed, run_tryCatch, ran]

theorem enclosed {content : Reader α} {closing : Reader Unit} (inner : Takes content before a between)
    (ending : Takes closing between () after) : Takes (enclosed content closing) before a after := by
  refine ⟨Nat.le_trans ending.1 inner.1, fun place size fits => ?_⟩
  obtain ⟨place', ran⟩ := inner.2 place size fits
  obtain ⟨place'', ended⟩ := ending.2 place' size (Nat.le_trans inner.1 fits)
  refine ⟨place'', ?_⟩
  show Reader.enclosed content closing ⟨before, place, size⟩ = _
  rw [Reader.enclosed, ran]
  dsimp only
  rw [ended]

end Takes

namespace Fails

theorem failNext (problem : Problem) (before : List UInt8) : Fails (failNext problem : Reader α) before :=
  fun _ _ _ => ⟨_, _, rfl⟩

theorem bind {reader : Reader α} (refused : Fails reader before) (next : α → Reader β) :
    Fails (reader >>= next) before := by
  intro place size fits
  obtain ⟨e, cursor, ran⟩ := refused place size fits
  exact ⟨e, cursor, run_bind_error ran⟩

theorem bind_size {next : Nat → Reader α} (refused : ∀ n, before.length ≤ n → Fails (next n) before) :
    Fails (size >>= next) before :=
  fun place n fits => refused n fits place n fits

theorem placed {reader : Reader α} (refused : Fails reader before) : Fails (placed reader) before := by
  intro place size fits
  obtain ⟨e, cursor, ran⟩ := refused place size fits
  rw [Reader.placed, run_tryCatch, ran]
  obtain ⟨problem, _ | place⟩ := e <;> exact ⟨_, _, rfl⟩

theorem enclosed {content : Reader α} (refused : Fails content before) (closing : Reader Unit) :
    Fails (enclosed content closing) before := by
  intro place size fits
  obtain ⟨e, cursor, ran⟩ := refused place size fits
  refine ⟨e, (closing.run cursor).2, ?_⟩
  show Reader.enclosed content closing ⟨before, place, size⟩ = _
  rw [Reader.enclosed, ran]
  rfl

end Fails

/-! ## Single bytes -/

theorem takes_peek? (rest : List UInt8) : Takes peek? rest (rest.head?.map charOf) rest :=
  ⟨Nat.le_refl _, fun place _ _ => ⟨place, rfl⟩⟩

theorem takes_takeByte? (b : UInt8) (rest : List UInt8) : Takes takeByte? (b :: rest) (some b) rest :=
  ⟨Nat.le_succ _, fun _ _ _ => ⟨_, rfl⟩⟩

theorem takes_take? (b : UInt8) (rest : List UInt8) : Takes take? (b :: rest) (some (charOf b)) rest :=
  ⟨Nat.le_succ _, fun _ _ _ => ⟨_, rfl⟩⟩

theorem takes_skip (b : UInt8) (rest : List UInt8) : Takes skip (b :: rest) () rest :=
  ⟨Nat.le_succ _, fun _ _ _ => ⟨_, rfl⟩⟩

/-- Levels are left until the last but one. -/
theorem takes_opened {levels : Nat} (left : 0 < levels) (b : UInt8) (rest : List UInt8) :
    Takes (opened (levels + 1)) (b :: rest) levels rest := by
  obtain ⟨levels, rfl⟩ := Nat.exists_eq_succ_of_ne_zero (Nat.ne_of_gt left)
  exact ⟨Nat.le_succ _, fun _ _ _ => ⟨_, rfl⟩⟩

/-- The last level cannot be opened. -/
theorem fails_opened {levels : Nat} (spent : levels ≤ 1) (rest : List UInt8) : Fails (opened levels) rest := by
  obtain rfl | rfl : levels = 0 ∨ levels = 1 := by omega
  · exact .failNext _ _
  · exact .failNext _ _

/-! ## Blanks -/

/-- All of the bytes are blanks. -/
def Blank (bytes : List UInt8) : Prop :=
  ∀ b ∈ bytes, isSpace (charOf b) = true

theorem blank_nil : Blank [] := nofun

theorem behindSpaces_append {blanks : List UInt8} (blank : Blank blanks) {b : UInt8}
    (solid : isSpace (charOf b) = false) (rest : List UInt8) (place : Place) :
    ∃ place', behindSpaces (blanks ++ b :: rest) place = (b :: rest, place') := by
  induction blanks generalizing place with
  | nil =>
    refine ⟨place, ?_⟩
    rw [List.nil_append, behindSpaces, solid]
    rfl
  | cons first blanks ih =>
    rw [List.cons_append, behindSpaces, blank first (List.mem_cons_self ..)]
    exact ih (fun b member => blank b (List.mem_cons_of_mem _ member)) _

theorem takes_next? {blanks : List UInt8} (blank : Blank blanks) {b : UInt8} (solid : isSpace (charOf b) = false)
    (rest : List UInt8) : Takes next? (blanks ++ b :: rest) (some (charOf b)) (b :: rest) := by
  refine ⟨by simp, fun place size _ => ?_⟩
  obtain ⟨place', behind⟩ := behindSpaces_append blank solid rest place
  refine ⟨place', ?_⟩
  show peek?.run _ = _
  dsimp only
  rw [behind]
  rfl

theorem Takes.onNext {reader : Char → Reader α} {blanks : List UInt8} {b : UInt8}
    (taken : Takes (reader (charOf b)) (b :: rest) a after) (blank : Blank blanks)
    (solid : isSpace (charOf b) = false) : Takes (onNext reader) (blanks ++ b :: rest) a after :=
  .bind (takes_next? blank solid rest) taken.placed

theorem Fails.onNext {reader : Char → Reader α} {blanks : List UInt8} {b : UInt8}
    (refused : Fails (reader (charOf b)) (b :: rest)) (blank : Blank blanks) (solid : isSpace (charOf b) = false) :
    Fails (onNext reader) (blanks ++ b :: rest) :=
  ((takes_next? blank solid rest).leads _).fails refused.placed

theorem takes_colon {blanks : List UInt8} (blank : Blank blanks) (rest : List UInt8) :
    Takes colon (blanks ++ 58 :: rest) () rest :=
  .bind (takes_next? blank (by decide) rest) (takes_skip _ _)

theorem takes_listEnd (rest : List UInt8) : Takes listEnd (93 :: rest) () rest :=
  .bind (takes_next? blank_nil (by decide) rest) (takes_skip _ _)

theorem takes_objectEnd (rest : List UInt8) : Takes objectEnd (125 :: rest) () rest :=
  .bind (takes_next? blank_nil (by decide) rest) (takes_skip _ _)

/-! ## Items and members -/

/-- What is known after each of some things in turn. -/
inductive Chain {δ : Type} (step : σ → δ → σ → Prop) : σ → List δ → σ → Prop where
  | nil (known : σ) : Chain step known [] known
  | cons {known known' known'' : σ} {thing : δ} {things : List δ} :
    step known thing known' → Chain step known' things known'' → Chain step known (thing :: things) known''

namespace Chain

variable {δ : Type} {step : σ → δ → σ → Prop} {known known' known'' : σ} {things things' : List δ} {thing : δ}

theorem single (taken : step known thing known') : Chain step known [thing] known' :=
  .cons taken (.nil _)

theorem append (first : Chain step known things known') (second : Chain step known' things' known'') :
    Chain step known (things ++ things') known'' := by
  induction first with
  | nil => exact second
  | cons taken _ ih => exact .cons taken (ih second)

theorem step_of_mem (chain : Chain step known things known') (member : thing ∈ things) :
    ∃ before after, step before thing after := by
  induction chain with
  | nil => cases member
  | cons taken _ ih =>
    cases member with
    | head => exact ⟨_, _, taken⟩
    | tail _ later => exact ih later

end Chain

/-- An item begins with a byte that is neither a blank nor the end of a list. -/
def Begins (text : List UInt8) : Prop :=
  ∃ b rest, text = b :: rest ∧ isSpace (charOf b) = false ∧ charOf b ≠ ']'

theorem takes_hasItem {blanks text : List UInt8} (blank : Blank blanks) (begins : Begins text) (first : Bool) :
    Takes (hasItem first) ((if first then [] else [44]) ++ (blanks ++ text)) true text := by
  obtain ⟨b, rest, rfl, solid, inside⟩ := begins
  cases first with
  | true =>
    refine .bind (takes_next? blank solid rest) ?_
    split
    · next ends => exact absurd (Option.some.inj ends) inside
    · exact .pure _ _
    · exact .pure _ _
    · next ended => cases ended
  | false =>
    refine .bind (takes_next? blank_nil (by decide) _) (.bind (takes_skip _ _) ?_)
    refine .bind (takes_next? blank solid rest) ?_
    split
    · next ends => exact absurd (Option.some.inj ends) inside
    · exact .pure _ _
    · next ended => cases ended

theorem takes_hasItem_end {blanks : List UInt8} (blank : Blank blanks) (first : Bool) (rest : List UInt8) :
    Takes (hasItem first) (blanks ++ 93 :: rest) false (93 :: rest) :=
  .bind (takes_next? blank (by decide) rest) (.pure _ _)

theorem takes_hasMember_end {blanks : List UInt8} (blank : Blank blanks) (first : Bool) (rest : List UInt8) :
    Takes (hasMember first) (blanks ++ 125 :: rest) false (125 :: rest) :=
  .bind (takes_next? blank (by decide) rest) (.pure _ _)

end UiCheck.Json.Reader
