import UiCheck.Proofs.Json.Reading

/-! # Reading typed data

The readers of texts, truth values, numbers, lists, optional values and records read the documents that are written
for these. A record is read field by field, in whatever order its members stand.
-/

namespace UiCheck.Json.Reader

variable {α σ : Type} {form : Form}

/-! ## Scalars -/

/-- What has no items and no members is read at every level. -/
theorem ReadsWithin.of_flat {reader : Nat → Reader α} {doc : Json} {a : α} (exact : doc.Exact) (flat : doc.depth = 0)
    (reads : ∀ levels, ReadsAs form (reader levels) doc a) : ReadsWithin form reader doc a :=
  ⟨exact, fun _ => reads _, by omega⟩

theorem readsWithin_text (form : Form) (expected s : String) :
    ReadsWithin form (fun _ => text expected) (.string s) s := by
  refine .of_flat (.string s) rfl fun _ level blanks rest blank parted => ?_
  obtain ⟨more, quoted⟩ := bytes_stringText s rest
  rw [write_string, quoted]
  refine .onNext ?_ blank (by decide)
  rw [if_pos (by decide), ← quoted]
  exact takes_key s rest

theorem readsWithin_bool (form : Form) (b : Bool) : ReadsWithin form (fun _ => bool) (.bool b) b := by
  refine .of_flat (.bool b) rfl fun _ level blanks rest blank parted => ?_
  rw [write_bool]
  cases b with
  | true =>
    refine .onNext (b := 116) ?_ blank (by decide)
    exact .bind (takes_skip _ _) (.bind (takes_word (by simp) rest) (.pure _ _))
  | false =>
    refine .onNext (b := 102) ?_ blank (by decide)
    exact .bind (takes_skip _ _) (.bind (takes_word (by simp) rest) (.pure _ _))

theorem readsWithin_natural (form : Form) {bound n : Nat} (small : n < bound) (fits : n < Number.word64)
    (expected : String) : ReadsWithin form (fun _ => natural bound expected) (.nat n) n := by
  have fits : Fits n := ⟨by omega, Int.ofNat_lt.mpr fits⟩
  refine .of_flat (.int fits) rfl fun _ level blanks rest blank parted => ?_
  obtain ⟨⟨b, more, written, digit⟩, number⟩ := takes_nonnegative fits (by omega) parted
  rw [Json.nat, write_int, written]
  rw [written] at number
  refine .onNext ?_ blank (isSpace_of_isDigit digit)
  have unsigned : charOf b ≠ '-' := ne_of_isDigit digit rfl
  rw [if_pos (.inr digit), if_neg unsigned, beq_false_of_ne unsigned]
  refine .bind number ?_
  dsimp only
  rw [if_pos ⟨by omega, by omega⟩]
  exact .pure _ _

/-! ## Optional values -/

/-- An optional value that does not begin like null is read as a value that is there. -/
theorem leads_optional {reader : Reader α} {blanks more : List UInt8} {b : UInt8} (blank : Blank blanks)
    (solid : isSpace (charOf b) = false) (present : charOf b ≠ 'n') :
    Leads (optional reader) (blanks ++ b :: more) (do return some (← reader)) (b :: more) := by
  refine ((takes_next? blank solid more).leads _).trans ?_
  split
  · next here => exact absurd (Option.some.inj here) present
  · exact .refl _ _

theorem readsWithin_optional {reader : Nat → Reader α} {doc : Json} {a : α} (within : ReadsWithin form reader doc a)
    (present : ∀ level rest, ∃ b more, bytesOf (form.write level doc) ++ rest = b :: more ∧
      isSpace (charOf b) = false ∧ charOf b ≠ 'n') :
    ReadsWithin form (fun levels => optional (reader levels)) doc (some a) := by
  refine ⟨within.exact, fun shallow level blanks rest blank parted => ?_,
    fun left deep level blanks rest blank parted => ?_⟩
  · obtain ⟨b, more, begins, solid, present⟩ := present level rest
    have read := within.reads shallow level [] rest blank_nil parted
    rw [begins] at read ⊢
    exact (leads_optional blank solid present).takes (.bind read (.pure _ _))
  · obtain ⟨b, more, begins, solid, present⟩ := present level rest
    have refused := within.refuses left deep level [] rest blank_nil parted
    rw [begins] at refused ⊢
    exact (leads_optional blank solid present).fails (refused.bind _)

theorem readsWithin_optional_text (form : Form) (expected s : String) :
    ReadsWithin form (fun _ => optional (text expected)) (.string s) (some s) := by
  refine readsWithin_optional (readsWithin_text form expected s) fun level rest => ?_
  obtain ⟨more, quoted⟩ := bytes_stringText s rest
  exact ⟨34, more, by rw [write_string, quoted], by decide, by decide⟩

theorem readsWithin_optional_object {reader : Nat → Reader α} {members : List (String × Json)} {a : α}
    (within : ReadsWithin form reader (.object members) a) :
    ReadsWithin form (fun levels => optional (reader levels)) (.object members) (some a) := by
  refine readsWithin_optional within fun level rest => ?_
  obtain ⟨close, -, begins⟩ := bytes_object form level members rest
  exact ⟨123, _, begins, by decide, by decide⟩

/-! ## Lists -/

/-- A list is read with its items, just if none of these is too deep. -/
theorem readsWithin_list {reader : Nat → Reader α} {docs : List Json} {answers : List α}
    (each : List.Forall₂ (ReadsWithin form reader) docs answers) :
    ReadsWithin form (fun levels => list levels reader) (.list docs) answers := by
  have exact : ∀ doc ∈ docs, doc.Exact := fun doc member => (exists_of_forall₂ each doc member).choose_spec.exact
  refine ⟨.list exact, fun {levels} shallow => ?_, fun {levels} left deep => ?_⟩
  · intro level blanks rest blank parted
    obtain ⟨levels, rfl⟩ := Nat.exists_eq_succ_of_ne_zero (Nat.ne_of_gt (Nat.zero_lt_of_lt shallow))
    obtain ⟨close, closing, written⟩ := bytes_list form level docs rest
    rw [depth] at shallow
    rw [written]
    refine .onNext ?_ blank (by decide)
    rw [if_pos (by decide)]
    refine .bind (takes_opened (by omega) _ _) (.bind_size fun n fuelled => ?_)
    refine .bind (takes_collected each (by omega) closing fuelled) ?_
    rw [List.reverse_reverse]
    exact .pure _ _
  · intro level blanks rest blank parted
    obtain ⟨close, closing, written⟩ := bytes_list form level docs rest
    rw [depth] at deep
    rw [written]
    refine .onNext ?_ blank (by decide)
    rw [if_pos (by decide)]
    obtain ⟨levels, rfl⟩ := Nat.exists_eq_succ_of_ne_zero (Nat.ne_of_gt left)
    by_cases inner : 0 < levels
    · refine ((takes_opened inner _ _).leads _).fails (.bind_size fun n fuelled => ?_)
      exact (fails_collected each inner (by omega) closing fuelled).bind _
    · exact (fails_opened (by omega) _).bind _

/-! ## Records -/

/-- What a field reads is put in its place. -/
theorem ReadsWithin.set {reader : Nat → Reader α} {doc : Json} {a : α} (within : ReadsWithin form reader doc a)
    (put : α → σ) : ReadsWithin form (fun levels => do return put (← reader levels)) doc (put a) where
  exact := within.exact
  reads shallow level blanks rest blank parted :=
    .bind (within.reads shallow level blanks rest blank parted) (.pure _ _)
  refuses left deep level blanks rest blank parted := (within.refuses left deep level blanks rest blank parted).bind _

section Fields

variable {fields : List (RecordField σ)} {field : RecordField σ} {name : String} {known known' : σ} {doc : Json}

/-- A member that stands for a field is read by it. -/
theorem memberWithin_field (found : fields.find? (·.name == name) = some field) (fresh : field.isSet known = false)
    (within : ReadsWithin form (field.read · known) doc known') :
    MemberWithin form (member · fields) known (name, doc) known' := by
  have leads (levels : Nat) (rest : List UInt8) :
      Leads (member levels fields known name) (58 :: rest) (field.read levels known) rest := by
    rw [member, found]
    dsimp only
    rw [if_neg (by simp [fresh])]
    exact (takes_colon blank_nil rest).leads _
  exact ⟨within.exact,
    fun shallow level rest parted => (leads _ _).takes (within.reads shallow level _ rest form.gap_blank parted),
    fun left deep level rest parted => (leads _ _).fails (within.refuses left deep level _ rest form.gap_blank parted)⟩

/-- A member that is left out where there is nothing to write. -/
theorem chain_optional (x : Option α) (put : Option α → σ) {part : List (String × Json)}
    (absent : x = none → part = []) (present : ∀ a, x = some a → ∃ field, part = [field] ∧
      MemberWithin form (member · fields) (put none) field (put (some a))) :
    Chain (MemberWithin form (member · fields)) (put none) part (put x) := by
  cases x with
  | none =>
    rw [absent rfl]
    exact .nil _
  | some a =>
    obtain ⟨field, written, within⟩ := present a rfl
    rw [written]
    exact .single within

/-- A text that is written if there is one. -/
theorem chain_optional_text (name : String) (x : Option String) (put : Option (Option String) → σ) {expected : String}
    {part : List (String × Json)} (found : fields.find? (·.name == name) = some field)
    (fresh : field.isSet (put none) = false)
    (reads : (field.read · (put none)) = fun _ => do return put (some (← optional (text expected))))
    (written : part = (x.map fun s => (name, Json.string s)).toList) :
    Chain (MemberWithin form (member · fields)) (put none) part (put (x.map some)) := by
  rw [written]
  cases x with
  | none => exact .nil _
  | some s =>
    refine .single (memberWithin_field found fresh ?_)
    rw [reads]
    exact (readsWithin_optional_text form expected s).set _

variable {initial : σ} {members : List (String × Json)} {typeName : String} {finish : σ → Reader α}

/-- A record is read from the members that its fields read, just if none of these is too deep. -/
theorem readsWithin_record {a : α} (chain : Chain (MemberWithin form (member · fields)) initial members known)
    (done : finish known = pure a) :
    ReadsWithin form (fun levels => record levels typeName fields initial finish) (.object members) a := by
  have exact : ∀ field ∈ members, field.2.Exact :=
    fun _ member => (chain.step_of_mem member).choose_spec.choose_spec.exact
  refine ⟨.object exact, fun {levels} shallow => ?_, fun {levels} left deep => ?_⟩
  · intro level blanks rest blank parted
    obtain ⟨levels, rfl⟩ := Nat.exists_eq_succ_of_ne_zero (Nat.ne_of_gt (Nat.zero_lt_of_lt shallow))
    obtain ⟨close, closing, written⟩ := bytes_object form level members rest
    rw [depth] at shallow
    obtain ⟨-, chain⟩ | ⟨high, -⟩ := members_cases chain (show 0 < levels by omega)
    · rw [written]
      refine .onNext ?_ blank (by decide)
      refine .bind (takes_opened (by omega) _ _) (.bind_size fun n fuelled => ?_)
      refine .enclosed (.bind (takes_members chain closing fuelled) ?_) (takes_objectEnd rest)
      rw [done]
      exact .pure _ _
    · omega
  · intro level blanks rest blank parted
    obtain ⟨levels, rfl⟩ := Nat.exists_eq_succ_of_ne_zero (Nat.ne_of_gt left)
    obtain ⟨close, closing, written⟩ := bytes_object form level members rest
    rw [depth] at deep
    rw [written]
    refine .onNext ?_ blank (by decide)
    by_cases inner : 0 < levels
    · obtain ⟨low, -⟩ | ⟨-, before, field, after, between, rfl, chain, refused⟩ := members_cases chain inner
      · omega
      · refine ((takes_opened inner _ _).leads _).fails (.bind_size fun n fuelled => ?_)
        exact .enclosed ((fails_members chain refused closing fuelled).bind _) _
    · exact (fails_opened (by omega) _).bind _

end Fields

end UiCheck.Json.Reader
