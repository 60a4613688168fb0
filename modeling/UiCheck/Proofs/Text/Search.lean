import Mathlib.Data.List.DropRight
import Mathlib.Data.List.Infix
import Mathlib.Data.List.Nodup
import Mathlib.Data.List.Perm.Basic
import UiCheck.Text.Blank
import UiCheck.Text.Search

/-! # Occurrences of a text

What the searches find, said through prefixes, suffixes and infixes of lists. A pattern that overlaps itself nowhere
is found right where it was put, behind any text that does not hold it: `cut?_append` is what writing a text with
such marks and reading it back rests on.
-/

namespace UiCheck.Text

variable {pat s rest : List Char}

theorem after?_eq_some_iff : after? pat s = some rest ↔ s = pat ++ rest := by
  induction pat generalizing s with
  | nil => simp only [after?, Option.some.injEq, List.nil_append]
  | cons p pat ih =>
    cases s with
    | nil => simp only [after?, List.cons_append, reduceCtorEq]
    | cons c s =>
      by_cases same : p = c
      · simp only [after?, same, if_true, ih, List.cons_append, List.cons.injEq, true_and]
      · simp only [after?, same, if_false, List.cons_append, List.cons.injEq, reduceCtorEq, false_iff]
        exact fun both => same both.1.symm

theorem after?_append (pat rest : List Char) : after? pat (pat ++ rest) = some rest :=
  after?_eq_some_iff.mpr rfl

theorem after?_eq_none_iff : after? pat s = none ↔ ¬ pat <+: s := by
  rw [Option.eq_none_iff_forall_ne_some]
  constructor
  · rintro absent ⟨rest, rfl⟩
    exact absent rest (after?_append pat rest)
  · intro absent rest found
    exact absent ⟨rest, (after?_eq_some_iff.mp found).symm⟩

theorem startsWith_iff : startsWith pat s = true ↔ pat <+: s := by
  rw [startsWith, ← Option.ne_none_iff_isSome, Ne, after?_eq_none_iff, Decidable.not_not]

theorem endsWith_iff : endsWith pat s = true ↔ pat <:+ s := by
  rw [endsWith, before?, Option.isSome_map, ← startsWith, startsWith_iff, List.reverse_prefix]

theorem before?_eq_some_iff {front : List Char} : before? pat s = some front ↔ s = front ++ pat := by
  simp only [before?, Option.map_eq_some_iff, after?_eq_some_iff]
  constructor
  · rintro ⟨rest, reversed, rfl⟩
    rw [← List.reverse_inj, reversed, List.reverse_append, List.reverse_reverse]
  · rintro rfl
    exact ⟨front.reverse, List.reverse_append, List.reverse_reverse front⟩

/-- The first place at which something follows. -/
theorem cutWhere_eq_some_iff {behind? : List Char → Option (List Char)} {passed front : List Char} :
    cutWhere behind? passed s = some (front, rest) ↔ ∃ body tail, front = passed.reverse ++ body ∧ s = body ++ tail ∧
      behind? tail = some rest ∧ ∀ k, k < body.length → behind? (s.drop k) = none := by
  induction s generalizing passed with
  | nil =>
    rw [cutWhere]
    cases found : behind? [] with
    | none =>
      simp only [reduceCtorEq, false_iff, not_exists, not_and]
      rintro body tail - empty here
      rw [(List.append_eq_nil_iff.mp empty.symm).2, found] at here
      cases here
    | some after =>
      simp only [Option.some.injEq, Prod.mk.injEq]
      constructor
      · rintro ⟨rfl, rfl⟩
        exact ⟨[], [], (List.append_nil _).symm, rfl, found, nofun⟩
      · rintro ⟨body, tail, rfl, empty, here, _⟩
        obtain ⟨rfl, rfl⟩ := List.append_eq_nil_iff.mp empty.symm
        exact ⟨(List.append_nil _).symm, Option.some.inj (found.symm.trans here)⟩
  | cons c s ih =>
    rw [cutWhere]
    cases found : behind? (c :: s) with
    | some after =>
      simp only [Option.some.injEq, Prod.mk.injEq]
      constructor
      · rintro ⟨rfl, rfl⟩
        exact ⟨[], c :: s, (List.append_nil _).symm, rfl, found, nofun⟩
      · rintro ⟨body, tail, rfl, split, here, first⟩
        cases body with
        | nil =>
          rw [← List.nil_append tail, ← split] at here
          exact ⟨(List.append_nil _).symm, Option.some.inj (found.symm.trans here)⟩
        | cons d body => cases found.symm.trans (first 0 (Nat.zero_lt_succ _))
    | none =>
      simp only [ih]
      constructor
      · rintro ⟨body, tail, rfl, rfl, here, first⟩
        refine ⟨c :: body, tail, by rw [List.reverse_cons, List.append_assoc]; rfl, rfl, here, fun k within => ?_⟩
        cases k with
        | zero => exact found
        | succ k => exact first k (Nat.lt_of_succ_lt_succ within)
      · rintro ⟨body, tail, rfl, split, here, first⟩
        cases body with
        | nil =>
          rw [← List.nil_append tail, ← split] at here
          cases found.symm.trans here
        | cons d body =>
          obtain ⟨rfl, below⟩ := List.cons.inj split
          refine ⟨body, tail, by rw [List.reverse_cons, List.append_assoc]; rfl, below, here, fun k within => ?_⟩
          exact first (k + 1) (Nat.succ_lt_succ within)

theorem cutWhere_eq_none_iff {behind? : List Char → Option (List Char)} {passed : List Char} :
    cutWhere behind? passed s = none ↔ ∀ k, behind? (s.drop k) = none := by
  induction s generalizing passed with
  | nil =>
    rw [cutWhere]
    simp only [List.drop_nil, forall_const]
    cases behind? [] <;> simp only [reduceCtorEq]
  | cons c s ih =>
    have step : (∀ k, behind? ((c :: s).drop k) = none) ↔ behind? (c :: s) = none ∧ ∀ k, behind? (s.drop k) = none :=
      ⟨fun all => ⟨all 0, fun k => all (k + 1)⟩, fun both k => by cases k with
        | zero => exact both.1
        | succ k => exact both.2 k⟩
    rw [cutWhere, step]
    cases behind? (c :: s) with
    | some rest => simp only [reduceCtorEq, false_and]
    | none => simp only [ih, true_and]

theorem cut?_eq_some_iff {body : List Char} : cut? pat s = some (body, rest) ↔
    s = body ++ pat ++ rest ∧ ∀ k, k < body.length → ¬ pat <+: s.drop k := by
  simp only [cut?, cutWhere_eq_some_iff, after?_eq_some_iff, after?_eq_none_iff]
  constructor
  · rintro ⟨_, _, rfl, split, rfl, first⟩
    exact ⟨by rw [split, List.append_assoc], first⟩
  · rintro ⟨split, first⟩
    exact ⟨body, pat ++ rest, rfl, by rw [split, List.append_assoc], rfl, first⟩

theorem infix_iff_prefix_drop : pat <:+: s ↔ ∃ k, k ≤ s.length ∧ pat <+: s.drop k := by
  constructor
  · rintro ⟨front, rest, rfl⟩
    refine ⟨front.length, ?_, rest, ?_⟩
    · rw [List.append_assoc, List.length_append]
      exact Nat.le_add_right _ _
    · rw [List.append_assoc, List.drop_left]
  · rintro ⟨k, _, rest, split⟩
    exact ⟨s.take k, rest, by rw [List.append_assoc, split, List.take_append_drop]⟩

theorem cut?_eq_none_iff : cut? pat s = none ↔ ¬ pat <:+: s := by
  simp only [cut?, cutWhere_eq_none_iff, after?_eq_none_iff, infix_iff_prefix_drop, not_exists, not_and]
  constructor
  · intro absent k _
    exact absent k
  · intro absent k starts
    by_cases within : k ≤ s.length
    · exact absent k within starts
    · rw [List.drop_eq_nil_of_le (Nat.le_of_not_le within), ← List.drop_length (l := s)] at starts
      exact absent s.length (Nat.le_refl _) starts

theorem contains_iff : contains pat s = true ↔ pat <:+: s := by
  rw [contains, ← Option.ne_none_iff_isSome, Ne, cut?_eq_none_iff, Decidable.not_not]

theorem occursIn_iff {pat s : String} : occursIn pat s = true ↔ pat.toList <:+: s.toList :=
  contains_iff

/-- In front of its first place a pattern does not occur. -/
theorem not_infix_of_cut? {body : List Char} (nonempty : pat ≠ []) (found : cut? pat s = some (body, rest)) :
    ¬ pat <:+: body := by
  obtain ⟨split, first⟩ := cut?_eq_some_iff.mp found
  intro occurs
  obtain ⟨k, _, tail, here⟩ := infix_iff_prefix_drop.mp occurs
  have within : k < body.length := by
    have positive := List.length_pos_iff.mpr nonempty
    have lengths := congrArg List.length here
    rw [List.length_append, List.length_drop] at lengths
    omega
  refine first k within ⟨tail ++ (pat ++ rest), ?_⟩
  rw [split, List.append_assoc, List.drop_append_of_le_length (Nat.le_of_lt within), ← here, List.append_assoc]

/-- No end of the pattern is also a start of it, the whole pattern apart. -/
def Unbordered (pat : List Char) : Prop :=
  ∀ k, 0 < k → k < pat.length → ¬ pat.drop k <+: pat

instance (pat : List Char) : Decidable (Unbordered pat) :=
  decidable_of_iff (∀ k, k < pat.length → 0 < k → ¬ pat.drop k <+: pat)
    ⟨fun all k positive within => all k within positive, fun all k within positive => all k positive within⟩

/-- A pattern without borders starts nowhere inside a text in front of it that does not hold it. -/
theorem Unbordered.not_prefix (unbordered : Unbordered pat) {body : List Char} (nonempty : body ≠ [])
    (absent : ¬ pat <:+: body) : ¬ pat <+: body ++ pat ++ rest := by
  rintro starts
  rw [List.append_assoc] at starts
  by_cases short : body.length < pat.length
  · -- the text is the start of the pattern, and the rest of the pattern starts the pattern again
    obtain ⟨tail, split⟩ := starts
    have front : pat = body ++ pat.drop body.length := by
      have cut := congrArg (List.take body.length) split
      rw [List.take_append_of_le_length (Nat.le_of_lt short), List.take_left] at cut
      calc pat = pat.take body.length ++ pat.drop body.length := (List.take_append_drop ..).symm
        _ = body ++ pat.drop body.length := by rw [cut]
    have again : pat.drop body.length ++ tail = pat ++ rest := by
      refine (List.append_right_inj body).mp ?_
      rw [← List.append_assoc, ← front, split]
    refine unbordered body.length (List.length_pos_iff.mpr nonempty) short ?_
    refine List.prefix_of_prefix_length_le ⟨tail, again⟩ (List.prefix_append pat rest) ?_
    rw [List.length_drop]
    exact Nat.sub_le _ _
  · exact absent (List.prefix_of_prefix_length_le starts (List.prefix_append ..) (Nat.le_of_not_lt short)).isInfix

/-- A pattern without borders is found right behind a text that does not hold it. -/
theorem Unbordered.cut?_append (unbordered : Unbordered pat) {body : List Char} (absent : ¬ pat <:+: body)
    (rest : List Char) : cut? pat (body ++ pat ++ rest) = some (body, rest) := by
  refine cut?_eq_some_iff.mpr ⟨rfl, fun k within => ?_⟩
  rw [List.append_assoc, List.drop_append_of_le_length (Nat.le_of_lt within), ← List.append_assoc]
  refine unbordered.not_prefix (List.length_pos_iff.mp ?_) fun occurs => absent (occurs.trans ?_)
  · rw [List.length_drop]
    exact Nat.sub_pos_of_lt within
  · exact (List.drop_suffix k body).isInfix

/-- A pattern does not reach into characters that it does not have. -/
theorem infix_append_of_disjoint {tail : List Char} (nonempty : pat ≠ []) (disjoint : ∀ c ∈ tail, c ∉ pat) :
    pat <:+: s ++ tail ↔ pat <:+: s := by
  refine ⟨fun occurs => ?_, fun occurs => occurs.trans (List.prefix_append s tail).isInfix⟩
  rcases List.infix_append_iff.mp occurs with inside | behind | ⟨front, back, split, ends, starts⟩
  · exact inside
  · obtain ⟨c, member⟩ := List.exists_mem_of_ne_nil pat nonempty
    exact absurd member (disjoint c (behind.subset member))
  · cases back with
    | nil =>
      rw [split, List.append_nil]
      exact ends.isInfix
    | cons c back =>
      have member : c ∈ pat := by
        rw [split]
        exact List.mem_append_right _ (List.mem_cons_self ..)
      exact absurd member (disjoint c (starts.subset (List.mem_cons_self ..)))

/-! ## Cuts at one character -/

section

variable {c : Char} {front back : List Char}

theorem cut?_single_eq_some_iff : cut? [c] s = some (front, back) ↔ s = front ++ c :: back ∧ c ∉ front := by
  rw [cut?_eq_some_iff, List.append_assoc, List.singleton_append]
  refine and_congr_right fun split => ?_
  subst split
  constructor
  · intro first member
    obtain ⟨k, within, same⟩ := List.getElem_of_mem member
    refine first k within ⟨(front ++ c :: back).drop (k + 1), ?_⟩
    have further : k < (front ++ c :: back).length := by
      rw [List.length_append]
      exact Nat.lt_add_right _ within
    rw [List.drop_eq_getElem_cons further, List.getElem_append_left within, same, List.singleton_append]
  · rintro absent k within ⟨tail, starts⟩
    rw [List.drop_append_of_le_length (Nat.le_of_lt within), List.drop_eq_getElem_cons within] at starts
    exact absent ((List.cons.inj starts).1 ▸ List.getElem_mem within)

theorem cut?_single_eq_none_iff : cut? [c] s = none ↔ c ∉ s := by
  rw [cut?_eq_none_iff, List.singleton_infix_iff]

/-- Behind the last place of a character it does not occur. -/
theorem cutLast?_single_eq_some_iff : cutLast? [c] s = some (front, back) ↔ s = front ++ c :: back ∧ c ∉ back := by
  simp only [cutLast?, List.reverse_singleton, Option.map_eq_some_iff, Prod.mk.injEq]
  constructor
  · rintro ⟨⟨behind, ahead⟩, found, rfl, rfl⟩
    obtain ⟨split, absent⟩ := cut?_single_eq_some_iff.mp found
    refine ⟨?_, mt List.mem_reverse.mp absent⟩
    rw [← List.reverse_reverse s, split, List.reverse_append, List.reverse_cons, List.append_assoc]
    rfl
  · rintro ⟨rfl, absent⟩
    refine ⟨(back.reverse, front.reverse), cut?_single_eq_some_iff.mpr ⟨?_, mt List.mem_reverse.mp absent⟩,
      List.reverse_reverse front, List.reverse_reverse back⟩
    rw [List.reverse_append, List.reverse_cons, List.append_assoc]
    rfl

theorem cutLast?_single_eq_none_iff : cutLast? [c] s = none ↔ c ∉ s := by
  rw [cutLast?, List.reverse_singleton, Option.map_eq_none_iff, cut?_single_eq_none_iff, List.mem_reverse]

end

end UiCheck.Text

/-! ## Trimmed texts

A text is trimmed if trimming leaves it as it is. What trimming gives is trimmed and is a part of the text, and
blanks behind a text make no difference to it.
-/

namespace UiCheck.Text

variable (s : List Char)

theorem trimEnd_append_of_blank {blanks : List Char} (blank : ∀ c ∈ blanks, isBlank c = true) :
    trimEnd (s ++ blanks) = trimEnd s := by
  have gone : blanks.reverse.dropWhile isBlank = [] :=
    List.dropWhile_eq_nil_iff.mpr fun c member => blank c (List.mem_reverse.mp member)
  rw [trimEnd, trimEnd, List.reverse_append, List.dropWhile_append, gone, List.isEmpty_nil, if_pos rfl]

/-- What is left of a text without leading blanks has none either, however much is cut off its end. -/
theorem trimStart_of_prefix {front : List Char} (starts : front <+: trimStart s) : trimStart front = front := by
  refine List.dropWhile_eq_self_iff.mpr fun nonempty => ?_
  obtain ⟨rest, split⟩ := starts
  have longer : 0 < (trimStart s).length := by
    rw [← split, List.length_append]
    omega
  have first : (trimStart s)[0] = front[0] := by
    simp only [← split, List.getElem_append_left nonempty]
  rw [← first]
  exact List.dropWhile_eq_self_iff.mp (List.dropWhile_idempotent isBlank s) _

@[simp] theorem trim_trim : trim (trim s) = trim s := by
  have inner : trimStart (trim s) = trim s := trimStart_of_prefix s (List.rdropWhile_prefix isBlank _)
  rw [trim, inner]
  exact List.rdropWhile_idempotent isBlank _

theorem isInfix_trim : trim s <:+: s :=
  (List.rdropWhile_prefix isBlank _).isInfix.trans (List.dropWhile_suffix isBlank).isInfix

theorem trim_append_of_blank {blanks : List Char} (blank : ∀ c ∈ blanks, isBlank c = true) :
    trim (s ++ blanks) = trim s := by
  rw [trim, trimStart, List.dropWhile_append]
  split
  · next empty =>
    have none : blanks.dropWhile isBlank = [] := List.dropWhile_eq_nil_iff.mpr blank
    rw [none, trim, trimStart, List.isEmpty_iff.mp empty]
  · exact trimEnd_append_of_blank _ blank

theorem trimStart_append_of_blank {blanks : List Char} (blank : ∀ c ∈ blanks, isBlank c = true) :
    trimStart (blanks ++ s) = trimStart s := by
  rw [trimStart, List.dropWhile_append_of_pos blank, trimStart]

/-- Blanks in front of a text make no difference to it. -/
theorem trim_of_blank_append {blanks : List Char} (blank : ∀ c ∈ blanks, isBlank c = true) :
    trim (blanks ++ s) = trim s := by
  rw [trim, trimStart_append_of_blank s blank, trim]

/-- A text is what trimming leaves of it, between blanks. -/
theorem exists_trim : ∃ front back, (∀ c ∈ front, isBlank c = true) ∧ (∀ c ∈ back, isBlank c = true) ∧
    s = front ++ trim s ++ back := by
  refine ⟨s.takeWhile isBlank, (trimStart s).rtakeWhile isBlank, fun _ => List.mem_takeWhile_imp,
    fun _ => List.mem_rtakeWhile_imp, ?_⟩
  have ends : trim s ++ (trimStart s).rtakeWhile isBlank = trimStart s :=
    List.rdropWhile_append_rtakeWhile
  rw [List.append_assoc, ends]
  exact List.takeWhile_append_dropWhile.symm

theorem trim_eq_nil_iff : trim s = [] ↔ ∀ c ∈ s, isBlank c = true := by
  constructor
  · intro empty
    obtain ⟨front, back, ahead, behind, split⟩ := exists_trim s
    rw [empty, List.append_nil] at split
    rw [split]
    exact List.forall_mem_append.mpr ⟨ahead, behind⟩
  · intro blank
    have none := trim_append_of_blank [] blank
    rwa [List.nil_append] at none

variable {s}

/-- A trimmed text has no blanks at its end. -/
theorem eq_nil_of_blank_suffix {blanks : List Char} (trimmed : trim s = s) (blank : ∀ c ∈ blanks, isBlank c = true)
    (ends : blanks <:+ s) : blanks = [] := by
  obtain ⟨front, rfl⟩ := ends
  rw [trim_append_of_blank front blank] at trimmed
  have shorter := (isInfix_trim front).length_le
  rw [trimmed, List.length_append] at shorter
  exact List.length_eq_zero_iff.mp (by omega)

end UiCheck.Text

/-! ## Names that stand once -/

namespace UiCheck

section Lookup

variable {α : Type} {fields fields' : List (String × α)} {name : String} {value : α}

theorem lookup_eq_some_iff_mem (apart : (fields.map Prod.fst).Nodup) :
    fields.lookup name = some value ↔ (name, value) ∈ fields := by
  induction fields with
  | nil => simp
  | cons field rest ih =>
    obtain ⟨other, found⟩ := field
    rw [List.map_cons, List.nodup_cons] at apart
    rw [List.lookup_cons, List.mem_cons, Prod.mk.injEq]
    by_cases same : name = other
    · subst same
      have missing : (name, value) ∉ rest := fun member => apart.1 (List.mem_map.mpr ⟨_, member, rfl⟩)
      simp [missing, eq_comm]
    · rw [beq_false_of_ne same]
      simp [same, ih apart.2]

/-- Names that stand once are found whatever the order. -/
theorem lookup_eq_of_perm (apart : (fields.map Prod.fst).Nodup) (perm : fields'.Perm fields) (name : String) :
    fields'.lookup name = fields.lookup name := by
  have apart' : (fields'.map Prod.fst).Nodup := (perm.map Prod.fst).nodup_iff.mpr apart
  refine Option.ext fun value => ?_
  rw [lookup_eq_some_iff_mem apart', lookup_eq_some_iff_mem apart, perm.mem_iff]

end Lookup

end UiCheck
