import Mathlib.Data.Bool.AllAny
import UiCheck.Plan.Normalize
import UiCheck.Proofs.Text.Case
import UiCheck.Proofs.Text.Search

/-! # Colours on elements

A colour and the text of an element are written with the word `on` between blanks. A text is scanned for such
separators from the left: each is the first one that starts in what is left, and takes all the blanks behind it. So
separators that overlap are not both found, and `splitColour?_scan` says what is: the two sides of the only separator
of the scan, trimmed. And any two trimmed texts come back from any separator between them, if neither holds one and
the first one does not end with the start of one.
-/

namespace UiCheck.Plan

open Text

/-- One or more blanks. -/
def Blanks (s : List Char) : Prop :=
  s ≠ [] ∧ ∀ c ∈ s, isBlank c = true

/-- The word `on` in any case. -/
def IsOn (word : List Char) : Prop :=
  word ∈ [['o', 'n'], ['o', 'N'], ['O', 'n'], ['O', 'N']]

instance (s : List Char) : Decidable (Blanks s) :=
  decidable_of_iff (s ≠ [] ∧ s.all isBlank = true) (and_congr_right fun _ => List.all_eq_true)

instance (word : List Char) : Decidable (IsOn word) :=
  inferInstanceAs (Decidable (word ∈ _))

/-- Blanks, the word `on` in any case, and blanks. -/
inductive IsSeparator : List Char → Prop where
  | mk {front word back : List Char} (ahead : Blanks front) (on : IsOn word) (behind : Blanks back) :
      IsSeparator (front ++ word ++ back)

/-- No separator stands in the text. -/
def Unseparated (text : List Char) : Prop :=
  ∀ sep, IsSeparator sep → ¬ sep <:+: text

/-- The text is cut at its first separator: none starts further left, and none that starts there reaches further. -/
structure CutAt (text left sep right : List Char) : Prop where
  whole : text = left ++ (sep ++ right)
  separator : IsSeparator sep
  leftmost : ∀ front other back, IsSeparator other → text = front ++ (other ++ back) → left.length ≤ front.length
  greedy : ∀ other, IsSeparator other → other <+: sep ++ right → other.length ≤ sep.length

/-- The pieces of a text between the separators that a scan from the left finds. -/
inductive Scan : List Char → List (List Char) → Prop where
  | last {text : List Char} (none : Unseparated text) : Scan text [text]
  | cut {text left sep right : List Char} {pieces : List (List Char)} (found : CutAt text left sep right)
      (rest : Scan right pieces) : Scan text (left :: pieces)

/-- A side of a separator: a trimmed text in which none stands. -/
structure IsSide (side : List Char) : Prop where
  filled : side ≠ []
  trimmed : trim side = side
  unseparated : Unseparated side

/-- The text ends with a blank and the word `on`. -/
def EndsOn (text : List Char) : Prop :=
  ∃ blank word, isBlank blank = true ∧ IsOn word ∧ blank :: word <:+ text

variable {s rest sep text left right : List Char}

/-! ## One separator -/

theorem Blanks.append {more : List Char} (blanks : Blanks s) (blank : ∀ c ∈ more, isBlank c = true) :
    Blanks (s ++ more) :=
  ⟨List.append_ne_nil_of_left_ne_nil blanks.1 _, List.forall_mem_append.mpr ⟨blanks.2, blank⟩⟩

theorem IsSeparator.append {more : List Char} (separator : IsSeparator sep) (blank : ∀ c ∈ more, isBlank c = true) :
    IsSeparator (sep ++ more) := by
  obtain ⟨ahead, on, behind⟩ := separator
  rw [List.append_assoc]
  exact .mk ahead on (behind.append blank)

theorem IsSeparator.append_left {more : List Char} (separator : IsSeparator sep) (blank : ∀ c ∈ more, isBlank c = true) :
    IsSeparator (more ++ sep) := by
  obtain ⟨ahead, on, behind⟩ := separator
  rw [← List.append_assoc, ← List.append_assoc]
  refine .mk ⟨List.append_ne_nil_of_right_ne_nil _ ahead.1, ?_⟩ on behind
  exact List.forall_mem_append.mpr ⟨blank, ahead.2⟩

theorem spells_on_iff {word : List Char} : Spells ['o', 'n'] word ↔ IsOn word := by
  constructor
  · intro spelled
    obtain ⟨o, tail, vowel, rest, rfl⟩ := List.forall₂_cons_left_iff.mp spelled
    obtain ⟨n, last, consonant, done, rfl⟩ := List.forall₂_cons_left_iff.mp rest
    obtain rfl := List.forall₂_nil_left_iff.mp done
    rcases foldsTo_o_iff.mp vowel with rfl | rfl <;> rcases foldsTo_n_iff.mp consonant with rfl | rfl <;> decide
  · intro on
    simp only [IsOn, List.mem_cons, List.not_mem_nil, or_false] at on
    rcases on with rfl | rfl | rfl | rfl <;> exact .cons rfl (.cons rfl .nil)

theorem afterFolded?_on_iff : afterFolded? ['o', 'n'] s = some rest ↔ ∃ word, IsOn word ∧ s = word ++ rest := by
  simp only [afterFolded?_eq_some_iff, spells_on_iff]

/-- The word is no blank. -/
theorem IsOn.trimStart_append (on : IsOn s) (rest : List Char) : trimStart (s ++ rest) = s ++ rest := by
  simp only [IsOn, List.mem_cons, List.not_mem_nil, or_false] at on
  rcases on with rfl | rfl | rfl | rfl <;> rfl

/-- A separator at the start of a text takes all the blanks behind it. -/
theorem afterSeparator?_append (separator : IsSeparator sep) (rest : List Char) :
    afterSeparator? (sep ++ rest) = some (trimStart rest) := by
  obtain @⟨front, word, back, ahead, on, behind⟩ := separator
  have passed : trimStart (front ++ word ++ back ++ rest) = word ++ (back ++ rest) := by
    rw [List.append_assoc, List.append_assoc, trimStart_append_of_blank _ ahead.2, on.trimStart_append]
  have folded : afterFolded? ['o', 'n'] (word ++ (back ++ rest)) = some (back ++ rest) :=
    afterFolded?_on_iff.mpr ⟨word, on, rfl⟩
  obtain ⟨c, front, rfl⟩ := List.exists_cons_of_ne_nil ahead.1
  obtain ⟨d, back, rfl⟩ := List.exists_cons_of_ne_nil behind.1
  obtain ⟨first, _⟩ := List.forall_mem_cons.mp ahead.2
  obtain ⟨next, blank⟩ := List.forall_mem_cons.mp behind.2
  simp only [List.cons_append] at passed folded
  simp only [afterSeparator?, List.cons_append, first, passed, folded, next, Bool.not_true, Bool.false_eq_true,
    if_false, if_true, trimStart_append_of_blank rest blank]

theorem exists_of_afterSeparator? (found : afterSeparator? s = some rest) :
    ∃ sep, IsSeparator sep ∧ s = sep ++ rest ∧ trimStart rest = rest := by
  unfold afterSeparator? at found
  split at found
  · cases found
  · next c tail =>
    split at found
    · cases found
    · next first =>
      split at found
      · next d behind folded =>
        split at found
        · next next =>
          obtain ⟨word, on, inner⟩ := afterFolded?_on_iff.mp folded
          obtain rfl := Option.some.inj found
          have ahead : Blanks ((c :: tail).takeWhile isBlank) := by
            refine ⟨?_, fun _ => List.mem_takeWhile_imp⟩
            rw [List.takeWhile_cons_of_pos (by simpa using first)]
            exact List.cons_ne_nil _ _
          have after : Blanks (d :: behind.takeWhile isBlank) :=
            ⟨List.cons_ne_nil _ _, List.forall_mem_cons.mpr ⟨next, fun _ => List.mem_takeWhile_imp⟩⟩
          refine ⟨_, .mk ahead on after, ?_, List.dropWhile_idempotent isBlank behind⟩
          calc c :: tail = (c :: tail).takeWhile isBlank ++ trimStart (c :: tail) := List.takeWhile_append_dropWhile.symm
            _ = (c :: tail).takeWhile isBlank ++ (word ++ d :: (behind.takeWhile isBlank ++ trimStart behind)) := by
              rw [inner, trimStart, List.takeWhile_append_dropWhile]
            _ = _ := by simp
        · cases found
      · cases found

theorem afterSeparator?_eq_none_iff : afterSeparator? s = none ↔ ∀ sep, IsSeparator sep → ¬ sep <+: s := by
  constructor
  · rintro absent sep separator ⟨rest, rfl⟩
    rw [afterSeparator?_append separator] at absent
    cases absent
  · intro absent
    rw [Option.eq_none_iff_forall_ne_some]
    intro rest found
    obtain ⟨sep, separator, rfl, _⟩ := exists_of_afterSeparator? found
    exact absent sep separator (List.prefix_append sep rest)

/-- A separator at the start of a text is the longest one there just if no blank is left behind it. -/
theorem greedy_iff (separator : IsSeparator sep) :
    (∀ other, IsSeparator other → other <+: sep ++ right → other.length ≤ sep.length) ↔ trimStart right = right := by
  constructor
  · intro greedy
    have longer : sep ++ right.takeWhile isBlank <+: sep ++ right :=
      (List.prefix_append_right_inj sep).mpr (List.takeWhile_prefix isBlank)
    have bound := greedy _ (separator.append fun _ => List.mem_takeWhile_imp) longer
    rw [List.length_append] at bound
    have none : right.takeWhile isBlank = [] := List.length_eq_zero_iff.mp (by omega)
    calc trimStart right = right.takeWhile isBlank ++ trimStart right := by rw [none, List.nil_append]
      _ = right := List.takeWhile_append_dropWhile
  · rintro trimmed other separator' ⟨tail, split⟩
    -- whichever of the two is taken, what is left without its blanks is the same
    have same : trimStart tail = right := by
      have left := afterSeparator?_append separator' tail
      rw [split, afterSeparator?_append separator, trimmed] at left
      exact (Option.some.inj left).symm
    have shorter : right.length ≤ tail.length := same ▸ length_dropWhile_le isBlank tail
    have lengths := congrArg List.length split
    simp only [List.length_append] at lengths
    omega

/-! ## The first separator -/

theorem IsSeparator.ne_nil (separator : IsSeparator sep) : sep ≠ [] := by
  obtain ⟨ahead, on, behind⟩ := separator
  exact List.append_ne_nil_of_right_ne_nil _ behind.1

theorem CutAt.isInfix (cut : CutAt text left sep right) : sep <:+: text :=
  ⟨left, right, by rw [cut.whole, List.append_assoc]⟩

theorem CutAt.unique {left' sep' right' : List Char} (cut : CutAt text left sep right)
    (cut' : CutAt text left' sep' right') : left = left' ∧ sep = sep' ∧ right = right' := by
  have least := cut.leftmost left' sep' right' cut'.separator cut'.whole
  have least' := cut'.leftmost left sep right cut.separator cut.whole
  have whole := cut.whole.symm.trans cut'.whole
  obtain ⟨rfl, behind⟩ := List.append_inj whole (by omega)
  have longest := cut.greedy sep' cut'.separator ⟨right', behind.symm⟩
  have longest' := cut'.greedy sep cut.separator ⟨right, behind⟩
  obtain ⟨rfl, rfl⟩ := List.append_inj behind (by omega)
  exact ⟨rfl, rfl, rfl⟩

theorem unseparated_iff : Unseparated s ↔ ∀ k, afterSeparator? (s.drop k) = none := by
  simp only [afterSeparator?_eq_none_iff]
  constructor
  · intro none k sep separator starts
    exact none sep separator (starts.isInfix.trans (List.drop_suffix k s).isInfix)
  · intro none sep separator occurs
    obtain ⟨k, _, starts⟩ := infix_iff_prefix_drop.mp occurs
    exact none k sep separator starts

theorem cutSeparator?_eq_none_iff : cutSeparator? s = none ↔ Unseparated s := by
  rw [cutSeparator?, cutWhere_eq_none_iff, unseparated_iff]

theorem exists_of_cutSeparator? (found : cutSeparator? s = some (left, right)) : ∃ sep, CutAt s left sep right := by
  obtain ⟨body, tail, rfl, split, here, first⟩ := cutWhere_eq_some_iff.mp found
  obtain ⟨sep, separator, rfl, trimmed⟩ := exists_of_afterSeparator? here
  refine ⟨sep, split, separator, fun front other back separator' split' => ?_, (greedy_iff separator).mpr trimmed⟩
  by_contra further
  have none := afterSeparator?_eq_none_iff.mp (first front.length (Nat.lt_of_not_le further)) other separator'
  rw [split', List.drop_left] at none
  exact none (List.prefix_append other back)

theorem cutSeparator?_eq_some_iff : cutSeparator? s = some (left, right) ↔ ∃ sep, CutAt s left sep right := by
  constructor
  · exact exists_of_cutSeparator?
  · rintro ⟨sep, cut⟩
    have there : cutSeparator? s ≠ none := by
      rw [Ne, cutSeparator?_eq_none_iff]
      intro none
      exact none sep cut.separator cut.isInfix
    obtain ⟨⟨left', right'⟩, found⟩ := Option.ne_none_iff_exists'.mp there
    obtain ⟨sep', cut'⟩ := exists_of_cutSeparator? found
    obtain ⟨rfl, -, rfl⟩ := cut.unique cut'
    exact found

/-! ## The sides -/

/-- The scan finds exactly one separator. -/
theorem scan_pair_iff : Scan text [left, right] ↔ (∃ sep, CutAt text left sep right) ∧ Unseparated right := by
  constructor
  · intro scan
    obtain - | ⟨found, rest⟩ := scan
    obtain none | ⟨_, more⟩ := rest
    · exact ⟨⟨_, found⟩, none⟩
    · cases more
  · rintro ⟨⟨sep, found⟩, none⟩
    exact .cut found (.last none)

/-- Each text has exactly one scan. -/
theorem Scan.unique {pieces pieces' : List (List Char)} (scan : Scan text pieces) (scan' : Scan text pieces') :
    pieces = pieces' := by
  induction scan generalizing pieces' with
  | last none =>
    cases scan' with
    | last => rfl
    | cut found => exact absurd found.isInfix (none _ found.separator)
  | cut found _ ih =>
    cases scan' with
    | last none => exact absurd found.isInfix (none _ found.separator)
    | cut found' rest' =>
      obtain ⟨rfl, -, rfl⟩ := found.unique found'
      rw [ih rest']

theorem exists_scan (text : List Char) : ∃ pieces, Scan text pieces := by
  induction length : text.length using Nat.strong_induction_on generalizing text with
  | _ n ih =>
    cases found : cutSeparator? text with
    | none => exact ⟨[text], .last (cutSeparator?_eq_none_iff.mp found)⟩
    | some sides =>
      obtain ⟨sep, cut⟩ := exists_of_cutSeparator? found
      have positive := List.length_pos_iff.mpr cut.separator.ne_nil
      have lengths := congrArg List.length cut.whole
      simp only [List.length_append] at lengths
      obtain ⟨pieces, rest⟩ := ih sides.2.length (by omega) sides.2 rfl
      exact ⟨sides.1 :: pieces, .cut cut rest⟩

theorem trim_ne_nil_iff : trim s ≠ [] ↔ ∃ c ∈ s, isBlank c = false := by
  simp [trim_eq_nil_iff]

/-- The two sides of the only separator that the scan finds, trimmed, if neither is blank. -/
theorem splitColour?_eq_some_iff {text colour element : String} : splitColour? text = some (colour, element) ↔
    ∃ left right, Scan text.toList [left, right] ∧ (∃ c ∈ left, isBlank c = false) ∧ (∃ c ∈ right, isBlank c = false) ∧
      colour.toList = trim left ∧ element.toList = trim right := by
  simp only [scan_pair_iff, ← cutSeparator?_eq_some_iff, ← cutSeparator?_eq_none_iff, ← trim_ne_nil_iff]
  unfold splitColour?
  constructor
  · intro split
    split at split
    · cases split
    · next left right found =>
      split at split
      · cases split
      · next none =>
        dsimp only at split
        split at split
        · cases split
        · next filled =>
          obtain ⟨rfl, rfl⟩ := Prod.mk.inj (Option.some.inj split)
          simp only [Bool.or_eq_true, List.isEmpty_iff, not_or] at filled
          refine ⟨left, right, ⟨found, by simpa using none⟩, filled.1, filled.2, ?_, ?_⟩ <;> exact String.toList_ofList
  · rintro ⟨left, right, ⟨found, none⟩, filled, filled', first, second⟩
    rw [← String.ofList_toList (s := colour), ← String.ofList_toList (s := element), first, second]
    simp [found, none, filled, filled']

theorem Unseparated.of_infix {part : List Char} (none : Unseparated s) (inside : part <:+: s) : Unseparated part :=
  fun sep separator occurs => none sep separator (occurs.trans inside)

theorem EndsOn.of_suffix {part : List Char} (ends : EndsOn part) (suffix : part <:+ s) : EndsOn s := by
  obtain ⟨blank, word, blank_blank, on, behind⟩ := ends
  exact ⟨blank, word, blank_blank, on, behind.trans suffix⟩

namespace CutAt

variable (cut : CutAt text left sep right)

include cut

/-- Blanks at the end of the left side would have been taken into the separator. -/
theorem exists_left : ∃ front, (∀ c ∈ front, isBlank c = true) ∧ left = front ++ trim left := by
  obtain ⟨front, back, ahead, behind, split⟩ := exists_trim left
  have earlier : text = (front ++ trim left) ++ ((back ++ sep) ++ right) := by
    rw [cut.whole, List.append_assoc back, ← List.append_assoc _ back, ← split]
  have bound := cut.leftmost _ _ _ (cut.separator.append_left behind) earlier
  have lengths := congrArg List.length split
  rw [List.length_append] at lengths
  have none : back = [] := List.length_eq_zero_iff.mp (by omega)
  rw [none, List.append_nil] at split
  exact ⟨front, ahead, split⟩

/-- Blanks at the start of the right side would have been taken into the separator. -/
theorem exists_right : ∃ back, (∀ c ∈ back, isBlank c = true) ∧ right = trim right ++ back := by
  obtain ⟨front, back, ahead, behind, split⟩ := exists_trim right
  have longer : sep ++ front <+: sep ++ right := by
    rw [List.prefix_append_right_inj, split, List.append_assoc]
    exact List.prefix_append _ _
  have bound := cut.greedy _ (cut.separator.append ahead) longer
  rw [List.length_append] at bound
  have none : front = [] := List.length_eq_zero_iff.mp (by omega)
  rw [none, List.nil_append] at split
  exact ⟨back, behind, split⟩

theorem unseparated_left : Unseparated left := by
  rintro other separator ⟨front, back, split⟩
  have bound := cut.leftmost front other (back ++ (sep ++ right)) separator (by rw [cut.whole, ← split]; simp)
  have positive := List.length_pos_iff.mpr separator.ne_nil
  have lengths := congrArg List.length split
  simp only [List.length_append] at lengths
  omega

/-- The blanks of the separator would make one with the word in front of them. -/
theorem not_endsOn_left : ¬ EndsOn left := by
  rintro ⟨blank, word, blank_blank, on, front, split⟩
  have whole := cut.whole
  obtain @⟨ahead, word', behind, first, on', second⟩ := cut.separator
  have other : IsSeparator ([blank] ++ word ++ ahead) :=
    .mk ⟨List.cons_ne_nil _ _, List.forall_mem_singleton.mpr blank_blank⟩ on first
  have bound := cut.leftmost front _ (word' ++ (behind ++ right)) other (by rw [whole, ← split]; simp)
  have lengths := congrArg List.length split
  simp only [List.length_append, List.length_cons] at lengths
  omega

end CutAt

/-- What is split off two sides that a separator joins. -/
theorem sides_of_splitColour? {text colour element : String} (found : splitColour? text = some (colour, element)) :
    IsSide colour.toList ∧ IsSide element.toList ∧ ¬ EndsOn colour.toList ∧ ∃ front sep back,
      (∀ c ∈ front, isBlank c = true) ∧ IsSeparator sep ∧ (∀ c ∈ back, isBlank c = true) ∧
        text.toList = front ++ colour.toList ++ sep ++ element.toList ++ back := by
  obtain ⟨left, right, scan, filled, filled', same, same'⟩ := splitColour?_eq_some_iff.mp found
  obtain ⟨⟨sep, cut⟩, none⟩ := scan_pair_iff.mp scan
  obtain ⟨front, ahead, first⟩ := cut.exists_left
  obtain ⟨back, behind, second⟩ := cut.exists_right
  rw [same, same']
  refine ⟨⟨trim_ne_nil_iff.mpr filled, trim_trim left, cut.unseparated_left.of_infix (isInfix_trim left)⟩,
    ⟨trim_ne_nil_iff.mpr filled', trim_trim right, none.of_infix (isInfix_trim right)⟩, ?_,
    front, sep, back, ahead, cut.separator, behind, ?_⟩
  · intro ends
    exact cut.not_endsOn_left (ends.of_suffix ⟨front, first.symm⟩)
  · rw [cut.whole, List.append_assoc _ (trim right), ← second, ← first, List.append_assoc]

theorem IsOn.not_blank (on : IsOn s) : ∀ c ∈ s, isBlank c = false := by
  simp only [IsOn, List.mem_cons, List.not_mem_nil, or_false] at on
  rcases on with rfl | rfl | rfl | rfl <;> exact List.all_iff_forall_prop.mp (by decide)

theorem Blanks.endsOn {word : List Char} (blanks : Blanks s) (on : IsOn word) : EndsOn (s ++ word) := by
  obtain rfl | ⟨front, last, rfl⟩ := List.eq_nil_or_concat' s
  · exact absurd rfl blanks.1
  · refine ⟨last, word, blanks.2 last (List.mem_append_right _ (List.mem_singleton.mpr rfl)), on, front, ?_⟩
    rw [List.append_assoc, List.singleton_append]

theorem IsSeparator.exists_cons (separator : IsSeparator sep) : ∃ c rest, sep = c :: rest ∧ isBlank c = true := by
  obtain @⟨front, word, back, ahead, on, behind⟩ := separator
  obtain ⟨c, front, rfl⟩ := List.exists_cons_of_ne_nil ahead.1
  exact ⟨c, _, rfl, ahead.2 c (List.mem_cons_self ..)⟩

/-- Where a separator is cut in front of a blank, the first part ends with a blank, or with a blank and the word. -/
theorem IsSeparator.cut_cases {b : Char} (separator : IsSeparator (s ++ b :: rest)) (blank : isBlank b = true) :
    s = [] ∨ (∃ blanks, Blanks blanks ∧ blanks <:+ s) ∨ EndsOn s := by
  generalize whole : s ++ b :: rest = sep at separator
  obtain @⟨front, word, back, ahead, on, behind⟩ := separator
  rcases List.append_eq_append_iff.mp whole with ⟨more, split, next⟩ | ⟨more, rfl, rfl⟩
  · cases more with
    | nil =>
      rw [List.append_nil] at split
      exact .inr (.inr (split ▸ ahead.endsOn on))
    | cons c more =>
      obtain ⟨rfl, _⟩ := List.cons.inj next
      -- the blank is not in the word, so the first part lies in the blanks in front of the word
      rcases List.append_eq_append_iff.mp split with ⟨inner, rfl, letters⟩ | ⟨inner, rfl, _⟩
      · have letter : b ∈ word := letters ▸ List.mem_append_right _ (List.mem_cons_self ..)
        rw [on.not_blank b letter] at blank
        cases blank
      · by_cases none : s = []
        · exact .inl none
        · exact .inr (.inl ⟨s, ⟨none, fun c member => ahead.2 c (List.mem_append_left _ member)⟩, List.suffix_refl s⟩)
  · by_cases none : more = []
    · subst none
      rw [List.append_nil]
      exact .inr (.inr (ahead.endsOn on))
    · refine .inr (.inl ⟨more, ⟨none, fun c member => behind.2 c (List.mem_append_left _ member)⟩, ?_⟩)
      exact List.suffix_append _ _

/-- Two sides are cut at the separator between them. -/
theorem cutAt_of_sides (side : IsSide left) (side' : IsSide right) (closed : ¬ EndsOn left)
    (separator : IsSeparator sep) : CutAt (left ++ (sep ++ right)) left sep right := by
  refine ⟨rfl, separator, fun front other back separator' split => ?_, (greedy_iff separator).mpr ?_⟩
  · by_contra further
    rcases List.append_eq_append_iff.mp split with ⟨more, rfl, _⟩ | ⟨part, rfl, whole⟩
    · simp at further
    · have suffix : part <:+ front ++ part := List.suffix_append _ _
      rcases List.append_eq_append_iff.mp whole with ⟨more, rfl, _⟩ | ⟨more, rfl, next⟩
      · exact side.unseparated other separator' ((List.prefix_append other more).isInfix.trans suffix.isInfix)
      · cases more with
        | nil =>
          rw [List.append_nil] at separator'
          exact side.unseparated part separator' suffix.isInfix
        | cons b more =>
          -- the other separator would reach into this one, which starts with a blank
          obtain ⟨c, rest, rfl, blank⟩ := separator.exists_cons
          obtain ⟨rfl, _⟩ := List.cons.inj next
          rcases separator'.cut_cases blank with rfl | ⟨blanks, blank, ends⟩ | ends
          · simp at further
          · exact blank.1 (eq_nil_of_blank_suffix side.trimmed blank.2 (ends.trans suffix))
          · exact closed (ends.of_suffix suffix)
  · exact side'.trimmed ▸ trimStart_of_prefix right (List.rdropWhile_prefix isBlank _)

theorem IsSide.exists_not_blank (side : IsSide s) : ∃ c ∈ s, isBlank c = false := by
  rw [← trim_ne_nil_iff, side.trimmed]
  exact side.filled

/-- A text whose scan finds a single separator splits into its two sides, and into nothing else: they are trimmed and
without separators, and the blanks around them and the separator are all that is lost. Two such sides come back from any
separator that joins them. -/
theorem splitColour?_scan :
    (∀ text : List Char, ∃! pieces, Scan text pieces) ∧
    (∀ text colour element : String, splitColour? text = some (colour, element) ↔
      ∃ left right, Scan text.toList [left, right] ∧ (∃ c ∈ left, isBlank c = false) ∧
        (∃ c ∈ right, isBlank c = false) ∧ colour.toList = trim left ∧ element.toList = trim right) ∧
    (∀ text colour element : String, splitColour? text = some (colour, element) →
      IsSide colour.toList ∧ IsSide element.toList ∧ ¬ EndsOn colour.toList ∧ ∃ front sep back,
        (∀ c ∈ front, isBlank c = true) ∧ IsSeparator sep ∧ (∀ c ∈ back, isBlank c = true) ∧
          text.toList = front ++ colour.toList ++ sep ++ element.toList ++ back) ∧
    ∀ (colour element : String) (sep : List Char), IsSide colour.toList → IsSide element.toList →
      ¬ EndsOn colour.toList → IsSeparator sep →
        splitColour? (colour ++ String.ofList sep ++ element) = some (colour, element) := by
  refine ⟨fun text => ?_, fun _ _ _ => splitColour?_eq_some_iff, fun _ _ _ => sides_of_splitColour?, ?_⟩
  · obtain ⟨pieces, scan⟩ := exists_scan text
    exact ⟨pieces, scan, fun _ other => other.unique scan⟩
  intro colour element sep side side' closed separator
  refine splitColour?_eq_some_iff.mpr ⟨colour.toList, element.toList, ?_, side.exists_not_blank, side'.exists_not_blank,
    side.trimmed.symm, side'.trimmed.symm⟩
  rw [String.toList_append, String.toList_append, String.toList_ofList, List.append_assoc]
  exact scan_pair_iff.mpr ⟨⟨sep, cutAt_of_sides side side' closed separator⟩, side'.unseparated⟩

/-- An element whose text starts with the word, between blanks of many kinds, and joined to its colour once more. -/
theorem splitColour?_scan_overlap :
    splitColour? "\t#00f\u00a0oN  on sale " = some ("#00f", "on sale") ∧
      (IsSide "#00f".toList ∧ IsSide "on sale".toList ∧ ¬ EndsOn "#00f".toList ∧
        IsSeparator [' ', '\u3000', 'O', 'N', '\n']) ∧
        splitColour? ("#00f" ++ String.ofList [' ', '\u3000', 'O', 'N', '\n'] ++ "on sale") =
          some ("#00f", "on sale") := by
  have split : splitColour? "\t#00f\u00a0oN  on sale " = some ("#00f", "on sale") := by decide +kernel
  obtain ⟨side, side', closed, _⟩ := splitColour?_scan.2.2.1 _ _ _ split
  have separator : IsSeparator [' ', '\u3000', 'O', 'N', '\n'] :=
    @IsSeparator.mk [' ', '\u3000'] ['O', 'N'] ['\n'] (by decide) (by decide) (by decide)
  exact ⟨split, ⟨side, side', closed, separator⟩, splitColour?_scan.2.2.2 _ _ _ side side' closed separator⟩

end UiCheck.Plan
