import Mathlib.Data.List.Basic
import Mathlib.Data.List.Forall2
import UiCheck.Text.Blank
import UiCheck.Text.Case
import UiCheck.Text.Ranges

/-! # Characters and their case

The lower case of a text is taken character by character, and the case of its Latin letters is lost in it. Blanks and
decimal digits have no case, and no character is both. What is said of finitely many characters is checked on their
codes.
-/

namespace UiCheck.Text

variable {c : Char} {s : List Char}

/-- What holds of each of some codes holds of a character that has one of them. -/
theorem of_codes {P : Char → Prop} {codes : List Nat} (all : ∀ n ∈ codes, P (Char.ofNat n)) (member : c.toNat ∈ codes) :
    P c := by
  have holds := all c.toNat member
  rwa [Char.ofNat_toNat] at holds

/-! ## Latin letters -/

/-- The codes of the capitals. -/
def capitalCodes : List Nat := List.range' 65 26

theorem mem_capitalCodes (capital : 'A' ≤ c ∧ c ≤ 'Z') : c.toNat ∈ capitalCodes := by
  have least : 65 ≤ c.toNat := UInt32.le_iff_toNat_le.mp capital.1
  have most : c.toNat ≤ 90 := UInt32.le_iff_toNat_le.mp capital.2
  simp only [capitalCodes, List.mem_range'_1]
  omega

/-- The two cases of a Latin letter have the same lower case. -/
@[simp] theorem lowerChar_toLower (c : Char) : lowerChar c.toLower = lowerChar c := by
  by_cases capital : 'A' ≤ c ∧ c ≤ 'Z'
  · refine of_codes (P := fun c => lowerChar c.toLower = lowerChar c) ?_ (mem_capitalCodes capital)
    decide
  · have same : c.toLower = c := dif_neg capital
    rw [same]

theorem lower_map_toLower (s : List Char) : lower (s.map Char.toLower) = lower s := by
  simp only [lower, List.flatMap_map, lowerChar_toLower]

/-- A letter to which no special sign folds is matched by plain characters only. -/
theorem toNat_lt_of_foldsTo {letter : Char} (ascii : letter.toNat < 128) (plain : letter ≠ 's' ∧ letter ≠ 'k')
    (folds : foldsTo letter c = true) : c.toNat < 128 := by
  simp only [foldsTo, Bool.or_eq_true, Bool.and_eq_true, beq_iff_eq, decide_eq_true_eq] at folds
  rcases folds with ((rfl | both) | long) | kelvin
  · exact ascii
  · exact both.2
  · exact absurd long.1 plain.1
  · exact absurd kelvin.1 plain.2

theorem foldsTo_o_iff : foldsTo 'o' c = true ↔ c = 'o' ∨ c = 'O' := by
  constructor
  · intro folds
    have small := toNat_lt_of_foldsTo (by decide) (by decide) folds
    refine of_codes (P := fun c => foldsTo 'o' c = true → c = 'o' ∨ c = 'O') ?_ (List.mem_range.mpr small) folds
    decide +kernel
  · rintro (rfl | rfl) <;> decide

theorem foldsTo_n_iff : foldsTo 'n' c = true ↔ c = 'n' ∨ c = 'N' := by
  constructor
  · intro folds
    have small := toNat_lt_of_foldsTo (by decide) (by decide) folds
    refine of_codes (P := fun c => foldsTo 'n' c = true → c = 'n' ∨ c = 'N') ?_ (List.mem_range.mpr small) folds
    decide +kernel
  · rintro (rfl | rfl) <;> decide

/-! ## Blanks and digits -/

/-- The codes of the blanks. -/
def blankCodes : List Nat :=
  [9, 10, 11, 12, 13, 0x20, 0x85, 0xA0, 0x1680, 0x2000, 0x2001, 0x2002, 0x2003, 0x2004, 0x2005, 0x2006, 0x2007, 0x2008,
    0x2009, 0x200A, 0x2028, 0x2029, 0x202F, 0x205F, 0x3000]

theorem mem_blankCodes (blank : isBlank c = true) : c.toNat ∈ blankCodes := by
  simp only [isBlank, Bool.or_eq_true, Bool.and_eq_true, decide_eq_true_eq, beq_iff_eq] at blank
  simp only [blankCodes, List.mem_cons, List.not_mem_nil, or_false]
  omega

theorem isBlank_of_isDecimalDigit (digit : isDecimalDigit c = true) : isBlank c = false := by
  by_contra blank
  have other : isDecimalDigit c = false := by
    refine of_codes (P := fun c => isDecimalDigit c = false) ?_ (mem_blankCodes (eq_true_of_ne_false blank))
    decide +kernel
  rw [digit] at other
  cases other

theorem isBlank_toLower (c : Char) : isBlank c.toLower = isBlank c := by
  by_cases capital : 'A' ≤ c ∧ c ≤ 'Z'
  · refine of_codes (P := fun c => isBlank c.toLower = isBlank c) ?_ (mem_capitalCodes capital)
    decide
  · have same : c.toLower = c := dif_neg capital
    rw [same]

theorem trim_map_toLower (s : List Char) : trim (s.map Char.toLower) = (trim s).map Char.toLower := by
  have same : isBlank ∘ Char.toLower = isBlank := funext isBlank_toLower
  simp only [trim, trimEnd, trimStart, List.dropWhile_map, ← List.map_reverse, same]

/-- The codes of the characters with a lower case of their own. -/
def casedCodes : List Nat := 0x212A :: 0x130 :: capitalCodes

theorem lowerChar_of_not_mem (uncased : c.toNat ∉ casedCodes) : lowerChar c = [c] := by
  simp only [casedCodes, List.mem_cons, not_or] at uncased
  rw [lowerChar, if_neg fun capital => uncased.2.2 (mem_capitalCodes capital), if_neg uncased.1, if_neg uncased.2.1]

theorem lower_eq_self (uncased : ∀ c ∈ s, lowerChar c = [c]) : lower s = s := by
  rw [lower, List.flatMap_congr uncased]
  exact List.flatMap_singleton' s

theorem lowerChar_of_isDecimalDigit (digit : isDecimalDigit c = true) : lowerChar c = [c] := by
  refine lowerChar_of_not_mem fun cased => ?_
  have letter : isDecimalDigit c = false := by
    refine of_codes (P := fun c => isDecimalDigit c = false) ?_ cased
    decide +kernel
  rw [digit] at letter
  cases letter

/-! ## Words in any case -/

/-- The characters are those of a word that is given in small letters, each in any case. -/
def Spells (word s : List Char) : Prop :=
  List.Forall₂ (fun letter c => foldsTo letter c = true) word s

theorem afterFolded?_eq_some_iff {word rest : List Char} :
    afterFolded? word s = some rest ↔ ∃ front, Spells word front ∧ s = front ++ rest := by
  induction word generalizing s with
  | nil =>
    constructor
    · intro found
      cases found
      exact ⟨[], .nil, rfl⟩
    · rintro ⟨_, spelled, rfl⟩
      cases spelled
      rfl
  | cons letter word ih =>
    constructor
    · intro found
      cases s with
      | nil => cases found
      | cons c s =>
        rw [afterFolded?] at found
        split at found
        · next folds =>
          obtain ⟨front, spelled, rfl⟩ := ih.mp found
          exact ⟨c :: front, .cons folds spelled, rfl⟩
        · cases found
    · rintro ⟨_, spelled, rfl⟩
      cases spelled with
      | cons folds spelled =>
        rw [List.cons_append, afterFolded?, if_pos folds]
        exact ih.mpr ⟨_, spelled, rfl⟩

theorem Spells.exists_letter {word : List Char} (spelled : Spells word s) (member : c ∈ s) :
    ∃ letter ∈ word, foldsTo letter c = true := by
  induction spelled with
  | nil => cases member
  | cons folds _ ih =>
    rcases List.mem_cons.mp member with rfl | inside
    · exact ⟨_, List.mem_cons_self .., folds⟩
    · obtain ⟨letter, among, folds⟩ := ih inside
      exact ⟨letter, List.mem_cons_of_mem _ among, folds⟩

/-- A character that no letter of a word folds to stands in no spelling of the word. -/
theorem Spells.not_mem {word : List Char} (spelled : Spells word s) (apart : (word.any (foldsTo · c)) = false) : c ∉ s := by
  intro member
  obtain ⟨letter, among, folds⟩ := spelled.exists_letter member
  rw [List.any_eq_true.mpr ⟨letter, among, folds⟩] at apart
  cases apart

/-- A word in small letters is spelled by itself. -/
theorem spells_self (word : List Char) : Spells word word :=
  List.forall₂_same.mpr fun letter _ => by simp [foldsTo]

end UiCheck.Text
