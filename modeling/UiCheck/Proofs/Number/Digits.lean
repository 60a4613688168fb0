import UiCheck.Number.Digits

/-! # Decimal numbers

A text is read as a number just if it has digits only, and then its value is that of the digits. A plus sign may stand
in front of a number without a sign of its own.
-/

namespace UiCheck.Number

variable {c : Char} {s text : List Char} {value n bound : Nat}

/-- The text is a decimal number below the bound, with a plus sign in front or without. -/
def IsUnsigned (bound : Nat) (text : List Char) : Prop :=
  ∃ digits, (text = digits ∨ text = '+' :: digits) ∧ digits ≠ [] ∧ (∀ c ∈ digits, c.isDigit = true) ∧
    Nat.ofDigitChars 10 digits 0 < bound

theorem digitValue?_of_isDigit (digit : c.isDigit = true) :
    digitValue? c = some (c.toNat - '0'.toNat) ∧ c.toNat - '0'.toNat < 10 := by
  simp only [Char.isDigit, Bool.and_eq_true, decide_eq_true_eq] at digit
  refine ⟨if_pos ⟨digit.1, digit.2⟩, ?_⟩
  have most : c.toNat ≤ 57 := digit.2
  have zero : '0'.toNat = 48 := rfl
  omega

/-- Only the ten digits have a value below ten. -/
theorem isDigit_of_digitValue? (found : digitValue? c = some n) (small : n < 10) : c.isDigit = true := by
  unfold digitValue? at found
  split at found
  · next between =>
    simp only [Char.isDigit, Bool.and_eq_true, decide_eq_true_eq]
    exact between
  · split at found
    · cases found
      omega
    · split at found
      · cases found
        omega
      · cases found

theorem readDigits?_eq_some_iff :
    readDigits? 10 value s = some n ↔ (∀ c ∈ s, c.isDigit = true) ∧ Nat.ofDigitChars 10 s value = n := by
  induction s generalizing value with
  | nil => simp [readDigits?]
  | cons c s ih =>
    rw [readDigits?, List.forall_mem_cons, Nat.ofDigitChars_cons]
    by_cases digit : c.isDigit = true
    · obtain ⟨found, small⟩ := digitValue?_of_isDigit digit
      simp only [found, if_pos small, ih, digit, true_and, Nat.mul_comm value 10]
    · cases found : digitValue? c with
      | none => simp [digit]
      | some d =>
        have large : ¬ d < 10 := fun small => digit (isDigit_of_digitValue? found small)
        simp [digit, large]

theorem ofDigits?_eq_some_iff :
    ofDigits? 10 s = some n ↔ s ≠ [] ∧ (∀ c ∈ s, c.isDigit = true) ∧ Nat.ofDigitChars 10 s 0 = n := by
  cases s with
  | nil => simp [ofDigits?]
  | cons c s => simp [ofDigits?, readDigits?_eq_some_iff]

theorem exists_below_iff : (∃ n, (ofDigits? 10 s).filter (· < bound) = some n) ↔
    s ≠ [] ∧ (∀ c ∈ s, c.isDigit = true) ∧ Nat.ofDigitChars 10 s 0 < bound := by
  simp only [Option.filter_eq_some_iff, ofDigits?_eq_some_iff, decide_eq_true_eq]
  constructor
  · rintro ⟨n, ⟨nonempty, digits, rfl⟩, small⟩
    exact ⟨nonempty, digits, small⟩
  · rintro ⟨nonempty, digits, small⟩
    exact ⟨_, ⟨nonempty, digits, rfl⟩, small⟩

theorem exists_unsigned?_iff : (∃ n, unsigned? 10 bound text = some n) ↔ IsUnsigned bound text := by
  unfold unsigned?
  split
  · next rest =>
    rw [exists_below_iff]
    constructor
    · intro number
      exact ⟨rest, .inr rfl, number⟩
    · rintro ⟨digits, rfl | same, nonempty, all, small⟩
      · cases all '+' (List.mem_cons_self ..)
      · cases same
        exact ⟨nonempty, all, small⟩
  · next unsigned =>
    rw [exists_below_iff]
    constructor
    · intro number
      exact ⟨text, .inl rfl, number⟩
    · rintro ⟨digits, rfl | same, number⟩
      · exact number
      · exact absurd same (unsigned digits)

/-- Digits alone are read as their value. -/
theorem unsigned?_of_digits (filled : s ≠ []) (digits : ∀ c ∈ s, c.isDigit = true)
    (small : Nat.ofDigitChars 10 s 0 < bound) : unsigned? 10 bound s = some (Nat.ofDigitChars 10 s 0) := by
  have read : ofDigits? 10 s = some (Nat.ofDigitChars 10 s 0) := ofDigits?_eq_some_iff.mpr ⟨filled, digits, rfl⟩
  unfold unsigned?
  split
  · cases digits '+' (List.mem_cons_self ..)
  · dsimp only
    rw [read, Option.filter_some, if_pos (decide_eq_true small)]

end UiCheck.Number
