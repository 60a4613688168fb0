import UiCheck.Json.Printer
import UiCheck.Proofs.Json.Taking

/-! # Reading scalars as they are written

Words, whole numbers and strings are taken just as the printer writes them. A number is told apart from what follows
it, so that what follows must not go on with it; a string tells its own end.
-/

namespace UiCheck.Json.Reader

variable {rest : List UInt8}

/-! ## Characters and bytes -/

/-- The bytes of some characters. -/
def bytesOf (text : List Char) : List UInt8 :=
  text.flatMap String.utf8EncodeChar

theorem bytesOf_append (text more : List Char) : bytesOf (text ++ more) = bytesOf text ++ bytesOf more :=
  List.flatMap_append

theorem bytesOf_cons (c : Char) (text : List Char) : bytesOf (c :: text) = String.utf8EncodeChar c ++ bytesOf text :=
  List.flatMap_cons

theorem length_le_bytesOf (text : List Char) : text.length ≤ (bytesOf text).length := by
  induction text with
  | nil => exact Nat.le_refl _
  | cons c text ih =>
    have one : 0 < (String.utf8EncodeChar c).length := List.length_pos_iff.mpr String.utf8EncodeChar_ne_nil
    rw [bytesOf_cons, List.length_append, List.length_cons]
    omega

theorem toList_loop (bytes : ByteArray) (i : Nat) (done : List UInt8) :
    ByteArray.toList.loop bytes i done = done.reverse ++ bytes.data.toList.drop i := by
  fun_induction ByteArray.toList.loop bytes i done with
  | case1 i done inside ih =>
    have next : bytes.data.toList.drop i = bytes.get! i :: bytes.data.toList.drop (i + 1) := by
      have inside' : i < bytes.data.toList.length := inside
      rw [List.drop_eq_getElem_cons inside', ByteArray.get!, Array.getElem_toList, getElem!_pos bytes.data i inside]
    rw [ih, next, List.reverse_cons, List.append_assoc, List.singleton_append]
  | case2 i done outside => rw [List.drop_eq_nil_of_le (Nat.le_of_not_lt outside), List.append_nil]

theorem toList_toUTF8 (text : List Char) : (String.ofList text).toUTF8.toList = bytesOf text := by
  rw [String.toUTF8_eq_toByteArray, String.toByteArray_ofList, ByteArray.toList, toList_loop]
  show (text.flatMap String.utf8EncodeChar).toByteArray.data.toList = _
  rw [List.data_toByteArray]
  rfl

theorem utf8EncodeChar_of_lt {c : Char} (small : c.toNat < 128) :
    String.utf8EncodeChar c = [UInt8.ofNat c.toNat] := by
  rw [String.utf8EncodeChar]
  exact if_pos (Nat.le_of_lt_succ small)

theorem charOf_ofNat {c : Char} (small : c.toNat < 128) : charOf (UInt8.ofNat c.toNat) = c := by
  rw [charOf, UInt8.toNat_ofNat', Nat.mod_eq_of_lt (by omega), Char.ofNat_toNat]

/-- The bytes of a character beyond the first 128 are all at least 128. -/
theorem le_of_mem_utf8EncodeChar {c : Char} (large : 128 ≤ c.toNat) {b : UInt8}
    (member : b ∈ String.utf8EncodeChar c) : 128 ≤ b.toNat := by
  have code : c.val.toNat = c.toNat := rfl
  rw [String.utf8EncodeChar, code, if_neg (by omega)] at member
  have added {n m : Nat} (top : 128 ≤ m) (bound : n + m < 256) : 128 ≤ (UInt8.ofNat (n + m)).toNat := by
    rw [UInt8.toNat_ofNat', Nat.mod_eq_of_lt bound]
    omega
  split at member
  · simp only [List.mem_cons, List.not_mem_nil, or_false] at member
    obtain rfl | rfl := member <;> exact added (by decide) (by omega)
  · split at member
    · simp only [List.mem_cons, List.not_mem_nil, or_false] at member
      obtain rfl | rfl | rfl := member <;> exact added (by decide) (by omega)
    · simp only [List.mem_cons, List.not_mem_nil, or_false] at member
      obtain rfl | rfl | rfl | rfl := member <;> exact added (by decide) (by omega)

/-- The word that is expected is taken. -/
theorem takes_word {expected : List Char} (small : ∀ c ∈ expected, c.toNat < 128) (rest : List UInt8) :
    Takes (word expected) (bytesOf expected ++ rest) () rest := by
  induction expected with
  | nil => exact .pure _ _
  | cons c expected ih =>
    have here := small c (List.mem_cons_self ..)
    rw [bytesOf_cons, utf8EncodeChar_of_lt here]
    refine .bind (takes_take? _ _) ?_
    dsimp only
    rw [charOf_ofNat here, if_pos rfl]
    exact ih fun c member => small c (List.mem_cons_of_mem _ member)

/-! ## Numbers -/

/-- A number that ends before a byte does not go on with it. -/
def Parted (rest : List UInt8) : Prop :=
  ∀ b ∈ rest.head?, (charOf b).isDigit = false ∧ charOf b ≠ '.' ∧ charOf b ≠ 'e' ∧ charOf b ≠ 'E'

theorem parted_nil : Parted [] := nofun

theorem parted_cons {b : UInt8}
    (other : (charOf b).isDigit = false ∧ charOf b ≠ '.' ∧ charOf b ≠ 'e' ∧ charOf b ≠ 'E') (rest : List UInt8) :
    Parted (b :: rest) := by
  intro _ first
  obtain rfl := Option.some.inj first
  exact other

theorem parted_of_blank {blanks : List UInt8} (blank : Blank blanks) (parted : Parted rest) :
    Parted (blanks ++ rest) := by
  cases blanks with
  | nil => exact parted
  | cons b blanks =>
    refine parted_cons ?_ _
    have space := blank b (List.mem_cons_self ..)
    simp only [isSpace, Bool.or_eq_true, beq_iff_eq] at space
    obtain ((space | space) | space) | space := space <;> rw [space] <;> decide

theorem toNat_lt_of_isDigit {c : Char} (digit : c.isDigit = true) : c.toNat < 128 := by
  simp only [Char.isDigit, Bool.and_eq_true, decide_eq_true_eq] at digit
  have most : c.val.toNat ≤ 57 := digit.2
  exact Nat.lt_of_le_of_lt most (by decide)

theorem ne_of_isDigit {c d : Char} (digit : c.isDigit = true) (other : d.isDigit = false) : c ≠ d := by
  rintro rfl
  rw [digit] at other
  cases other

theorem isSpace_of_isDigit {c : Char} (digit : c.isDigit = true) : isSpace c = false := by
  simp only [isSpace, Bool.or_eq_false_iff, beq_eq_false_iff_ne]
  exact ⟨⟨⟨ne_of_isDigit digit rfl, ne_of_isDigit digit rfl⟩, ne_of_isDigit digit rfl⟩, ne_of_isDigit digit rfl⟩

theorem takes_digit? {b : UInt8} (digit : (charOf b).isDigit = true) (rest : List UInt8) :
    Takes digit? (b :: rest) (some ((charOf b).toNat - '0'.toNat)) (b :: rest) := by
  refine .bind (takes_peek? _) ?_
  show Takes (pure (if (charOf b).isDigit then some ((charOf b).toNat - '0'.toNat) else none)) _ _ _
  rw [if_pos digit]
  exact .pure _ _

theorem takes_digit?_none (parted : Parted rest) : Takes digit? rest none rest := by
  refine .bind (takes_peek? _) ?_
  cases rest with
  | nil => exact .pure _ _
  | cons b rest =>
    show Takes (pure (if (charOf b).isDigit then some ((charOf b).toNat - '0'.toNat) else none)) _ _ _
    rw [if_neg (by simp [(parted b rfl).1])]
    exact .pure _ _

/-- What a whole number is told from what follows it. -/
theorem takes_afterWhole {n : Int} {negative : Bool} {significand : Nat} (parted : Parted rest)
    (whole : if negative then significand ≠ 0 ∧ significand ≤ Nat.pow 2 63 ∧ n = -significand else n = significand) :
    Takes (afterWhole negative significand) rest (.int n) rest := by
  have follows {c : Char} (here : rest.head?.map charOf = some c) : c ≠ '.' ∧ c ≠ 'e' ∧ c ≠ 'E' := by
    obtain ⟨b, first, rfl⟩ := Option.map_eq_some_iff.mp here
    exact (parted b first).2
  refine .bind (takes_peek? _) ?_
  split
  · next here => exact absurd rfl (follows here).1
  · next here => exact absurd rfl (follows here).2.1
  · next here => exact absurd rfl (follows here).2.2
  · cases negative with
    | false =>
      rw [show n = significand from whole]
      exact .pure _ _
    | true =>
      obtain ⟨nonzero, small, rfl⟩ := whole
      have inside : ¬(significand = 0 ∨ Nat.pow 2 63 < significand) := by omega
      simp only [Bool.not_true, Bool.false_eq_true, if_false, if_neg inside]
      exact .pure _ _

theorem le_ofDigitChars (digits : List Char) (n : Nat) : n ≤ Nat.ofDigitChars 10 digits n := by
  rw [Nat.ofDigitChars_eq_ofDigitChars_zero]
  exact Nat.le_trans (Nat.le_mul_of_pos_left n (Nat.pow_pos (by decide))) (Nat.le_add_right _ _)

/-- All the digits of a number that fits are taken. -/
theorem takes_wholeDigits {negative : Bool} {answer : Numeral} {digits : List Char} {fuel significand n : Nat}
    (all : ∀ c ∈ digits, c.isDigit = true) (value : Nat.ofDigitChars 10 digits significand = n)
    (fits : n < Number.word64) (fuelled : digits.length ≤ fuel) (parted : Parted rest)
    (ended : Takes (afterWhole negative n) rest answer rest) :
    Takes (wholeDigits negative fuel significand) (bytesOf digits ++ rest) answer rest := by
  induction digits generalizing fuel significand with
  | nil =>
    rw [Nat.ofDigitChars_nil] at value
    subst value
    cases fuel with
    | zero => exact ended
    | succ fuel => exact .bind (takes_digit?_none parted) ended
  | cons c digits ih =>
    obtain ⟨fuel, rfl⟩ : ∃ more, fuel = more + 1 := ⟨fuel - 1, by simp only [List.length_cons] at fuelled; omega⟩
    have digit := all c (List.mem_cons_self ..)
    have small := toNat_lt_of_isDigit digit
    rw [Nat.ofDigitChars_cons] at value
    have grows := le_ofDigitChars digits (10 * significand + (c.toNat - '0'.toNat))
    rw [bytesOf_cons, utf8EncodeChar_of_lt small]
    refine .bind (takes_digit? ((charOf_ofNat small).symm ▸ digit) _) ?_
    dsimp only
    rw [charOf_ofNat small, if_neg (by omega)]
    refine .bind (takes_skip _ _) (ih (fun c member => all c (List.mem_cons_of_mem _ member)) value ?_)
    simp only [List.length_cons] at fuelled
    omega

/-- The digits of a positive number do not begin with a zero. -/
theorem toDigits_head {n : Nat} (positive : 0 < n) : ∃ c digits, Nat.toDigits 10 n = c :: digits ∧ c ≠ '0' := by
  induction n using Nat.strongRecOn with
  | ind n ih =>
    rw [Nat.toDigits_eq_if (by decide)]
    split
    · next small =>
      have leading : ∀ m < 10, 0 < m → Nat.digitChar m ≠ '0' := by decide
      exact ⟨_, [], rfl, leading n small positive⟩
    · obtain ⟨c, digits, begins, nonzero⟩ := ih (n / 10) (by omega) (by omega)
      exact ⟨c, digits ++ [Nat.digitChar (n % 10)], by rw [begins, List.cons_append], nonzero⟩

theorem takes_numeral {m : Int} {negative : Bool} {n : Nat} (fits : n < Number.word64) (parted : Parted rest)
    (whole : if negative then n ≠ 0 ∧ n ≤ Nat.pow 2 63 ∧ m = -n else m = n) :
    Takes (numeral negative) (bytesOf (Nat.toDigits 10 n) ++ rest) (.int m) rest := by
  have ended := takes_afterWhole parted whole
  by_cases zero : n = 0
  · subst zero
    exact .bind (takes_take? _ _) (.bind (takes_digit?_none parted) ended)
  · obtain ⟨c, digits, begins, nonzero⟩ := toDigits_head (Nat.pos_of_ne_zero zero)
    have all : ∀ d ∈ c :: digits, d.isDigit = true := fun d member =>
      Nat.isDigit_of_mem_toDigits (by decide) (by decide) (begins ▸ member)
    have value : Nat.ofDigitChars 10 (c :: digits) 0 = n := begins ▸ Nat.ofDigitChars_ten_toDigits
    have digit := all c (List.mem_cons_self ..)
    have small := toNat_lt_of_isDigit digit
    rw [Nat.ofDigitChars_cons, Nat.mul_zero, Nat.zero_add] at value
    rw [begins, bytesOf_cons, utf8EncodeChar_of_lt small]
    refine .bind (takes_take? _ _) ?_
    rw [charOf_ofNat small]
    split
    · next none => cases none
    · next here => exact absurd (Option.some.inj here) nonzero
    · next here =>
      obtain rfl := Option.some.inj here
      rw [if_pos digit]
      refine .bind_size fun size fuelled => ?_
      refine takes_wholeDigits (fun d member => all d (List.mem_cons_of_mem _ member)) value fits ?_ parted ended
      have counted : digits.length ≤ (bytesOf digits).length := length_le_bytesOf digits
      have fuelled : (bytesOf digits ++ rest).length ≤ size := fuelled
      rw [List.length_append] at fuelled
      omega

/-! ## Strings -/

/-- A byte that stands for itself in a string. -/
def Unescaped (b : UInt8) : Prop :=
  b ≠ 0x22 ∧ b ≠ 0x5C ∧ ¬b < 32

/-- Bytes that stand for themselves are kept. -/
theorem takes_stringFrom_plain {text : String} {plain done more : List UInt8} {fuel : Nat}
    (all : ∀ b ∈ plain, Unescaped b)
    (taken : Takes (stringFrom fuel (plain.reverse ++ done)) more text rest) :
    Takes (stringFrom (plain.length + fuel) done) (plain ++ more) text rest := by
  induction plain generalizing done with
  | nil => simpa using taken
  | cons b plain ih =>
    obtain ⟨quote, escape, control⟩ := all b (List.mem_cons_self ..)
    rw [List.length_cons, Nat.add_right_comm]
    refine .bind (takes_takeByte? _ _) ?_
    dsimp only
    rw [if_neg quote, if_neg escape, if_neg control]
    refine ih (fun b member => all b (List.mem_cons_of_mem _ member)) ?_
    simpa using taken

/-- What an escape stands for is kept. -/
theorem takes_stringFrom_escaped {text : String} {c : Char} {escape done more : List UInt8} {fuel : Nat}
    (means : Takes escaped (escape ++ more) c more)
    (taken : Takes (stringFrom fuel ((String.utf8EncodeChar c).reverse ++ done)) more text rest) :
    Takes (stringFrom (fuel + 1) done) (0x5C :: (escape ++ more)) text rest :=
  .bind (takes_takeByte? _ _) (.bind means taken)

theorem fromUTF8?_bytesOf (text : List Char) :
    String.fromUTF8? (bytesOf text).toByteArray = some (String.ofList text) := by
  have same : (bytesOf text).toByteArray = (String.ofList text).toByteArray := String.toByteArray_ofList.symm
  rw [same, String.fromUTF8?, dif_pos (String.ofList text).isValidUTF8]
  rfl

theorem takes_unit16 {w x y z : UInt8} {n : Nat}
    (value : Number.ofDigits? 16 [charOf w, charOf x, charOf y, charOf z] = some n) (rest : List UInt8) :
    Takes unit16 (w :: x :: y :: z :: rest) n rest := by
  refine ⟨by simp only [List.length_cons]; omega, fun place size _ => ⟨[w, x, y, z].foldl Place.behind place, ?_⟩⟩
  rw [unit16]
  refine (run_bind rfl).trans ((run_bind rfl).trans ?_)
  have enough : ¬ [w, x, y, z].length < 4 := Nat.lt_irrefl 4
  have digits : List.map charOf [w, x, y, z] = [charOf w, charOf x, charOf y, charOf z] := rfl
  simp only [List.take_succ_cons, List.take_zero, if_neg enough, digits, value]
  rfl

/-- A control character without a letter of its own is escaped by its code. -/
theorem takes_codePoint {c : Char} (control : c.toNat < 32) (rest : List UInt8) :
    Takes codePoint
      (bytesOf ['0', '0', Nat.digitChar (c.toNat / 16), Nat.digitChar (c.toNat % 16)] ++ rest) c rest := by
  have ascii : ∀ n < 16, (Nat.digitChar n).toNat < 128 := by decide
  have value : ∀ n < 32, Number.ofDigits? 16 ['0', '0', Nat.digitChar (n / 16), Nat.digitChar (n % 16)] = some n := by
    decide
  have high := ascii (c.toNat / 16) (by omega)
  have low := ascii (c.toNat % 16) (by omega)
  have bytes : bytesOf ['0', '0', Nat.digitChar (c.toNat / 16), Nat.digitChar (c.toNat % 16)] =
      [48, 48, UInt8.ofNat (Nat.digitChar (c.toNat / 16)).toNat, UInt8.ofNat (Nat.digitChar (c.toNat % 16)).toNat] := by
    rw [bytesOf_cons, bytesOf_cons, bytesOf_cons, bytesOf_cons, utf8EncodeChar_of_lt high, utf8EncodeChar_of_lt low]
    rfl
  rw [bytes]
  refine .bind (takes_unit16 (n := c.toNat) ?_ rest) ?_
  · rw [charOf_ofNat high, charOf_ofNat low]
    exact value c.toNat control
  · rw [if_neg (by omega), if_pos (by omega), Char.ofNat_toNat]
    exact .pure _ _

/-- A character that is not escaped stands for itself. -/
theorem unescaped_of_mem {c : Char} (quote : c ≠ '"') (escape : c ≠ '\\') (printed : ¬c.toNat < 32) {b : UInt8}
    (member : b ∈ String.utf8EncodeChar c) : Unescaped b := by
  by_cases small : c.toNat < 128
  · rw [utf8EncodeChar_of_lt small, List.mem_singleton] at member
    have back := charOf_ofNat small
    rw [← member] at back
    refine ⟨?_, ?_, ?_⟩
    · rintro rfl
      exact quote back.symm
    · rintro rfl
      exact escape back.symm
    · rw [member, UInt8.lt_iff_toNat_lt, UInt8.toNat_ofNat', Nat.mod_eq_of_lt (by omega)]
      exact printed
  · have large := le_of_mem_utf8EncodeChar (by omega) member
    refine ⟨?_, ?_, ?_⟩
    · rintro rfl
      exact absurd large (by decide)
    · rintro rfl
      exact absurd large (by decide)
    · rw [UInt8.lt_iff_toNat_lt]
      exact Nat.not_lt_of_le (Nat.le_trans (by decide) large)

/-- A character is escaped, by a letter or by its code, or stands for itself. -/
theorem escapeChar_cases (c : Char) :
    (∃ escape, bytesOf (escapeChar c) = 0x5C :: escape ∧ ∀ more, Takes escaped (escape ++ more) c more) ∨
      escapeChar c = [c] ∧ ∀ b ∈ String.utf8EncodeChar c, Unescaped b := by
  unfold escapeChar
  split
  case h_8 quote escape _ _ _ _ _ =>
    split
    · next control =>
      exact .inl ⟨117 :: bytesOf _, rfl, fun more => .bind (takes_take? _ _) (takes_codePoint control more)⟩
    · next printed => exact .inr ⟨rfl, fun b member => unescaped_of_mem quote escape printed member⟩
  all_goals exact .inl ⟨[_], rfl, fun more => .bind (takes_take? _ _) (.pure _ _)⟩

/-- What is written for a character stands for it, and takes at most one unit of fuel for each of its bytes. -/
theorem takes_stringFrom_char {text : String} {done more : List UInt8} {fuel : Nat} (c : Char)
    (fuelled : (bytesOf (escapeChar c)).length ≤ fuel)
    (taken : ∀ left, fuel ≤ left + (bytesOf (escapeChar c)).length →
      Takes (stringFrom left ((String.utf8EncodeChar c).reverse ++ done)) more text rest) :
    Takes (stringFrom fuel done) (bytesOf (escapeChar c) ++ more) text rest := by
  obtain ⟨escape, written, means⟩ | ⟨written, plain⟩ := escapeChar_cases c
  · rw [written, List.length_cons] at fuelled taken
    obtain ⟨left, rfl⟩ : ∃ left, fuel = left + 1 := ⟨fuel - 1, by omega⟩
    rw [written]
    exact takes_stringFrom_escaped (means more) (taken left (by omega))
  · have alone : bytesOf (escapeChar c) = String.utf8EncodeChar c := by
      rw [written, bytesOf_cons]
      exact List.append_nil _
    rw [alone] at fuelled taken ⊢
    obtain ⟨left, rfl⟩ := Nat.exists_eq_add_of_le fuelled
    exact takes_stringFrom_plain plain (taken left (by omega))

theorem takes_stringFrom (prior cs : List Char) {fuel : Nat}
    (fuelled : (bytesOf (cs.flatMap escapeChar)).length < fuel) (rest : List UInt8) :
    Takes (stringFrom fuel (bytesOf prior).reverse) (bytesOf (cs.flatMap escapeChar) ++ 0x22 :: rest)
      (String.ofList (prior ++ cs)) rest := by
  induction cs generalizing prior fuel with
  | nil =>
    obtain ⟨fuel, rfl⟩ := Nat.exists_eq_succ_of_ne_zero (Nat.ne_of_gt fuelled)
    refine .bind (takes_takeByte? _ _) ?_
    dsimp only
    rw [if_pos rfl, List.reverse_reverse, content, fromUTF8?_bytesOf, List.append_nil]
    exact .pure _ _
  | cons c cs ih =>
    rw [List.flatMap_cons, bytesOf_append, List.length_append] at fuelled
    rw [List.flatMap_cons, bytesOf_append, List.append_assoc]
    refine takes_stringFrom_char c (by omega) fun left enough => ?_
    have told := ih (prior ++ [c]) (show _ < left by omega)
    rwa [bytesOf_append, bytesOf_cons, List.reverse_append, List.append_assoc, List.singleton_append, bytesOf,
      List.flatMap_nil, List.append_nil] at told

/-- A string begins with a quote. -/
theorem bytes_stringText (text : String) (rest : List UInt8) :
    ∃ more, bytesOf (stringText text) ++ rest = 34 :: more := by
  rw [stringText, List.cons_append, bytesOf_cons]
  exact ⟨_, rfl⟩

theorem takes_key (text : String) (rest : List UInt8) :
    Takes key (bytesOf (stringText text) ++ rest) text rest := by
  have written : bytesOf (stringText text) ++ rest =
      0x22 :: (bytesOf (text.toList.flatMap escapeChar) ++ 0x22 :: rest) := by
    rw [stringText, List.cons_append, bytesOf_cons, bytesOf_append, List.append_assoc, List.append_assoc]
    rfl
  rw [written]
  refine .bind (takes_skip _ _) (.bind_size fun size fuelled => ?_)
  rw [List.length_append] at fuelled
  have taken := takes_stringFrom [] text.toList (Nat.lt_succ_of_le (by omega) : _ < size + 1) rest
  rwa [List.nil_append, String.ofList_toList] at taken

theorem takes_hasMember {blanks : List UInt8} (blank : Blank blanks) (name : String) (rest : List UInt8)
    (first : Bool) :
    Takes (hasMember first) ((if first then [] else [44]) ++ (blanks ++ (bytesOf (stringText name) ++ rest))) true
      (bytesOf (stringText name) ++ rest) := by
  obtain ⟨more, quoted⟩ := bytes_stringText name rest
  rw [quoted]
  cases first with
  | true => exact .bind (takes_next? blank (by decide) more) (.pure _ _)
  | false =>
    exact .bind (takes_next? blank_nil (by decide) _)
      (.bind (takes_skip _ _) (.bind (takes_next? blank (by decide) more) (.pure _ _)))

/-! ## Whole numbers -/

/-- A number that is read back: it fits into sixty-four bits, with or without a sign. -/
def Fits (n : Int) : Prop :=
  -(Nat.pow 2 63 : Nat) ≤ n ∧ n < Number.word64

theorem takes_negative {n : Int} (fits : Fits n) (negative : n < 0) (parted : Parted rest) :
    bytesOf (intText n) = 45 :: bytesOf (Nat.toDigits 10 n.natAbs) ∧
      Takes (numeral true) (bytesOf (Nat.toDigits 10 n.natAbs) ++ rest) (.int n) rest := by
  obtain ⟨low, -⟩ := fits
  have wide : Nat.pow 2 63 < Number.word64 := by decide
  refine ⟨by rw [intText, if_pos negative]; rfl, takes_numeral (by omega) parted ?_⟩
  exact ⟨by omega, by omega, by omega⟩

theorem takes_nonnegative {n : Int} (fits : Fits n) (nonnegative : ¬n < 0) (parted : Parted rest) :
    (∃ b more, bytesOf (intText n) = b :: more ∧ (charOf b).isDigit = true) ∧
      Takes (numeral false) (bytesOf (intText n) ++ rest) (.int n) rest := by
  obtain ⟨-, high⟩ := fits
  have written : intText n = Nat.toDigits 10 n.natAbs := by rw [intText, if_neg nonnegative, List.nil_append]
  rw [written]
  refine ⟨?_, takes_numeral (by omega) parted (show n = n.natAbs by omega)⟩
  obtain ⟨c, digits, begins⟩ := List.exists_cons_of_ne_nil (@Nat.toDigits_ne_nil n.natAbs 10)
  have digit : c.isDigit = true :=
    Nat.isDigit_of_mem_toDigits (by decide) (by decide) (begins ▸ List.mem_cons_self ..)
  have small := toNat_lt_of_isDigit digit
  refine ⟨_, _, by rw [begins, bytesOf_cons, utf8EncodeChar_of_lt small]; rfl, ?_⟩
  rwa [charOf_ofNat small]

end UiCheck.Json.Reader
