import Mathlib.Data.Bool.AllAny
import Mathlib.Data.List.Infix
import UiCheck.Build.Log

/-! # Colours in build logs

A terminal colours a log by sequences that select a graphic rendition, each at some place of the text. Such a sequence
has a closing letter that none of its parameters can stand for, so it is removed whole and nothing behind it is touched.
By `stripEscapes_coloured` the text comes back however it was coloured, and the same source file is found in it.
-/

namespace UiCheck.Build

/-- The character starts an escape sequence. -/
def OpensEscape (c : Char) : Prop :=
  c = '\x1b' ∨ c.toNat = 0x9B

/-- At most four digits, the form of one parameter of a rendition. -/
structure IsParameter (digits : List Char) : Prop where
  isDigit : ∀ c ∈ digits, c.isDigit = true
  length_le : digits.length ≤ 4

instance (c : Char) : Decidable (OpensEscape c) :=
  inferInstanceAs (Decidable (_ ∨ _))

instance (digits : List Char) : Decidable (IsParameter digits) :=
  decidable_of_iff (digits.all Char.isDigit = true ∧ digits.length ≤ 4)
    ⟨fun both => ⟨List.all_eq_true.mp both.1, both.2⟩, fun fit => ⟨List.all_eq_true.mpr fit.isDigit, fit.length_le⟩⟩

/-- The sequence that selects the rendition with the given parameters. -/
def rendition (parameters : List (List Char)) : List Char :=
  '\x1b' :: '[' :: ([';'].intercalate parameters ++ ['m'])

/-- The second text is the first one with renditions selected at any of its places. -/
inductive Coloured : List Char → List Char → Prop where
  | nil : Coloured [] []
  | char {text coloured : List Char} (c : Char) (rest : Coloured text coloured) : Coloured (c :: text) (c :: coloured)
  | rendition {text coloured : List Char} (parameters : List (List Char))
      (fit : ∀ digits ∈ parameters, IsParameter digits) (rest : Coloured text coloured) :
      Coloured text (rendition parameters ++ coloured)

variable {digits s rest text text' coloured coloured' : List Char} {parameters : List (List Char)}

namespace Coloured

theorem refl (text : List Char) : Coloured text text := by
  induction text with
  | nil => exact .nil
  | cons c text ih => exact .char c ih

theorem append (front : Coloured text coloured) (back : Coloured text' coloured') :
    Coloured (text ++ text') (coloured ++ coloured') := by
  induction front with
  | nil => exact back
  | char c _ ih => exact .char c ih
  | rendition parameters fit _ ih =>
    rw [List.append_assoc]
    exact .rendition parameters fit ih

end Coloured

/-! ## One rendition -/

/-- The parameters behind the first one, each behind a semicolon. -/
def furtherParameters (parameters : List (List Char)) : List Char :=
  parameters.flatMap (';' :: ·)

theorem intercalate_cons (digits : List Char) (parameters : List (List Char)) :
    [';'].intercalate (digits :: parameters) = digits ++ furtherParameters parameters := by
  induction parameters generalizing digits with
  | nil => simp [furtherParameters]
  | cons next parameters ih =>
    rw [List.intercalate_cons_cons, ih next, furtherParameters, furtherParameters, List.flatMap_cons]
    simp

theorem length_le_furtherParameters (parameters : List (List Char)) :
    parameters.length ≤ (furtherParameters parameters).length := by
  induction parameters with
  | nil => exact Nat.le_refl _
  | cons digits parameters ih =>
    simp only [furtherParameters, List.flatMap_cons, List.length_append, List.length_cons] at ih ⊢
    omega

/-- What closes a rendition or parts its parameters is no digit. -/
theorem takeWhile_furtherParameters (parameters : List (List Char)) (s : List Char) :
    (furtherParameters parameters ++ 'm' :: s).takeWhile Char.isDigit = [] := by
  cases parameters with
  | nil => rfl
  | cons digits parameters => rfl

/-- A parameter is as wide as its digits. -/
theorem IsParameter.parameterWidth_eq (fit : IsParameter digits) (parameters : List (List Char)) (s : List Char) :
    parameterWidth (digits ++ (furtherParameters parameters ++ 'm' :: s)) = digits.length := by
  rw [parameterWidth, List.takeWhile_append_of_pos fit.isDigit, takeWhile_furtherParameters, List.append_nil]
  have := fit.length_le
  omega

/-- The longest choice is the one that is made if it leads on. -/
theorem behindMost_of_some {next : List Char → Option (List Char)} {n : Nat} (leads : next (s.drop n) = some rest) :
    behindMost next s n = some rest := by
  cases n with
  | zero => simpa [behindMost] using leads
  | succ n => rw [behindMost, leads]

theorem afterFinal?_closing (s : List Char) : afterFinal? ('m' :: s) = some s := rfl

/-- With enough fuel the further parameters are passed, and then the closing letter. -/
theorem afterParameters?_further (fit : ∀ digits ∈ parameters, IsParameter digits) (s : List Char) {fuel : Nat}
    (enough : parameters.length ≤ fuel) :
    afterParameters? fuel (furtherParameters parameters ++ 'm' :: s) = some s := by
  induction parameters generalizing fuel with
  | nil => cases fuel <;> exact afterFinal?_closing s
  | cons digits parameters ih =>
    obtain ⟨first, others⟩ := List.forall_mem_cons.mp fit
    cases fuel with
    | zero => simp at enough
    | succ fuel =>
      have step : furtherParameters (digits :: parameters) ++ 'm' :: s =
          ';' :: (digits ++ (furtherParameters parameters ++ 'm' :: s)) := by
        simp [furtherParameters]
      rw [step, afterParameters?, first.parameterWidth_eq]
      apply behindMost_of_some
      rw [List.drop_left]
      exact ih others (by simpa using enough)

theorem isIntermediate_of_isDigit {c : Char} (digit : c.isDigit = true) : isIntermediate c = false := by
  rw [Bool.eq_false_iff]
  intro between
  simp only [isIntermediate, Bool.or_eq_true, beq_iff_eq] at between
  rcases between with ((((rfl | rfl) | rfl) | rfl) | rfl) | rfl <;> cases digit

/-- What stands in front of the first digit is passed with the opening bracket. Behind it comes the closing letter or
a parameter that has digits. -/
theorem dropWhile_parameters (fit : ∀ digits ∈ parameters, IsParameter digits) (s : List Char) :
    ([';'].intercalate parameters ++ 'm' :: s).dropWhile isIntermediate = 'm' :: s ∨
      ∃ c digits further, IsParameter (c :: digits) ∧ (∀ digits ∈ further, IsParameter digits) ∧
        ([';'].intercalate parameters ++ 'm' :: s).dropWhile isIntermediate =
          c :: digits ++ (furtherParameters further ++ 'm' :: s) := by
  induction parameters with
  | nil => exact .inl rfl
  | cons digits parameters ih =>
    obtain ⟨first, others⟩ := List.forall_mem_cons.mp fit
    cases digits with
    | nil =>
      cases parameters with
      | nil => exact .inl rfl
      | cons next parameters =>
        have semicolon : [';'].intercalate ([] :: next :: parameters) =
            ';' :: [';'].intercalate (next :: parameters) := by
          rw [List.intercalate_cons_cons]
          rfl
        rw [semicolon, List.cons_append, List.dropWhile_cons_of_pos (by decide)]
        exact ih others
    | cons c digits =>
      have stays : isIntermediate c = false := isIntermediate_of_isDigit (first.isDigit c (List.mem_cons_self ..))
      refine .inr ⟨c, digits, parameters, first, others, ?_⟩
      rw [intercalate_cons, List.append_assoc, List.cons_append, List.dropWhile_cons_of_neg (by simp [stays])]

theorem parameterWidth_closing (s : List Char) : parameterWidth ('m' :: s) = 0 := rfl

/-- A rendition is an escape sequence as a whole, whatever follows it. -/
theorem afterEscape?_rendition (fit : ∀ digits ∈ parameters, IsParameter digits) (s : List Char) :
    afterEscape? (rendition parameters ++ s) = some s := by
  have opened : afterEscape? (rendition parameters ++ s) =
      afterEscape? ('\x1b' :: '[' :: ([';'].intercalate parameters ++ 'm' :: s)) := by
    simp [rendition]
  rw [opened, afterEscape?, if_pos (.inl rfl)]
  dsimp only
  rw [List.dropWhile_cons_of_pos (by decide)]
  rcases dropWhile_parameters fit s with closed | ⟨c, digits, further, first, others, rest⟩
  · rw [closed, parameterWidth_closing]
    exact afterFinal?_closing s
  · rw [rest, first.parameterWidth_eq, List.length_cons, List.cons_append]
    -- the digits behind the first one are all taken, so the further parameters come next
    have leads : behindMost (afterParameters? (digits ++ (furtherParameters further ++ 'm' :: s)).length)
        (digits ++ (furtherParameters further ++ 'm' :: s)) digits.length = some s := by
      apply behindMost_of_some
      rw [List.drop_left]
      apply afterParameters?_further others
      have := length_le_furtherParameters further
      simp only [List.length_append]
      omega
    dsimp only
    rw [leads]

/-! ## The whole text -/

theorem afterEscape?_eq_none {c : Char} (plain : ¬ OpensEscape c) (s : List Char) : afterEscape? (c :: s) = none :=
  if_neg plain

/-- Renditions are removed wherever they stand, and nothing else is. -/
theorem removeEscapes_coloured (plain : ∀ c ∈ text, ¬ OpensEscape c) (colours : Coloured text coloured)
    {fuel : Nat} (enough : coloured.length ≤ fuel) (done : List Char) :
    removeEscapes fuel done coloured = done.reverse ++ text := by
  induction colours generalizing fuel done with
  | nil => cases fuel <;> simp [removeEscapes, afterEscape?]
  | char c _ ih =>
    obtain ⟨first, others⟩ := List.forall_mem_cons.mp plain
    cases fuel with
    | zero => simp at enough
    | succ fuel =>
      rw [removeEscapes, afterEscape?_eq_none first]
      dsimp only
      rw [ih others (by simpa using enough), List.reverse_cons, List.append_assoc]
      rfl
  | rendition parameters fit _ ih =>
    cases fuel with
    | zero => simp [rendition] at enough
    | succ fuel =>
      have shorter : (rendition parameters).length ≠ 0 := by simp [rendition]
      rw [List.length_append] at enough
      simp only [removeEscapes, afterEscape?_rendition fit]
      exact ih plain (by omega) done

theorem stripEscapes_of_coloured {text coloured : String} (plain : ∀ c ∈ text.toList, ¬ OpensEscape c)
    (colours : Coloured text.toList coloured.toList) : stripEscapes coloured = text := by
  rw [stripEscapes, removeEscapes_coloured plain colours (Nat.le_of_eq String.length_toList), List.reverse_nil,
    List.nil_append, String.ofList_toList]

/-- A text comes back however it was coloured, and the source file that it names first is found. -/
theorem stripEscapes_coloured {text coloured : String} (plain : ∀ c ∈ text.toList, ¬ OpensEscape c)
    (colours : Coloured text.toList coloured.toList) :
    stripEscapes coloured = text ∧ errorFile? coloured = errorFile? text := by
  have bare : stripEscapes text = text := stripEscapes_of_coloured plain (.refl _)
  have stripped : stripEscapes coloured = text := stripEscapes_of_coloured plain colours
  refine ⟨stripped, ?_⟩
  rw [errorFile?, errorFile?, stripped, bare]

/-- A path in red, with an empty parameter, then two renditions next to each other in the middle of what follows. -/
theorem stripEscapes_coloured_red :
    ((∀ c ∈ "./app/page.tsx:1".toList, ¬ OpensEscape c) ∧
      Coloured "./app/page.tsx:1".toList "\x1b[1;;31m./app/page.tsx\x1b[m\x1b[;39m:1".toList) ∧
    stripEscapes "\x1b[1;;31m./app/page.tsx\x1b[m\x1b[;39m:1" = "./app/page.tsx:1" ∧
      errorFile? "\x1b[1;;31m./app/page.tsx\x1b[m\x1b[;39m:1" = errorFile? "./app/page.tsx:1" := by
  have plain : ∀ c ∈ "./app/page.tsx:1".toList, ¬ OpensEscape c := List.all_iff_forall_prop.mp (by decide)
  have path : Coloured "./app/page.tsx".toList "\x1b[1;;31m./app/page.tsx".toList :=
    .rendition [['1'], [], ['3', '1']] (by decide) (.refl _)
  have place : Coloured ":1".toList "\x1b[m\x1b[;39m:1".toList :=
    .rendition [] (by decide) (.rendition [[], ['3', '9']] (by decide) (.refl _))
  have colours := path.append place
  exact ⟨⟨plain, colours⟩, stripEscapes_coloured plain colours⟩

end UiCheck.Build
