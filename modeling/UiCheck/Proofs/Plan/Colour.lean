import Mathlib.Data.Bool.AllAny
import Mathlib.Data.List.Forall2
import UiCheck.Plan.Colour
import UiCheck.Proofs.Plan.TaggedForm
import UiCheck.Proofs.Text.Case
import UiCheck.Proofs.Text.Search

/-! # What colour literals denote

A literal denotes the channels of its name, of its hexadecimal digits or of the groups of digits in its call, and the
three forms exclude each other. The reduced form of a literal is a call again, and one that denotes the same channels.
So `coloursMatch_iff_denotes` can compare denotations where the program compares texts.
-/

namespace UiCheck.Plan

open Text

/-! ## Denotations -/

/-- Two hexadecimal digits that stand for a channel. -/
def IsChannel (high low : Char) (channel : Nat) : Prop :=
  ∃ h l, hexDigit? high = some h ∧ hexDigit? low = some l ∧ channel = 16 * h + l ∧ channel ≤ 255

/-- Hexadecimal digits that stand for channels. -/
inductive HexDenotes : List Char → Channels → Prop where
  | pairs {r r' g g' b b' : Char} {red green blue : Nat} (first : IsChannel r r' red) (second : IsChannel g g' green)
      (third : IsChannel b b' blue) : HexDenotes [r, r', g, g', b, b'] (.ofNats red green blue)
  | short {r g b : Char} {c : Channels} (doubled : HexDenotes [r, r, g, g, b, b] c) : HexDenotes [r, g, b] c
  | alpha {r r' g g' b b' a a' : Char} {c : Channels} (solid : HexDenotes [r, r', g, g', b, b'] c)
      (first : (hexDigit? a).isSome = true) (second : (hexDigit? a').isSome = true) :
      HexDenotes [r, r', g, g', b, b', a, a'] c

/-- One or more decimal digits. -/
def Digits (s : List Char) : Prop :=
  s ≠ [] ∧ ∀ c ∈ s, isDecimalDigit c = true

instance (s : List Char) : Decidable (Digits s) :=
  decidable_of_iff (s ≠ [] ∧ s.all isDecimalDigit = true) (and_congr_right fun _ => List.all_eq_true)

/-- The text starts with a group of digits behind blanks. The group is whole: no digit follows it. -/
structure Group (s digits rest : List Char) : Prop where
  whole : ∃ front, (∀ c ∈ front, isBlank c = true) ∧ s = front ++ (digits ++ rest)
  digits : Digits digits
  ended : ∀ c ∈ rest.head?, isDecimalDigit c = false

/-- The text starts with a comma behind blanks. -/
def Comma (s rest : List Char) : Prop :=
  ∃ front, (∀ c ∈ front, isBlank c = true) ∧ s = front ++ ',' :: rest

/-- A call of `rgb` or `rgba`, whose first three groups of digits are the channels. -/
inductive CallDenotes : List Char → Channels → Prop where
  | mk {name first first' second second' third rest red green blue : List Char}
      (named : name ∈ ["rgb(".toList, "rgba(".toList]) (reds : Group first red first') (comma : Comma first' second)
      (greens : Group second green second') (comma' : Comma second' third) (blues : Group third blue rest) :
      CallDenotes (name ++ first) ⟨red, green, blue⟩

/-- A trimmed literal in lower case stands for channels. -/
inductive Denotes : List Char → Channels → Prop where
  | named {name : String} {c : Channels} (listed : (name, c) ∈ namedColours) : Denotes name.toList c
  | hex {digits : List Char} {c : Channels} (channels : HexDenotes digits c) : Denotes ('#' :: digits) c
  | call {s : List Char} {c : Channels} (groups : CallDenotes s c) : Denotes s c

/-- A literal stands for channels. -/
def Denoted (literal : String) (c : Channels) : Prop :=
  Denotes (lower (trim literal.toList)) c

/-- Two literals differ at most in the blanks around them and in the case of Latin letters. -/
def SameLiteral (a b : List Char) : Prop :=
  ∃ front body back front' body' back', a = front ++ body ++ back ∧ b = front' ++ body' ++ back' ∧
    (∀ c ∈ front, isBlank c = true) ∧ (∀ c ∈ back, isBlank c = true) ∧
    (∀ c ∈ front', isBlank c = true) ∧ (∀ c ∈ back', isBlank c = true) ∧
    body.map Char.toLower = body'.map Char.toLower

variable {s rest next digits : List Char} {c d : Channels}

/-! ## Hexadecimal digits -/

theorem hexDigit?_lt {c : Char} {n : Nat} (found : hexDigit? c = some n) : n < 16 := by
  unfold hexDigit? at found
  split at found
  · next between =>
    have most : c.toNat ≤ 57 := UInt32.le_iff_toNat_le.mp between.2
    have zero : '0'.toNat = 48 := rfl
    cases found
    omega
  · split at found
    · next between =>
      have most : c.toNat ≤ 102 := UInt32.le_iff_toNat_le.mp between.2
      have ten : 'a'.toNat = 97 := rfl
      cases found
      omega
    · split at found
      · next between =>
        have most : c.toNat ≤ 70 := UInt32.le_iff_toNat_le.mp between.2
        have ten : 'A'.toNat = 65 := rfl
        cases found
        omega
      · cases found

theorem isChannel_of_hexDigit? {high low : Char} {h l : Nat} (first : hexDigit? high = some h)
    (second : hexDigit? low = some l) : IsChannel high low (16 * h + l) := by
  have := hexDigit?_lt first
  have := hexDigit?_lt second
  exact ⟨h, l, first, second, rfl, by omega⟩

theorem mapM_eq_some_iff {α β : Type} {f : α → Option β} {l : List α} {l' : List β} :
    l.mapM f = some l' ↔ List.Forall₂ (fun a b => f a = some b) l l' := by
  induction l generalizing l' with
  | nil => cases l' <;> simp
  | cons a l ih =>
    cases l' with
    | nil => cases h : f a <;> cases h' : l.mapM f <;> simp [List.mapM_cons, h, h']
    | cons b l' => simp [List.mapM_cons, Option.bind_eq_some_iff, ih, List.forall₂_cons]

theorem hexChannels?_of_denotes (denotes : HexDenotes digits c) : hexChannels? digits = some c := by
  induction denotes with
  | pairs first second third =>
    obtain ⟨_, _, one, two, rfl, -⟩ := first
    obtain ⟨_, _, three, four, rfl, -⟩ := second
    obtain ⟨_, _, five, six, rfl, -⟩ := third
    simp [hexChannels?, List.mapM_cons, *]
  | @short r g b c doubled ih =>
    have seventeen : ∀ n, 16 * n + n = 17 * n := by omega
    rw [← ih, hexChannels?, hexChannels?]
    cases red : hexDigit? r <;> cases green : hexDigit? g <;> cases blue : hexDigit? b <;>
      simp [List.mapM_cons, red, green, blue, seventeen]
  | alpha solid first second =>
    obtain ⟨_, seven⟩ := Option.isSome_iff_exists.mp first
    obtain ⟨_, eight⟩ := Option.isSome_iff_exists.mp second
    cases solid with
    | pairs red green blue =>
      obtain ⟨_, _, one, two, rfl, -⟩ := red
      obtain ⟨_, _, three, four, rfl, -⟩ := green
      obtain ⟨_, _, five, six, rfl, -⟩ := blue
      simp [hexChannels?, List.mapM_cons, *]

theorem denotes_of_hexChannels? (found : hexChannels? digits = some c) : HexDenotes digits c := by
  have doubled : ∀ n, 17 * n = 16 * n + n := by omega
  rw [hexChannels?] at found
  split at found
  · next r g b read =>
    obtain _ | ⟨red, _ | ⟨green, _ | ⟨blue, _ | _⟩⟩⟩ := mapM_eq_some_iff.mp read
    obtain rfl := Option.some.inj found
    rw [doubled, doubled, doubled]
    exact .short (.pairs (isChannel_of_hexDigit? red red) (isChannel_of_hexDigit? green green)
      (isChannel_of_hexDigit? blue blue))
  · next r r' g g' b b' read =>
    obtain _ | ⟨red, _ | ⟨red', _ | ⟨green, _ | ⟨green', _ | ⟨blue, _ | ⟨blue', _ | _⟩⟩⟩⟩⟩⟩ := mapM_eq_some_iff.mp read
    obtain rfl := Option.some.inj found
    exact .pairs (isChannel_of_hexDigit? red red') (isChannel_of_hexDigit? green green')
      (isChannel_of_hexDigit? blue blue')
  · next r r' g g' b b' a a' read =>
    obtain _ | ⟨red, _ | ⟨red', _ | ⟨green, _ | ⟨green', _ | ⟨blue, _ | ⟨blue', _ | ⟨alpha, _ | ⟨alpha', _ | _⟩⟩⟩⟩⟩⟩⟩⟩ :=
      mapM_eq_some_iff.mp read
    obtain rfl := Option.some.inj found
    exact .alpha (.pairs (isChannel_of_hexDigit? red red') (isChannel_of_hexDigit? green green')
      (isChannel_of_hexDigit? blue blue')) (Option.isSome_of_eq_some alpha) (Option.isSome_of_eq_some alpha')
  · cases found

theorem hexChannels?_eq_some_iff : hexChannels? digits = some c ↔ HexDenotes digits c :=
  ⟨denotes_of_hexChannels?, hexChannels?_of_denotes⟩

/-! ## Groups of digits -/

theorem takeWhile_digits_append {digits rest : List Char} (all : ∀ c ∈ digits, isDecimalDigit c = true)
    (ended : ∀ c ∈ rest.head?, isDecimalDigit c = false) : (digits ++ rest).takeWhile isDecimalDigit = digits := by
  rw [List.takeWhile_append_of_pos all]
  cases rest with
  | nil => rw [List.takeWhile_nil, List.append_nil]
  | cons c rest => rw [List.takeWhile_cons_of_neg (by simp [ended c rfl]), List.append_nil]

theorem group_iff : Group s digits rest ↔ digits ≠ [] ∧ (trimStart s).takeWhile isDecimalDigit = digits ∧
    (trimStart s).dropWhile isDecimalDigit = rest := by
  constructor
  · rintro ⟨⟨front, blank, rfl⟩, ⟨some, digit⟩, ended⟩
    have started : trimStart (front ++ (digits ++ rest)) = digits ++ rest := by
      obtain ⟨c, more, rfl⟩ := List.exists_cons_of_ne_nil some
      have letter := isBlank_of_isDecimalDigit (digit c (List.mem_cons_self ..))
      rw [trimStart_append_of_blank _ blank, trimStart, List.cons_append, List.dropWhile_cons_of_neg (by simp [letter])]
    have taken := takeWhile_digits_append digit ended
    rw [started]
    refine ⟨some, taken, (List.append_right_inj digits).mp ?_⟩
    nth_rewrite 1 [← taken]
    exact List.takeWhile_append_dropWhile
  · rintro ⟨some, rfl, rfl⟩
    refine ⟨⟨s.takeWhile isBlank, fun _ => List.mem_takeWhile_imp, ?_⟩, ⟨some, fun _ => List.mem_takeWhile_imp⟩, ?_⟩
    · rw [List.takeWhile_append_dropWhile, trimStart, List.takeWhile_append_dropWhile]
    · intro c first
      have stopped := List.head?_dropWhile_not isDecimalDigit (trimStart s)
      rwa [first] at stopped

theorem Digits.group {front : List Char} (decimal : Digits digits) (blank : ∀ c ∈ front, isBlank c = true)
    (ended : ∀ c ∈ rest.head?, isDecimalDigit c = false) : Group (front ++ (digits ++ rest)) digits rest :=
  ⟨⟨front, blank, rfl⟩, decimal, ended⟩

theorem comma_iff : Comma s rest ↔ after? [','] (trimStart s) = some rest := by
  rw [after?_eq_some_iff]
  constructor
  · rintro ⟨front, blank, rfl⟩
    rw [trimStart_append_of_blank _ blank]
    rfl
  · intro starts
    refine ⟨s.takeWhile isBlank, fun _ => List.mem_takeWhile_imp, ?_⟩
    rw [← List.singleton_append, ← starts, trimStart, List.takeWhile_append_dropWhile]

theorem channel?_eq_some_iff :
    channel? s = some (digits, next) ↔ ∃ rest, Group s digits rest ∧ trimStart rest = next := by
  simp only [channel?, group_iff]
  constructor
  · intro found
    split at found
    · cases found
    · next some =>
      cases found
      exact ⟨_, ⟨by simpa using some, rfl, rfl⟩, rfl⟩
  · rintro ⟨_, ⟨some, rfl, rfl⟩, rfl⟩
    rw [if_neg (by simpa using some)]

theorem callName_iff :
    (∃ rest, after? "rgb".toList s = some rest ∧ after? ['('] ((after? ['a'] rest).getD rest) = some next) ↔
      ∃ name ∈ ["rgb(".toList, "rgba(".toList], s = name ++ next := by
  constructor
  · rintro ⟨rest, start, behind⟩
    obtain rfl := after?_eq_some_iff.mp start
    have opened := after?_eq_some_iff.mp behind
    cases letter : after? ['a'] rest with
    | none =>
      refine ⟨"rgb(".toList, by simp, ?_⟩
      rw [letter, Option.getD_none] at opened
      rw [opened]
      rfl
    | some rest' =>
      refine ⟨"rgba(".toList, by simp, ?_⟩
      rw [letter, Option.getD_some] at opened
      rw [after?_eq_some_iff.mp letter, opened]
      rfl
  · rintro ⟨name, named, rfl⟩
    simp only [List.mem_cons, List.not_mem_nil, or_false] at named
    rcases named with rfl | rfl
    · exact ⟨'(' :: next, rfl, rfl⟩
    · exact ⟨'a' :: '(' :: next, rfl, rfl⟩

theorem callChannels?_eq_some_iff : callChannels? s = some c ↔ CallDenotes s c := by
  simp only [callChannels?, Option.bind_eq_bind, Option.bind_eq_some_iff, Prod.exists]
  constructor
  · rintro ⟨start, named, first, opened, red, behind, reds, second, comma, green, behind', greens, third, comma', blues⟩
    obtain ⟨name, listed, rfl⟩ := callName_iff.mp ⟨start, named, opened⟩
    obtain ⟨first', reds', rfl⟩ := channel?_eq_some_iff.mp reds
    obtain ⟨second', greens', rfl⟩ := channel?_eq_some_iff.mp greens
    split at blues
    · cases blues
    · next filled =>
      obtain rfl := Option.some.inj blues
      exact .mk listed reds' (comma_iff.mpr comma) greens' (comma_iff.mpr comma')
        (group_iff.mpr ⟨by simpa using filled, rfl, rfl⟩)
  · rintro ⟨listed, reds, comma, greens, comma', blues⟩
    obtain ⟨start, named, opened⟩ := callName_iff.mpr ⟨_, listed, rfl⟩
    obtain ⟨filled, rfl, -⟩ := group_iff.mp blues
    exact ⟨start, named, _, opened, _, _, channel?_eq_some_iff.mpr ⟨_, reds, rfl⟩, _, comma_iff.mp comma, _, _,
      channel?_eq_some_iff.mpr ⟨_, greens, rfl⟩, _, comma_iff.mp comma', if_neg (by simpa using filled)⟩

/-! ## Literals -/

theorem lookup_namedColours_iff : namedColours.lookup (String.ofList s) = some c ↔
    ∃ name, (name, c) ∈ namedColours ∧ s = name.toList := by
  rw [lookup_eq_some_iff_mem (by decide)]
  constructor
  · intro listed
    exact ⟨_, listed, String.toList_ofList.symm⟩
  · rintro ⟨name, listed, rfl⟩
    rwa [String.ofList_toList]

/-- A name holds neither a number sign nor a bracket. -/
theorem lookup_namedColours_eq_none {sign : Char} (marks : sign = '#' ∨ sign = '(') (holds : sign ∈ s) :
    namedColours.lookup (String.ofList s) = none := by
  rw [Option.eq_none_iff_forall_ne_some]
  intro c found
  obtain ⟨name, listed, rfl⟩ := lookup_namedColours_iff.mp found
  have plain : ∀ entry ∈ namedColours, '#' ∉ entry.1.toList ∧ '(' ∉ entry.1.toList := by decide
  rcases marks with rfl | rfl
  · exact (plain _ listed).1 holds
  · exact (plain _ listed).2 holds

theorem bind_hexChannels?_eq_some_iff : (after? ['#'] s).bind hexChannels? = some c ↔
    ∃ digits, s = '#' :: digits ∧ HexDenotes digits c := by
  simp only [Option.bind_eq_some_iff, after?_eq_some_iff, hexChannels?_eq_some_iff]
  rfl

/-- A call starts with a letter and holds a bracket. -/
theorem CallDenotes.exists_cons (call : CallDenotes s c) : '(' ∈ s ∧ ∃ rest, s = 'r' :: rest := by
  obtain ⟨named, _⟩ := call
  simp only [List.mem_cons, List.not_mem_nil, or_false] at named
  rcases named with rfl | rfl <;> exact ⟨by simp, _, rfl⟩

theorem channels?_eq_some_iff {literal : List Char} : channels? literal = some c ↔ Denotes (lower (trim literal)) c := by
  generalize whole : lower (trim literal) = s
  simp only [channels?, whole]
  constructor
  · intro found
    split at found
    · next found' =>
      obtain ⟨name, listed, rfl⟩ := lookup_namedColours_iff.mp found'
      cases found
      exact .named listed
    · split at found
      · next digits =>
        obtain ⟨digits, rfl, denotes⟩ := bind_hexChannels?_eq_some_iff.mp digits
        cases found
        exact .hex denotes
      · exact .call (callChannels?_eq_some_iff.mp found)
  · -- a text of one form is passed over by the readers of the forms before it
    intro denotes
    cases denotes with
    | named listed => rw [lookup_namedColours_iff.mpr ⟨_, listed, rfl⟩]
    | hex digits =>
      rw [lookup_namedColours_eq_none (.inl rfl) (List.mem_cons_self ..)]
      rw [bind_hexChannels?_eq_some_iff.mpr ⟨_, rfl, digits⟩]
    | call call =>
      obtain ⟨bracket, rest, start⟩ := call.exists_cons
      have unmarked : after? ['#'] s = none := by
        rw [start]
        rfl
      rw [lookup_namedColours_eq_none (.inr rfl) bracket, unmarked, Option.bind_none]
      exact callChannels?_eq_some_iff.mpr call

/-! ## The reduced form -/

theorem digits_toDigits (n : Nat) : Digits (Nat.toDigits 10 n) := by
  refine ⟨Nat.toDigits_ne_nil, fun c member => isDecimalDigit_of_isDigit ?_⟩
  exact Nat.isDigit_of_mem_toDigits (by decide) (by decide) member

theorem Channels.render_eq (c : Channels) :
    c.render = ['r', 'g', 'b', '('] ++ c.red ++ [',', ' '] ++ c.green ++ [',', ' '] ++ c.blue ++ [')'] :=
  rfl

/-- The channels are written in decimal digits. -/
structure Channels.Decimal (c : Channels) : Prop where
  red : Digits c.red
  green : Digits c.green
  blue : Digits c.blue

theorem Channels.decimal_ofNats (red green blue : Nat) : (Channels.ofNats red green blue).Decimal :=
  ⟨digits_toDigits red, digits_toDigits green, digits_toDigits blue⟩

theorem HexDenotes.decimal (denotes : HexDenotes digits c) : c.Decimal := by
  induction denotes with
  | pairs => exact Channels.decimal_ofNats _ _ _
  | short _ ih => exact ih
  | alpha _ _ _ ih => exact ih

theorem Denotes.decimal (denotes : Denotes s c) : c.Decimal := by
  cases denotes with
  | named listed =>
    have numbers : ∀ entry ∈ namedColours, Digits entry.2.red ∧ Digits entry.2.green ∧ Digits entry.2.blue := by
      decide +kernel
    obtain ⟨red, green, blue⟩ := numbers _ listed
    exact ⟨red, green, blue⟩
  | hex digits => exact digits.decimal
  | call call =>
    obtain ⟨_, reds, _, greens, _, blues⟩ := call
    exact ⟨reds.digits, greens.digits, blues.digits⟩

namespace Channels.Decimal

variable (decimal : c.Decimal)

include decimal

theorem denotes_render : Denotes c.render c := by
  have space : ∀ c ∈ [' '], isBlank c = true := List.all_eq_true.mp (by decide)
  have regrouped : c.render = ['r', 'g', 'b', '('] ++ ([] ++ (c.red ++ ([] ++ ',' :: ([' '] ++ (c.green ++ ([] ++ ',' ::
      ([' '] ++ (c.blue ++ [')'])))))))) := by
    simp only [render_eq, List.append_assoc, List.cons_append, List.nil_append]
  have named : ['r', 'g', 'b', '('] ∈ ["rgb(".toList, "rgba(".toList] := List.mem_cons_self ..
  rw [regrouped]
  refine .call (.mk named (decimal.red.group nofun ?_) ⟨[], nofun, rfl⟩ (decimal.green.group space ?_) ⟨[], nofun, rfl⟩
    (decimal.blue.group space ?_))
  all_goals rintro _ ⟨⟩; decide

theorem lower_trim_render : lower (trim c.render) = c.render := by
  have started : trimStart c.render = c.render := rfl
  have ended : trimEnd c.render = c.render := List.rdropWhile_concat_neg _ _ _ (by decide)
  rw [trim, started, ended]
  refine lower_eq_self ?_
  have uncased : ∀ {s : List Char}, Digits s → ∀ c ∈ s, lowerChar c = [c] :=
    fun digits c member => lowerChar_of_isDecimalDigit (digits.2 c member)
  have name : ∀ c ∈ ['r', 'g', 'b', '('], lowerChar c = [c] := List.all_iff_forall_prop.mp (by decide)
  have mark : ∀ c ∈ [',', ' '], lowerChar c = [c] := List.all_iff_forall_prop.mp (by decide)
  have last : ∀ c ∈ [')'], lowerChar c = [c] := List.all_iff_forall_prop.mp (by decide)
  simp only [render_eq, List.forall_mem_append]
  exact ⟨⟨⟨⟨⟨⟨name, uncased decimal.red⟩, mark⟩, uncased decimal.green⟩, mark⟩, uncased decimal.blue⟩, last⟩

theorem channels?_render : channels? c.render = some c := by
  rw [channels?_eq_some_iff, decimal.lower_trim_render]
  exact decimal.denotes_render

end Channels.Decimal

/-! ## Equal literals -/

theorem SameLiteral.lower_trim_eq {a b : List Char} (same : SameLiteral a b) : lower (trim a) = lower (trim b) := by
  obtain ⟨front, body, back, front', body', back', rfl, rfl, ahead, behind, ahead', behind', same⟩ := same
  rw [List.append_assoc, trim_of_blank_append _ ahead, trim_append_of_blank _ behind]
  rw [List.append_assoc, trim_of_blank_append _ ahead', trim_append_of_blank _ behind']
  rw [← lower_map_toLower, ← trim_map_toLower, same, trim_map_toLower, lower_map_toLower]

theorem denoted_iff {literal : String} : Denoted literal c ↔ channels? literal.toList = some c :=
  channels?_eq_some_iff.symm

theorem not_denoted_iff {literal : String} : (∀ c, ¬ Denoted literal c) ↔ channels? literal.toList = none := by
  simp only [denoted_iff, Option.eq_none_iff_forall_ne_some, Ne]

theorem normalizeColour_of_denoted {literal : String} (denoted : Denoted literal c) :
    normalizeColour literal = String.ofList c.render := by
  rw [normalizeColour, denoted_iff.mp denoted]

theorem normalizeColour_of_not_denoted {literal : String} (absent : ∀ c, ¬ Denoted literal c) :
    normalizeColour literal = literal := by
  rw [normalizeColour, not_denoted_iff.mp absent]

theorem Denoted.unique {literal : String} (first : Denoted literal c) (second : Denoted literal d) : c = d := by
  rw [denoted_iff] at first second
  exact Option.some.inj (first.symm.trans second)

/-- The reduced form denotes the same channels. -/
theorem Denoted.normalizeColour {literal : String} (denoted : Denoted literal c) :
    Denoted (normalizeColour literal) c := by
  rw [normalizeColour_of_denoted denoted, denoted_iff, String.toList_ofList]
  exact (Denotes.decimal denoted).channels?_render

theorem denoted_or_not (literal : String) : (∃ c, Denoted literal c) ∨ ∀ c, ¬ Denoted literal c := by
  rw [← not_exists]
  exact Classical.em _

theorem denoted_normalizeColour_iff {literal : String} : Denoted (normalizeColour literal) c ↔ Denoted literal c := by
  refine ⟨fun reduced => ?_, Denoted.normalizeColour⟩
  rcases denoted_or_not literal with ⟨d, denoted⟩ | absent
  · rwa [reduced.unique denoted.normalizeColour]
  · rwa [normalizeColour_of_not_denoted absent] at reduced

theorem normalizeColour_normalizeColour (literal : String) :
    normalizeColour (normalizeColour literal) = normalizeColour literal := by
  rcases denoted_or_not literal with ⟨c, denoted⟩ | absent
  · rw [normalizeColour_of_denoted denoted.normalizeColour, normalizeColour_of_denoted denoted]
  · rw [normalizeColour_of_not_denoted absent, normalizeColour_of_not_denoted absent]

theorem coloursMatch_iff {a b : String} : coloursMatch a b = true ↔
    (∃ c, Denoted a c ∧ Denoted b c) ∨ ((∀ c, ¬ Denoted a c) ∧ (∀ c, ¬ Denoted b c) ∧ a = b) := by
  rw [coloursMatch, beq_iff_eq]
  constructor
  · intro equal
    have same : ∀ c, Denoted a c ↔ Denoted b c := fun c => by
      rw [← denoted_normalizeColour_iff, equal, denoted_normalizeColour_iff]
    rcases denoted_or_not a with ⟨c, denoted⟩ | absent
    · exact .inl ⟨c, denoted, (same c).mp denoted⟩
    · have absent' : ∀ c, ¬ Denoted b c := fun c denoted => absent c ((same c).mpr denoted)
      rw [normalizeColour_of_not_denoted absent, normalizeColour_of_not_denoted absent'] at equal
      exact .inr ⟨absent, absent', equal⟩
  · rintro (⟨c, first, second⟩ | ⟨_, _, rfl⟩)
    · rw [normalizeColour_of_denoted first, normalizeColour_of_denoted second]
    · rfl

/-- Literals match if they denote the same channels; one that denotes none matches itself only. Reducing a literal twice
is reducing it once, and a literal that denotes channels is reduced whatever the blanks around it and its case. -/
theorem coloursMatch_iff_denotes :
    (∀ (literal : String) (c d : Channels), Denoted literal c → Denoted literal d → c = d) ∧
    (∀ a b : String, coloursMatch a b = true ↔
      (∃ c, Denoted a c ∧ Denoted b c) ∨ ((∀ c, ¬ Denoted a c) ∧ (∀ c, ¬ Denoted b c) ∧ a = b)) ∧
    (∀ (a b : String) (c : Channels), Denoted a c → (∀ d, ¬ Denoted b d) →
      coloursMatch a b = false ∧ coloursMatch b a = false) ∧
    (∀ literal : String, normalizeColour (normalizeColour literal) = normalizeColour literal) ∧
    ∀ (a b : String) (c : Channels), Denoted a c → SameLiteral a.toList b.toList →
      normalizeColour b = normalizeColour a := by
  refine ⟨fun _ _ _ => Denoted.unique, fun _ _ => coloursMatch_iff, fun a b c denoted absent => ?_,
    normalizeColour_normalizeColour, fun a b c denoted same => ?_⟩
  · constructor <;> rw [← Bool.not_eq_true, coloursMatch_iff]
    · rintro (⟨d, _, other⟩ | ⟨none, _⟩)
      · exact absent d other
      · exact none c denoted
    · rintro (⟨d, other, _⟩ | ⟨_, none, _⟩)
      · exact absent d other
      · exact none c denoted
  · have denoted' : Denoted b c := by
      rw [Denoted, ← same.lower_trim_eq]
      exact denoted
    rw [normalizeColour_of_denoted denoted, normalizeColour_of_denoted denoted']

/-- White in three forms, and digits of which there are too few. -/
theorem coloursMatch_iff_denotes_white :
    (Denoted "\tWhite " (.ofNats 255 255 255) ∧ Denoted "#fffFFF80" (.ofNats 255 255 255) ∧
      Denoted "RGBA( 255,255 ,255" (.ofNats 255 255 255) ∧ (∀ c, ¬ Denoted "#ffff" c) ∧
        SameLiteral "\tWhite ".toList "wHITE".toList) ∧
      coloursMatch "\tWhite " "#fffFFF80" = true ∧ coloursMatch "\tWhite " "#ffff" = false ∧
        normalizeColour "wHITE" = normalizeColour "\tWhite " ∧
          normalizeColour (normalizeColour "RGBA( 255,255 ,255") = normalizeColour "RGBA( 255,255 ,255" := by
  have name : Denoted "\tWhite " (.ofNats 255 255 255) := denoted_iff.mpr (by decide +kernel)
  have hex : Denoted "#fffFFF80" (.ofNats 255 255 255) := denoted_iff.mpr (by decide +kernel)
  have call : Denoted "RGBA( 255,255 ,255" (.ofNats 255 255 255) := denoted_iff.mpr (by decide +kernel)
  have few : ∀ c, ¬ Denoted "#ffff" c := not_denoted_iff.mpr (by decide +kernel)
  have same : SameLiteral "\tWhite ".toList "wHITE".toList :=
    ⟨['\t'], ['W', 'h', 'i', 't', 'e'], [' '], [], ['w', 'H', 'I', 'T', 'E'], [], rfl, rfl,
      List.all_eq_true.mp (by decide), List.all_eq_true.mp (by decide), nofun, nofun, by decide⟩
  obtain ⟨-, compare, apart, again, loose⟩ := coloursMatch_iff_denotes
  exact ⟨⟨name, hex, call, few, same⟩, (compare _ _).mpr (.inl ⟨_, name, hex⟩), (apart _ _ _ name few).1,
    loose _ _ _ name same, again _⟩

end UiCheck.Plan
