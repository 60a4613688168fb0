import Mathlib.Data.List.TakeDrop
import Mathlib.Data.List.TakeWhile
import UiCheck.Text.Search

/-! # Lines of a text

The raw lines of a text are the one way to cut it behind each of its line feeds. So they can be read off any cut of
that kind, and behind a line feed the lines of what follows are cut on their own: `rawLines_append`.
-/

namespace UiCheck.Text

variable {s line rest : List Char} {lines front back : List (List Char)}

/-- A raw line with its line feed. -/
def Ended (line : List Char) : Prop :=
  ∃ body, '\n' ∉ body ∧ line = body ++ ['\n']

/-- Raw lines one after the other: only the last one may lack its line feed, and that one is not empty. -/
inductive Lined : List (List Char) → Prop where
  | nil : Lined []
  | last {line : List Char} (filled : line ≠ []) (single : '\n' ∉ line) : Lined [line]
  | cons {line : List Char} {lines : List (List Char)} (ended : Ended line) (rest : Lined lines) : Lined (line :: lines)

/-- What stands behind the text starts a line. -/
def EndsLine (s : List Char) : Prop :=
  ∀ c ∈ s.getLast?, c = '\n'

theorem span_line (single : '\n' ∉ line) (rest : List Char) :
    (line ++ '\n' :: rest).span (· != '\n') = (line, '\n' :: rest) := by
  have all : ∀ c ∈ line, (c != '\n') = true := fun c member =>
    bne_iff_ne.mpr fun same => single (same ▸ member)
  rw [List.span_eq_takeWhile_dropWhile, List.takeWhile_append_of_pos all, List.dropWhile_append_of_pos all]
  simp

theorem cutLine_ended (ended : Ended line) (rest : List Char) : cutLine (line ++ rest) = (line, rest) := by
  obtain ⟨body, single, rfl⟩ := ended
  rw [List.append_assoc, List.singleton_append, cutLine, span_line single]

theorem cutLine_single (single : '\n' ∉ s) : cutLine s = (s, []) := by
  have all : ∀ c ∈ s, (c != '\n') = true := fun c member => bne_iff_ne.mpr fun same => single (same ▸ member)
  rw [cutLine, List.span_eq_takeWhile_dropWhile, List.takeWhile_eq_self_iff.mpr all, List.dropWhile_eq_nil_iff.mpr all]

theorem Ended.ne_nil (ended : Ended line) : line ≠ [] := by
  obtain ⟨body, _, rfl⟩ := ended
  exact List.append_ne_nil_of_right_ne_nil _ (List.cons_ne_nil _ _)

/-! ## The one way to cut -/

theorem rawLinesFrom_flatten (lined : Lined lines) {fuel : Nat} {done : List (List Char)}
    (enough : lines.flatten.length ≤ fuel) : rawLinesFrom fuel done lines.flatten = done.reverse ++ lines := by
  induction lined generalizing fuel done with
  | nil =>
    rw [List.append_nil]
    cases fuel <;> rfl
  | @last line filled single =>
    obtain ⟨c, rest, rfl⟩ := List.exists_cons_of_ne_nil filled
    rw [List.flatten_singleton] at enough ⊢
    cases fuel with
    | zero => cases enough
    | succ fuel =>
      rw [rawLinesFrom, cutLine_single single, ← List.reverse_cons]
      cases fuel <;> rfl
  | @cons line lines ended _ ih =>
    obtain ⟨c, rest, rfl⟩ := List.exists_cons_of_ne_nil ended.ne_nil
    rw [List.flatten_cons, List.length_append, List.length_cons] at enough
    cases fuel with
    | zero => omega
    | succ fuel =>
      have cut := cutLine_ended ended lines.flatten
      rw [List.cons_append] at cut
      rw [List.flatten_cons, List.cons_append, rawLinesFrom, cut]
      dsimp only
      rw [ih (by omega), List.reverse_cons, List.append_assoc, List.singleton_append]

theorem rawLines_flatten (lined : Lined lines) : rawLines lines.flatten = lines :=
  rawLinesFrom_flatten lined (Nat.le_refl _)

theorem exists_lined (s : List Char) : ∃ lines, Lined lines ∧ lines.flatten = s := by
  induction s with
  | nil => exact ⟨[], .nil, rfl⟩
  | cons c s ih =>
    obtain ⟨lines, lined, rfl⟩ := ih
    by_cases feed : c = '\n'
    · subst feed
      exact ⟨['\n'] :: lines, .cons ⟨[], List.not_mem_nil, rfl⟩ lined, rfl⟩
    · -- the character stands in front of the first line
      have other : '\n' ∉ [c] := by simpa using Ne.symm feed
      cases lined with
      | nil => exact ⟨[[c]], .last (List.cons_ne_nil _ _) other, rfl⟩
      | @last line filled single =>
        exact ⟨[c :: line], .last (List.cons_ne_nil _ _) (by simpa [Ne.symm feed] using single), rfl⟩
      | @cons line lines ended rest =>
        obtain ⟨body, single, rfl⟩ := ended
        exact ⟨(c :: body ++ ['\n']) :: lines, .cons ⟨c :: body, by simpa [Ne.symm feed] using single, rfl⟩ rest, rfl⟩

theorem lined_rawLines (s : List Char) : Lined (rawLines s) := by
  obtain ⟨lines, lined, rfl⟩ := exists_lined s
  rwa [rawLines_flatten lined]

/-- Together the raw lines are the text. -/
@[simp] theorem flatten_rawLines (s : List Char) : (rawLines s).flatten = s := by
  obtain ⟨lines, lined, rfl⟩ := exists_lined s
  rw [rawLines_flatten lined]

/-! ## Lines in front and behind -/

theorem Lined.append (ended : ∀ line ∈ front, Ended line) (lined : Lined back) : Lined (front ++ back) := by
  induction front with
  | nil => exact lined
  | cons line front ih =>
    exact .cons (ended line (List.mem_cons_self ..)) (ih fun line member => ended line (List.mem_cons_of_mem _ member))

/-- Each line in front of others has its line feed. -/
theorem Lined.of_append (lined : Lined (front ++ back)) :
    Lined front ∧ Lined back ∧ (back = [] ∨ ∀ line ∈ front, Ended line) := by
  induction front with
  | nil => exact ⟨.nil, lined, .inr nofun⟩
  | cons line front ih =>
    generalize whole : line :: front ++ back = lines at lined
    cases lined with
    | nil => cases whole
    | last filled single =>
      obtain ⟨rfl, none⟩ := List.cons.inj whole
      obtain ⟨rfl, rfl⟩ := List.append_eq_nil_iff.mp none
      exact ⟨.last filled single, .nil, .inl rfl⟩
    | cons ended rest =>
      obtain ⟨rfl, rfl⟩ := List.cons.inj whole
      obtain ⟨before, behind, closed⟩ := ih rest
      exact ⟨.cons ended before, behind, closed.imp_right fun all => List.forall_mem_cons.mpr ⟨ended, all⟩⟩

theorem Lined.flatten_ne_nil (lined : Lined lines) (some : lines ≠ []) : lines.flatten ≠ [] := by
  cases lined with
  | nil => exact absurd rfl some
  | last filled _ => rwa [List.flatten_singleton]
  | cons ended _ =>
    rw [List.flatten_cons]
    exact List.append_ne_nil_of_left_ne_nil ended.ne_nil _

theorem endsLine_append_iff (filled : rest ≠ []) : EndsLine (s ++ rest) ↔ EndsLine rest := by
  rw [EndsLine, EndsLine, List.getLast?_append, List.getLast?_eq_some_getLast filled, Option.some_or]

/-- What stands behind a text starts a line just if all lines of the text have their line feeds. -/
theorem Lined.endsLine_iff (lined : Lined lines) : EndsLine lines.flatten ↔ ∀ line ∈ lines, Ended line := by
  induction lined with
  | nil => simp [EndsLine]
  | @last line filled single =>
    rw [List.flatten_singleton, List.forall_mem_singleton]
    constructor
    · intro ends
      have feed := ends _ (List.getLast?_eq_some_getLast filled)
      exact absurd (feed ▸ List.getLast_mem filled) single
    · rintro ⟨body, _, rfl⟩
      exact absurd (List.mem_append_right _ (List.mem_singleton_self _)) single
  | @cons line lines ended rest ih =>
    rw [List.flatten_cons, List.forall_mem_cons]
    by_cases none : lines = []
    · obtain ⟨body, _, rfl⟩ := id ended
      subst none
      simp [EndsLine, ended]
    · rw [endsLine_append_iff (rest.flatten_ne_nil none), ih]
      exact (and_iff_right ended).symm

theorem endsLine_iff : EndsLine s ↔ ∀ line ∈ rawLines s, Ended line := by
  rw [← (lined_rawLines s).endsLine_iff, flatten_rawLines]

/-- Behind a line feed lines are cut on their own. -/
theorem rawLines_append (ends : EndsLine s) (rest : List Char) : rawLines (s ++ rest) = rawLines s ++ rawLines rest := by
  have lined := (lined_rawLines rest).append (endsLine_iff.mp ends)
  rw [← rawLines_flatten lined, List.flatten_append, flatten_rawLines, flatten_rawLines]

/-- A line feed behind a text whose last line lacks one belongs to that line. -/
theorem rawLines_feed (opened : ¬ EndsLine s) : ∃ front last,
    rawLines s = front ++ [last] ∧ rawLines (s ++ ['\n']) = front ++ [last ++ ['\n']] := by
  obtain ⟨lines, lined, rfl⟩ := exists_lined s
  suffices fed : ∃ front last, lines = front ++ [last] ∧ Lined (front ++ [last ++ ['\n']]) by
    obtain ⟨front, last, rfl, lined'⟩ := fed
    refine ⟨front, last, rawLines_flatten lined, ?_⟩
    rw [← rawLines_flatten lined']
    simp
  induction lined with
  | nil => exact absurd nofun opened
  | @last line _ single => exact ⟨[], line, rfl, .cons ⟨line, single, rfl⟩ .nil⟩
  | @cons line lines ended rest ih =>
    have opened' : ¬ EndsLine lines.flatten := fun ends =>
      opened ((Lined.cons ended rest).endsLine_iff.mpr (List.forall_mem_cons.mpr ⟨ended, rest.endsLine_iff.mp ends⟩))
    obtain ⟨front, last, rfl, lined'⟩ := ih opened'
    exact ⟨line :: front, last, rfl, .cons ended lined'⟩

/-- The first line holds all that stands in front of the first line feed. -/
theorem prefix_head_rawLines {pat : List Char} (cut : rawLines s = line :: lines) (single : '\n' ∉ pat) :
    pat <+: line ↔ pat <+: s := by
  have whole : s = line ++ lines.flatten := by rw [← flatten_rawLines s, cut, List.flatten_cons]
  have lined : Lined ([line] ++ lines) := by
    rw [List.singleton_append, ← cut]
    exact lined_rawLines s
  rw [whole]
  refine ⟨fun starts => starts.trans (List.prefix_append ..), fun starts => ?_⟩
  rcases lined.of_append.2.2 with rfl | ended
  · rwa [List.flatten_nil, List.append_nil] at starts
  · rcases List.prefix_or_prefix_of_prefix starts (List.prefix_append ..) with inside | beyond
    · exact inside
    · obtain ⟨body, _, rfl⟩ := ended line (List.mem_singleton_self _)
      exact absurd (beyond.subset (List.mem_append_right _ (List.mem_singleton_self _))) single

theorem exists_rawLines_cons (filled : s ≠ []) : ∃ line lines, rawLines s = line :: lines := by
  refine List.exists_cons_of_ne_nil fun none => filled ?_
  rw [← flatten_rawLines s, none, List.flatten_nil]

theorem prefix_withoutLineEnd (line : List Char) : withoutLineEnd line <+: line := by
  rw [withoutLineEnd]
  split
  · next body reversed =>
    rw [← List.reverse_suffix, List.reverse_reverse, reversed]
    exact ⟨['\n', '\r'], rfl⟩
  · next body _ reversed =>
    rw [← List.reverse_suffix, List.reverse_reverse, reversed]
    exact List.suffix_cons ..
  · exact List.prefix_refl line

theorem mem_of_mem_lines {c : Char} (among : line ∈ Text.lines s) (inside : c ∈ line) : c ∈ s := by
  obtain ⟨raw, member, rfl⟩ := List.mem_map.mp among
  rw [← flatten_rawLines s]
  exact List.mem_flatten_of_mem member ((prefix_withoutLineEnd raw).subset inside)

end UiCheck.Text
