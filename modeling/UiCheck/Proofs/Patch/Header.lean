import Mathlib.Data.List.TakeDrop
import Mathlib.Data.List.TakeWhile
import UiCheck.Patch.Apply
import UiCheck.Proofs.Text.Lines
import UiCheck.Proofs.Text.Search

/-! # Headers of blocks

A header is a line of its own form, wherever in a line it starts: the marker, a path, the closer, and one of two line
ends. `header?_eq_some_iff` says that reading a header and writing one are inverse to each other, and the rest is
about the first header of a text.
-/

namespace UiCheck.Patch

open Text

/-- How a line ends. -/
inductive LineEnd where
  | feed
  | returnFeed
  deriving DecidableEq

/-- The characters of a line end. -/
def LineEnd.chars : LineEnd → List Char
  | .feed => ['\n']
  | .returnFeed => ['\r', '\n']

/-- The header that names a path. -/
def headerLine (path : List Char) (ending : LineEnd) : List Char :=
  marker ++ ' ' :: (path ++ closer ++ ending.chars)

theorem marker_ne_nil : marker ≠ [] := by decide

theorem marker_unbordered : Unbordered marker := by decide

theorem LineEnd.mem_chars (ending : LineEnd) {c : Char} (member : c ∈ ending.chars) : c = '\r' ∨ c = '\n' := by
  cases ending with
  | feed => exact .inr (List.mem_singleton.mp member)
  | returnFeed => simpa [LineEnd.chars] using member

theorem LineEnd.not_mem_marker (ending : LineEnd) : ∀ c ∈ ending.chars, c ∉ marker := by
  intro c member
  rcases ending.mem_chars member with rfl | rfl <;> decide

variable {s path rest line : List Char}

theorem fullLine?_append (single : '\n' ∉ line) (solid : line.getLast? ≠ some '\r') (ending : LineEnd)
    (rest : List Char) : fullLine? (line ++ ending.chars ++ rest) = some (line, rest) := by
  cases ending with
  | feed =>
    rw [LineEnd.chars, List.append_assoc, List.singleton_append, fullLine?, span_line single]
    dsimp only
    split
    · next body reversed =>
      rw [List.getLast?_eq_head?_reverse, reversed] at solid
      exact absurd rfl solid
    · rfl
  | returnFeed =>
    have single' : '\n' ∉ line ++ ['\r'] := by simp [single]
    have apart : line ++ LineEnd.returnFeed.chars ++ rest = (line ++ ['\r']) ++ '\n' :: rest := by
      simp [LineEnd.chars]
    rw [apart, fullLine?, span_line single']
    dsimp only
    rw [List.reverse_append]
    simp

theorem fullLine?_eq_some (found : fullLine? s = some (line, rest)) :
    '\n' ∉ line ∧ ∃ ending : LineEnd, s = line ++ ending.chars ++ rest := by
  rw [fullLine?, List.span_eq_takeWhile_dropWhile] at found
  split at found
  · cases found
  · next raw feed tail cut =>
    have before : s.takeWhile (· != '\n') = raw := congrArg Prod.fst cut
    have behind : s.dropWhile (· != '\n') = feed :: tail := congrArg Prod.snd cut
    have single : '\n' ∉ raw := fun member =>
      absurd (List.mem_takeWhile_imp (before ▸ member)) (by simp)
    have ends : feed = '\n' := by
      have stops := List.head_dropWhile_not (· != '\n') (w := by rw [behind]; exact List.cons_ne_nil _ _)
      simpa [behind] using stops
    have whole : s = raw ++ '\n' :: tail := by
      rw [← ends, ← behind, ← before, List.takeWhile_append_dropWhile]
    split at found
    · next body reversed =>
      have turned : raw = body.reverse ++ ['\r'] := by
        rw [← List.reverse_reverse raw, reversed, List.reverse_cons]
      cases found
      refine ⟨fun member => single (turned ▸ List.mem_append_left _ member), .returnFeed, ?_⟩
      rw [whole, turned]
      simp [LineEnd.chars]
    · cases found
      exact ⟨single, .feed, by rw [whole]; simp [LineEnd.chars]⟩

/-- Reading a header gives the path and the rest just if the text is written that way. -/
theorem header?_eq_some_iff : header? s = some (path, rest) ↔
    '\n' ∉ path ∧ ∃ ending, s = headerLine path ending ++ rest := by
  constructor
  · intro found
    rw [header?] at found
    split at found
    · cases found
    · next inner opened =>
      split at found
      · cases found
      · next line tail lined =>
        obtain ⟨path', closed, same⟩ := Option.map_eq_some_iff.mp found
        cases same
        obtain ⟨single, ending, split⟩ := fullLine?_eq_some lined
        have whole := after?_eq_some_iff.mp opened
        rw [before?_eq_some_iff] at closed
        subst closed
        refine ⟨fun member => single (List.mem_append_left _ member), ending, ?_⟩
        rw [whole, split, headerLine]
        simp
  · rintro ⟨single, ending, rfl⟩
    have single' : '\n' ∉ path ++ closer := by
      have other : '\n' ∉ closer := by decide
      simp [single, other]
    have solid : (path ++ closer).getLast? ≠ some '\r' := by
      have last : closer.getLast? = some '-' := by decide
      rw [List.getLast?_append, last, Option.some_or]
      decide
    have opened : headerLine path ending ++ rest = (marker ++ [' ']) ++ (path ++ closer ++ ending.chars ++ rest) := by
      simp [headerLine]
    rw [header?, opened, after?_append]
    dsimp only
    rw [fullLine?_append single' solid]
    dsimp only
    rw [before?_eq_some_iff.mpr rfl]
    rfl

theorem headerLine_ne_nil (path : List Char) (ending : LineEnd) : headerLine path ending ≠ [] :=
  List.append_ne_nil_of_left_ne_nil marker_ne_nil _

theorem marker_prefix_headerLine (path : List Char) (ending : LineEnd) : marker <+: headerLine path ending :=
  List.prefix_append _ _

theorem header?_eq_none (absent : ¬ marker <+: s) : header? s = none := by
  refine Option.eq_none_iff_forall_ne_some.mpr fun ⟨path, rest⟩ found => absent ?_
  obtain ⟨_, ending, rfl⟩ := header?_eq_some_iff.mp found
  exact (marker_prefix_headerLine path ending).trans (List.prefix_append ..)

/-- What is found is a header somewhere in the text. -/
theorem findHeader?_eq_some (found : findHeader? s = some (path, rest)) :
    '\n' ∉ path ∧ ∃ front ending, s = front ++ headerLine path ending ++ rest := by
  induction s with
  | nil => cases found
  | cons c s ih =>
    rw [findHeader?] at found
    split at found
    · next here =>
      cases found
      obtain ⟨single, ending, whole⟩ := header?_eq_some_iff.mp here
      exact ⟨single, [], ending, whole⟩
    · obtain ⟨single, front, ending, split⟩ := ih found
      exact ⟨single, c :: front, ending, by rw [split]; rfl⟩

/-- No header is found just if there is none. -/
theorem findHeader?_eq_none_iff : findHeader? s = none ↔
    ∀ path ending, '\n' ∉ path → ¬ headerLine path ending <:+: s := by
  constructor
  · intro missed path ending single
    induction s with
    | nil =>
      intro occurs
      exact headerLine_ne_nil path ending (List.infix_nil.mp occurs)
    | cons c s ih =>
      rw [findHeader?] at missed
      split at missed
      · cases missed
      · next nothing =>
        rw [List.infix_cons_iff, not_or]
        refine ⟨?_, ih missed⟩
        rintro ⟨tail, starts⟩
        rw [header?_eq_some_iff.mpr ⟨single, ending, starts.symm⟩] at nothing
        cases nothing
  · intro absent
    refine Option.eq_none_iff_forall_ne_some.mpr fun ⟨path, rest⟩ found => ?_
    obtain ⟨single, front, ending, split⟩ := findHeader?_eq_some found
    exact absent path ending single ⟨front, rest, split.symm⟩

theorem findHeader?_eq_none (absent : ¬ marker <:+: s) : findHeader? s = none :=
  findHeader?_eq_none_iff.mpr fun path ending _ occurs =>
    absent ((marker_prefix_headerLine path ending).isInfix.trans occurs)

/-- Prose without the marker changes nothing about the first header behind it. -/
theorem findHeader?_behind {prose : List Char} (absent : ¬ marker <:+: prose) (rest : List Char) :
    findHeader? (prose ++ (marker ++ rest)) = findHeader? (marker ++ rest) := by
  induction prose with
  | nil => rfl
  | cons c prose ih =>
    have later : ¬ marker <:+: prose := fun occurs => absent (List.infix_cons_iff.mpr (.inr occurs))
    have none : header? (c :: (prose ++ (marker ++ rest))) = none := by
      refine header?_eq_none ?_
      have apart : c :: (prose ++ (marker ++ rest)) = c :: prose ++ marker ++ rest := by simp
      rw [apart]
      exact marker_unbordered.not_prefix (List.cons_ne_nil _ _) absent
    rw [List.cons_append, findHeader?, none]
    exact ih later

/-- Prose without the marker does not hide the header behind it. -/
theorem findHeader?_append {prose : List Char} (absent : ¬ marker <:+: prose) (single : '\n' ∉ path)
    (ending : LineEnd) (rest : List Char) :
    findHeader? (prose ++ headerLine path ending ++ rest) = some (path, rest) := by
  have here : header? (headerLine path ending ++ rest) = some (path, rest) :=
    header?_eq_some_iff.mpr ⟨single, ending, rfl⟩
  obtain ⟨tail, starts⟩ := marker_prefix_headerLine path ending
  rw [List.append_assoc]
  rw [← starts, List.append_assoc] at here ⊢
  rw [findHeader?_behind absent]
  cases whole : marker ++ (tail ++ rest) with
  | nil => exact absurd (List.append_eq_nil_iff.mp whole).1 marker_ne_nil
  | cons c s =>
    rw [whole] at here
    rw [findHeader?, here]

end UiCheck.Patch
