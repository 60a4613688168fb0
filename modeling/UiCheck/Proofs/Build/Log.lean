import UiCheck.Build.Log
import UiCheck.Proofs.Files.Way
import UiCheck.Proofs.Patch.Apply
import UiCheck.Proofs.Text.Case
import UiCheck.Proofs.Text.Search

/-! # Paths that build logs name

The path that is found in a log starts with a dot and the name of a source directory, and the only other dot in it
stands before its extension. So no part of it leads up, and below a root it is accepted whatever the log says.
-/

namespace UiCheck

namespace Text

variable {word word' s rest : List Char} {letter c : Char}

theorem lowerChar_eq_slash_iff : lowerChar c = ['/'] ↔ c = '/' := by
  constructor
  · intro same
    rw [lowerChar] at same
    split at same
    · next capital =>
      -- a lower-case letter is no slash
      have least : 65 ≤ c.toNat := UInt32.le_iff_toNat_le.mp capital.1
      have most : c.toNat ≤ 90 := UInt32.le_iff_toNat_le.mp capital.2
      have valid : (c.toNat + 32).isValidChar := .inl (by omega)
      have same := (List.cons.inj same).1
      rw [Char.ofNat, dif_pos valid] at same
      have code : c.toNat + 32 = 47 := congrArg Char.toNat same
      omega
    · split at same
      · exact absurd same (by decide)
      · split at same
        · exact absurd same (by decide)
        · exact (List.cons.inj same).1
  · rintro rfl
    decide

/-- A slash folds to itself only. -/
theorem foldsTo_slash_iff : foldsTo '/' c = true ↔ c = '/' := by
  simp only [foldsTo, lowerChar_eq_slash_iff, beq_iff_eq, Bool.or_eq_true, Bool.and_eq_true, decide_eq_true_eq]
  constructor
  · rintro (((same | both) | other) | other)
    · exact same
    · exact both.1
    · exact absurd other.1 (by decide)
    · exact absurd other.1 (by decide)
  · intro same
    exact .inl (.inl (.inl same))

theorem not_foldsTo_slash (other : letter ≠ '/') : foldsTo letter '/' = false := by
  have low : lowerChar '/' = ['/'] := by decide
  simp [foldsTo, low, Ne.symm other]

theorem not_foldsTo_dot (other : letter ≠ '.') : foldsTo letter '.' = false := by
  have low : lowerChar '.' = ['.'] := by decide
  simp [foldsTo, low, Ne.symm other]

theorem afterFolded?_append (word word' s : List Char) :
    afterFolded? (word ++ word') s = (afterFolded? word s).bind (afterFolded? word') := by
  induction word generalizing s with
  | nil => rfl
  | cons p word ih =>
    cases s with
    | nil => rfl
    | cons c s =>
      rw [List.cons_append, afterFolded?, afterFolded?]
      split
      · exact ih s
      · rfl

theorem exists_of_afterFolded? (found : afterFolded? word s = some rest) :
    ∃ front, s = front ++ rest ∧ front.length = word.length ∧
      ∀ c ∈ front, ∃ letter ∈ word, foldsTo letter c = true := by
  obtain ⟨front, spelled, rfl⟩ := afterFolded?_eq_some_iff.mp found
  exact ⟨front, rfl, spelled.length_eq.symm, fun c => spelled.exists_letter⟩

end Text

namespace Build

open Files Patch Text

/-- A path that starts with the name of a directory and goes on with at most one dot. -/
structure SourcePath (path : List Char) : Prop where
  parted : ∃ dir rest, path = dir ++ '/' :: rest ∧ dir ≠ [] ∧ '/' ∉ dir ∧ '.' ∉ dir ∧ rest.count '.' ≤ 1

variable {s rest : List Char}

/-- Letters match neither slashes nor dots. -/
theorem plain_of_folded {word front : List Char} (slashless : '/' ∉ word) (dotless : '.' ∉ word)
    (letters : ∀ c ∈ front, ∃ letter ∈ word, foldsTo letter c = true) : '/' ∉ front ∧ '.' ∉ front := by
  constructor
  · intro member
    obtain ⟨letter, among, folds⟩ := letters _ member
    rw [not_foldsTo_slash fun same => slashless (same ▸ among)] at folds
    cases folds
  · intro member
    obtain ⟨letter, among, folds⟩ := letters _ member
    rw [not_foldsTo_dot fun same => dotless (same ▸ among)] at folds
    cases folds

theorem plain_sourceDirectories :
    ∀ name ∈ sourceDirectories, name.toList ≠ [] ∧ '/' ∉ name.toList ∧ '.' ∉ name.toList := by
  decide

theorem plain_sourceEndings : ∀ ending ∈ sourceEndings, '/' ∉ ending.toList ∧ '.' ∉ ending.toList := by
  decide

theorem dotless_of_isPathChar {s : List Char} : '.' ∉ s.takeWhile isPathChar := by
  intro member
  have listed : isPathChar '.' = true := List.all_eq_true.mp List.all_takeWhile _ member
  exact absurd listed (by decide)

/-- The name of a source directory is neither empty nor parted, and has no dot. -/
theorem exists_directory
    (found : (sourceDirectories.findSome? fun name => afterFolded? (name ++ "/").toList s) = some rest) :
    ∃ dir, s = dir ++ '/' :: rest ∧ dir ≠ [] ∧ '/' ∉ dir ∧ '.' ∉ dir := by
  obtain ⟨name, listed, folded⟩ := List.exists_of_findSome?_eq_some found
  obtain ⟨filled, slashless, dotless⟩ := plain_sourceDirectories name listed
  rw [String.toList_append, afterFolded?_append] at folded
  obtain ⟨behind, first, slash⟩ := Option.bind_eq_some_iff.mp folded
  obtain ⟨dir, rfl, length, letters⟩ := exists_of_afterFolded? first
  obtain ⟨mark, rfl, one, slashes⟩ := exists_of_afterFolded? slash
  obtain ⟨c, rfl⟩ := List.length_eq_one_iff.mp one
  obtain ⟨letter, among, folds⟩ := slashes c (List.mem_cons_self ..)
  obtain rfl : letter = '/' := List.mem_singleton.mp among
  obtain rfl := foldsTo_slash_iff.mp folds
  refine ⟨dir, rfl, ?_, plain_of_folded slashless dotless letters⟩
  rw [← List.length_pos_iff, length]
  exact List.length_pos_iff.mpr filled

theorem exists_ending (found : (sourceEndings.findSome? fun ending => afterFolded? ending.toList s) = some rest) :
    ∃ front, s = front ++ rest ∧ '.' ∉ front := by
  obtain ⟨ending, listed, folded⟩ := List.exists_of_findSome?_eq_some found
  obtain ⟨front, same, _, letters⟩ := exists_of_afterFolded? folded
  obtain ⟨slashless, dotless⟩ := plain_sourceEndings ending listed
  exact ⟨front, same, (plain_of_folded slashless dotless letters).2⟩

/-- What is matched in a log is a path behind a dot and a slash. -/
theorem exists_of_afterSourcePath? (found : afterSourcePath? s = some rest) :
    ∃ path, s = ['.', '/'] ++ path ++ rest ∧ SourcePath path := by
  unfold afterSourcePath? at found
  split at found
  · cases found
  · next below dotted =>
    obtain rfl := after?_eq_some_iff.mp dotted
    split at found
    · cases found
    · next inside named =>
      obtain ⟨dir, rfl, filled, slashless, dotless⟩ := exists_directory named
      split at found
      · next walked =>
        obtain ⟨front, rfl, single⟩ := exists_ending found
        have whole : inside = inside.takeWhile isPathChar ++ '.' :: (front ++ rest) := by
          rw [← walked, List.takeWhile_append_dropWhile]
        refine ⟨dir ++ '/' :: (inside.takeWhile isPathChar ++ '.' :: front), ?_, dir, _, rfl, filled, slashless,
          dotless, ?_⟩
        · simp only [List.append_assoc, List.cons_append, List.nil_append]
          rw [← whole]
        · have one : (inside.takeWhile isPathChar ++ '.' :: front).count '.' = 1 := by
            rw [List.count_append, List.count_cons_self, List.count_eq_zero.mpr dotless_of_isPathChar,
              List.count_eq_zero.mpr single]
          exact Nat.le_of_eq one
      · cases found

/-- The path that is found in a log starts with a dot and a slash. -/
theorem exists_of_findSourcePath? {named : List Char} (found : findSourcePath? s = some named) :
    ∃ path, named = ['.', '/'] ++ path ∧ SourcePath path := by
  induction s with
  | nil => cases found
  | cons c s ih =>
    rw [findSourcePath?] at found
    split at found
    · next rest matched =>
      obtain ⟨path, whole, source⟩ := exists_of_afterSourcePath? matched
      refine ⟨path, ?_, source⟩
      rw [← Option.some.inj found, whole, List.length_append, Nat.add_sub_cancel, List.take_left]
    · exact ih found

/-! ## Below a root -/

/-- Two dots are needed to lead up. -/
theorem isName_of_count {segment : List Char} {part : Part} (dots : segment.count '.' ≤ 1)
    (found : part? segment = some part) : ∃ text, part = .name text := by
  unfold part? at found
  split at found
  · cases found
  · cases found
  · exact absurd dots (by decide)
  · exact ⟨_, (Option.some.inj found).symm⟩

theorem SourcePath.staysInside {path : List Char} (source : SourcePath path) :
    Patch.staysInside (String.ofList path) = true := by
  obtain ⟨dir, rest, rfl, filled, slashless, dotless, dots⟩ := source
  have chars : (String.ofList (dir ++ '/' :: rest)).toList = dir ++ '/' :: rest := String.toList_ofList
  have cut : segments (String.ofList (dir ++ '/' :: rest)).toList = dir :: segments rest := by
    rw [chars, segments_append_slash, IsName.segments_eq slashless, List.singleton_append]
  have filled' : (String.ofList (dir ++ '/' :: rest)).isEmpty = false := by
    rw [← Bool.not_eq_true, String.isEmpty_iff, ← String.toList_inj, chars]
    exact List.append_ne_nil_of_right_ne_nil _ (List.cons_ne_nil _ _)
  have named : part? dir = some (.name (String.ofList dir)) := by
    unfold part?
    split
    · exact absurd rfl filled
    · exact absurd (List.mem_cons_self ..) dotless
    · exact absurd (List.mem_cons_self ..) dotless
    · rfl
  have first : leading dir = [.name (String.ofList dir)] := by
    rw [leading_eq filled fun dot => dotless (dot ▸ List.mem_cons_self ..), named]
    rfl
  have names : ∀ part ∈ (segments rest).filterMap part?, ∃ text, part = .name text := by
    intro part member
    obtain ⟨segment, among, found⟩ := List.mem_filterMap.mp member
    exact isName_of_count (Nat.le_trans ((sublist_of_mem_segments among).count_le _) dots) found
  rw [Patch.staysInside, parts_of_segments filled' cut, first, List.singleton_append, depth?, depth?_of_names names]
  exact decide_eq_true (by omega)

end Build

end UiCheck
