import UiCheck.Proofs.Text.Search

/-! # Removing marks from a text

A scan from left to right removes what a test recognises and keeps every other character. What is left is told by
`Removed`, whatever else the scan carries along, and `Scan.eq_iff` says so once for all scans of this form. In front of
the first mark a text is kept as it is.
-/

namespace UiCheck.Text

variable {behind? : List Char → Option (List Char)} {s rest out out' front pat : List Char}

/-- The second text is what is left of the first one without the marks that the test recognises: it tells what follows
a mark. -/
inductive Removed (behind? : List Char → Option (List Char)) : List Char → List Char → Prop where
  | nil (plain : behind? [] = none) : Removed behind? [] []
  | mark {s rest out : List Char} (found : behind? s = some rest) (tail : Removed behind? rest out) :
      Removed behind? s out
  | char {c : Char} {s out : List Char} (plain : behind? (c :: s) = none) (tail : Removed behind? s out) :
      Removed behind? (c :: s) (c :: out)

namespace Removed

theorem unique (removed : Removed behind? s out) (removed' : Removed behind? s out') : out = out' := by
  induction removed generalizing out' with
  | nil plain =>
    cases removed' with
    | nil => rfl
    | mark found => cases plain.symm.trans found
  | mark found _ ih =>
    cases removed' with
    | nil plain => cases plain.symm.trans found
    | mark found' tail =>
      cases found.symm.trans found'
      exact ih tail
    | char plain => cases plain.symm.trans found
  | char plain _ ih =>
    cases removed' with
    | mark found => cases plain.symm.trans found
    | char _ tail => rw [ih tail]

/-- A text in which no mark starts is kept. -/
theorem append (plain : ∀ k < front.length, behind? ((front ++ rest).drop k) = none) (tail : Removed behind? rest out) :
    Removed behind? (front ++ rest) (front ++ out) := by
  induction front with
  | nil => exact tail
  | cons c front ih => exact .char (plain 0 (Nat.zero_lt_succ _)) (ih fun k within => plain (k + 1) (Nat.succ_lt_succ within))

end Removed

/-- A function with fuel and the output so far reversed goes through a text and removes what the test recognises. -/
structure Scan (behind? : List Char → Option (List Char)) (scan : Nat → List Char → List Char → List Char) : Prop where
  shorter : ∀ {s rest}, behind? s = some rest → rest.length < s.length
  stop : ∀ fuel done, scan fuel done [] = done.reverse
  mark : ∀ {fuel done s rest}, behind? s = some rest → scan (fuel + 1) done s = scan fuel done rest
  char : ∀ {fuel done c s}, behind? (c :: s) = none → scan (fuel + 1) done (c :: s) = scan fuel (c :: done) s

namespace Scan

variable {scan : Nat → List Char → List Char → List Char} (scans : Scan behind? scan)
include scans

theorem exists_removed {fuel : Nat} (enough : s.length ≤ fuel) :
    ∃ out, Removed behind? s out ∧ ∀ done, scan fuel done s = done.reverse ++ out := by
  have plain : behind? [] = none := by
    rw [Option.eq_none_iff_forall_ne_some]
    exact fun rest found => absurd (scans.shorter found) (Nat.not_lt_zero _)
  induction fuel generalizing s with
  | zero =>
    obtain rfl := List.length_eq_zero_iff.mp (Nat.le_zero.mp enough)
    exact ⟨[], .nil plain, fun done => by rw [scans.stop, List.append_nil]⟩
  | succ fuel ih =>
    cases found : behind? s with
    | some rest =>
      obtain ⟨out, removed, left⟩ := ih (Nat.le_of_lt_succ ((scans.shorter found).trans_le enough))
      exact ⟨out, .mark found removed, fun done => (scans.mark found).trans (left done)⟩
    | none =>
      cases s with
      | nil => exact ⟨[], .nil plain, fun done => by rw [scans.stop, List.append_nil]⟩
      | cons c s =>
        obtain ⟨out, removed, left⟩ := ih (Nat.le_of_succ_le_succ enough)
        refine ⟨c :: out, .char found removed, fun done => ?_⟩
        rw [scans.char found, left, List.reverse_cons, List.append_assoc, List.singleton_append]

theorem eq_iff : scan s.length [] s = out ↔ Removed behind? s out := by
  obtain ⟨out', removed, left⟩ := scans.exists_removed (Nat.le_refl s.length)
  rw [left, List.reverse_nil, List.nil_append]
  exact ⟨fun same => same ▸ removed, removed.unique⟩

end Scan

theorem scan_replaceFrom (filled : pat ≠ []) : Scan (after? pat) (replaceFrom pat []) where
  shorter found := by
    have positive := List.length_pos_iff.mpr filled
    rw [after?_eq_some_iff.mp found, List.length_append]
    omega
  stop fuel done := by
    obtain ⟨p, pat, rfl⟩ := List.exists_cons_of_ne_nil filled
    cases fuel with
    | zero => exact List.append_nil _
    | succ fuel => rfl
  mark found := by
    rw [replaceFrom.eq_def]
    simp only [found]
    rfl
  char plain := by rw [replaceFrom, plain]

/-- Replacing a pattern by nothing removes it. -/
theorem replaceAll_nil_eq_iff (filled : pat ≠ []) : replaceAll pat [] s = out ↔ Removed (after? pat) s out := by
  rw [replaceAll, List.isEmpty_eq_false_iff.mpr filled, if_neg Bool.false_ne_true]
  exact (scan_replaceFrom filled).eq_iff

/-- A pattern does not start in a text that does not hold it and ends with a character that it does not have. -/
theorem not_prefix_drop_append (absent : ¬ pat <:+: front) (ends : ∀ c ∈ front.getLast?, c ∉ pat) {k : Nat}
    (within : k < front.length) : ¬ pat <+: (front ++ rest).drop k := by
  rw [List.drop_append_of_le_length (Nat.le_of_lt within)]
  intro starts
  rcases List.prefix_or_prefix_of_prefix starts (List.prefix_append ..) with inside | beyond
  · exact absent (inside.isInfix.trans (List.drop_suffix k front).isInfix)
  · have some : front.drop k ≠ [] := List.drop_eq_nil_iff.not.mpr (Nat.not_le_of_lt within)
    have last : (front.drop k).getLast some ∈ front.getLast? := by
      rw [List.getLast_drop]
      exact List.getLast?_eq_some_getLast _
    exact ends _ last (beyond.subset (List.getLast_mem some))

section

variable (only : ∀ s, ¬ pat <+: s → behind? s = none)
include only

/-- A text is kept in front of what follows if it does not hold the start of a mark and no mark reaches behind it. -/
theorem Removed.append_of_absent (absent : ¬ pat <:+: front) (ends : ∀ c ∈ front.getLast?, c ∉ pat)
    (tail : Removed behind? rest out) : Removed behind? (front ++ rest) (front ++ out) :=
  .append (fun _ within => only _ (not_prefix_drop_append absent ends within)) tail

/-- A text that does not hold the start of a mark is kept. -/
theorem removed_self (filled : pat ≠ []) (absent : ¬ pat <:+: s) : Removed behind? s s := by
  have empty : Removed behind? [] [] := .nil (only _ (filled ∘ List.prefix_nil.mp))
  have kept : Removed behind? (s ++ []) (s ++ []) := by
    refine .append (fun k _ => only _ fun starts => absent ?_) empty
    rw [List.append_nil] at starts
    exact starts.isInfix.trans (List.drop_suffix k s).isInfix
  rwa [List.append_nil] at kept

end

end UiCheck.Text
