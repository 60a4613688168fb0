import Mathlib.Data.List.Nodup
import Mathlib.Data.Rat.Cast.Order
import Mathlib.Tactic.Positivity
import UiCheck.Guard.Change
import UiCheck.Proofs.Text.Lines

/-! # What the size of a change counts

A comparison looks at the lines of two documents that are not blank, a line counted as often as it stands there, and
asks of each whether it stands in the other document at all. So the counts do not depend on the order of the lines,
change places with the documents, and bound the share of changed lines: `compare_counts`.
-/

namespace UiCheck.Guard

open Text

variable {current updated text : String} {lines others lines' others' : List (List Char)} {prompt : Option String}

/-- The ratio as a number. -/
def Percentage.value (share : Percentage) : ℚ :=
  share.num / share.den

/-- The instruction has a character that is not blank. -/
def Prompted (prompt : Option String) : Prop :=
  ∃ text, prompt = some text ∧ ∃ c ∈ text.toList, isBlank c = false

theorem isPrompted_iff : isPrompted prompt = true ↔ Prompted prompt := by
  simp [isPrompted, Prompted, allBlank, Option.any_eq_true]

instance (prompt : Option String) : Decidable (Prompted prompt) :=
  decidable_of_iff _ isPrompted_iff

/-! ## Lines that stand in one list only -/

theorem mem_missingFrom {line : List Char} : line ∈ missingFrom lines others ↔ line ∈ lines ∧ line ∉ others := by
  simp [missingFrom]

theorem length_missingFrom_le (lines others : List (List Char)) : (missingFrom lines others).length ≤ lines.length :=
  List.length_filter_le ..

theorem length_missingFrom_eq_zero_iff :
    (missingFrom lines others).length = 0 ↔ ∀ line ∈ lines, line ∈ others := by
  rw [List.length_eq_zero_iff, List.eq_nil_iff_forall_not_mem]
  simp only [mem_missingFrom, not_and, Decidable.not_not]

theorem length_missingFrom_eq_iff :
    (missingFrom lines others).length = lines.length ↔ ∀ line ∈ lines, line ∉ others := by
  rw [missingFrom, List.length_filter_eq_length_iff]
  simp

theorem missingFrom_perm (same : lines.Perm lines') (same' : others.Perm others') :
    (missingFrom lines others).Perm (missingFrom lines' others') := by
  have test : (fun line => ! others.contains line) = fun line => ! others'.contains line :=
    funext fun line => by simp only [List.contains_eq_mem, same'.mem_iff]
  rw [missingFrom, missingFrom, test]
  exact same.filter _

/-- Of lists without repetitions equally many lines stand in the other one. -/
theorem length_sub_missingFrom (distinct : lines.Nodup) (distinct' : others.Nodup) :
    lines.length + (missingFrom others lines).length = others.length + (missingFrom lines others).length := by
  have common : (lines.filter (others.contains ·)).Perm (others.filter (lines.contains ·)) := by
    refine (List.perm_ext_iff_of_nodup (distinct.filter _) (distinct'.filter _)).mpr fun line => ?_
    simp [and_comm]
  have counts := common.length_eq
  have whole := List.length_eq_length_filter_add (l := lines) (others.contains ·)
  have whole' := List.length_eq_length_filter_add (l := others) (lines.contains ·)
  simp only [missingFrom]
  omega

/-! ## What is counted -/

/-- A document with a line that is not blank is not blank itself. -/
theorem allBlank_of_content (content : contentLines text ≠ []) : allBlank text.toList = false := by
  obtain ⟨line, member⟩ := List.exists_mem_of_ne_nil _ content
  obtain ⟨among, filled⟩ := List.mem_filter.mp member
  rw [Bool.not_eq_true'] at filled
  rw [← Bool.not_eq_true] at filled ⊢
  refine fun blank => filled (List.all_eq_true.mpr fun c inside => List.all_eq_true.mp blank c ?_)
  exact mem_of_mem_lines among inside

section

variable (content : contentLines current ≠ [])
include content

theorem stats_compare : (compare current updated).stats =
    { total := max (contentLines current).length (contentLines updated).length
      unchanged := (contentLines updated).length - (missingFrom (contentLines updated) (contentLines current)).length
      added := (missingFrom (contentLines updated) (contentLines current)).length
      removed := (missingFrom (contentLines current) (contentLines updated)).length } := by
  rw [compare, allBlank_of_content content, if_neg Bool.false_ne_true]

theorem changes_compare : (compare current updated).changes =
    (missingFrom (contentLines updated) (contentLines current)).map (fun line => String.ofList ('+' :: ' ' :: line)) ++
      (missingFrom (contentLines current) (contentLines updated)).map fun line => String.ofList ('-' :: ' ' :: line) := by
  rw [compare, allBlank_of_content content, if_neg Bool.false_ne_true]

theorem share_compare : (compare current updated).share =
    ⟨100 * ((compare current updated).stats.added + (compare current updated).stats.removed),
      (compare current updated).stats.total⟩ := by
  rw [compare, allBlank_of_content content, if_neg Bool.false_ne_true]

theorem total_pos : 0 < (compare current updated).stats.total := by
  rw [stats_compare content]
  exact lt_max_of_lt_left (List.length_pos_iff.mpr content)

theorem value_compare : (compare current updated).share.value =
    100 * ((compare current updated).stats.added + (compare current updated).stats.removed) /
      (compare current updated).stats.total := by
  rw [share_compare content, Percentage.value]
  push_cast
  rfl

theorem added_add_unchanged :
    (compare current updated).stats.added + (compare current updated).stats.unchanged = (contentLines updated).length := by
  rw [stats_compare content]
  exact Nat.add_sub_of_le (length_missingFrom_le _ _)

theorem length_changes : (compare current updated).changes.length =
    (compare current updated).stats.added + (compare current updated).stats.removed := by
  rw [changes_compare content, stats_compare content, List.length_append, List.length_map, List.length_map]

/-- No more lines are added, and no more removed, than the longer document has. -/
theorem added_le_total : (compare current updated).stats.added ≤ (compare current updated).stats.total ∧
    (compare current updated).stats.removed ≤ (compare current updated).stats.total := by
  rw [stats_compare content]
  exact ⟨(length_missingFrom_le _ _).trans (le_max_right ..), (length_missingFrom_le _ _).trans (le_max_left ..)⟩

/-- The share is a number just if the changed lines are that many hundredths of the longer document. -/
theorem value_compare_eq_iff (k : ℕ) : (compare current updated).share.value = 100 * k ↔
    (compare current updated).stats.added + (compare current updated).stats.removed =
      k * (compare current updated).stats.total := by
  have positive : (0 : ℚ) < (compare current updated).stats.total := Nat.cast_pos.mpr (total_pos content)
  rw [value_compare content, div_eq_iff positive.ne', mul_assoc]
  norm_cast
  omega

theorem value_compare_bounds :
    0 ≤ (compare current updated).share.value ∧ (compare current updated).share.value ≤ 200 := by
  have positive : (0 : ℚ) < (compare current updated).stats.total := Nat.cast_pos.mpr (total_pos content)
  obtain ⟨added, removed⟩ := @added_le_total current updated content
  rw [value_compare content]
  refine ⟨by positivity, ?_⟩
  rw [div_le_iff₀ positive]
  norm_cast
  omega

/-- Nothing changed just if each line of one document stands in the other. -/
theorem value_compare_eq_zero_iff : (compare current updated).share.value = 0 ↔
    ∀ line, line ∈ contentLines current ↔ line ∈ contentLines updated := by
  have none := @value_compare_eq_iff current updated content 0
  rw [Nat.cast_zero, mul_zero, Nat.zero_mul, Nat.add_eq_zero_iff] at none
  rw [none, stats_compare content, length_missingFrom_eq_zero_iff, length_missingFrom_eq_zero_iff]
  constructor
  · rintro ⟨back, forth⟩ line
    exact ⟨forth line, back line⟩
  · intro same
    exact ⟨fun line => (same line).mpr, fun line => (same line).mp⟩

/-- All changed twice over just if no line stands in both documents and they are equally long. -/
theorem value_compare_eq_200_iff : (compare current updated).share.value = 200 ↔
    (contentLines current).Disjoint (contentLines updated) ∧
      (contentLines current).length = (contentLines updated).length := by
  have whole := @value_compare_eq_iff current updated content 2
  norm_num at whole
  rw [whole, stats_compare content]
  have fewer := length_missingFrom_le (contentLines updated) (contentLines current)
  have fewer' := length_missingFrom_le (contentLines current) (contentLines updated)
  constructor
  · intro all
    dsimp only at all
    have none : (missingFrom (contentLines current) (contentLines updated)).length = (contentLines current).length := by
      omega
    exact ⟨fun line inside => length_missingFrom_eq_iff.mp none line inside, by omega⟩
  · rintro ⟨apart, same⟩
    have none := length_missingFrom_eq_iff.mpr fun line inside other => apart other inside
    have none' := length_missingFrom_eq_iff.mpr fun line inside other => apart inside other
    dsimp only
    omega

/-- Documents that change places swap what is added and removed. -/
theorem stats_compare_swap (content' : contentLines updated ≠ []) :
    (compare updated current).stats.added = (compare current updated).stats.removed ∧
    (compare updated current).stats.removed = (compare current updated).stats.added ∧
    (compare updated current).stats.total = (compare current updated).stats.total := by
  rw [stats_compare content, stats_compare content']
  exact ⟨rfl, rfl, Nat.max_comm ..⟩

theorem unchanged_add_removed (distinct : (contentLines current).Nodup) (distinct' : (contentLines updated).Nodup) :
    (compare current updated).stats.unchanged + (compare current updated).stats.removed =
      (contentLines current).length := by
  have balanced := length_sub_missingFrom distinct distinct'
  have fewer := length_missingFrom_le (contentLines updated) (contentLines current)
  rw [stats_compare content]
  dsimp only
  omega

/-- The order of the lines matters to the order of the changes only. -/
theorem compare_of_perm {current' updated' : String} (same : (contentLines current').Perm (contentLines current))
    (same' : (contentLines updated').Perm (contentLines updated)) :
    (compare current' updated').stats = (compare current updated).stats ∧
    (compare current' updated').share.value = (compare current updated).share.value ∧
    (compare current' updated').changes.Perm (compare current updated).changes := by
  have added := missingFrom_perm same' same
  have removed := missingFrom_perm same same'
  have content' : contentLines current' ≠ [] := fun none =>
    content (List.length_eq_zero_iff.mp (same.length_eq.symm.trans (List.length_eq_zero_iff.mpr none)))
  have stats : (compare current' updated').stats = (compare current updated).stats := by
    rw [stats_compare content, stats_compare content', added.length_eq, removed.length_eq, same.length_eq,
      same'.length_eq]
  refine ⟨stats, ?_, ?_⟩
  · rw [value_compare content, value_compare content', stats]
  · rw [changes_compare content, changes_compare content']
    exact (added.map _).append (removed.map _)

/-- A change is accepted up to a limit that depends on the instruction. -/
theorem isValid_judge_iff : (judge current updated prompt).isValid = true ↔
    100 * ((compare current updated).stats.added + (compare current updated).stats.removed) ≤
      (if Prompted prompt then 75 else 30) * (compare current updated).stats.total := by
  simp only [ChangeReport.isValid, judge, Percentage.atMost, share_compare content, changeLimit, isPrompted_iff,
    decide_eq_true_eq]

theorem isValid_judge_of_unprompted (valid : (judge current updated none).isValid = true) :
    (judge current updated prompt).isValid = true := by
  rw [isValid_judge_iff content] at valid ⊢
  have unprompted : ¬ Prompted none := by simp [Prompted]
  rw [if_neg unprompted] at valid
  split
  · omega
  · exact valid

end

/-- Of two documents with lines that are not blank, the comparison counts what is added and what is left of the lines
of the second one. It is fair to both and to every order of their lines, its share lies between nothing and twice all,
and these two are reached just by documents with the same lines and by equally long ones without a common line. The
verdict compares the share with a limit that an instruction only raises. -/
theorem compare_counts (content : contentLines current ≠ []) (content' : contentLines updated ≠ []) :
    0 < (compare current updated).stats.total ∧
    (compare current updated).stats.added + (compare current updated).stats.unchanged = (contentLines updated).length ∧
    (compare current updated).changes.length =
      (compare current updated).stats.added + (compare current updated).stats.removed ∧
    (compare current updated).share.value =
      100 * ((compare current updated).stats.added + (compare current updated).stats.removed) /
        (compare current updated).stats.total ∧
    ((compare updated current).stats.added = (compare current updated).stats.removed ∧
      (compare updated current).stats.removed = (compare current updated).stats.added ∧
      (compare updated current).stats.total = (compare current updated).stats.total ∧
      (compare updated current).share.value = (compare current updated).share.value) ∧
    (0 ≤ (compare current updated).share.value ∧ (compare current updated).share.value ≤ 200) ∧
    ((compare current updated).share.value = 0 ↔
      ∀ line, line ∈ contentLines current ↔ line ∈ contentLines updated) ∧
    ((compare current updated).share.value = 200 ↔
      (contentLines current).Disjoint (contentLines updated) ∧
        (contentLines current).length = (contentLines updated).length) ∧
    (∀ current' updated', (contentLines current').Perm (contentLines current) →
      (contentLines updated').Perm (contentLines updated) →
        (compare current' updated').stats = (compare current updated).stats ∧
        (compare current' updated').share.value = (compare current updated).share.value ∧
        (compare current' updated').changes.Perm (compare current updated).changes) ∧
    ((contentLines current).Nodup → (contentLines updated).Nodup →
      (compare current updated).stats.unchanged + (compare current updated).stats.removed =
        (contentLines current).length) ∧
    (∀ prompt, (judge current updated prompt).isValid = true ↔
      100 * ((compare current updated).stats.added + (compare current updated).stats.removed) ≤
        (if Prompted prompt then 75 else 30) * (compare current updated).stats.total) ∧
    ∀ prompt, (judge current updated none).isValid = true → (judge current updated prompt).isValid = true := by
  obtain ⟨added, removed, total⟩ := stats_compare_swap content content'
  have share : (compare updated current).share.value = (compare current updated).share.value := by
    rw [value_compare content, value_compare content', added, removed, total, add_comm]
  exact ⟨total_pos content, added_add_unchanged content, length_changes content, value_compare content,
    ⟨added, removed, total, share⟩, value_compare_bounds content, value_compare_eq_zero_iff content,
    value_compare_eq_200_iff content, fun _ _ => compare_of_perm content, unchanged_add_removed content,
    fun _ => isValid_judge_iff content, fun _ => isValid_judge_of_unprompted content⟩

/-- A line that is repeated on one side, blank lines and both line ends: two lines of three change. -/
theorem compare_counts_repeated :
    (contentLines "a\nb\nb\n\n" ≠ [] ∧ contentLines "c\r\n  \nb" ≠ []) ∧
    (compare "a\nb\nb\n\n" "c\r\n  \nb").stats = ⟨3, 1, 1, 1⟩ ∧
    (compare "a\nb\nb\n\n" "c\r\n  \nb").share.value = 100 * (1 + 1) / 3 ∧
    (judge "a\nb\nb\n\n" "c\r\n  \nb" none).isValid = false ∧
    (judge "a\nb\nb\n\n" "c\r\n  \nb" (some "rename a")).isValid = true := by
  have content : contentLines "a\nb\nb\n\n" ≠ [] := by decide +kernel
  have content' : contentLines "c\r\n  \nb" ≠ [] := by decide +kernel
  have stats : (compare "a\nb\nb\n\n" "c\r\n  \nb").stats = ⟨3, 1, 1, 1⟩ := by decide +kernel
  obtain ⟨_, _, _, share, _, _, _, _, _, _, verdict, _⟩ := compare_counts content content'
  rw [stats] at share verdict
  refine ⟨⟨content, content'⟩, stats, by simpa using share, ?_, (verdict _).mpr (by decide +kernel)⟩
  rw [← Bool.not_eq_true, verdict]
  decide +kernel

end UiCheck.Guard
