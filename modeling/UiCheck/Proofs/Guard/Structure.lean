import UiCheck.Guard.Structure
import UiCheck.Proofs.Text.Search

/-! # What the shape of a document tells

The check of a document lists a legacy key exactly if some line starts with it, wherever that line is. A document
cannot stand as it is exactly if it has such a line or lacks one of the two sections; nothing else about it counts.
-/

namespace UiCheck.Guard

variable {text key name : String} {line : List Char} {known keys : List String} {lines : List (List Char)}

/-- Some line of a document starts with the key. -/
def Opens (text key : String) : Prop :=
  ∃ line ∈ Text.lines text.toList, lineKey? line = some key.toList

/-- One of the two sections is named at the start of no line. -/
def LacksSection (text : String) : Prop :=
  ∃ name ∈ ["meta", "scenarios"], ∀ line ∈ Text.lines text.toList, ¬ (name ++ ":").toList <+: Text.trimStart line

/-- The document holds a legacy key at the start of a line, or lacks a section. -/
def Unsound (text : String) : Prop :=
  (∃ key ∈ legacyKeys, Opens text key) ∨ LacksSection text

theorem legacyKey?_eq_some_iff : legacyKey? line = some key ↔ key ∈ legacyKeys ∧ lineKey? line = some key.toList := by
  rw [legacyKey?]
  cases opened : lineKey? line with
  | none => simp
  | some chars =>
    simp only [Option.some.injEq]
    constructor
    · intro found
      have same : key.toList = chars := by simpa using List.find?_some found
      exact ⟨List.mem_of_find?_eq_some found, same.symm⟩
    · rintro ⟨listed, rfl⟩
      obtain ⟨other, found⟩ : ∃ other, legacyKeys.find? (·.toList == key.toList) = some other :=
        Option.isSome_iff_exists.mp (List.find?_isSome.mpr ⟨key, listed, beq_self_eq_true _⟩)
      have same : other.toList = key.toList := by simpa using List.find?_some found
      rw [found, String.toList_inj.mp same]

theorem mem_foldl_addNew : key ∈ keys.foldl addNew known ↔ key ∈ known ∨ key ∈ keys := by
  induction keys generalizing known with
  | nil => simp
  | cons first rest ih =>
    rw [List.foldl_cons, ih, addNew]
    split
    · next present =>
      have present : first ∈ known := by simpa using present
      simp only [List.mem_cons]
      constructor
      · exact Or.imp_right .inr
      · rintro (member | rfl | member)
        · exact .inl member
        · exact .inl present
        · exact .inr member
    · rw [List.mem_append, List.mem_singleton, List.mem_cons, or_assoc]

/-- The legacy keys that are listed are those with which some line starts. -/
theorem mem_invalidKeys : key ∈ (checkStructure text).invalidKeys ↔ key ∈ legacyKeys ∧ Opens text key := by
  have listed : (checkStructure text).invalidKeys =
      ((Text.lines text.toList).filterMap legacyKey?).foldl addNew [] := rfl
  simp only [listed, mem_foldl_addNew, List.not_mem_nil, false_or, List.mem_filterMap, legacyKey?_eq_some_iff, Opens]
  constructor
  · rintro ⟨line, member, legacy, opened⟩
    exact ⟨legacy, line, member, opened⟩
  · rintro ⟨legacy, line, member, opened⟩
    exact ⟨line, member, legacy, opened⟩

theorem isValid_eq_false_iff : (checkStructure text).isValid = false ↔ ∃ key ∈ legacyKeys, Opens text key := by
  rw [StructureReport.isValid, List.isEmpty_eq_false_iff_exists_mem]
  simp only [mem_invalidKeys]

theorem hasSection_eq_false_iff :
    hasSection name lines = false ↔ ∀ line ∈ lines, ¬ (name ++ ":").toList <+: Text.trimStart line := by
  simp only [hasSection, List.any_eq_false, Text.startsWith_iff]

theorem hasRequiredSections_eq_false_iff : (checkStructure text).hasRequiredSections = false ↔ LacksSection text := by
  have both : (checkStructure text).hasRequiredSections =
      (hasSection "meta" (Text.lines text.toList) && hasSection "scenarios" (Text.lines text.toList)) := rfl
  rw [both, Bool.and_eq_false_iff, hasSection_eq_false_iff, hasSection_eq_false_iff]
  simp [LacksSection]

theorem isSound_eq_false_iff : (checkStructure text).isSound = false ↔ Unsound text := by
  rw [StructureReport.isSound, Bool.and_eq_false_iff, isValid_eq_false_iff, hasRequiredSections_eq_false_iff, Unsound]

end UiCheck.Guard
