import UiCheck.Guard.Basic
import UiCheck.Proofs.Patch.Accepted
import UiCheck.Proofs.Patch.Physical
import UiCheck.Proofs.Text.Search

/-! # The backup beside a plan

The backup of a plan lies in the same directory under a name that is never the name of the plan. Where there are no
links a path leads to the name that it ends with, so writing the backup does not touch the plan.
-/

namespace UiCheck.Files

/-! ## Trees without links -/

/-- No link is anywhere in a tree. -/
def Node.Linkless (tree : Node) : Prop :=
  ∀ place target, Node.faceAt place tree ≠ some (.link target)

variable {tree : Node} {follow : Bool} {links : Nat} {names : List String} {way whole : List Part} {arrived : Place}
  {text : String} {path : String} {disk : Disk}

/-- Without links a name leads one level down. -/
theorem Arrives.names_of_name (linkless : tree.Linkless) (arrives : Arrives tree follow links names [.name text] arrived) :
    arrived.names = text :: names := by
  cases arrives with
  | vacant => rfl
  | unfollowed directory _ linked | link directory _ linked =>
    exact absurd (faceAt_of_linked directory linked) (linkless _ _)
  | name _ _ _ _ rest =>
    cases rest
    rfl

/-- Without links a way that ends with a name ends there. -/
theorem Arrives.head?_names (linkless : tree.Linkless) (arrives : Arrives tree follow links names whole arrived)
    (same : whole = way ++ [.name text]) : arrived.names.head? = some text := by
  induction arrives generalizing way with
  | present => exact absurd same.symm (List.append_ne_nil_of_right_ne_nil _ (List.cons_ne_nil _ _))
  | root _ ih | here _ _ ih | up _ _ ih =>
    cases way with
    | nil => cases (List.cons.inj same).1
    | cons => exact ih (List.cons.inj same).2
  | vacant =>
    cases way with
    | nil =>
      cases same
      rfl
    | cons => exact absurd (List.cons.inj same).2.symm (List.append_ne_nil_of_right_ne_nil _ (List.cons_ne_nil _ _))
  | unfollowed directory _ linked | link directory _ linked =>
    exact absurd (faceAt_of_linked directory linked) (linkless _ _)
  | name _ _ _ _ rest ih =>
    cases way with
    | nil =>
      cases same
      cases rest
      rfl
    | cons => exact ih (List.cons.inj same).2

theorem part?_of_long {segment : List Char} (long : 2 < segment.length) :
    part? segment = some (.name (String.ofList segment)) := by
  unfold part?
  split
  · cases Nat.not_lt_zero _ long
  · cases Nat.lt_asymm long (by decide)
  · cases Nat.lt_irrefl _ long
  · rfl

theorem steps_of_isName {name : String} (plain : IsName name) : steps name = [.name name] := by
  have filled : name.isEmpty = false := by
    rw [← Bool.not_eq_true, String.isEmpty_iff, ← String.toList_inj]
    exact plain.ne_nil
  have cut := IsName.segments_eq plain.slashless
  have alone : parts name = [.name name] := by
    rw [parts_of_segments filled cut, leading_eq plain.ne_nil plain.ne_dot, plain.named]
    rfl
  rw [steps, alone, cut]
  simp [plain.ne_nil, plain.ne_dot]

/-- A name that is joined to any path ends its way. -/
theorem exists_steps_join {name : String} (dir : String) (plain : IsName name) :
    ∃ front, steps (join dir name) = front ++ [.name name] := by
  by_cases empty : dir.isEmpty = true
  · have alone : join dir name = name := by
      rw [join, plain.relative, if_neg Bool.false_ne_true, empty, Bool.true_or, if_pos rfl,
        String.isEmpty_iff.mp empty, String.empty_append]
    exact ⟨[], by rw [alone, steps_of_isName plain, List.nil_append]⟩
  · exact ⟨_, steps_join (Bool.eq_false_iff.mpr empty) plain⟩

theorem exists_of_fileName? {name : String} (named : fileName? path = some name) :
    ∃ front, parts path = front ++ [.name name] := by
  rw [fileName?] at named
  split at named
  · next last =>
    cases named
    exact List.getLast?_eq_some_iff.mp last
  · cases named

/-- Without links a path that is found is found under its name. -/
theorem Disk.head?_of_locate {name : String} {node : Node} (linkless : disk.tree.Linkless)
    (located : disk.locate true path = .ok (.present names node)) (named : fileName? path = some name) :
    names.head? = some name := by
  obtain ⟨front, ends⟩ := exists_of_fileName? named
  rw [locate_eq (admissible_of_locate located)] at located
  obtain ⟨leads, there⟩ := leads_of_walk located
  obtain ⟨left, goes⟩ := leads.parts.exists_walk_append
  have goes := goes []
  rw [List.append_nil, walk, there] at goes
  exact (arrives_of_walk goes).head?_names linkless ends

end UiCheck.Files

namespace UiCheck.Guard

open Files

/-! ## The name of a backup -/

section

variable {name stem : String} {moment : Moment}

theorem isDigit_of_mem_padded {width n : Nat} {c : Char} (member : c ∈ (Moment.padded width n).toList) :
    c.isDigit = true := by
  rw [Moment.padded, String.toList_ofList, List.mem_append] at member
  rcases member with zero | digit
  · rw [List.eq_of_mem_replicate zero]
    rfl
  · exact Nat.isDigit_of_mem_toDigits (by decide) (by decide) digit

theorem slashless_backupStamp (moment : Moment) : '/' ∉ moment.backupStamp.toList := by
  have digits : ∀ width n, '/' ∉ (Moment.padded width n).toList :=
    fun width n member => absurd (isDigit_of_mem_padded member) (by decide)
  have dash : '/' ∉ "-".toList := by decide
  have day : '/' ∉ "T".toList := by decide
  have zone : '/' ∉ "Z".toList := by decide
  simp only [Moment.backupStamp, toString, String.toList_append, List.mem_append, digits, dash, day, zone, or_self,
    not_false_eq_true]

/-- The name under which a plan is saved, by the name of the plan without its extension. -/
def backupName (stem : String) (moment : Moment) : String :=
  s!"{stem}.backup.{moment.backupStamp}.yaml"

theorem toList_backupName (stem : String) (moment : Moment) :
    (backupName stem moment).toList =
      stem.toList ++ '.' :: ("backup.".toList ++ (moment.backupStamp.toList ++ ".yaml".toList)) := by
  have marked : ".backup.".toList = '.' :: "backup.".toList := by decide
  simp only [backupName, toString, String.toList_append, marked, List.append_assoc, List.cons_append]

theorem isName_backupName (slashless : '/' ∉ stem.toList) (moment : Moment) : IsName (backupName stem moment) := by
  constructor
  · rw [toList_backupName, List.mem_append, List.mem_cons, List.mem_append, List.mem_append]
    rintro (front | dot | word | stamp | ending)
    · exact slashless front
    · exact absurd dot (by decide)
    · exact absurd word (by decide)
    · exact slashless_backupStamp moment stamp
    · exact absurd ending (by decide)
  · have long : 2 < (backupName stem moment).toList.length := by
      have word : "backup.".toList.length = 7 := by decide
      rw [toList_backupName, List.length_append, List.length_cons, List.length_append, word]
      omega
    rw [part?_of_long long, String.ofList_toList]

theorem toList_splitExtension (name : String) :
    (splitExtension name).1 = name ∨
      ∃ extension, '.' ∉ extension ∧ name.toList = (splitExtension name).1.toList ++ '.' :: extension := by
  rw [splitExtension]
  split
  · next c stem extension cut =>
    obtain ⟨whole, dotless⟩ := Text.cutLast?_single_eq_some_iff.mp cut
    exact .inr ⟨extension, dotless, by rw [whole, String.toList_ofList]⟩
  · exact .inl rfl

/-- A plan does not have the name that it is saved under. -/
theorem backupName_ne (name : String) (moment : Moment) : backupName (splitExtension name).1 moment ≠ name := by
  intro same
  have chars := toList_backupName (splitExtension name).1 moment
  rw [same] at chars
  rcases toList_splitExtension name with whole | ⟨extension, dotless, cut⟩
  · rw [whole] at chars
    exact absurd (List.self_eq_append_right.mp chars) (List.cons_ne_nil _ _)
  · -- the extension of a backup's name starts behind the last of its dots
    obtain ⟨_, behind⟩ := List.cons.inj (List.append_cancel_left (cut.symm.trans chars))
    refine dotless ?_
    rw [behind]
    exact List.mem_append_left _ (by decide)

theorem backupPath_eq (path : String) (moment : Moment) :
    (∃ name, fileName? path = some name ∧
      backupPath path moment = join (parent path) (backupName (splitExtension name).1 moment)) ∨
    (fileName? path = none ∧ backupPath path moment = join path (backupName "plan" moment)) := by
  rw [backupPath, withFileName]
  cases named : fileName? path with
  | none => exact .inr ⟨rfl, rfl⟩
  | some name => exact .inl ⟨name, rfl, rfl⟩

end

/-- Without links writing the backup of a plan does not touch the plan. -/
theorem not_landsOn_backupPath {disk : Disk} (linkless : disk.tree.Linkless) (path : String) (moment : Moment) :
    ¬ disk.LandsOn (backupPath path moment) path := by
  rintro ⟨names, node, found, located⟩
  obtain ⟨arrived, beside, same, _⟩ := Disk.exists_locate_of_writable found
  rw [← same] at located
  rcases backupPath_eq path moment with ⟨name, named, backup⟩ | ⟨_, backup⟩
  · -- both paths end with a name, and these are different
    obtain ⟨front, ends⟩ := exists_of_fileName? named
    have slashless : '/' ∉ (splitExtension name).1.toList := by
      have plain : IsName name := Patch.isName_of_mem_parts (ends ▸ List.mem_append_right _ (List.mem_singleton_self _))
      rcases toList_splitExtension name with whole | ⟨extension, _, cut⟩
      · rw [whole]
        exact plain.slashless
      · intro member
        exact plain.slashless (cut ▸ List.mem_append_left _ member)
    obtain ⟨outer, way⟩ := exists_steps_join (parent path) (isName_backupName slashless moment)
    have here := Disk.head?_of_locate linkless located named
    have there := (Disk.arrives_of_locate (backup ▸ beside)).head?_names linkless way
    exact backupName_ne name moment (Option.some.inj (there.symm.trans here))
  · -- the backup lies one level below what the path leads to
    rw [backup] at beside
    have filled := (Disk.admissible_of_locate located).filled
    have plain : IsName (backupName "plan" moment) := isName_backupName (by decide) moment
    have admissible := Disk.admissible_of_locate beside
    rw [Disk.locate_eq (Disk.admissible_of_locate located)] at located
    obtain ⟨left, goes⟩ := Disk.exists_locate_join filled plain admissible (leads_of_walk located).1.parts
    rw [goes] at beside
    exact List.cons_ne_self _ _ ((arrives_of_walk beside).names_of_name linkless).symm

end UiCheck.Guard
