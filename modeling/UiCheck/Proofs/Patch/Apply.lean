import UiCheck.Patch.Apply
import UiCheck.Proofs.Files.Edits
import UiCheck.Proofs.Files.Path

/-! # The edits of a patch

Each update of a patch that is accepted makes the directories on the way to its file and writes the file. The answer
of a patch that succeeds lists the files in the order in which they were written. A patch that fails has written the
files before the one that failed, and its answer is about that one only.
-/

/-! ## Accepted paths

A path that is accepted below a root is relative, and what it denotes there has a normal form strictly below that of
the root. The names that the path has gone through, latest first, lie on top of the place where the root leads, and
double dots only ever take away these.
-/

namespace UiCheck.Patch

open Files

/-- The path is what a relative path denotes that is accepted below the root. -/
structure Inside (root relative path : String) : Prop where
  accepted : resolve? root relative = some path
  joined : path = join root relative
  relative : isAbsolute relative = false
  below : StrictlyBelow root path

theorem foldl_settle_of_depth? {ps : List Part} {depth : Nat} (names : List String)
    (found : depth? names.length ps = some depth) (place : List Part) :
    (ps.foldl descend names).length = depth ∧
      ps.foldl settle (names.map .name ++ place) = (ps.foldl descend names).map .name ++ place := by
  induction ps generalizing names with
  | nil => exact ⟨Option.some.inj found, rfl⟩
  | cons part ps ih =>
    cases part with
    | name text => exact ih (text :: names) found
    | here =>
      obtain ⟨length, same⟩ := ih names found
      refine ⟨length, ?_⟩
      rw [List.foldl_cons, settle, same]
      rfl
    | up =>
      cases names with
      | nil => cases found
      | cons text names => exact ih names found
    | root => cases found

/-- A relative path that stays below a root leads to the root and then to its own names. -/
theorem normalForm_join_of_depth? (root : String) {relative : String} {depth : Nat} (plain : isAbsolute relative = false)
    (found : depth? 0 (parts relative) = some depth) : (placeOf relative).length = depth ∧
      normalForm (join root relative) = normalForm root ++ (placeOf relative).map .name := by
  obtain ⟨length, same⟩ := foldl_settle_of_depth? [] found ((parts root).foldl settle [])
  rw [List.map_nil, List.nil_append] at same
  constructor
  · rw [placeOf_eq, List.length_reverse, length]
  · rw [normalForm, foldl_settle_join plain, same, List.reverse_append, placeOf_eq, List.map_reverse]
    rfl

theorem depth?_parts_of_isAbsolute {path : String} (absolute : isAbsolute path = true) (depth : Nat) :
    depth? depth (parts path) = none := by
  obtain ⟨rest, chars⟩ := List.head?_eq_some_iff.mp (beq_iff_eq.mp absolute)
  have filled : path.isEmpty = false := by
    rw [← Bool.not_eq_true, String.isEmpty_iff, ← String.toList_inj, chars]
    exact List.cons_ne_nil _ _
  simp only [parts, chars, segments_cons_slash, filled, Bool.false_eq_true, if_false, depth?]

/-- Every name leads one level down. -/
theorem depth?_of_names {ps : List Part} (names : ∀ part ∈ ps, ∃ text, part = .name text) (depth : Nat) :
    depth? depth ps = some (depth + ps.length) := by
  induction ps generalizing depth with
  | nil => rfl
  | cons part ps ih =>
    obtain ⟨text, rfl⟩ := names part (List.mem_cons_self ..)
    rw [depth?, ih fun other member => names other (List.mem_cons_of_mem _ member), List.length_cons]
    congr 1
    omega

theorem exists_depth_of_resolve? {root relative path : String} (accepted : resolve? root relative = some path) :
    path = join root relative ∧ ∃ depth, depth? 0 (parts relative) = some depth ∧ 0 < depth := by
  rw [resolve?] at accepted
  split at accepted
  · next inside =>
    cases accepted
    rw [staysInside] at inside
    split at inside
    · next depth found => exact ⟨rfl, depth, found, of_decide_eq_true inside⟩
    · cases inside
  · cases accepted

theorem inside_of_resolve? {root relative path : String} (accepted : resolve? root relative = some path) :
    Inside root relative path := by
  obtain ⟨joined, depth, found, positive⟩ := exists_depth_of_resolve? accepted
  have plain : isAbsolute relative = false := by
    rw [← Bool.not_eq_true]
    intro absolute
    rw [depth?_parts_of_isAbsolute absolute] at found
    cases found
  obtain ⟨length, normal⟩ := normalForm_join_of_depth? root plain found
  rw [← joined] at normal
  refine ⟨accepted, joined, plain, placeOf relative, ?_, normal⟩
  rw [← List.length_pos_iff, length]
  exact positive

end UiCheck.Patch

namespace UiCheck.Patch

open Files

/-- The update asks for the edit: for its own file, or for a directory on the way to it. -/
def Asks (root : String) (update : FileUpdate) (edit : Edit) : Prop :=
  ∃ target, resolve? root update.path = some target ∧
    (edit = .write target update.content.toUTF8 ∨
      ∃ above, edit = .makeDirectory above ∧ Above (parent target) above)

section

variable {ws after : Workspace} {target content : String}

/-- A write that succeeds has paved the way before. -/
theorem exists_of_writeUpdate (wrote : writeUpdate ws target content = (.ok (), after)) :
    ∃ paved middle, Paves (parent target) paved ∧ ws.Edited paved middle ∧
      middle.writeText target content = (.ok (), after) := by
  obtain ⟨paved, edited, paves⟩ := ws.exists_edited_ensureDirectory (parent target)
  rw [writeUpdate] at wrote
  rcases made : ws.ensureDirectory (parent target) with ⟨e | _, middle⟩ <;> rw [made] at edited wrote
  · cases wrote
  · exact ⟨paved, middle, paves, edited, wrote⟩

/-- A write that fails may have paved the way, and has done nothing else. -/
theorem exists_of_writeUpdate_error {e : IoError} (failed : writeUpdate ws target content = (.error e, after)) :
    ∃ paved, Paves (parent target) paved ∧ ws.Edited paved after := by
  obtain ⟨paved, edited, paves⟩ := ws.exists_edited_ensureDirectory (parent target)
  rw [writeUpdate] at failed
  rcases made : ws.ensureDirectory (parent target) with ⟨e | _, middle⟩ <;> rw [made] at edited failed
  · cases failed
    exact ⟨paved, paves, edited⟩
  · have nothing := edited.trans (Workspace.edited_of_writeText_error failed)
    rw [List.append_nil] at nothing
    exact ⟨paved, paves, nothing⟩

end

/-- How updates are applied one after the other: one that is refused is passed over, and the first write that fails is
the last. -/
inductive Applying (root : String) :
    Workspace → List String → List FileUpdate → Except Error (List String) → Workspace → Prop
  | done (ws : Workspace) (written : List String) : Applying root ws written [] (.ok written.reverse) ws
  | refused {ws last : Workspace} {written : List String} {update : FileUpdate} {updates : List FileUpdate}
      {answer : Except Error (List String)} :
      resolve? root update.path = none → Applying root ws written updates answer last →
      Applying root ws written (update :: updates) answer last
  | failed {ws last : Workspace} {written : List String} {update : FileUpdate} {updates : List FileUpdate}
      {target : String} {e : IoError} :
      resolve? root update.path = some target → writeUpdate ws target update.content = (.error e, last) →
      Applying root ws written (update :: updates) (.error (.io update.path e)) last
  | written {ws middle last : Workspace} {written : List String} {update : FileUpdate} {updates : List FileUpdate}
      {target : String} {answer : Except Error (List String)} :
      resolve? root update.path = some target → writeUpdate ws target update.content = (.ok (), middle) →
      Applying root middle (target :: written) updates answer last →
      Applying root ws written (update :: updates) answer last

theorem applying_applyFrom (root : String) (ws : Workspace) (written : List String) (updates : List FileUpdate) :
    Applying root ws written updates (applyFrom root ws written updates).1 (applyFrom root ws written updates).2 := by
  induction updates generalizing ws written with
  | nil => exact .done ws written
  | cons update updates ih =>
    rw [applyFrom]
    cases resolved : resolve? root update.path with
    | none => exact .refused resolved (ih ws written)
    | some target =>
      dsimp only
      rcases wrote : writeUpdate ws target update.content with ⟨e | _, middle⟩
      · exact .failed resolved wrote
      · exact .written resolved wrote (ih middle (target :: written))

theorem Applying.applyFrom_eq {root : String} {ws last : Workspace} {written : List String}
    {updates : List FileUpdate} {answer : Except Error (List String)}
    (applying : Applying root ws written updates answer last) : applyFrom root ws written updates = (answer, last) := by
  induction applying with
  | done => rfl
  | refused refused _ ih => simp only [applyFrom, refused, ih]
  | failed resolved failed => simp only [applyFrom, resolved, failed]
  | written resolved wrote _ ih => simp only [applyFrom, resolved, wrote, ih]

/-- How a patch ends whose edits write these files: with the list of them, or with a file that cannot be written. -/
inductive Ends (earlier files : List String) : Except Error (List String) → Prop
  | written : Ends earlier files (.ok (earlier ++ files))
  | failed (path : String) (e : IoError) : Ends earlier files (.error (.io path e))

theorem Ends.cons {earlier files : List String} {target : String} {answer : Except Error (List String)}
    (ends : Ends (earlier ++ [target]) files answer) : Ends earlier (target :: files) answer := by
  cases ends with
  | written =>
    rw [List.append_assoc]
    exact .written
  | failed path e => exact .failed path e

theorem Applying.exists_edited {root : String} {ws last : Workspace} {written : List String}
    {updates : List FileUpdate} {answer : Except Error (List String)}
    (applying : Applying root ws written updates answer last) :
    ∃ made, ws.Edited made last ∧ (∀ edit ∈ made, ∃ update ∈ updates, Asks root update edit) ∧
      Ends written.reverse (made.filterMap Edit.file?) answer := by
  induction applying with
  | done ws written =>
    have ends : Ends written.reverse [] (.ok (written.reverse ++ [])) := .written
    rw [List.append_nil] at ends
    exact ⟨[], .refl ws, fun _ member => absurd member List.not_mem_nil, ends⟩
  | refused _ _ ih =>
    obtain ⟨made, edited, asked, ends⟩ := ih
    refine ⟨made, edited, fun edit member => ?_, ends⟩
    obtain ⟨other, among, asks⟩ := asked edit member
    exact ⟨other, List.mem_cons_of_mem _ among, asks⟩
  | @failed _ _ _ update _ target _ accepted failed =>
    obtain ⟨paved, paves, edited⟩ := exists_of_writeUpdate_error failed
    refine ⟨paved, edited, fun edit member => ?_, .failed update.path _⟩
    exact ⟨update, List.mem_cons_self .., target, accepted, .inr (paves edit member)⟩
  | @written _ _ _ _ update _ target _ accepted done _ ih =>
    obtain ⟨paved, middle, paves, before, wrote⟩ := exists_of_writeUpdate done
    have first := before.trans (Workspace.edited_of_writeText wrote)
    obtain ⟨made, rest, asked, ends⟩ := ih
    rw [List.reverse_cons] at ends
    refine ⟨_, first.trans rest, fun edit member => ?_, ?_⟩
    · rcases List.mem_append.mp member with member | member
      · refine ⟨update, List.mem_cons_self .., target, accepted, ?_⟩
        rcases List.mem_append.mp member with member | own
        · exact .inr (paves edit member)
        · exact .inl (List.mem_singleton.mp own)
      · obtain ⟨other, among, asks⟩ := asked edit member
        exact ⟨other, List.mem_cons_of_mem _ among, asks⟩
    · rw [List.filterMap_append, List.filterMap_append, paves.files]
      exact ends.cons

/-- A patch makes only the edits that its accepted updates ask for, and lists the files it wrote unless one fails. -/
theorem exists_edited_apply (root : String) (ws : Workspace) (updates : List FileUpdate) :
    ∃ made, ws.Edited made (apply root ws updates).2 ∧ (∀ edit ∈ made, ∃ update ∈ updates, Asks root update edit) ∧
      Ends [] (made.filterMap Edit.file?) (apply root ws updates).1 :=
  (applying_applyFrom root ws [] updates).exists_edited

end UiCheck.Patch
