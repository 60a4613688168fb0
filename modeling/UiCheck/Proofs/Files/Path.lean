import UiCheck.Files.Path

/-! # Normal forms of paths

In the normal form of a path a double dot has taken away the name in front of it, and lone dots are gone. It is
found by going through the parts of the path one by one, so joining a relative path to a base goes on from where
the base leads. Only the text of a path counts; links are not looked at. A plain name that is joined to a directory
comes behind the parts of the directory. The names to which a path leads are found in the same way.
-/

namespace UiCheck.Files

/-- Goes one part further. The parts of a place are in reverse order; above the root there is nothing. -/
def settle : List Part → Part → List Part
  | place, .here => place
  | _, .root => [.root]
  | .name _ :: place, .up => place
  | .root :: place, .up => .root :: place
  | place, .up => .up :: place
  | place, .name text => .name text :: place

/-- The normal form of a path. -/
def normalForm (path : String) : List Part :=
  ((parts path).foldl settle []).reverse

/-- The normal form of the path goes on from that of the base with at least one name. -/
def StrictlyBelow (base path : String) : Prop :=
  ∃ names : List String, names ≠ [] ∧ normalForm path = normalForm base ++ names.map .name

/-- Goes one part further by names alone. The names of a place are in reverse order; above the first there is nothing. -/
def descend : List String → Part → List String
  | names, .name text => text :: names
  | names, .up => names.tail
  | names, _ => names

theorem placeOf_eq (path : String) : placeOf path = ((parts path).foldl descend []).reverse := by
  rw [placeOf, ← List.foldl_hom List.reverse, List.reverse_nil]
  intro names part
  cases part <;> simp [descend]

theorem segments_cons_slash (s : List Char) : segments ('/' :: s) = [] :: segments s := by
  rw [segments, if_pos rfl]

theorem segments_ne_nil (s : List Char) : segments s ≠ [] := by
  cases s with
  | nil => exact List.cons_ne_nil _ _
  | cons c s =>
    rw [segments]
    split
    · exact List.cons_ne_nil _ _
    · split <;> exact List.cons_ne_nil _ _

theorem segments_cons {c : Char} (other : c ≠ '/') (s : List Char) :
    ∃ first rest, segments s = first :: rest ∧ segments (c :: s) = (c :: first) :: rest := by
  obtain ⟨first, rest, cut⟩ := List.exists_cons_of_ne_nil (segments_ne_nil s)
  exact ⟨first, rest, cut, by rw [segments, if_neg other, cut]⟩

/-- Nothing between two slashes is no part. -/
theorem filterMap_segments_nil : (segments []).filterMap part? = [] :=
  List.filterMap_cons_none rfl

/-- A slash cuts a text into the segments before it and those behind it. -/
theorem segments_append_slash (s rest : List Char) : segments (s ++ '/' :: rest) = segments s ++ segments rest := by
  induction s with
  | nil => exact segments_cons_slash rest
  | cons c s ih =>
    rw [List.cons_append]
    by_cases slash : c = '/'
    · rw [slash, segments_cons_slash, segments_cons_slash, ih, List.cons_append]
    · obtain ⟨first, others, cut, whole⟩ := segments_cons slash s
      rw [whole, segments, if_neg slash, ih, cut, List.cons_append, List.cons_append]

/-- Whether a path is absolute, its parts are those of its segments, up to a dot at the start. -/
theorem foldl_settle_parts (path : String) (place : List Part) : (parts path).foldl settle place =
    ((segments path.toList).filterMap part?).foldl settle (if isAbsolute path then [.root] else place) := by
  rw [parts, isAbsolute]
  cases chars : path.toList with
  | nil =>
    have empty : path.isEmpty = true := by rw [String.isEmpty_iff, ← String.toList_inj, chars]; rfl
    rw [filterMap_segments_nil]
    simp [segments, empty]
  | cons c s =>
    have filled : path.isEmpty = false := by
      rw [← Bool.not_eq_true, String.isEmpty_iff, ← String.toList_inj, chars]
      exact List.cons_ne_nil _ _
    by_cases slash : c = '/'
    · subst slash
      simp only [segments_cons_slash, filled, Bool.false_eq_true, if_false, List.head?_cons, beq_self_eq_true, if_true]
      rfl
    · obtain ⟨first, rest, _, cut⟩ := segments_cons slash s
      have relative : ((c :: s).head? == some '/') = false := by simpa using slash
      rw [cut, relative, if_neg Bool.false_ne_true]
      split
      · next same => cases same
      · next dotted same =>
        -- the dot at the start is a part that leads nowhere
        cases same
        rfl
      · rfl

theorem isAbsolute_join {base path : String} (relative : isAbsolute path = false) :
    isAbsolute (join base path) = isAbsolute base := by
  rw [join, relative, if_neg Bool.false_ne_true]
  cases chars : base.toList with
  | nil =>
    obtain rfl : base = "" := by rw [← String.toList_inj, chars]; rfl
    rw [if_pos (Bool.or_eq_true_iff.mpr (.inl (String.isEmpty_iff.mpr rfl))), String.empty_append, relative]
    rfl
  | cons c s => split <;> simp [isAbsolute, String.toList_append, chars]

/-- Behind its start a joined path has the segments of both, up to empty ones. -/
theorem filterMap_segments_join {base path : String} (relative : isAbsolute path = false) :
    (segments (join base path).toList).filterMap part? =
      (segments base.toList).filterMap part? ++ (segments path.toList).filterMap part? := by
  rw [← List.filterMap_append, join, relative, if_neg Bool.false_ne_true]
  split
  · next ends =>
    rcases Bool.or_eq_true_iff.mp ends with empty | slash
    · obtain rfl := String.isEmpty_iff.mp empty
      rw [String.empty_append]
      rfl
    · obtain ⟨front, same⟩ : ∃ front, base.toList = front ++ ['/'] := by
        exact List.getLast?_eq_some_iff.mp (beq_iff_eq.mp slash)
      rw [String.toList_append, same, List.append_assoc, List.singleton_append, segments_append_slash,
        segments_append_slash, List.filterMap_append, List.filterMap_append, List.filterMap_append,
        filterMap_segments_nil, List.append_nil]
  · rw [String.toList_append, String.toList_append, List.append_assoc]
    exact congrArg _ (segments_append_slash _ _)

/-- Joining goes on from where the base leads. -/
theorem foldl_settle_join {base path : String} (relative : isAbsolute path = false) :
    (parts (join base path)).foldl settle [] = (parts path).foldl settle ((parts base).foldl settle []) := by
  rw [foldl_settle_parts (join base path), isAbsolute_join relative, foldl_settle_parts path, relative,
    if_neg Bool.false_ne_true, foldl_settle_parts base, ← List.foldl_append, filterMap_segments_join relative]

/-! ## Names -/

/-- A text that stands for one name of a directory. -/
structure IsName (text : String) : Prop where
  slashless : '/' ∉ text.toList
  named : part? text.toList = some (.name text)

instance (text : String) : Decidable (IsName text) :=
  decidable_of_iff ('/' ∉ text.toList ∧ part? text.toList = some (.name text))
    ⟨fun both => ⟨both.1, both.2⟩, fun proper => ⟨proper.slashless, proper.named⟩⟩

namespace IsName

variable {name : String}

theorem segments_eq {s : List Char} (slashless : '/' ∉ s) : segments s = [s] := by
  induction s with
  | nil => rfl
  | cons c s ih =>
    have other : c ≠ '/' := fun same => slashless (same ▸ List.mem_cons_self ..)
    rw [segments, if_neg other, ih fun member => slashless (List.mem_cons_of_mem _ member)]

theorem relative (plain : IsName name) : isAbsolute name = false := by
  rw [isAbsolute, beq_eq_false_iff_ne]
  intro starts
  exact plain.slashless (List.mem_of_mem_head? starts)

theorem ne_nil (plain : IsName name) : name.toList ≠ [] := by
  intro empty
  have named := plain.named
  rw [empty] at named
  cases named

theorem ne_dot (plain : IsName name) : name.toList ≠ ['.'] := by
  intro dot
  have named := plain.named
  rw [dot] at named
  cases named

end IsName

/-- The part that the first segment of a path stands for. -/
def leading (segment : List Char) : List Part :=
  match segment with
  | [] => [.root]
  | ['.'] => [.here]
  | segment => (part? segment).toList

/-- A segment that is neither empty nor a dot stands for the same part wherever it is. -/
theorem leading_eq {segment : List Char} (filled : segment ≠ []) (dotless : segment ≠ ['.']) :
    leading segment = (part? segment).toList := by
  unfold leading
  split
  · exact absurd rfl filled
  · exact absurd rfl dotless
  · rfl

theorem parts_of_segments {path : String} {first : List Char} {rest : List (List Char)}
    (filled : path.isEmpty = false) (cut : segments path.toList = first :: rest) :
    parts path = leading first ++ rest.filterMap part? := by
  rw [parts, cut]
  split
  · next same =>
    cases same
    rw [filled]
    rfl
  · next same =>
    cases same
    rfl
  · next rootless dotless =>
    have plain : leading first = (part? first).toList :=
      leading_eq (fun empty => rootless rest (by rw [empty])) (fun dot => dotless rest (by rw [dot]))
    rw [plain, List.filterMap_cons]
    cases part? first <;> rfl

/-- A relative path is joined behind a slash, which the directory may bring along. -/
theorem exists_front_of_relative {dir path : String} (filled : dir.isEmpty = false)
    (relative : isAbsolute path = false) :
    ∃ front, (join dir path).toList = front ++ '/' :: path.toList ∧
      (dir.toList = front ∨ dir.toList = front ++ ['/']) := by
  rw [join, relative, if_neg Bool.false_ne_true, filled, Bool.false_or]
  split
  · next slash =>
    obtain ⟨front, same⟩ := List.getLast?_eq_some_iff.mp (beq_iff_eq.mp slash)
    exact ⟨front, by rw [String.toList_append, same, List.append_assoc]; rfl, .inr same⟩
  · exact ⟨dir.toList, by rw [String.toList_append, String.toList_append, List.append_assoc]; rfl, .inl rfl⟩

theorem exists_front_of_join {dir name : String} (filled : dir.isEmpty = false) (plain : IsName name) :
    ∃ front, (join dir name).toList = front ++ '/' :: name.toList ∧
      (dir.toList = front ∨ dir.toList = front ++ ['/']) :=
  exists_front_of_relative filled plain.relative

theorem segments_join {front : List Char} {path name : String} (plain : IsName name)
    (chars : path.toList = front ++ '/' :: name.toList) : segments path.toList = segments front ++ [name.toList] := by
  rw [chars, segments_append_slash, IsName.segments_eq plain.slashless]

/-- The parts of a relative path in a directory are those of the directory and then its own. -/
theorem parts_join_relative {dir path : String} (filled : dir.isEmpty = false) (relative : isAbsolute path = false) :
    parts (join dir path) = parts dir ++ (segments path.toList).filterMap part? := by
  obtain ⟨front, chars, dir_chars⟩ := exists_front_of_relative filled relative
  obtain ⟨first, rest, front_cut⟩ := List.exists_cons_of_ne_nil (segments_ne_nil front)
  have cut : segments (join dir path).toList = first :: (rest ++ segments path.toList) := by
    rw [chars, segments_append_slash, front_cut, List.cons_append]
  have join_filled : (join dir path).isEmpty = false := by
    rw [← Bool.not_eq_true, String.isEmpty_iff, ← String.toList_inj, chars]
    exact List.append_ne_nil_of_right_ne_nil _ (List.cons_ne_nil _ _)
  rw [parts_of_segments join_filled cut, List.filterMap_append, ← List.append_assoc]
  congr 1
  rcases dir_chars with same | same
  · rw [parts_of_segments filled (by rw [same, front_cut])]
  · -- nothing stands behind the slash that ends the directory
    have dir_cut : segments dir.toList = first :: (rest ++ [[]]) := by
      rw [same, segments_append_slash, front_cut]
      rfl
    have none : [[]].filterMap part? = [] := rfl
    rw [parts_of_segments filled dir_cut, List.filterMap_append, none, List.append_nil]

/-- The parts of a name in a directory are those of the directory and then the name. -/
theorem parts_join {dir name : String} (filled : dir.isEmpty = false) (plain : IsName name) :
    parts (join dir name) = parts dir ++ [.name name] := by
  have named : [name.toList].filterMap part? = [.name name] := List.filterMap_cons_some plain.named
  rw [parts_join_relative filled plain.relative, IsName.segments_eq plain.slashless, named]

end UiCheck.Files
