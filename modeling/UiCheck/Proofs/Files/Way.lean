import UiCheck.Proofs.Files.Path

/-! # Ways of paths

The way of a path says where the path starts and which names it goes through: these are its parts without lone dots.
A path below a root can be shown as it looks from the root; joined to the root again, that goes the same way.
-/

namespace UiCheck.Files

/-- The parts of a path that lead on; a dot at the start leads nowhere. -/
def way (path : String) : List Part :=
  (parts path).filter (· ≠ .here)

/-- The parts that segments stand for behind the start of a path. -/
def innerParts (cut : List (List Char)) : List Part :=
  cut.filterMap part?

@[simp] theorem innerParts_append (first second : List (List Char)) :
    innerParts (first ++ second) = innerParts first ++ innerParts second :=
  List.filterMap_append ..

theorem ne_of_mem_innerParts {cut : List (List Char)} {part : Part} (member : part ∈ innerParts cut) :
    part ≠ .root ∧ part ≠ .here := by
  obtain ⟨segment, _, found⟩ := List.mem_filterMap.mp member
  unfold part? at found
  split at found <;> cases found <;> exact ⟨nofun, nofun⟩

theorem filter_ne_here_innerParts (cut : List (List Char)) : (innerParts cut).filter (· ≠ .here) = innerParts cut :=
  List.filter_eq_self.mpr fun _ member => decide_eq_true (ne_of_mem_innerParts member).2

theorem filter_ne_root_innerParts (cut : List (List Char)) : (innerParts cut).filter (· ≠ .root) = innerParts cut :=
  List.filter_eq_self.mpr fun _ member => decide_eq_true (ne_of_mem_innerParts member).1

/-- Behind its start the way of a path has the parts of its segments. -/
theorem way_eq (path : String) :
    way path = (if isAbsolute path then [.root] else []) ++ innerParts (segments path.toList) := by
  rw [way, parts, isAbsolute]
  cases chars : path.toList with
  | nil =>
    have empty : path.isEmpty = true := by rw [String.isEmpty_iff, ← String.toList_inj, chars]; rfl
    simp [segments, empty, innerParts, part?]
  | cons c s =>
    have filled : path.isEmpty = false := by
      rw [← Bool.not_eq_true, String.isEmpty_iff, ← String.toList_inj, chars]
      exact List.cons_ne_nil _ _
    by_cases slash : c = '/'
    · subst slash
      have kept := filter_ne_here_innerParts (segments s)
      rw [innerParts] at kept
      simp only [segments_cons_slash, filled, List.head?_cons, beq_self_eq_true, if_true, Bool.false_eq_true, if_false,
        innerParts]
      rw [List.filter_cons_of_pos (by decide), kept]
      rfl
    · obtain ⟨first, rest, _, cut⟩ := segments_cons slash s
      have relative : ((c :: s).head? == some '/') = false := by simpa using slash
      rw [cut, relative, if_neg Bool.false_ne_true, List.nil_append]
      split
      · next same => cases same
      · next dotted same =>
        cases same
        exact filter_ne_here_innerParts rest
      · exact filter_ne_here_innerParts _

theorem way_join {base path : String} (relative : isAbsolute path = false) :
    way (join base path) = way base ++ innerParts (segments path.toList) := by
  rw [way_eq, way_eq, isAbsolute_join relative, innerParts, filterMap_segments_join relative, List.append_assoc]
  rfl

/-! ## As a path looks from a root -/

/-- A slash at the end stands for nothing. -/
theorem innerParts_segments_slash (s : List Char) : innerParts (segments (s ++ ['/'])) = innerParts (segments s) := by
  rw [segments_append_slash s [], innerParts_append]
  exact List.append_nil _

/-- A dot behind a slash stands for nothing. -/
theorem innerParts_segments_dot (s : List Char) :
    innerParts (segments (s ++ '/' :: ['.'])) = innerParts (segments s) := by
  rw [segments_append_slash s ['.'], innerParts_append]
  exact List.append_nil _

theorem innerParts_segments_dropFillers (s : List Char) :
    innerParts (segments (dropFillers s).reverse) = innerParts (segments s.reverse) := by
  fun_induction dropFillers s with
  | case1 => rfl
  | case2 rest _ ih => rw [ih, List.reverse_cons, innerParts_segments_slash]
  | case3 rest ih =>
    rw [ih, List.reverse_cons, List.reverse_cons, List.reverse_cons, List.append_assoc, innerParts_segments_slash]
    exact (innerParts_segments_dot _).symm
  | case4 => rfl

theorem innerParts_dropParts (n : Nat) (cut : List (List Char)) :
    innerParts (dropParts n cut) = (innerParts cut).drop n := by
  fun_induction dropParts n cut with
  | case1 => rw [innerParts, List.filterMap_nil, List.drop_nil]
  | case2 segment rest none ih =>
    rw [ih, innerParts, innerParts, List.filterMap_cons_none (Option.isNone_iff_eq_none.mp none)]
  | case3 => rfl
  | case4 n segment rest none ih =>
    rw [ih, innerParts, innerParts, List.filterMap_cons_none (Option.isNone_iff_eq_none.mp none)]
  | case5 n segment rest some ih =>
    obtain ⟨part, found⟩ := Option.ne_none_iff_exists'.mp (mt Option.isNone_iff_eq_none.mpr some)
    rw [ih, innerParts, innerParts, List.filterMap_cons_some found, List.drop_succ_cons]

/-- What is left begins with a part. -/
theorem part?_of_dropParts {n : Nat} {cut : List (List Char)} {first : List Char} {rest : List (List Char)}
    (left : dropParts n cut = first :: rest) : part? first ≠ none := by
  fun_induction dropParts n cut with
  | case1 => cases left
  | case2 _ _ _ ih => exact ih left
  | case3 segment rest some =>
    cases left
    exact mt Option.isNone_iff_eq_none.mpr some
  | case4 _ _ _ _ ih => exact ih left
  | case5 _ _ _ _ ih => exact ih left

theorem mem_of_mem_dropParts {n : Nat} {cut : List (List Char)} {segment : List Char}
    (member : segment ∈ dropParts n cut) : segment ∈ cut := by
  fun_induction dropParts n cut with
  | case1 => exact member
  | case2 _ _ _ ih => exact List.mem_cons_of_mem _ (ih member)
  | case3 => exact member
  | case4 _ _ _ _ ih => exact List.mem_cons_of_mem _ (ih member)
  | case5 _ _ _ _ ih => exact List.mem_cons_of_mem _ (ih member)

theorem slashless_of_mem_segments {s segment : List Char} (member : segment ∈ segments s) : '/' ∉ segment := by
  induction s generalizing segment with
  | nil =>
    rw [List.mem_singleton.mp member]
    exact List.not_mem_nil
  | cons c s ih =>
    by_cases slash : c = '/'
    · subst slash
      rw [segments_cons_slash] at member
      rcases List.mem_cons.mp member with rfl | member
      · exact List.not_mem_nil
      · exact ih member
    · obtain ⟨first, rest, before, cut⟩ := segments_cons slash s
      rw [before] at ih
      rw [cut] at member
      rcases List.mem_cons.mp member with rfl | member
      · intro inside
        rcases List.mem_cons.mp inside with same | inside
        · exact slash same.symm
        · exact ih (List.mem_cons_self ..) inside
      · exact ih (List.mem_cons_of_mem _ member)

/-- A segment has no characters but those of the text. -/
theorem sublist_of_mem_segments {s segment : List Char} (member : segment ∈ segments s) : segment.Sublist s := by
  induction s generalizing segment with
  | nil =>
    obtain rfl := List.mem_singleton.mp member
    exact List.Sublist.refl _
  | cons c s ih =>
    by_cases slash : c = '/'
    · subst slash
      rw [segments_cons_slash] at member
      rcases List.mem_cons.mp member with rfl | member
      · exact List.nil_sublist _
      · exact (ih member).cons _
    · obtain ⟨first, rest, before, cut⟩ := segments_cons slash s
      rw [before] at ih
      rw [cut] at member
      rcases List.mem_cons.mp member with rfl | member
      · exact (ih (List.mem_cons_self ..)).cons_cons _
      · exact (ih (List.mem_cons_of_mem _ member)).cons _

/-- Segments put together with slashes are cut into the same ones again. -/
theorem segments_intercalate {cut : List (List Char)} (filled : cut ≠ [])
    (slashless : ∀ segment ∈ cut, '/' ∉ segment) : segments (['/'].intercalate cut) = cut := by
  induction cut with
  | nil => exact absurd rfl filled
  | cons first rest ih =>
    have plain := IsName.segments_eq (slashless first (List.mem_cons_self ..))
    cases rest with
    | nil =>
      rw [List.intercalate_singleton]
      exact plain
    | cons second rest =>
      have cut := ih (List.cons_ne_nil _ _) fun segment member => slashless segment (List.mem_cons_of_mem _ member)
      rw [List.intercalate_cons_cons, List.append_assoc, List.singleton_append, segments_append_slash, plain, cut,
        List.singleton_append]

/-- The text that is left of a path when parts at its start are dropped. -/
def dropped (n : Nat) (s : List Char) : String :=
  String.ofList (['/'].intercalate (dropParts n (segments s)))

theorem dropped_spec (n : Nat) (s : List Char) :
    isAbsolute (dropped n s) = false ∧
      innerParts (segments (dropped n s).toList) = (innerParts (segments s)).drop n := by
  have slashless : ∀ segment ∈ dropParts n (segments s), '/' ∉ segment := fun segment member =>
    slashless_of_mem_segments (mem_of_mem_dropParts member)
  have parted := innerParts_dropParts n (segments s)
  rw [isAbsolute, dropped, String.toList_ofList]
  cases left : dropParts n (segments s) with
  | nil =>
    rw [left] at parted
    exact ⟨rfl, parted⟩
  | cons first rest =>
    rw [left] at slashless parted
    have cut := segments_intercalate (List.cons_ne_nil first rest) slashless
    refine ⟨?_, by rw [cut, parted]⟩
    -- a slash at the start would stand behind an empty segment, which is no part
    rw [beq_eq_false_iff_ne]
    intro starts
    obtain ⟨behind, same⟩ := List.head?_eq_some_iff.mp starts
    rw [same, segments_cons_slash] at cut
    have empty := part?_of_dropParts left
    rw [← (List.cons.inj cut).1] at empty
    exact empty rfl

theorem afterParts?_append (front rest : List Part) : afterParts? front (front ++ rest) = some rest := by
  induction front with
  | nil => rfl
  | cons part front ih => rw [List.cons_append, afterParts?, if_pos rfl, ih]

theorem afterParts?_join (root : String) {path : String} (relative : isAbsolute path = false) :
    (afterParts? (parts root) (parts (join root path))).isSome = true := by
  cases filled : root.isEmpty with
  | true =>
    have none : parts root = [] := by rw [String.isEmpty_iff.mp filled]; rfl
    rw [none, afterParts?, Option.isSome_some]
  | false => rw [parts_join_relative filled relative, afterParts?_append, Option.isSome_some]

/-- A path below a root that is shown from there goes the same way. -/
theorem way_join_relativeTo (root : String) {path : String} (relative : isAbsolute path = false) :
    way (join root (relativeTo root (join root path))) = way (join root path) := by
  obtain ⟨rest, below⟩ := Option.isSome_iff_exists.mp (afterParts?_join root relative)
  have named : (parts root).filter (fun part => part ≠ .root ∧ part ≠ .here) = innerParts (segments root.toList) := by
    have both : (fun part : Part => decide (part ≠ .root ∧ part ≠ .here)) =
        fun part => decide (part ≠ .root) && decide (part ≠ .here) := by
      funext part
      exact Bool.decide_and _ _
    have whole := way_eq root
    rw [way] at whole
    rw [both, ← List.filter_filter, whole, List.filter_append, filter_ne_root_innerParts]
    split <;> rfl
  have shown : relativeTo root (join root path) =
      dropped (innerParts (segments root.toList)).length (dropFillers (join root path).toList.reverse).reverse := by
    rw [relativeTo, relativeTo?, below]
    dsimp only
    rw [named]
    rfl
  obtain ⟨inside, left⟩ := dropped_spec (innerParts (segments root.toList)).length
    (dropFillers (join root path).toList.reverse).reverse
  have joined : innerParts (segments (join root path).toList) =
      innerParts (segments root.toList) ++ innerParts (segments path.toList) := filterMap_segments_join relative
  rw [innerParts_segments_dropFillers, List.reverse_reverse, joined, List.drop_left] at left
  rw [shown, way_join inside, left, way_join relative]

/-! ## Behind and above a path -/

/-- Behind a slash the parts of a path are those of its segments. -/
theorem parts_behind_slash (s behind : List Char) :
    parts (String.ofList (s ++ '/' :: behind)) =
      parts (String.ofList (s ++ ['/'])) ++ innerParts (segments behind) := by
  obtain ⟨first, rest, cut⟩ := List.exists_cons_of_ne_nil (segments_ne_nil s)
  have parts_eq (behind : List Char) : parts (String.ofList (s ++ '/' :: behind)) =
      leading first ++ innerParts rest ++ innerParts (segments behind) := by
    have whole : segments (String.ofList (s ++ '/' :: behind)).toList = first :: (rest ++ segments behind) := by
      rw [String.toList_ofList, segments_append_slash, cut, List.cons_append]
    have filled : (String.ofList (s ++ '/' :: behind)).isEmpty = false := by
      rw [← Bool.not_eq_true, String.isEmpty_iff, ← String.toList_inj, String.toList_ofList]
      exact List.append_ne_nil_of_right_ne_nil _ (List.cons_ne_nil _ _)
    rw [parts_of_segments filled whole, List.append_assoc, ← innerParts_append, innerParts]
  have none : innerParts (segments []) = [] := rfl
  rw [parts_eq behind, parts_eq [], none, List.append_nil]

/-- A slash at the end adds no part, unless the path is nothing else. -/
theorem parts_slash {s : List Char} (filled : s ≠ []) :
    parts (String.ofList (s ++ ['/'])) = parts (String.ofList s) := by
  obtain ⟨first, rest, cut⟩ := List.exists_cons_of_ne_nil (segments_ne_nil s)
  have own : segments (String.ofList s).toList = first :: rest := by rw [String.toList_ofList, cut]
  have more : segments (String.ofList (s ++ ['/'])).toList = first :: (rest ++ [[]]) := by
    rw [String.toList_ofList, segments_append_slash, cut]
    rfl
  have filled' : (String.ofList s).isEmpty = false := by
    rw [← Bool.not_eq_true, String.isEmpty_iff, ← String.toList_inj, String.toList_ofList]
    exact filled
  have longer : (String.ofList (s ++ ['/'])).isEmpty = false := by
    rw [← Bool.not_eq_true, String.isEmpty_iff, ← String.toList_inj, String.toList_ofList]
    exact List.append_ne_nil_of_left_ne_nil filled _
  have none : [[]].filterMap part? = [] := rfl
  rw [parts_of_segments filled' own, parts_of_segments longer more, List.filterMap_append, none, List.append_nil]

theorem parts_dropFillers (s : List Char) :
    parts (String.ofList (dropFillers s).reverse) = parts (String.ofList s.reverse) := by
  fun_induction dropFillers s with
  | case1 => rfl
  | case2 rest more ih =>
    have filled : rest.reverse ≠ [] := fun empty => more (List.reverse_eq_nil_iff.mp empty)
    rw [ih, List.reverse_cons, parts_slash filled]
  | case3 rest ih =>
    have none : innerParts (segments ['.']) = [] := rfl
    rw [ih, List.reverse_cons, List.reverse_cons, List.reverse_cons, List.append_assoc, List.singleton_append,
      parts_behind_slash _ ['.'], none, List.append_nil]
  | case4 => rfl

/-- The parent of a path has the first of its parts. -/
theorem parts_parent (path : String) : parts (parent path) <+: parts path := by
  have same := parts_dropFillers path.toList.reverse
  rw [List.reverse_reverse, String.ofList_toList] at same
  rw [← same, parent]
  generalize dropFillers path.toList.reverse = body
  split
  · exact List.prefix_rfl
  · rw [parts_dropFillers]
    cases rest : body.dropWhile (· != '/') with
    | nil => exact List.nil_prefix
    | cons c front =>
      obtain rfl : c = '/' := by
        have first := List.head?_dropWhile_not (· != '/') body
        rw [rest] at first
        simpa using first
      have split : body = body.takeWhile (· != '/') ++ '/' :: front := by
        rw [← rest, List.takeWhile_append_dropWhile]
      have longer := parts_behind_slash front.reverse (body.takeWhile (· != '/')).reverse
      rw [split, List.reverse_append, List.reverse_cons, List.append_assoc, List.singleton_append, longer]
      exact List.prefix_append _ _

/-- The parts of a relative path are those of its segments, up to a dot at the start. -/
theorem parts_of_relative {path : String} (relative : isAbsolute path = false) :
    parts path = innerParts (segments path.toList) ∨ parts path = .here :: innerParts (segments path.toList) := by
  rw [isAbsolute] at relative
  cases chars : path.toList with
  | nil =>
    obtain rfl : path = "" := by rw [← String.toList_inj, chars]; rfl
    exact .inl rfl
  | cons c s =>
    have filled : path.isEmpty = false := by
      rw [← Bool.not_eq_true, String.isEmpty_iff, ← String.toList_inj, chars]
      exact List.cons_ne_nil _ _
    have other : c ≠ '/' := by
      rintro rfl
      rw [chars] at relative
      cases relative
    obtain ⟨first, rest, _, cut⟩ := segments_cons other s
    rw [← chars] at cut
    rw [parts_of_segments filled cut, ← chars, cut, innerParts]
    by_cases dot : c :: first = ['.']
    · rw [dot]
      exact .inr rfl
    · rw [leading_eq (List.cons_ne_nil _ _) dot, List.filterMap_cons]
      cases part? (c :: first) <;> exact .inl rfl

end UiCheck.Files
