import UiCheck.Proofs.Files.Way
import UiCheck.Proofs.Patch.Apply

/-! # Accepted paths by their segments

A path is accepted below a root if it is relative and, read from its start, has led up at most as often as down at each
point and less often in the end. The depth that is counted along the path tells both. What is accepted leads from the
root to its own names, of which there is at least one.
-/

namespace UiCheck.Patch

open Files

/-- A segment that leads down: it is neither empty nor made of one or two dots. -/
def leadsDown (segment : List Char) : Bool :=
  segment ≠ [] && segment ≠ ['.'] && segment ≠ ['.', '.']

/-- How often segments lead down. -/
def downs (cut : List (List Char)) : Nat :=
  cut.countP leadsDown

/-- How often segments lead up. -/
def ups (cut : List (List Char)) : Nat :=
  cut.count ['.', '.']

/-- How a segment counts, as the part that it stands for. -/
inductive Counts : List Char → Option Part → Prop
  | aside {segment : List Char} : leadsDown segment = false → segment ≠ ['.', '.'] → Counts segment none
  | up : Counts ['.', '.'] (some .up)
  | down {segment : List Char} {text : String} :
      leadsDown segment = true → segment ≠ ['.', '.'] → Counts segment (some (.name text))

theorem counts_part? (segment : List Char) : Counts segment (part? segment) := by
  unfold part?
  split
  · exact .aside rfl (by simp)
  · exact .aside rfl (by simp)
  · exact .up
  · next filled dotless single =>
    have filled : segment ≠ [] := filled
    have dotless : segment ≠ ['.'] := dotless
    have single : segment ≠ ['.', '.'] := single
    exact .down (by simp [leadsDown, filled, dotless, single]) single

section

variable {segment : List Char} {cut : List (List Char)} {start next up down depth : Nat}

theorem counted_aside (aside : leadsDown segment = false) (other : segment ≠ ['.', '.']) (front : List (List Char)) :
    ups (segment :: front) = ups front + 0 ∧ downs (segment :: front) = downs front + 0 :=
  ⟨List.count_cons_of_ne other, List.countP_cons_of_neg (by simp [aside])⟩

theorem counted_up (front : List (List Char)) :
    ups (['.', '.'] :: front) = ups front + 1 ∧ downs (['.', '.'] :: front) = downs front + 0 :=
  ⟨List.count_cons_self, rfl⟩

theorem counted_down (leads : leadsDown segment = true) (other : segment ≠ ['.', '.']) (front : List (List Char)) :
    ups (segment :: front) = ups front + 0 ∧ downs (segment :: front) = downs front + 1 :=
  ⟨List.count_cons_of_ne other, List.countP_cons_of_pos leads⟩

/-- The depth is the balance of the segments, and at no point it was below the top. -/
def Balances (start : Nat) (cut : List (List Char)) (depth : Nat) : Prop :=
  (∀ front, front <+: cut → ups front ≤ start + downs front) ∧ depth + ups cut = start + downs cut

/-- A segment moves the start, by as much as it counts. -/
theorem balances_cons_iff
    (counted : ∀ front, ups (segment :: front) = ups front + up ∧ downs (segment :: front) = downs front + down)
    (moved : next + up = start + down) : Balances start (segment :: cut) depth ↔ Balances next cut depth := by
  have whole := counted cut
  constructor
  · rintro ⟨low, balance⟩
    refine ⟨fun front before => ?_, by omega⟩
    have longer := low (segment :: front) (List.cons_prefix_cons.mpr ⟨rfl, before⟩)
    have here := counted front
    omega
  · rintro ⟨low, balance⟩
    refine ⟨fun front before => ?_, by omega⟩
    rcases List.prefix_cons_iff.mp before with rfl | ⟨rest, rfl, shorter⟩
    · exact Nat.zero_le _
    · have shorter := low rest shorter
      have here := counted rest
      omega

theorem depth?_innerParts_eq_some_iff : depth? start (innerParts cut) = some depth ↔ Balances start cut depth := by
  induction cut generalizing start with
  | nil =>
    have none : ups [] = 0 ∧ downs [] = 0 := ⟨rfl, rfl⟩
    simp only [Balances, innerParts, List.filterMap_nil, depth?, List.prefix_nil, forall_eq, none, Option.some.injEq]
    omega
  | cons segment cut ih =>
    have counts := counts_part? segment
    rw [innerParts]
    generalize found : part? segment = part at counts
    cases counts with
    | aside aside other =>
      rw [List.filterMap_cons_none found, balances_cons_iff (counted_aside aside other) rfl]
      exact ih
    | up =>
      rw [List.filterMap_cons_some found]
      cases start with
      | zero =>
        -- the first segment alone leads above the top
        refine iff_of_false (fun found => ?_) fun balances => ?_
        · cases found
        · have first := balances.1 [['.', '.']] (List.cons_prefix_cons.mpr ⟨rfl, List.nil_prefix⟩)
          exact absurd first (by decide)
      | succ start =>
        rw [depth?, balances_cons_iff counted_up rfl]
        exact ih
    | down leads other =>
      rw [List.filterMap_cons_some found, depth?, balances_cons_iff (counted_down leads other) rfl]
      exact ih

end

variable {root path target : String}

/-- A dot at the start of a path does not count. -/
theorem depth?_parts_of_relative (relative : isAbsolute path = false) (start : Nat) :
    depth? start (parts path) = depth? start (innerParts (segments path.toList)) := by
  rcases parts_of_relative relative with same | dotted
  · rw [same]
  · rw [dotted, depth?]

theorem staysInside_iff : staysInside path = true ↔ isAbsolute path = false ∧
    (∀ front, front <+: segments path.toList → ups front ≤ downs front) ∧
      ups (segments path.toList) < downs (segments path.toList) := by
  rw [staysInside]
  cases absolute : isAbsolute path with
  | true =>
    rw [depth?_parts_of_isAbsolute absolute]
    simp
  | false =>
    have balance (depth : Nat) := @depth?_innerParts_eq_some_iff (segments path.toList) 0 depth
    rw [depth?_parts_of_relative absolute]
    constructor
    · intro inside
      split at inside
      · next depth found =>
        obtain ⟨low, reached⟩ := (balance depth).mp found
        have positive : 0 < depth := of_decide_eq_true inside
        simp only [Nat.zero_add] at low reached
        exact ⟨rfl, low, by omega⟩
      · cases inside
    · rintro ⟨_, low, less⟩
      have found := (balance (downs (segments path.toList) - ups (segments path.toList))).mpr
        ⟨by simpa using low, by omega⟩
      rw [found]
      exact decide_eq_true (by omega)

/-- A name on the way of a path is one text between slashes. -/
theorem isName_of_mem_parts {name : String} (member : .name name ∈ parts path) : IsName name := by
  have leading : .name name ∈ way path := List.mem_filter.mpr ⟨member, by simp⟩
  rw [way_eq, List.mem_append] at leading
  rcases leading with first | inner
  · split at first
    · cases List.mem_singleton.mp first
    · cases first
  · obtain ⟨segment, among, found⟩ := List.mem_filterMap.mp inner
    have chars : name.toList = segment := by
      unfold part? at found
      split at found <;> cases found
      exact String.toList_ofList
    exact ⟨chars ▸ slashless_of_mem_segments among, chars ▸ found⟩

theorem mem_or_mem_of_mem_foldl_descend {name : String} {ps : List Part} {names : List String}
    (member : name ∈ ps.foldl descend names) : name ∈ names ∨ .name name ∈ ps := by
  induction ps generalizing names with
  | nil => exact .inl member
  | cons part ps ih =>
    rcases ih member with before | later
    · cases part with
      | name text =>
        rcases List.mem_cons.mp before with rfl | before
        · exact .inr (List.mem_cons_self ..)
        · exact .inl before
      | up => exact .inl (List.mem_of_mem_tail before)
      | root | here => exact .inl before
    · exact .inr (List.mem_cons_of_mem _ later)

theorem isName_of_mem_placeOf {name : String} (member : name ∈ placeOf path) : IsName name := by
  rw [placeOf_eq, List.mem_reverse] at member
  rcases mem_or_mem_of_mem_foldl_descend member with none | named
  · cases none
  · exact isName_of_mem_parts named

/-- Below a root an accepted path leads to its own names, and there is at least one. -/
theorem normalForm_of_resolve? (accepted : resolve? root path = some target) :
    placeOf path ≠ [] ∧ normalForm target = normalForm root ++ (placeOf path).map .name := by
  obtain ⟨_, _, relative, _⟩ := inside_of_resolve? accepted
  obtain ⟨rfl, depth, found, positive⟩ := exists_depth_of_resolve? accepted
  obtain ⟨length, normal⟩ := normalForm_join_of_depth? root relative found
  refine ⟨?_, normal⟩
  rw [← List.length_pos_iff, length]
  exact positive

theorem resolve_eq_ok_iff : resolve root path = .ok target ↔ resolve? root path = some target := by
  rw [resolve]
  cases resolve? root path <;> simp

/-- A path is accepted exactly if it is relative, leads up at no point more often than down, and in the end less often;
the segments that are empty or one dot do not count. What is accepted is the path joined to the root. Its normal form
goes on from that of the root with the names that double dots have left over, and there is at least one. What is not
accepted is refused by its name. -/
theorem resolve_accepts (root path : String) :
    ((∃ target, resolve root path = .ok target) ↔
      isAbsolute path = false ∧
      (∀ front, front <+: segments path.toList → ups front ≤ downs front) ∧
      ups (segments path.toList) < downs (segments path.toList)) ∧
    (∀ target, resolve root path = .ok target →
      target = join root path ∧ placeOf path ≠ [] ∧ (∀ name ∈ placeOf path, IsName name) ∧
      normalForm target = normalForm root ++ (placeOf path).map .name) ∧
    ∀ cause, resolve root path = .error cause → cause = .unsafePath path := by
  refine ⟨?_, fun target accepted => ?_, fun cause refused => ?_⟩
  · rw [← staysInside_iff]
    simp only [resolve_eq_ok_iff, resolve?]
    split <;> simp [*]
  · have accepted := resolve_eq_ok_iff.mp accepted
    obtain ⟨filled, normal⟩ := normalForm_of_resolve? accepted
    exact ⟨(inside_of_resolve? accepted).joined, filled, fun name member => isName_of_mem_placeOf member, normal⟩
  · rw [resolve] at refused
    split at refused
    · cases refused
    · cases refused
      rfl

end UiCheck.Patch
