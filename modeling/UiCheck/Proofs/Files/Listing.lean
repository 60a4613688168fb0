import Mathlib.Data.List.Nodup
import UiCheck.Files.Listing
import UiCheck.Proofs.Files.Frame
import UiCheck.Proofs.Files.Way
import UiCheck.Proofs.Text.Search

/-! # What a walk finds

A walk goes through a directory in the order of the bytes of the names, however its entries lie. In a tree as disks
have it each directory has names without slashes and dots, and each of them once. Then what a walk finds lies below
where it started, and nothing is found twice: the path of what is found goes through the names that lead to it, so
different things have different paths.
-/

namespace UiCheck.Files

/-- The entries of every directory have proper names, and no name stands twice. -/
inductive Node.WellNamed : Node → Prop
  | file (content : ByteArray) : WellNamed (.file content)
  | link (target : String) : WellNamed (.link target)
  | directory {entries : Entries} : (entries.map (·.1)).Nodup → (∀ entry ∈ entries, IsName entry.1) →
      (∀ entry ∈ entries, WellNamed entry.2) → WellNamed (.directory entries)

variable {levels : Nat} {names : List String} {entries : Entries} {entry : String × Node} {node : Node} {found : Found}

theorem Node.WellNamed.get? {tree : Node} {place : List String} (named : tree.WellNamed)
    (there : tree.get? place = some node) : node.WellNamed := by
  induction place generalizing tree with
  | nil =>
    cases there
    exact named
  | cons name place ih =>
    obtain ⟨entries, below, rfl, found, rest⟩ := Node.exists_of_get?_cons there
    cases named with
    | directory _ _ inner =>
      obtain ⟨front, back, rfl, _⟩ := List.lookup_eq_some_iff.mp found
      exact ih (inner (name, below) (List.mem_append_right _ (List.mem_cons_self ..))) rest

/-! ## The order of the bytes -/

theorem bytes_inj {s t : String} (same : Text.bytes s = Text.bytes t) : s = t := by
  rw [Text.bytes, Text.bytes] at same
  exact String.toByteArray_inj.mp (ByteArray.ext (Array.toList_inj.mp same))

section

variable {α β : Type} {named : List (String × α)}

theorem perm_byName (named : List (String × α)) : (byName named).Perm named :=
  List.mergeSort_perm ..

@[simp] theorem byName_singleton (entry : String × α) : byName [entry] = [entry] :=
  List.mergeSort_singleton entry

@[simp] theorem mem_byName {entry : String × α} : entry ∈ byName named ↔ entry ∈ named :=
  (perm_byName named).mem_iff

theorem precedes_iff {entry later : String × α} :
    precedes entry later = true ↔ Text.bytes entry.1 ≤ Text.bytes later.1 :=
  decide_eq_true_iff

theorem precedes_trans (entry middle later : String × α) (first : precedes entry middle = true)
    (second : precedes middle later = true) : precedes entry later = true :=
  precedes_iff.mpr (List.le_trans (precedes_iff.mp first) (precedes_iff.mp second))

theorem precedes_total (entry later : String × α) : (precedes entry later || precedes later entry) = true := by
  rw [Bool.or_eq_true, precedes_iff, precedes_iff]
  exact List.le_total ..

theorem pairwise_byName (named : List (String × α)) :
    (byName named).Pairwise fun entry later => Text.bytes entry.1 ≤ Text.bytes later.1 :=
  (List.pairwise_mergeSort precedes_trans precedes_total named).imp precedes_iff.mp

/-- Names that stand once come in strict order. -/
theorem strict_byName (distinct : (named.map (·.1)).Nodup) :
    (byName named).Pairwise fun entry later => Text.bytes entry.1 < Text.bytes later.1 := by
  have apart : ((byName named).map (·.1)).Nodup := ((perm_byName named).map _).nodup_iff.mpr distinct
  refine (pairwise_byName named).imp₂ (fun entry later before different => ?_) (List.pairwise_map.mp apart)
  exact (List.le_iff_lt_or_eq.mp before).resolve_right (mt bytes_inj different)

/-- What is in strict order by its names is how it is sorted. -/
theorem byName_eq_of_perm {sorted : List (String × α)} (same : named.Perm sorted)
    (strict : (sorted.map (·.1)).Pairwise fun name later => Text.bytes name < Text.bytes later) :
    byName named = sorted := by
  have distinct : (sorted.map (·.1)).Nodup := by
    refine strict.imp fun less => ?_
    rintro rfl
    exact List.lt_irrefl _ less
  rw [List.pairwise_map] at strict
  refine ((perm_byName named).trans same).eq_of_pairwise (fun _ _ _ _ before after => ?_)
    (strict_byName ((same.map _).nodup_iff.mpr distinct)) strict
  exact absurd after (List.lt_asymm before)

/-- Names keep their order whatever they stand for. -/
theorem byName_map (f : String × α → β) (named : List (String × α)) :
    byName (named.map fun entry => (entry.1, f entry)) = (byName named).map fun entry => (entry.1, f entry) :=
  (List.map_mergeSort (f := fun entry : String × α => (entry.1, f entry)) fun _ _ _ _ => rfl).symm

/-- An entry comes behind those with smaller names, and before all others. -/
theorem exists_byName_cons (entry : String × α) (rest : List (String × α)) : ∃ front back,
    byName (entry :: rest) = front ++ entry :: back ∧ byName rest = front ++ back ∧
      (∀ other ∈ front, ¬ Text.bytes entry.1 ≤ Text.bytes other.1) ∧
      ∀ other ∈ back, Text.bytes entry.1 ≤ Text.bytes other.1 := by
  obtain ⟨front, back, whole, others, before⟩ := List.mergeSort_cons precedes_trans precedes_total entry rest
  have sorted := pairwise_byName (entry :: rest)
  rw [byName, whole, List.pairwise_append, List.pairwise_cons] at sorted
  refine ⟨front, back, whole, others, fun other among smaller => ?_, sorted.2.1.1⟩
  have after := before other among
  rw [precedes_iff.mpr smaller] at after
  cases after

/-- An entry between those with smaller names and all others is where it belongs. -/
theorem byName_cons_of_split {entry : String × α} {rest front back : List (String × α)}
    (others : byName rest = front ++ back) (before : ∀ other ∈ front, ¬ Text.bytes entry.1 ≤ Text.bytes other.1)
    (behind : ∀ other ∈ back, Text.bytes entry.1 ≤ Text.bytes other.1) :
    byName (entry :: rest) = front ++ entry :: back := by
  obtain ⟨front', back', whole, others', before', behind'⟩ := exists_byName_cons entry rest
  -- the others behind the entry are those with names that are no smaller
  have cut {front back : List (String × α)} (before : ∀ other ∈ front, ¬ Text.bytes entry.1 ≤ Text.bytes other.1)
      (behind : ∀ other ∈ back, Text.bytes entry.1 ≤ Text.bytes other.1) :
      (front ++ back).filter (Text.bytes entry.1 ≤ Text.bytes ·.1) = back := by
    rw [List.filter_append, List.filter_eq_nil_iff.mpr (by simpa using before),
      List.filter_eq_self.mpr (by simpa using behind), List.nil_append]
  have same : front' ++ back' = front ++ back := others'.symm.trans others
  obtain rfl : back' = back := by rw [← cut before' behind', same, cut before behind]
  rw [whole, List.append_cancel_right same]

/-- What comes of entries that keep their names or are dropped is in the order of the entries. -/
theorem byName_flatMap {f : String × α → List (String × β)} (keeps : ∀ entry, ((f entry).map (·.1)).Sublist [entry.1])
    (named : List (String × α)) : byName (named.flatMap f) = (byName named).flatMap f := by
  have name {entry : String × α} {made : String × β} (member : made ∈ f entry) : made.1 = entry.1 :=
    List.mem_singleton.mp ((keeps entry).mem (List.mem_map_of_mem member))
  induction named with
  | nil => simp only [List.flatMap_nil, byName, List.mergeSort_nil]
  | cons entry rest ih =>
    obtain ⟨front, back, whole, others, before, behind⟩ := exists_byName_cons entry rest
    rw [others, List.flatMap_append] at ih
    rw [whole, List.flatMap_cons, List.flatMap_append, List.flatMap_cons]
    match made : f entry, keeps entry with
    | [], _ => exact ih
    | [kept], _ =>
      have own : kept.1 = entry.1 := name (made ▸ List.mem_singleton_self kept)
      refine byName_cons_of_split ih (fun other member => ?_) (fun other member => ?_)
      all_goals
        obtain ⟨source, among, inside⟩ := List.mem_flatMap.mp member
        rw [own, name inside]
      · exact before source among
      · exact behind source among
    | _ :: _ :: _, short => exact absurd short.length_le (by simp)

end

/-! ## Walks -/

theorem walkEntries_eq (levels : Nat) (names : List String) (entries : Entries) :
    walkEntries levels names entries = entries.map fun entry => (entry.1, walkEntry levels names entry) := by
  induction entries with
  | nil => rw [walkEntries, List.map_nil]
  | cons entry rest ih => rw [walkEntries, ih, List.map_cons]

@[simp] theorem walkNode_file (levels : Nat) (names : List String) (content : ByteArray) :
    walkNode levels names (.file content) = [⟨names, .file content⟩] := by
  rw [walkNode]

@[simp] theorem walkNode_link (levels : Nat) (names : List String) (target : String) :
    walkNode levels names (.link target) = [⟨names, .link target⟩] := by
  rw [walkNode]

/-- A walk through a directory goes into its entries by their names. -/
@[simp] theorem walkNode_directory (levels : Nat) (names : List String) (entries : Entries) :
    walkNode levels names (.directory entries) =
      ⟨names, .directory entries⟩ :: (byName entries).flatMap (walkEntry levels names) := by
  rw [walkNode, walkEntries_eq, byName_map, List.flatMap_map]

/-- A walk begins where it starts. -/
theorem walkNode_eq (levels : Nat) (names : List String) (node : Node) :
    walkNode levels names node = ⟨names, node⟩ :: (walkNode levels names node).tail := by
  cases node <;> simp

/-- An entry is left out, or the walk goes on under its name. -/
theorem walkEntry_cases (levels : Nat) (names : List String) (entry : String × Node) :
    walkEntry levels names entry = [] ∨ ∃ less, walkEntry levels names entry = walkNode less (entry.1 :: names) entry.2 := by
  cases levels with
  | zero =>
    rw [walkEntry]
    exact .inl rfl
  | succ levels =>
    rw [walkEntry]
    split
    · exact .inl rfl
    · exact .inr ⟨levels, rfl⟩

theorem exists_of_mem_walkEntry (member : found ∈ walkEntry levels names entry) :
    ∃ less, found ∈ walkNode less (entry.1 :: names) entry.2 := by
  rcases walkEntry_cases levels names entry with none | ⟨less, same⟩
  · rw [none] at member
    cases member
  · exact ⟨less, same ▸ member⟩

/-- What is found lies below where the walk started. -/
theorem exists_names_of_mem_walkNode (named : node.WellNamed) (member : found ∈ walkNode levels names node) :
    ∃ more, found.names = more ++ names ∧ ∀ name ∈ more, IsName name := by
  induction named generalizing levels names with
  | file | link =>
    simp only [walkNode_file, walkNode_link, List.mem_singleton] at member
    subst member
    exact ⟨[], rfl, nofun⟩
  | directory _ proper _ ih =>
    rw [walkNode_directory, List.mem_cons, List.mem_flatMap] at member
    rcases member with rfl | ⟨entry, among, inside⟩
    · exact ⟨[], rfl, nofun⟩
    · rw [mem_byName] at among
      obtain ⟨less, inside⟩ := exists_of_mem_walkEntry inside
      obtain ⟨more, same, all⟩ := ih entry among inside
      refine ⟨more ++ [entry.1], by rw [same, List.append_assoc, List.singleton_append], fun name listed => ?_⟩
      rcases List.mem_append.mp listed with listed | listed
      · exact all name listed
      · rw [List.mem_singleton.mp listed]
        exact proper entry among

theorem exists_names_of_mem_walkEntry (named : entry.2.WellNamed) (member : found ∈ walkEntry levels names entry) :
    ∃ more, found.names = more ++ entry.1 :: names := by
  obtain ⟨less, inside⟩ := exists_of_mem_walkEntry member
  obtain ⟨more, same, _⟩ := exists_names_of_mem_walkNode named inside
  exact ⟨more, same⟩

/-- What is found under one name is not found under another one. -/
theorem disjoint_walkEntry {other : String × Node} (named : entry.2.WellNamed) (named' : other.2.WellNamed)
    (apart : entry.1 ≠ other.1) :
    List.Disjoint ((walkEntry levels names entry).map (·.names)) ((walkEntry levels names other).map (·.names)) := by
  intro place here there
  obtain ⟨found, inside, rfl⟩ := List.mem_map.mp here
  obtain ⟨found', inside', same⟩ := List.mem_map.mp there
  obtain ⟨more, split⟩ := exists_names_of_mem_walkEntry named inside
  obtain ⟨more', split'⟩ := exists_names_of_mem_walkEntry named' inside'
  -- counted from the start of the walk both names stand at the same place
  have turned := congrArg List.reverse (split'.symm.trans (same.trans split))
  simp only [List.reverse_append, List.reverse_cons, List.append_assoc] at turned
  exact apart (List.cons.inj (List.append_cancel_left turned)).1.symm

/-- Nothing is found twice. -/
theorem nodup_walkNode (named : node.WellNamed) : ((walkNode levels names node).map (·.names)).Nodup := by
  induction named generalizing levels names with
  | file | link => simp
  | directory distinct proper inner ih =>
    have distinct : ((byName _).map (·.1)).Nodup := ((perm_byName _).map _).nodup_iff.mpr distinct
    rw [walkNode_directory, List.map_cons, List.nodup_cons, List.map_flatMap, List.nodup_flatMap]
    refine ⟨fun again => ?_, fun entry among => ?_, ?_⟩
    · obtain ⟨entry, among, inside⟩ := List.mem_flatMap.mp again
      rw [mem_byName] at among
      obtain ⟨found, inside, same⟩ := List.mem_map.mp inside
      obtain ⟨more, split⟩ := exists_names_of_mem_walkEntry (inner entry among) inside
      have lengths := congrArg List.length (same.symm.trans split)
      rw [List.length_append, List.length_cons] at lengths
      exact absurd lengths (by dsimp only; omega)
    · rcases walkEntry_cases levels names entry with none | ⟨less, same⟩
      · rw [none]
        exact List.nodup_nil
      · rw [same]
        exact ih entry (mem_byName.mp among)
    · refine (List.pairwise_map.mp distinct).imp_of_mem fun first second apart => ?_
      exact disjoint_walkEntry (inner _ (mem_byName.mp first)) (inner _ (mem_byName.mp second)) apart

/-! ## Paths -/

/-- A path is made of the names that lead to what was found. -/
theorem segments_path (filled : found.names ≠ []) (proper : ∀ name ∈ found.names, IsName name) :
    segments found.path.toList = found.names.reverse.map String.toList := by
  have slash : "/".toList = ['/'] := by decide
  rw [Found.path, String.toList_intercalate, slash, segments_intercalate]
  · rw [Ne, List.map_eq_nil_iff, List.reverse_eq_nil_iff]
    exact filled
  · intro segment member
    obtain ⟨name, among, rfl⟩ := List.mem_map.mp member
    exact (proper name (List.mem_reverse.mp among)).slashless

theorem parts_path (filled : found.names ≠ []) (proper : ∀ name ∈ found.names, IsName name) :
    parts found.path = found.names.reverse.map .name := by
  have cut := segments_path filled proper
  obtain ⟨first, rest, turned⟩ := List.exists_cons_of_ne_nil (mt List.reverse_eq_nil_iff.mp filled)
  have proper (name : String) (member : name ∈ first :: rest) : IsName name :=
    proper name (List.mem_reverse.mp (turned ▸ member))
  have plain := proper first (List.mem_cons_self ..)
  rw [turned, List.map_cons] at cut
  have some : found.path.isEmpty = false := by
    rw [← Bool.not_eq_true, String.isEmpty_iff]
    intro empty
    rw [empty] at cut
    exact plain.ne_nil (List.cons.inj cut).1.symm
  have dotless : first.toList ≠ ['.'] := by
    intro dot
    have named := plain.named
    rw [dot] at named
    cases named
  have names : (rest.map String.toList).filterMap part? = rest.map .name := by
    rw [List.filterMap_map, ← List.filterMap_eq_map]
    exact List.filterMap_congr fun name member => (proper name (List.mem_cons_of_mem _ member)).named
  rw [parts_of_segments some cut, leading_eq plain.ne_nil dotless, plain.named, names, turned]
  rfl

namespace Disk

variable {disk : Disk} {path : String}

/-- What a path leads to has proper names as all the disk has. -/
theorem wellNamed_of_node (named : disk.tree.WellNamed) (there : disk.node path = .ok node) : node.WellNamed := by
  obtain ⟨place, located⟩ := exists_locate_of_node there
  exact named.get? (arrives_of_locate located).get?

/-- What is below a directory is not the directory itself, and has proper names. -/
theorem allBelow_spec (named : disk.tree.WellNamed) (path : String) :
    ([] :: (disk.allBelow path).map (·.names)).Nodup ∧
      ∀ found ∈ disk.allBelow path, ∀ name ∈ found.names, IsName name := by
  rw [allBelow]
  split
  · next node there =>
    have whole := wellNamed_of_node named there
    have distinct : ((walkNode node.height [] node).map (·.names)).Nodup := nodup_walkNode whole
    refine ⟨?_, fun found member => ?_⟩
    · rwa [walkNode_eq, List.map_cons] at distinct
    · obtain ⟨more, same, proper⟩ := exists_names_of_mem_walkNode whole (List.mem_of_mem_tail member)
      rwa [same, List.append_nil]
  · exact ⟨List.nodup_singleton _, nofun⟩

theorem names_of_mem_allBelow (named : disk.tree.WellNamed) (member : found ∈ disk.allBelow path) :
    found.names ≠ [] ∧ ∀ name ∈ found.names, IsName name := by
  obtain ⟨distinct, proper⟩ := allBelow_spec named path
  refine ⟨fun empty => (List.nodup_cons.mp distinct).1 ?_, proper found member⟩
  rw [← empty]
  exact List.mem_map_of_mem member

/-- No two things below a directory have the same path. -/
theorem nodup_path_allBelow (named : disk.tree.WellNamed) (path : String) :
    ((disk.allBelow path).map (·.path)).Nodup := by
  have distinct := (List.nodup_cons.mp (allBelow_spec named path).1).2
  have split : (disk.allBelow path).map (·.path) =
      ((disk.allBelow path).map (·.names)).map fun names => "/".intercalate names.reverse := by
    rw [List.map_map]
    rfl
  rw [split]
  refine distinct.map_on fun names here names' there same => ?_
  obtain ⟨found, member, rfl⟩ := List.mem_map.mp here
  obtain ⟨found', member', rfl⟩ := List.mem_map.mp there
  obtain ⟨filled, proper⟩ := names_of_mem_allBelow named member
  obtain ⟨filled', proper'⟩ := names_of_mem_allBelow named member'
  have cut := congrArg (segments ∘ String.toList) same
  have turned : found.names.reverse.map String.toList = found'.names.reverse.map String.toList :=
    (segments_path filled proper).symm.trans (cut.trans (segments_path filled' proper'))
  exact List.reverse_inj.mp (List.map_injective_iff.mpr (fun _ _ => String.toList_injective) turned)

end Disk

end UiCheck.Files
