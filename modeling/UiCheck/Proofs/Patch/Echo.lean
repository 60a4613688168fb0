import UiCheck.Proofs.Files.Frame
import UiCheck.Proofs.Files.Listing
import UiCheck.Proofs.Patch.Apply
import UiCheck.Proofs.Patch.RoundTrip

/-! # Sending a listing back

The oracle is shown the sources in the format in which it sends files back: the listing is a patch with an empty line
in front of each block. So a listing that is sent back as it is names each file once, by a path that is accepted, and
with its text.
-/

namespace UiCheck

namespace Files

/-- The file is one of those whose text is listed. -/
def Found.isSource (found : Found) : Bool :=
  match found.node with
  | .file _ => hasExtension sourceExtensions found.name
  | _ => false

/-- The text of a file that is UTF-8. -/
def Found.text (found : Found) : String :=
  match found.node with
  | .file content => (String.fromUTF8? content).getD ""
  | _ => ""

/-- The files whose texts are listed, in the order of the listing. -/
def Disk.sourceFiles (disk : Disk) (root : String) : List Found :=
  (disk.allBelow root).filter (·.isSource)

end Files

namespace Patch

open Files Text

/-- The update that gives a file the text that it has, without blanks around it. -/
def echo (found : Found) : FileUpdate :=
  ⟨found.path, String.ofList (trim found.text.toList)⟩

/-- The file is listed with its text, and nothing of the block would be trimmed away or taken for a line or a block of
its own. -/
structure Listable (found : Found) : Prop where
  utf8 : found.node = .file found.text.toUTF8
  small : found.text.utf8ByteSize ≤ sourceLimit
  unmarked : ¬ marker <:+: found.text.toList
  path_single : '\n' ∉ found.path.toList
  path_trimmed : trim found.path.toList = found.path.toList

/-- The block of a listed file, without the empty line in front of it. -/
def listedBlock (found : Found) : Block :=
  .plain ⟨found.path, found.text⟩

/-- The characters with which a file is listed. -/
def listedChars (found : Found) : List Char :=
  LineEnd.feed.chars ++ (listedBlock found).chars

variable {disk : Disk} {root : String} {found : Found} {founds : List Found} {body prose : List Char}

theorem sourceBlock?_of_listable (source : found.isSource = true) (listable : Listable found) :
    sourceBlock? found = some ("\n" ++ renderBlock ⟨found.path, found.text⟩) := by
  have named : hasExtension sourceExtensions found.name = true := by
    rw [Found.isSource, listable.utf8] at source
    exact source
  have fits : ¬ sourceLimit < found.text.toUTF8.size := Nat.not_lt.mpr listable.small
  have opened : "\n--- FILE: " = "\n" ++ "--- FILE: " := by decide
  rw [sourceBlock?, listable.utf8]
  simp only [named, fits, Disk.textOf_toUTF8, Bool.not_true, Bool.false_eq_true, if_false, renderBlock, opened,
    toString, String.append_assoc]

theorem sourceBlock?_of_not_isSource (other : ¬ found.isSource = true) : sourceBlock? found = none := by
  rw [sourceBlock?]
  split
  · next content file =>
    have named : hasExtension sourceExtensions found.name = false := by
      rw [Found.isSource, file] at other
      exact Bool.eq_false_iff.mpr other
    rw [named]
    rfl
  · rfl

/-- The listing is made of the blocks of the files. -/
theorem toList_join_sourceBlocks (listable : ∀ found ∈ founds.filter (·.isSource), Listable found) :
    (String.join (founds.filterMap sourceBlock?)).toList = (founds.filter (·.isSource)).flatMap listedChars := by
  induction founds with
  | nil => rfl
  | cons found founds ih =>
    by_cases source : found.isSource = true
    · rw [List.filter_cons_of_pos source] at listable ⊢
      obtain ⟨first, rest⟩ := List.forall_mem_cons.mp listable
      have chars : ("\n" ++ renderBlock ⟨found.path, found.text⟩).toList = listedChars found := by
        rw [String.toList_append, toList_renderBlock]
        rfl
      rw [List.filterMap_cons_some (sourceBlock?_of_listable source first), String.toList_join, List.flatMap_cons,
        List.flatMap_cons, chars, ← ih rest, String.toList_join]
    · rw [List.filter_cons_of_neg source] at listable ⊢
      rw [List.filterMap_cons_none (sourceBlock?_of_not_isSource source), ih listable]

theorem not_marker_infix_feed (absent : ¬ marker <:+: body) : ¬ marker <:+: body ++ LineEnd.feed.chars := by
  rw [infix_append_of_disjoint marker_ne_nil LineEnd.feed.not_mem_marker]
  exact absent

/-- A text is cut off in front of the next block, with the line feeds behind it. -/
theorem exists_cutBody_listed (absent : ¬ marker <:+: body) (founds : List Found) :
    ∃ blanks, (∀ c ∈ blanks, Text.isBlank c = true) ∧
      (cutBody (body ++ founds.flatMap listedChars)).1 = body ++ blanks := by
  cases founds with
  | nil =>
    refine ⟨[], nofun, ?_⟩
    rw [List.flatMap_nil, List.append_nil, cutBody_of_unmarked absent]
  | cons found founds =>
    obtain ⟨tail, starts⟩ := marker_prefix_headerLine found.path.toList .feed
    have split : body ++ (found :: founds).flatMap listedChars = (body ++ LineEnd.feed.chars) ++
        (marker ++ (tail ++ (found.text.toList ++ LineEnd.feed.chars) ++ founds.flatMap listedChars)) := by
      simp only [List.flatMap_cons, listedChars, listedBlock, Block.chars, Block.plain, ← starts, List.append_assoc]
    refine ⟨LineEnd.feed.chars, LineEnd.feed.isBlank, ?_⟩
    rw [split, cutBody_append (not_marker_infix_feed absent)]

/-- Behind any prose without the marker, the blocks of a listing hold the files with their texts. -/
theorem holds_of_listed (absent : ¬ marker <:+: prose) (founds : List Found)
    (listable : ∀ found ∈ founds, Listable found) : Holds (prose ++ founds.flatMap listedChars) (founds.map echo) := by
  induction founds generalizing prose with
  | nil =>
    rw [List.flatMap_nil, List.append_nil]
    exact .prose (findHeader?_eq_none absent)
  | cons found founds ih =>
    obtain ⟨first, rest⟩ := List.forall_mem_cons.mp listable
    let body := found.text.toList ++ LineEnd.feed.chars
    have unmarked : ¬ marker <:+: body := not_marker_infix_feed first.unmarked
    have header : findHeader? (prose ++ (found :: founds).flatMap listedChars) =
        some (found.path.toList, body ++ founds.flatMap listedChars) := by
      rw [← findHeader?_append (not_marker_infix_feed absent) first.path_single .feed]
      simp only [List.flatMap_cons, listedChars, listedBlock, Block.chars, Block.plain, body, List.append_assoc]
    obtain ⟨blanks, blank, cut⟩ := exists_cutBody_listed unmarked founds
    have held := Holds.block header (ih unmarked rest).cutBody
    rwa [cut, trim_append_of_blank _ blank, trim_append_of_blank _ LineEnd.feed.isBlank, first.path_trimmed,
      String.ofList_toList] at held

theorem toList_allSources (listable : ∀ found ∈ disk.sourceFiles root, Listable found) :
    (allSources disk root).toList = (disk.sourceFiles root).flatMap listedChars :=
  toList_join_sourceBlocks listable

/-- What is found below a directory of a tree has a path that is accepted. -/
theorem resolve?_path (named : disk.tree.WellNamed) (member : found ∈ disk.allBelow root) (base : String) :
    resolve? base found.path = some (join base found.path) := by
  obtain ⟨filled, proper⟩ := Disk.names_of_mem_allBelow named member
  have names : ∀ part ∈ parts found.path, ∃ text, part = .name text := by
    rw [parts_path filled proper]
    intro part among
    obtain ⟨name, _, rfl⟩ := List.mem_map.mp among
    exact ⟨name, rfl⟩
  have deep : 0 < (parts found.path).length := by
    rw [parts_path filled proper, List.length_map, List.length_reverse]
    exact List.length_pos_iff.mpr filled
  have inside : staysInside found.path = true := by
    rw [staysInside, depth?_of_names names, Nat.zero_add]
    exact decide_eq_true deep
  rw [resolve?, if_pos inside]

/-- A listing of sources that is sent back as it is names each file that was listed once and in its order, by its path,
which is accepted below any root, and with the text that it has but for blanks around it. -/
theorem parse?_sources (disk : Disk) (root : String) (named : disk.tree.WellNamed)
    (listable : ∀ found ∈ disk.sourceFiles root, Listable found)
    (short : (allSources disk root).length ≤ listingLimit) :
    parse? (sources disk root) = some ((disk.sourceFiles root).map echo) ∧
    ((disk.sourceFiles root).map (·.path)).Nodup ∧
    ∀ found ∈ disk.sourceFiles root, resolve? root found.path = some (join root found.path) := by
  have chars : (sources disk root).toList = (disk.sourceFiles root).flatMap listedChars := by
    rw [sources, truncate, if_pos short, toList_allSources listable]
  refine ⟨?_, ?_, fun found member => ?_⟩
  · have holds := holds_of_listed not_marker_infix_nil (disk.sourceFiles root) listable
    rw [List.nil_append, ← chars] at holds
    refine parse?_eq_some_of_holds holds fun none => ?_
    rw [chars, List.map_eq_nil_iff.mp none]
    rfl
  · exact (Disk.nodup_path_allBelow named root).sublist (List.filter_sublist.map _)
  · exact resolve?_path named (List.mem_filter.mp member).1 root

/-- A disk with two sources, a picture, and what was installed. -/
def pagesDisk : Disk where
  tree := .directory [("a.css", .file "\n".toUTF8),
    ("app", .directory [("logo.svg", .file "<svg/>".toUTF8), ("page.tsx", .file "--- FILE\n".toUTF8)]),
    ("node_modules", .directory [("index.js", .file "".toUTF8)])]
  start := []

/-- The two sources of the disk. -/
def pages : List Found :=
  [⟨["a.css"], .file "\n".toUTF8⟩, ⟨["page.tsx", "app"], .file "--- FILE\n".toUTF8⟩]

theorem wellNamed_pagesDisk : pagesDisk.tree.WellNamed := by
  refine .directory (by decide) (by decide +kernel) ?_
  simp only [List.forall_mem_cons]
  refine ⟨.file _, .directory (by decide) (by decide +kernel) ?_, .directory (by decide) (by decide +kernel) ?_, nofun⟩
  · simp only [List.forall_mem_cons]
    exact ⟨.file _, .file _, nofun⟩
  · simp only [List.forall_mem_cons]
    exact ⟨.file _, nofun⟩

theorem sourceFiles_pagesDisk : pagesDisk.sourceFiles "/" = pages := by
  have way : steps "/" = [.root] := by decide +kernel
  have there : pagesDisk.node "/" = .ok pagesDisk.tree := by
    rw [Disk.node, Disk.locate_eq (by decide +kernel), way]
    simp only [walk]
    rfl
  have outer (css app modules : Node) : byName [("a.css", css), ("app", app), ("node_modules", modules)] =
      [("a.css", css), ("app", app), ("node_modules", modules)] := by
    have strict : ["a.css", "app", "node_modules"].Pairwise (Text.bytes · < Text.bytes ·) := by decide +kernel
    exact byName_eq_of_perm (.refl _) strict
  have inner (logo page : Node) : byName [("logo.svg", logo), ("page.tsx", page)] =
      [("logo.svg", logo), ("page.tsx", page)] := by
    have strict : ["logo.svg", "page.tsx"].Pairwise (Text.bytes · < Text.bytes ·) := by decide +kernel
    exact byName_eq_of_perm (.refl _) strict
  have height : pagesDisk.tree.height = 3 := rfl
  rw [Disk.sourceFiles, Disk.allBelow, there]
  dsimp only
  rw [height, pagesDisk]
  simp only [walkNode_directory, outer, inner, List.tail_cons, List.flatMap_cons, walkEntry]
  rfl

theorem text_of_file {names : List String} {text : String} : Found.text ⟨names, .file text.toUTF8⟩ = text := by
  have back := Disk.textOf_toUTF8 text
  rw [Disk.textOf] at back
  split at back
  · next read =>
    have same : Found.text ⟨names, .file text.toUTF8⟩ = (String.fromUTF8? text.toUTF8).getD "" := rfl
    rw [same, read]
    exact Except.ok.inj back
  · cases back

theorem listable_pages : ∀ found ∈ pages, Listable found := by
  have listable (names : List String) (text : String)
      (plain : text.utf8ByteSize ≤ sourceLimit ∧ ¬ marker <:+: text.toList ∧
        '\n' ∉ ("/".intercalate names.reverse).toList ∧
        trim ("/".intercalate names.reverse).toList = ("/".intercalate names.reverse).toList) :
      Listable ⟨names, .file text.toUTF8⟩ := by
    obtain ⟨small, unmarked, single, trimmed⟩ := plain
    refine ⟨?_, ?_, ?_, single, trimmed⟩ <;> rw [text_of_file]
    · exact small
    · exact unmarked
  rw [pages]
  simp only [List.forall_mem_cons]
  exact ⟨listable _ _ (by decide +kernel), listable _ _ (by decide +kernel), nofun⟩

/-- A text that is blank and one that begins like a header come back. -/
theorem parse?_sources_pages :
    (pagesDisk.tree.WellNamed ∧ (∀ found ∈ pagesDisk.sourceFiles "/", Listable found) ∧
      (allSources pagesDisk "/").length ≤ listingLimit) ∧
    parse? (sources pagesDisk "/") = some [⟨"a.css", ""⟩, ⟨"app/page.tsx", "--- FILE"⟩] := by
  have listable : ∀ found ∈ pagesDisk.sourceFiles "/", Listable found := by
    rw [sourceFiles_pagesDisk]
    exact listable_pages
  have short : (allSources pagesDisk "/").length ≤ listingLimit := by
    rw [← String.length_toList, toList_allSources listable, sourceFiles_pagesDisk]
    simp only [pages, List.flatMap_cons, listedChars, listedBlock, text_of_file]
    decide +kernel
  refine ⟨⟨wellNamed_pagesDisk, listable, short⟩, ?_⟩
  have parsed := (parse?_sources pagesDisk "/" wellNamed_pagesDisk listable short).1
  rw [parsed, sourceFiles_pagesDisk]
  simp only [pages, List.map_cons, List.map_nil, echo, text_of_file]
  decide +kernel

end Patch

end UiCheck
