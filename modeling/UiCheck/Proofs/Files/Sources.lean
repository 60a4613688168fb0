import UiCheck.Proofs.Files.Outline
import UiCheck.Proofs.Text.Search

/-! # The sources as they are listed

Behind the root of a walk stand the nodes that no name on the way leaves out, each once and in the order of the bytes of
their names. So the listing of sources has an entry for each file of code among them and for nothing else, in this
order, and what is returned is the listing or its start: `sources_list_code`.
-/

namespace UiCheck.Files

/-! ## What a listing is -/

/-- The name of a file of code: something, a dot, and one of the extensions. -/
def IsCodeName (name : String) : Prop :=
  ∃ stem extension, stem ≠ "" ∧ extension ∈ ["tsx", "ts", "jsx", "js", "css"] ∧ name = stem ++ "." ++ extension

/-- At a place below a node there is a file of code with this content, and no name that leads to it is one of those that
are left out. -/
structure Node.HasCode (root : Node) (place : List String) (content : ByteArray) : Prop where
  there : root.get? place = some (.file content)
  kept : ∀ name ∈ place, name ∉ ignoredNames
  named : ∃ above name, place = above ++ [name] ∧ IsCodeName name

/-- The entry of a file: its path and its text, only its path if it is large, and nothing if it is no text. -/
inductive Listed : List String × ByteArray → String → Prop
  | text {place : List String} {text : String} (small : text.toUTF8.size ≤ 100 * 1024) :
    Listed (place, text.toUTF8) ("\n--- FILE: " ++ "/".intercalate place ++ " ---\n" ++ text ++ "\n")
  | large {place : List String} {content : ByteArray} (above : 100 * 1024 < content.size) :
    Listed (place, content) ("\n--- FILE: " ++ "/".intercalate place ++ " (Skipped: Too Large) ---\n")
  | noText {place : List String} {content : ByteArray} (small : content.size ≤ 100 * 1024)
    (other : ∀ text : String, text.toUTF8 ≠ content) : Listed (place, content) ""

/-- A text with at most 400000 characters as it is, or the first 400000 characters of a longer one with a mark. -/
inductive Shortened : String → String → Prop
  | whole {text : String} (short : text.length ≤ 400000) : Shortened text text
  | cut {start rest : String} (full : start.length = 400000) (more : rest ≠ "") :
    Shortened (start ++ rest) (start ++ "\n...[TRUNCATED]")

variable {levels : Nat} {names place : List String} {name : String} {entries : Entries} {entry : String × Node}
  {node root : Node} {found : Found} {content : ByteArray}

/-! ## Names of files of code -/

theorem splitExtension_snd_eq_some_iff {extension : String} :
    (splitExtension name).2 = some extension ↔
      ∃ stem, stem ≠ "" ∧ '.' ∉ extension.toList ∧ name = stem ++ "." ++ extension := by
  rw [splitExtension]
  constructor
  · split
    · next c stem back cut =>
      rintro ⟨⟩
      obtain ⟨whole, dotless⟩ := Text.cutLast?_single_eq_some_iff.mp cut
      refine ⟨String.ofList (c :: stem), by simp, by rwa [String.toList_ofList], String.toList_inj.mp ?_⟩
      simp [whole]
    · nofun
  · rintro ⟨stem, filled, dotless, rfl⟩
    have cut : Text.cutLast? ['.'] (stem ++ "." ++ extension).toList = some (stem.toList, extension.toList) :=
      Text.cutLast?_single_eq_some_iff.mpr ⟨by simp, dotless⟩
    obtain ⟨c, rest, start⟩ := List.exists_cons_of_ne_nil (mt String.toList_eq_nil_iff.mp filled)
    rw [cut, start]
    exact congrArg some String.ofList_toList

theorem hasExtension_sourceExtensions_iff : hasExtension sourceExtensions name = true ↔ IsCodeName name := by
  have dotless : ∀ extension ∈ sourceExtensions, '.' ∉ extension.toList := by decide
  rw [hasExtension, Option.any_eq_true]
  constructor
  · rintro ⟨extension, split, listed⟩
    obtain ⟨stem, filled, _, whole⟩ := splitExtension_snd_eq_some_iff.mp split
    exact ⟨stem, extension, filled, List.contains_iff_mem.mp listed, whole⟩
  · rintro ⟨stem, extension, filled, listed, whole⟩
    refine ⟨extension, ?_, List.contains_iff_mem.mpr listed⟩
    exact splitExtension_snd_eq_some_iff.mpr ⟨stem, filled, dotless extension listed, whole⟩

/-! ## What the walk passes -/

theorem Node.height_pos (node : Node) : 0 < node.height := by
  cases node <;> exact Nat.succ_pos _

theorem height_le_entriesHeight (among : entry ∈ entries) : entry.2.height ≤ entriesHeight entries := by
  induction entries with
  | nil => cases among
  | cons first rest ih =>
    rw [entriesHeight, entryHeight]
    rcases List.mem_cons.mp among with rfl | later
    · exact Nat.le_max_left ..
    · exact (ih later).trans (Nat.le_max_right ..)

theorem mem_walkEntry_iff : found ∈ walkEntry (levels + 1) names entry ↔
    entry.1 ∉ ignoredNames ∧ found ∈ walkNode levels (entry.1 :: names) entry.2 := by
  rw [walkEntry]
  by_cases ignored : ignoredNames.contains entry.1 = true
  · rw [if_pos ignored]
    exact iff_of_false List.not_mem_nil fun both => both.1 (List.contains_iff_mem.mp ignored)
  · rw [if_neg ignored]
    exact (and_iff_right (mt List.contains_iff_mem.mpr ignored)).symm

/-- A walk passes what stands at places to which no name leads that is left out. -/
theorem exists_place_of_mem_walkNode (named : node.WellNamed) (member : found ∈ walkNode levels names node) :
    ∃ place, found.names = place.reverse ++ names ∧ node.get? place = some found.node ∧
      ∀ name ∈ place, name ∉ ignoredNames := by
  induction named generalizing levels names with
  | file | link =>
    rw [walkNode, List.mem_singleton] at member
    subst member
    exact ⟨[], rfl, rfl, fun _ among => absurd among List.not_mem_nil⟩
  | directory distinct _ _ ih =>
    rw [walkNode_directory, List.mem_cons, List.mem_flatMap] at member
    rcases member with rfl | ⟨entry, among, inside⟩
    · exact ⟨[], rfl, rfl, fun _ among => absurd among List.not_mem_nil⟩
    · rw [mem_byName] at among
      cases levels with
      | zero =>
        rw [walkEntry] at inside
        cases inside
      | succ levels =>
        obtain ⟨kept, inside⟩ := mem_walkEntry_iff.mp inside
        obtain ⟨place, way, there, all⟩ := ih entry among inside
        refine ⟨entry.1 :: place, by simp [way], ?_, List.forall_mem_cons.mpr ⟨kept, all⟩⟩
        rw [Node.get?_cons_directory, (lookup_eq_some_iff_mem distinct).mpr among]
        exact there

/-- A walk with enough levels passes all of them. -/
theorem mem_walkNode_of_get? (named : node.WellNamed) (deep : node.height ≤ levels + 1)
    (there : node.get? place = some found.node) (kept : ∀ name ∈ place, name ∉ ignoredNames)
    (way : found.names = place.reverse ++ names) : found ∈ walkNode levels names node := by
  induction place generalizing levels names node with
  | nil =>
    obtain rfl : names = found.names := way.symm
    cases there
    cases at_ : found.node <;> rw [walkNode, ← at_] <;> exact List.mem_cons_self ..
  | cons name place ih =>
    obtain ⟨entries, below, rfl, looked, rest⟩ := Node.exists_of_get?_cons there
    obtain ⟨first, others⟩ := List.forall_mem_cons.mp kept
    cases named with
    | directory distinct _ inner =>
      have among := (lookup_eq_some_iff_mem distinct).mp looked
      have low : below.height ≤ levels := Nat.le_trans (height_le_entriesHeight among) (Nat.le_of_succ_le_succ deep)
      rw [walkNode_directory]
      refine List.mem_cons_of_mem _ (List.mem_flatMap.mpr ⟨(name, below), mem_byName.mpr among, ?_⟩)
      cases levels with
      | zero => exact absurd low (Nat.not_le_of_lt below.height_pos)
      | succ levels => exact mem_walkEntry_iff.mpr ⟨first, ih (inner _ among) low rest others (by simp [way])⟩

/-! ## The order of the walk -/

/-- The names that lead to what was found, as bytes. -/
def Found.key (found : Found) : List (List UInt8) :=
  found.names.reverse.map Text.bytes

/-- Names behind the same names come in the order of the first of them. -/
theorem Found.key_lt {found later : Found} {names more more' : List String} {name name' : String}
    (way : found.names = more ++ name :: names) (way' : later.names = more' ++ name' :: names)
    (less : Text.bytes name < Text.bytes name') : found.key < later.key := by
  simp only [Found.key, way, way', List.reverse_append, List.reverse_cons, List.append_assoc, List.map_append,
    List.map_cons, List.singleton_append]
  exact List.append_left_lt (List.cons_lt_cons_iff.mpr (.inl less))

/-- A directory comes before what is below it. -/
theorem Found.key_lt_below {found below : Found} {more : List String} {name : String}
    (way : below.names = more ++ name :: found.names) : found.key < below.key := by
  rw [← List.append_nil found.key]
  simp only [Found.key, way, List.reverse_append, List.reverse_cons, List.append_assoc, List.map_append, List.map_cons,
    List.singleton_append]
  exact List.append_left_lt (List.nil_lt_cons ..)

/-- A walk goes by the bytes of the names. -/
theorem pairwise_walkNode (named : node.WellNamed) (levels : Nat) (names : List String) :
    (walkNode levels names node).Pairwise fun found later => found.key < later.key := by
  induction named generalizing levels names with
  | file | link =>
    rw [walkNode]
    exact List.pairwise_singleton ..
  | @directory entries distinct _ inner ih =>
    -- under the name of an entry
    have under {entry : String × Node} (among : entry ∈ byName entries) {found : Found}
        (inside : found ∈ walkEntry levels names entry) : ∃ more, found.names = more ++ entry.1 :: names :=
      exists_names_of_mem_walkEntry (inner entry (mem_byName.mp among)) inside
    rw [walkNode_directory, List.pairwise_cons, List.pairwise_flatMap]
    refine ⟨fun found member => ?_, fun entry among => ?_, ?_⟩
    · obtain ⟨entry, among, inside⟩ := List.mem_flatMap.mp member
      obtain ⟨more, way⟩ := under among inside
      exact Found.key_lt_below way
    · rcases walkEntry_cases levels names entry with none | ⟨less, same⟩
      · rw [none]
        exact List.Pairwise.nil
      · rw [same]
        exact ih entry (mem_byName.mp among) less _
    · refine (strict_byName distinct).imp_of_mem fun first second less found here later there => ?_
      obtain ⟨more, way⟩ := under first here
      obtain ⟨more', way'⟩ := under second there
      exact Found.key_lt way way' less

/-! ## The files of code -/

/-- The place and the content of what was found, if it is a file of code. -/
def Found.code? (found : Found) : Option (List String × ByteArray) :=
  match found.node with
  | .file content =>
    if hasExtension sourceExtensions found.name then some (found.names.reverse, content) else none
  | _ => none

theorem not_isCodeName_empty : ¬ IsCodeName "" := by
  rintro ⟨stem, extension, filled, _, whole⟩
  have none := congrArg String.toList whole
  simp only [String.toList_append, String.toList_empty] at none
  exact filled (String.toList_eq_nil_iff.mp (List.append_eq_nil_iff.mp (List.append_eq_nil_iff.mp none.symm).1).1)

theorem isCodeName_name_iff : IsCodeName found.name ↔
    ∃ above name, found.names.reverse = above ++ [name] ∧ IsCodeName name := by
  rw [Found.name]
  cases found.names with
  | nil => simp [not_isCodeName_empty]
  | cons last rest =>
    simp only [List.headD_cons, List.reverse_cons, List.append_singleton_inj]
    exact ⟨fun named => ⟨rest.reverse, last, ⟨rfl, rfl⟩, named⟩, fun ⟨_, _, ⟨_, same⟩, named⟩ => same ▸ named⟩

theorem Found.code?_eq_some_iff : found.code? = some (place, content) ↔
    found.node = .file content ∧ found.names.reverse = place ∧ IsCodeName found.name := by
  rw [code?]
  split
  · next bytes file =>
    rw [file, ← hasExtension_sourceExtensions_iff]
    split
    · next listed => simp [listed, and_comm]
    · next other => simp [other]
  · next other => exact ⟨nofun, fun all => absurd all.1 (other content)⟩

/-- What is found behind the root of a tree as a file of code. -/
theorem mem_filterMap_code?_iff (named : node.WellNamed) (deep : node.height ≤ levels + 1) :
    (place, content) ∈ (walkNode levels [] node).filterMap Found.code? ↔ node.HasCode place content := by
  rw [List.mem_filterMap]
  constructor
  · rintro ⟨found, member, code⟩
    obtain ⟨file, rfl, ends⟩ := Found.code?_eq_some_iff.mp code
    obtain ⟨place, way, there, kept⟩ := exists_place_of_mem_walkNode named member
    have turned : found.names.reverse = place := by simp [way]
    exact ⟨by rw [turned, there, file], by rwa [turned], isCodeName_name_iff.mp ends⟩
  · rintro ⟨there, kept, ends⟩
    have turned : (⟨place.reverse, .file content⟩ : Found).names.reverse = place := List.reverse_reverse place
    refine ⟨⟨place.reverse, .file content⟩, ?_, Found.code?_eq_some_iff.mpr ⟨rfl, turned, ?_⟩⟩
    · exact mem_walkNode_of_get? named deep there kept (List.append_nil _).symm
    · rw [isCodeName_name_iff, turned]
      exact ends

/-- What is no file of code has no block. -/
theorem sourceBlock?_eq_none (other : found.code? = none) : sourceBlock? found = none := by
  cases file : found.node with
  | file content =>
    have unnamed : hasExtension sourceExtensions found.name = false := by
      simpa [Found.code?, file] using other
    simp [sourceBlock?, file, unnamed]
  | link | directory => simp only [sourceBlock?, file]

/-- The block of a file of code is its entry. -/
theorem listed_of_code?_eq_some {file : List String × ByteArray} (code : found.code? = some file) :
    Listed file ((sourceBlock? found).getD "") := by
  obtain ⟨place, content⟩ := file
  obtain ⟨file, rfl, named⟩ := Found.code?_eq_some_iff.mp code
  have listed := hasExtension_sourceExtensions_iff.mpr named
  rw [sourceBlock?, file]
  simp only [listed, Bool.not_true, Bool.false_eq_true, if_false]
  split
  · next above => exact .large above
  · next small =>
    split
    · next text read =>
      obtain rfl := Disk.toUTF8_of_textOf read
      exact .text (Nat.le_of_not_lt small)
    · next e failed =>
      refine .noText (Nat.le_of_not_lt small) fun text same => ?_
      rw [← same, Disk.textOf_toUTF8] at failed
      cases failed

/-- The blocks of what was found are the entries of the files of code. -/
theorem exists_listed_of_founds (founds : List Found) :
    ∃ blocks, List.Forall₂ Listed (founds.filterMap Found.code?) blocks ∧
      String.join (founds.filterMap sourceBlock?) = String.join blocks := by
  induction founds with
  | nil => exact ⟨[], .nil, rfl⟩
  | cons found founds ih =>
    obtain ⟨blocks, listed, joined⟩ := ih
    cases code : found.code? with
    | none =>
      rw [List.filterMap_cons_none code, List.filterMap_cons_none (sourceBlock?_eq_none code)]
      exact ⟨blocks, listed, joined⟩
    | some file =>
      have first := listed_of_code?_eq_some code
      rw [List.filterMap_cons_some code]
      refine ⟨_, .cons first listed, ?_⟩
      rw [String.join_cons, ← joined]
      cases block : sourceBlock? found with
      | none => rw [List.filterMap_cons_none block, Option.getD_none, String.empty_append]
      | some text => rw [List.filterMap_cons_some block, Option.getD_some, String.join_cons]

/-! ## The listing -/

theorem shortened_truncate (listing : String) : Shortened listing (truncate listing) := by
  rw [truncate]
  split
  · next short => exact .whole short
  · next long =>
    rw [← String.length_toList] at long
    have full : (String.ofList (listing.toList.take listingLimit)).length = 400000 := by
      rw [← String.length_toList, String.toList_ofList, List.length_take]
      exact Nat.min_eq_left (Nat.le_of_not_le long)
    have more : String.ofList (listing.toList.drop listingLimit) ≠ "" := by
      rw [Ne, ← String.toList_eq_nil_iff, String.toList_ofList, List.drop_eq_nil_iff]
      exact long
    have cut := Shortened.cut full more
    rwa [← String.ofList_append, List.take_append_drop, String.ofList_toList] at cut

/-- A text that is not too long is not cut. -/
theorem Shortened.eq_of_short {text shown : String} (shortened : Shortened text shown) (short : text.length ≤ 400000) :
    shown = text := by
  cases shortened with
  | whole => rfl
  | @cut start rest full more =>
    have none : rest.length ≠ 0 := mt String.length_eq_zero_iff.mp more
    rw [String.length_append] at short
    omega

/-- The files of code below a path are those behind its node: the node itself has no name. -/
theorem filterMap_code?_allBelow {disk : Disk} {path : String} (there : disk.node path = .ok root) :
    (disk.allBelow path).filterMap Found.code? = (walkNode root.height [] root).filterMap Found.code? := by
  have unnamed : (⟨[], root⟩ : Found).code? = none := by
    rw [Option.eq_none_iff_forall_ne_some]
    rintro ⟨place, content⟩ code
    exact not_isCodeName_empty (Found.code?_eq_some_iff.mp code).2.2
  rw [walkNode_eq, List.filterMap_cons_none unnamed, Disk.allBelow, there]

/-- The listing before any cut has the entries of just the files of code below a path that no name leaves out, one after
the other by the bytes of their names, in whatever order the entries of a directory lie; and the sources are the listing
or its start. -/
theorem sources_list_code (disk : Disk) (named : disk.tree.WellNamed) (path : String) :
    ∃ files blocks,
      (∀ place content, (place, content) ∈ files ↔ ∃ root, disk.node path = .ok root ∧ root.HasCode place content) ∧
      files.Pairwise (fun file later => file.1.map Text.bytes < later.1.map Text.bytes) ∧
      List.Forall₂ Listed files blocks ∧
      allSources disk path = String.join blocks ∧ Shortened (allSources disk path) (sources disk path) := by
  obtain ⟨blocks, listed, joined⟩ := exists_listed_of_founds (disk.allBelow path)
  refine ⟨_, blocks, ?_, ?_, listed, joined, shortened_truncate _⟩
  all_goals cases there : disk.node path
  · simp [Disk.allBelow, there]
  · next root =>
    intro place content
    rw [filterMap_code?_allBelow there, mem_filterMap_code?_iff (Disk.wellNamed_of_node named there) (Nat.le_succ _)]
    simp
  · rw [Disk.allBelow, there]
    exact List.Pairwise.nil
  · next root =>
    rw [filterMap_code?_allBelow there]
    refine (pairwise_walkNode (Disk.wellNamed_of_node named there) _ []).filterMap _ ?_
    rintro found later less ⟨place, content⟩ code ⟨place', content'⟩ code'
    obtain ⟨_, rfl, _⟩ := Found.code?_eq_some_iff.mp code
    obtain ⟨_, rfl, _⟩ := Found.code?_eq_some_iff.mp code'
    exact less

/-- The entries of an application: a style that is no text, a page, and a picture. -/
def appEntries : Entries :=
  [("raw.css", .file ⟨#[0xff]⟩), ("page.tsx", .file "export {}".toUTF8), ("logo.svg", .file .empty)]

/-- A disk in no order, with two files of code that are listed, the first one without its text, one that is no text, a
picture, a link to a directory with code, and a directory that is left out. -/
def mixedDisk : Disk where
  tree := .directory [("data.js", .file ⟨Array.replicate 102401 0⟩), ("link.ts", .link "/app"),
    ("lib", .directory [("public", .directory [("index.js", .file .empty)])]), ("app", .directory appEntries)]
  start := []

theorem wellNamed_mixedDisk : mixedDisk.tree.WellNamed := by
  refine .directory (by decide) (by decide +kernel) ?_
  simp only [List.forall_mem_cons]
  refine ⟨.file _, .link _, .directory (by decide) (by decide +kernel) ?_,
    .directory (by decide) (by decide +kernel) ?_, nofun⟩
  · simp only [List.forall_mem_cons]
    refine ⟨.directory (by decide) (by decide +kernel) ?_, nofun⟩
    simp only [List.forall_mem_cons]
    exact ⟨.file _, nofun⟩
  · simp only [appEntries, List.forall_mem_cons]
    exact ⟨.file _, .file _, .file _, nofun⟩

/-- What the listing of the disk is. -/
def mixedListing : String :=
  "\n--- FILE: app/page.tsx ---\nexport {}\n\n--- FILE: data.js (Skipped: Too Large) ---\n"

theorem allBelow_mixedDisk : mixedDisk.allBelow "/" =
    [⟨["app"], .directory appEntries⟩, ⟨["logo.svg", "app"], .file .empty⟩,
     ⟨["page.tsx", "app"], .file "export {}".toUTF8⟩, ⟨["raw.css", "app"], .file ⟨#[0xff]⟩⟩,
     ⟨["data.js"], .file ⟨Array.replicate 102401 0⟩⟩,
     ⟨["lib"], .directory [("public", .directory [("index.js", .file .empty)])]⟩, ⟨["link.ts"], .link "/app"⟩] := by
  have way : steps "/" = [.root] := by decide +kernel
  have there : mixedDisk.node "/" = .ok mixedDisk.tree := by
    rw [Disk.node, Disk.locate_eq (by decide +kernel), way]
    simp only [walk]
    rfl
  have outer (data link lib app : Node) :
      byName [("data.js", data), ("link.ts", link), ("lib", lib), ("app", app)] =
        [("app", app), ("data.js", data), ("lib", lib), ("link.ts", link)] := by
    have strict : ["app", "data.js", "lib", "link.ts"].Pairwise (Text.bytes · < Text.bytes ·) := by decide +kernel
    refine byName_eq_of_perm ?_ strict
    exact (List.perm_append_singleton _ [_, _, _]).trans (.cons _ (.cons _ (.swap ..)))
  have inner : byName appEntries =
      [("logo.svg", .file .empty), ("page.tsx", .file "export {}".toUTF8), ("raw.css", .file ⟨#[0xff]⟩)] := by
    have strict : ["logo.svg", "page.tsx", "raw.css"].Pairwise (Text.bytes · < Text.bytes ·) := by decide +kernel
    exact byName_eq_of_perm (List.reverse_perm appEntries).symm strict
  have kept : ∀ name ∈ ["app", "data.js", "lib", "link.ts", "logo.svg", "page.tsx", "raw.css"],
      name ∉ ignoredNames := by decide
  have ignored : "public" ∈ ignoredNames := by decide
  simp only [List.forall_mem_cons] at kept
  have height : mixedDisk.tree.height = 4 := rfl
  rw [Disk.allBelow, there]
  dsimp only
  rw [height, mixedDisk]
  simp [outer, inner, walkEntry, kept, ignored]

theorem allSources_mixedDisk : allSources mixedDisk "/" = mixedListing := by
  have logo : sourceBlock? ⟨["logo.svg", "app"], .file .empty⟩ = none := by decide +kernel
  have page : sourceBlock? ⟨["page.tsx", "app"], .file "export {}".toUTF8⟩ =
      some "\n--- FILE: app/page.tsx ---\nexport {}\n" := by decide +kernel
  have raw : sourceBlock? ⟨["raw.css", "app"], .file ⟨#[0xff]⟩⟩ = none := by decide +kernel
  have data : sourceBlock? ⟨["data.js"], .file ⟨Array.replicate 102401 0⟩⟩ =
      some "\n--- FILE: data.js (Skipped: Too Large) ---\n" := by
    have named : hasExtension sourceExtensions (Found.name ⟨["data.js"], .file ⟨Array.replicate 102401 0⟩⟩) = true := by
      decide +kernel
    have large : sourceLimit < ByteArray.size ⟨Array.replicate 102401 0⟩ := by
      rw [ByteArray.size, Array.size_replicate]
      decide
    simp only [sourceBlock?, named, large, Bool.not_true, Bool.false_eq_true, if_false, if_true]
    decide +kernel
  rw [allSources, allBelow_mixedDisk, List.filterMap_cons_none rfl, List.filterMap_cons_none logo,
    List.filterMap_cons_some page, List.filterMap_cons_none raw, List.filterMap_cons_some data,
    List.filterMap_cons_none rfl, List.filterMap_cons_none rfl]
  decide +kernel

theorem sources_list_code_mixed : mixedDisk.tree.WellNamed ∧ sources mixedDisk "/" = mixedListing := by
  obtain ⟨_, _, _, _, _, _, shortened⟩ := sources_list_code mixedDisk wellNamed_mixedDisk "/"
  rw [allSources_mixedDisk] at shortened
  exact ⟨wellNamed_mixedDisk, shortened.eq_of_short (by decide +kernel)⟩

end UiCheck.Files
