import UiCheck.Proofs.Patch.Header
import UiCheck.Proofs.Text.Search

/-! # Reading back what was written

A patch is a text in a format of its own: prose, and then a block for each update. `Holds` says which updates a text
holds, block by block and without the count that bounds the reader; it is what the reader finds. A text of blocks
holds its updates whatever line ends it has, and the updates that any text holds can be written as such blocks again.
-/

namespace UiCheck.Patch

open Text

/-- The update can be written as a block: nothing of it would be trimmed away or taken for a line or a block of its
own. -/
structure Writable (update : FileUpdate) : Prop where
  path_trimmed : trim update.path.toList = update.path.toList
  path_single : '\n' ∉ update.path.toList
  content_trimmed : trim update.content.toList = update.content.toList
  content_unmarked : ¬ marker <:+: update.content.toList

/-- A block as it is written: an update with the ends of its header and of its content. -/
structure Block where
  update : FileUpdate
  headerEnd : LineEnd
  contentEnd : LineEnd

/-- The characters of a block. -/
def Block.chars (block : Block) : List Char :=
  headerLine block.update.path.toList block.headerEnd ++
    (block.update.content.toList ++ block.contentEnd.chars)

/-- The text of a block. -/
def Block.text (block : Block) : String :=
  String.ofList block.chars

variable {s rest body : List Char} {update : FileUpdate} {updates : List FileUpdate}

/-! ## Contents -/

theorem LineEnd.isBlank (ending : LineEnd) : ∀ c ∈ ending.chars, Text.isBlank c = true := by
  rw [← List.all_eq_true]
  cases ending <;> decide

/-- A line end behind a content is no part of a marker. -/
theorem Writable.unmarked_behind (writable : Writable update) (ending : LineEnd) :
    ¬ marker <:+: update.content.toList ++ ending.chars := by
  rw [infix_append_of_disjoint marker_ne_nil ending.not_mem_marker]
  exact writable.content_unmarked

theorem Writable.trim_behind (writable : Writable update) (ending : LineEnd) :
    trim (update.content.toList ++ ending.chars) = update.content.toList := by
  rw [trim_append_of_blank _ ending.isBlank, writable.content_trimmed]

theorem cutBody_of_unmarked (absent : ¬ marker <:+: s) : cutBody s = (s, []) := by
  rw [cutBody, cut?_eq_none_iff.mpr absent]

theorem cutBody_append (absent : ¬ marker <:+: body) (rest : List Char) :
    cutBody (body ++ (marker ++ rest)) = (body, marker ++ rest) := by
  rw [cutBody, ← List.append_assoc, marker_unbordered.cut?_append absent]

theorem not_infix_cutBody (s : List Char) : ¬ marker <:+: (cutBody s).1 := by
  rw [cutBody]
  cases found : cut? marker s with
  | none => exact cut?_eq_none_iff.mp found
  | some parts => exact not_infix_of_cut? marker_ne_nil found

theorem cutBody_append_cutBody (s : List Char) : (cutBody s).1 ++ (cutBody s).2 = s := by
  rw [cutBody]
  cases found : cut? marker s with
  | none => exact List.append_nil s
  | some parts =>
    have split := (cut?_eq_some_iff.mp found).1
    rw [split, List.append_assoc]

/-! ## What a text holds -/

/-- The updates of a text, one for each block. -/
inductive Holds : List Char → List FileUpdate → Prop
  | prose {s : List Char} : findHeader? s = none → Holds s []
  | block {s path rest : List Char} {updates : List FileUpdate} :
      findHeader? s = some (path, rest) → Holds (cutBody rest).2 updates →
      Holds s (⟨String.ofList (trim path), String.ofList (trim (cutBody rest).1)⟩ :: updates)

theorem Holds.unique {updates' : List FileUpdate} (holds : Holds s updates) (holds' : Holds s updates') :
    updates = updates' := by
  induction holds generalizing updates' with
  | prose missed =>
    cases holds' with
    | prose => rfl
    | block found => rw [missed] at found; cases found
  | block found _ ih =>
    cases holds' with
    | prose missed => rw [missed] at found; cases found
    | block found' more =>
      cases found.symm.trans found'
      rw [ih more]

/-- A block takes characters, so the count of characters suffices for all blocks. -/
theorem blocksFrom_spec (fuel : Nat) (done : List FileUpdate) (s : List Char) (enough : s.length ≤ fuel) :
    ∃ updates, Holds s updates ∧ blocksFrom fuel done s = done.reverse ++ updates := by
  induction fuel generalizing done s with
  | zero =>
    obtain rfl := List.eq_nil_of_length_eq_zero (Nat.le_zero.mp enough)
    exact ⟨[], .prose rfl, (List.append_nil _).symm⟩
  | succ fuel ih =>
    rw [blocksFrom]
    cases found : findHeader? s with
    | none => exact ⟨[], .prose found, (List.append_nil _).symm⟩
    | some header =>
      obtain ⟨path, rest⟩ := header
      obtain ⟨_, front, ending, split⟩ := findHeader?_eq_some found
      have shorter : (cutBody rest).2.length ≤ fuel := by
        have header := List.length_pos_iff.mpr (headerLine_ne_nil path ending)
        have lengths := congrArg List.length split
        have cut := congrArg List.length (cutBody_append_cutBody rest)
        simp only [List.length_append] at lengths cut
        omega
      obtain ⟨updates, holds, blocks⟩ :=
        ih (⟨String.ofList (trim path), String.ofList (trim (cutBody rest).1)⟩ :: done) (cutBody rest).2 shorter
      refine ⟨_, .block found holds, ?_⟩
      dsimp only
      rw [blocks, List.reverse_cons, List.append_assoc, List.singleton_append]

theorem holds_blocks (text : String) : Holds text.toList (blocks text) := by
  obtain ⟨updates, holds, same⟩ := blocksFrom_spec text.length [] text.toList (Nat.le_of_eq String.length_toList)
  rw [blocks, same]
  exact holds

theorem blocks_eq_iff {text : String} : blocks text = updates ↔ Holds text.toList updates :=
  ⟨fun same => same ▸ holds_blocks text, fun holds => (holds_blocks text).unique holds⟩

/-- What stands in front of the first marker makes no difference to the updates. -/
theorem Holds.cutBody (holds : Holds s updates) : Holds (cutBody s).2 updates := by
  rw [Patch.cutBody]
  cases found : cut? marker s with
  | none =>
    rw [holds.unique (.prose (findHeader?_eq_none (cut?_eq_none_iff.mp found)))]
    exact .prose rfl
  | some parts =>
    obtain ⟨body, rest⟩ := parts
    have behind := findHeader?_behind (not_infix_of_cut? marker_ne_nil found) rest
    rw [← List.append_assoc, ← (cut?_eq_some_iff.mp found).1] at behind
    cases holds with
    | prose missed => exact .prose (behind ▸ missed)
    | block first more => exact .block (behind ▸ first) more

/-- No update is held just if there is no header. -/
theorem holds_nil_iff : Holds s [] ↔ ∀ path ending, '\n' ∉ path → ¬ headerLine path ending <:+: s := by
  rw [← findHeader?_eq_none_iff]
  constructor
  · intro holds
    cases holds with
    | prose missed => exact missed
  · exact .prose

theorem Holds.writable (holds : Holds s updates) : ∀ update ∈ updates, Writable update := by
  induction holds with
  | prose => intro update member; cases member
  | @block s path rest updates found _ ih =>
    intro update member
    rcases List.mem_cons.mp member with rfl | member
    · obtain ⟨single, _⟩ := findHeader?_eq_some found
      refine ⟨?_, ?_, ?_, ?_⟩ <;> rw [String.toList_ofList]
      · exact trim_trim path
      · exact fun feed => single ((isInfix_trim path).subset feed)
      · exact trim_trim _
      · exact fun occurs => not_infix_cutBody rest (occurs.trans (isInfix_trim _))
    · exact ih update member

/-! ## Writing and reading -/

/-- The characters behind a content are either none or those of a block, which starts with a marker. -/
theorem cutBody_blocks (absent : ¬ marker <:+: body) (blocks : List Block) :
    cutBody (body ++ blocks.flatMap Block.chars) = (body, blocks.flatMap Block.chars) := by
  cases blocks with
  | nil =>
    rw [List.flatMap_nil, List.append_nil]
    exact cutBody_of_unmarked absent
  | cons block blocks =>
    obtain ⟨tail, starts⟩ := marker_prefix_headerLine block.update.path.toList block.headerEnd
    rw [List.flatMap_cons, Block.chars, ← starts, List.append_assoc, List.append_assoc]
    exact cutBody_append absent _

theorem not_marker_infix_nil : ¬ marker <:+: [] := by
  rw [List.infix_nil]
  exact marker_ne_nil

/-- Blocks of updates that can be written hold these updates, behind any prose without the marker. -/
theorem holds_of_blocks {prose : List Char} (absent : ¬ marker <:+: prose) (blocks : List Block)
    (writable : ∀ block ∈ blocks, Writable block.update) :
    Holds (prose ++ blocks.flatMap Block.chars) (blocks.map (·.update)) := by
  induction blocks generalizing prose with
  | nil =>
    rw [List.flatMap_nil, List.append_nil]
    exact .prose (findHeader?_eq_none absent)
  | cons block blocks ih =>
    have first := writable block (List.mem_cons_self ..)
    have found : findHeader? (prose ++ (block :: blocks).flatMap Block.chars) = some (block.update.path.toList,
        block.update.content.toList ++ block.contentEnd.chars ++ blocks.flatMap Block.chars) := by
      rw [← findHeader?_append absent first.path_single block.headerEnd, List.flatMap_cons, Block.chars]
      simp only [List.append_assoc]
    have cut := cutBody_blocks (first.unmarked_behind block.contentEnd) blocks
    have more : Holds (cutBody (block.update.content.toList ++ block.contentEnd.chars ++
        blocks.flatMap Block.chars)).2 (blocks.map (·.update)) := by
      rw [cut]
      exact ih not_marker_infix_nil fun block member => writable block (List.mem_cons_of_mem _ member)
    have held := Holds.block found more
    rwa [cut, first.path_trimmed, first.trim_behind, String.ofList_toList, String.ofList_toList] at held

theorem parse?_eq_some_of_holds {text : String} (holds : Holds text.toList updates)
    (some : updates = [] → allBlank text.toList = true) : parse? text = .some updates := by
  rw [parse?, blocks_eq_iff.mpr holds]
  cases updates with
  | nil => simp only [some rfl, if_true]
  | cons update updates => rfl

theorem holds_of_parse? {text : String} (parsed : parse? text = some updates) : Holds text.toList updates := by
  rw [← blocks_eq_iff]
  rw [parse?] at parsed
  split at parsed
  · next none =>
    split at parsed
    · cases parsed; exact none
    · cases parsed
  · cases parsed; rfl

theorem parse?_eq_none_iff {text : String} :
    parse? text = none ↔ allBlank text.toList = false ∧ Holds text.toList [] := by
  rw [← blocks_eq_iff, parse?]
  cases blocks text with
  | nil => simp
  | cons update updates => simp

/-- The block of an update with line feeds. -/
def Block.plain (update : FileUpdate) : Block :=
  ⟨update, .feed, .feed⟩

theorem toList_renderBlock (update : FileUpdate) : (renderBlock update).toList = (Block.plain update).chars := by
  have opened : "--- FILE: ".toList = marker ++ [' '] := by decide
  have closed : " ---\n".toList = closer ++ ['\n'] := by decide
  have ended : "\n".toList = ['\n'] := by decide
  simp only [renderBlock, String.toList_append, opened, closed, ended, Block.chars, Block.plain, headerLine,
    LineEnd.chars, List.append_assoc, List.nil_append, List.cons_append]

theorem toList_render (updates : List FileUpdate) :
    (render updates).toList = (updates.map Block.plain).flatMap Block.chars := by
  rw [render, String.toList_join, List.flatMap_map, List.flatMap_map]
  simp only [toList_renderBlock]

/-- Updates that can be written are read back from their blocks behind any prose without the marker; what any text
holds can be written, and is read back; and only a text that says something without a single header is refused. -/
theorem parse?_round_trip :
    (∀ (prose : String) (blocks : List Block), blocks ≠ [] → ¬ marker <:+: prose.toList →
      (∀ block ∈ blocks, Writable block.update) →
      parse? (prose ++ String.join (blocks.map Block.text)) = some (blocks.map (·.update))) ∧
    (∀ text updates, parse? text = some updates →
      (∀ update ∈ updates, Writable update) ∧ parse? (render updates) = some updates) ∧
    (∀ text, parse? text = none ↔ (∃ c ∈ text.toList, isBlank c = false) ∧
      ∀ path ending, '\n' ∉ path → ¬ headerLine path ending <:+: text.toList) := by
  refine ⟨fun prose blocks some absent writable => ?_, fun text updates parsed => ?_, fun text => ?_⟩
  · have holds := holds_of_blocks absent blocks writable
    have same : (prose ++ String.join (blocks.map Block.text)).toList =
        prose.toList ++ blocks.flatMap Block.chars := by
      rw [String.toList_append, String.toList_join, List.flatMap_map]
      simp only [Block.text, String.toList_ofList]
    rw [← same] at holds
    exact parse?_eq_some_of_holds holds fun none => absurd (List.map_eq_nil_iff.mp none) some
  · have writable := (holds_of_parse? parsed).writable
    refine ⟨writable, ?_⟩
    have holds : Holds (render updates).toList updates := by
      have held := holds_of_blocks not_marker_infix_nil (updates.map Block.plain) fun block member => by
        obtain ⟨update, among, rfl⟩ := List.mem_map.mp member
        exact writable update among
      have back : (updates.map Block.plain).map (·.update) = updates := by
        rw [List.map_map]
        exact List.map_id _
      rwa [← toList_render, back] at held
    refine parse?_eq_some_of_holds holds ?_
    rintro rfl
    rfl
  · rw [parse?_eq_none_iff, holds_nil_iff, allBlank, List.all_eq_false]
    simp only [Bool.not_eq_true]

/-- A path that holds the marker and ends like a header, and a content that starts like one. -/
def trickyBlocks : List Block :=
  [⟨⟨"--- FILE: a ---", "--- FILE\r\nb"⟩, .returnFeed, .feed⟩, ⟨⟨"", ""⟩, .feed, .returnFeed⟩]

theorem parse?_round_trip_tricky :
    (trickyBlocks ≠ [] ∧ ¬ marker <:+: "So -".toList ∧ ∀ block ∈ trickyBlocks, Writable block.update) ∧
    parse? ("So -" ++ String.join (trickyBlocks.map Block.text)) =
      some [⟨"--- FILE: a ---", "--- FILE\r\nb"⟩, ⟨"", ""⟩] := by
  have writable : ∀ block ∈ trickyBlocks, Writable block.update := by
    intro block member
    rcases List.mem_cons.mp member with rfl | member
    · exact ⟨by decide +kernel, by decide +kernel, by decide +kernel, by decide +kernel⟩
    · obtain rfl := List.mem_singleton.mp member
      exact ⟨by decide +kernel, by decide +kernel, by decide +kernel, by decide +kernel⟩
  have some : trickyBlocks ≠ [] := List.cons_ne_nil _ _
  have absent : ¬ marker <:+: "So -".toList := by decide +kernel
  exact ⟨⟨some, absent, writable⟩, parse?_round_trip.1 "So -" trickyBlocks some absent writable⟩

end UiCheck.Patch
