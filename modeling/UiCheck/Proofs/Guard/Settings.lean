import UiCheck.Proofs.Guard.Address
import UiCheck.Proofs.Text.Lines

/-! # Settings that are carried over

The settings of a document are told by where they stand in it: they start at its first line that opens settings, and
no line behind that one starts with a key up to their end. Each of these facts is about one part of the document only.
So other settings can take the place, or be put in front of a document whose first line starts with a key, and are
found there again: `preserveSettings_splices`.
-/

namespace UiCheck.Guard

open Text

variable {current updated text : String} {s block line : List Char} {lines : List (List Char)}
  {settings own : Settings}

/-! ## Where settings stand -/

/-- The text starts with a key: a word and a colon. -/
def TopLevel (s : List Char) : Prop :=
  ∃ word, word ≠ [] ∧ (∀ c ∈ word, isWordChar c = true) ∧ word ++ [':'] <+: s

/-- The text is one block of settings: it starts with their key, and no later line of it starts with a key. -/
structure IsBlock (block : List Char) : Prop where
  opens : "meta:".toList <+: block
  inner : ∀ line ∈ (rawLines block).tail, ¬ TopLevel line

/-- The settings stand in the document: no line in front of them opens settings, and a key stands behind them unless
they reach to the end. -/
structure Settings.Of (s : List Char) (settings : Settings) : Prop where
  whole : s = settings.before ++ settings.block ++ settings.after
  starts : EndsLine settings.before
  first : ∀ line ∈ rawLines settings.before, ¬ "meta:".toList <+: line
  block : IsBlock settings.block
  ends : settings.after = [] ∨ EndsLine settings.block ∧ TopLevel settings.after

theorem opensSettings_iff : opensSettings line = true ↔ "meta:".toList <+: line :=
  startsWith_iff

theorem isTopLevel_iff : isTopLevel line = true ↔ TopLevel line := by
  have split : line = line.takeWhile isWordChar ++ line.dropWhile isWordChar := List.takeWhile_append_dropWhile.symm
  constructor
  · intro key
    rw [isTopLevel] at key
    split at key
    · next rest behind =>
      refine ⟨line.takeWhile isWordChar, by simpa using key, fun _ => List.mem_takeWhile_imp, rest, ?_⟩
      rw [List.append_assoc, List.singleton_append, ← behind, ← split]
    · cases key
  · rintro ⟨word, filled, letters, rest, rfl⟩
    have colon : isWordChar ':' = false := by decide
    simp only [isTopLevel, List.append_assoc, List.singleton_append, List.dropWhile_append_of_pos letters,
      List.takeWhile_append_of_pos letters, List.dropWhile_cons, List.takeWhile_cons, colon]
    simpa using filled

theorem isTopLevel_eq_false_iff : isTopLevel line = false ↔ ¬ TopLevel line := by
  rw [← isTopLevel_iff, Bool.not_eq_true]

theorem opensSettings_eq_false_iff : opensSettings line = false ↔ ¬ "meta:".toList <+: line := by
  rw [← opensSettings_iff, Bool.not_eq_true]

theorem not_mem_key {word : List Char} (letters : ∀ c ∈ word, isWordChar c = true) : '\n' ∉ word ++ [':'] := by
  intro member
  rcases List.mem_append.mp member with inside | colon
  · exact absurd (letters _ inside) (by decide)
  · exact absurd (List.mem_singleton.mp colon) (by decide)

/-- A key at the start of a text is one at the start of its first line. -/
theorem topLevel_head_iff (cut : rawLines s = line :: lines) : TopLevel line ↔ TopLevel s :=
  exists_congr fun _ => and_congr_right fun _ => and_congr_right fun letters =>
    prefix_head_rawLines cut (not_mem_key letters)

theorem TopLevel.of_feed (key : TopLevel (line ++ ['\n'])) : TopLevel line := by
  obtain ⟨word, filled, letters, starts⟩ := key
  rcases List.prefix_concat_iff.mp starts with whole | inside
  · exact absurd (whole ▸ List.mem_append_right _ (List.mem_singleton_self _)) (not_mem_key letters)
  · exact ⟨word, filled, letters, inside⟩

theorem IsBlock.ne_nil (whole : IsBlock block) : block ≠ [] := by
  rintro rfl
  exact absurd (List.prefix_nil.mp whole.opens) (by decide)

/-! ## What the scan finds -/

/-- The scan over lines cuts at the first one that opens settings and at the next one with a key. -/
theorem settingsOf?_eq_some_iff : settingsOf? lines = some settings ↔ ∃ front first inner back,
    lines = front ++ first :: (inner ++ back) ∧ (∀ line ∈ front, opensSettings line = false) ∧
    opensSettings first = true ∧ (∀ line ∈ inner, isTopLevel line = false) ∧
    (∀ line ∈ back.head?, isTopLevel line = true) ∧
    settings = ⟨front.flatten, first ++ inner.flatten, back.flatten⟩ := by
  constructor
  · intro found
    rw [settingsOf?] at found
    split at found
    · cases found
    · next first rest behind =>
      refine ⟨lines.takeWhile (! opensSettings ·), first, rest.takeWhile (! isTopLevel ·),
        rest.dropWhile (! isTopLevel ·), ?_, fun line member => ?_, ?_, fun line member => ?_, ?_,
        (Option.some.inj found).symm⟩
      · rw [List.takeWhile_append_dropWhile, ← behind, List.takeWhile_append_dropWhile]
      · simpa using List.mem_takeWhile_imp member
      · have stops := List.head?_dropWhile_not (! opensSettings ·) lines
        rw [behind, List.head?_cons] at stops
        simpa using stops
      · simpa using List.mem_takeWhile_imp member
      · intro line member
        have stops := List.head?_dropWhile_not (! isTopLevel ·) rest
        rw [Option.mem_def.mp member] at stops
        simpa using stops
  · rintro ⟨front, first, inner, back, rfl, ahead, opens, keyless, next, rfl⟩
    have ahead : ∀ line ∈ front, (! opensSettings line) = true := by simpa using ahead
    have keyless : ∀ line ∈ inner, (! isTopLevel line) = true := by simpa using keyless
    have stops : back.takeWhile (! isTopLevel ·) = [] ∧ back.dropWhile (! isTopLevel ·) = back := by
      cases back with
      | nil => exact ⟨rfl, rfl⟩
      | cons line back => simp [next line rfl]
    simp only [settingsOf?, List.dropWhile_append_of_pos ahead, List.takeWhile_append_of_pos ahead,
      List.dropWhile_cons, List.takeWhile_cons, opens, Bool.not_true, Bool.false_eq_true, if_false,
      List.takeWhile_append_of_pos keyless, List.dropWhile_append_of_pos keyless, stops, List.append_nil]

/-- What is found are the settings that stand in the document. -/
theorem findSettings?_eq_some_iff : findSettings? text = some settings ↔ settings.Of text.toList := by
  rw [findSettings?, settingsOf?_eq_some_iff]
  constructor
  · rintro ⟨front, first, inner, back, cut, ahead, opens, keyless, next, rfl⟩
    have lined := lined_rawLines text.toList
    rw [cut] at lined
    obtain ⟨linedFront, linedRest, closed⟩ := lined.of_append
    rw [← List.cons_append] at linedRest
    obtain ⟨linedBlock, linedBack, closed'⟩ := linedRest.of_append
    have block : rawLines (first ++ inner.flatten) = first :: inner := rawLines_flatten linedBlock
    refine ⟨?_, linedFront.endsLine_iff.mpr (closed.resolve_left (List.cons_ne_nil _ _)), ?_,
      ⟨(opensSettings_iff.mp opens).trans (List.prefix_append ..), ?_⟩, ?_⟩
    · rw [← flatten_rawLines text.toList, cut]
      simp
    · rw [rawLines_flatten linedFront]
      exact fun line member => opensSettings_eq_false_iff.mp (ahead line member)
    · rw [block]
      exact fun line member => isTopLevel_eq_false_iff.mp (keyless line member)
    · cases back with
      | nil => exact .inl rfl
      | cons line back =>
        refine .inr ⟨linedBlock.endsLine_iff.mpr (closed'.resolve_left (List.cons_ne_nil _ _)), ?_⟩
        exact (topLevel_head_iff (rawLines_flatten linedBack)).mp (isTopLevel_iff.mp (next line rfl))
  · intro found
    obtain ⟨first, inner, cut⟩ := exists_rawLines_cons found.block.ne_nil
    have whole : settings.block = first ++ inner.flatten := by rw [← flatten_rawLines settings.block, cut, List.flatten_cons]
    have feedless : '\n' ∉ "meta:".toList := by decide
    refine ⟨rawLines settings.before, first, inner, rawLines settings.after, ?_,
      fun line member => opensSettings_eq_false_iff.mpr (found.first line member),
      opensSettings_iff.mpr ((prefix_head_rawLines cut feedless).mpr found.block.opens),
      fun line member => isTopLevel_eq_false_iff.mpr (found.block.inner line (cut ▸ member)), ?_, ?_⟩
    · rw [found.whole, List.append_assoc, rawLines_append found.starts, ← List.cons_append, ← cut]
      rcases found.ends with none | ⟨ends, _⟩
      · rw [none]
        simp [rawLines, rawLinesFrom]
      · rw [rawLines_append ends]
    · intro line member
      rcases found.ends with none | ⟨_, key⟩
      · rw [none] at member
        cases member
      · obtain ⟨lines, cut⟩ := List.head?_eq_some_iff.mp member
        exact isTopLevel_iff.mpr ((topLevel_head_iff cut).mpr key)
    · rw [flatten_rawLines, flatten_rawLines, ← whole]

/-! ## Settings in another document -/

theorem endsLine_endLine (s : List Char) : EndsLine (endLine s) := by
  rw [endLine]
  split
  · next feed =>
    rw [EndsLine, feed]
    exact fun c same => (Option.some.inj same).symm
  · exact fun c same => by simpa using Eq.symm same

/-- The line end belongs to the last line, which starts with a key no more than before. -/
theorem IsBlock.endLine (whole : IsBlock block) : IsBlock (endLine block) := by
  rw [Guard.endLine]
  split
  · exact whole
  · next feedless =>
    have final := List.getLast?_eq_some_getLast whole.ne_nil
    have opened : ¬ EndsLine block := fun ends => feedless (final.trans (congrArg some (ends _ final)))
    obtain ⟨front, last, cut, cut'⟩ := rawLines_feed opened
    refine ⟨whole.opens.trans (List.prefix_append ..), fun line member => ?_⟩
    have inner := whole.inner
    rw [cut] at inner
    rw [cut'] at member
    cases front with
    | nil => cases member
    | cons first front =>
      rw [List.cons_append, List.tail_cons] at inner member
      rcases List.mem_append.mp member with inside | final
      · exact inner line (List.mem_append_left _ inside)
      · rw [List.mem_singleton.mp final]
        exact fun key => inner last (List.mem_append_right _ (List.mem_singleton_self _)) key.of_feed

/-- A block stands in a document that has it in the place of its own. -/
theorem Settings.Of.replaced (stands : own.Of s) (whole : IsBlock block) :
    (⟨own.before, Guard.endLine block, own.after⟩ : Settings).Of (own.before ++ Guard.endLine block ++ own.after) where
  whole := rfl
  starts := stands.starts
  first := stands.first
  block := whole.endLine
  ends := stands.ends.imp_right fun next => ⟨endsLine_endLine block, next.2⟩

/-- A block stands in front of a document that is empty or starts with a key. -/
theorem Settings.of_lead (whole : IsBlock block) (next : s = [] ∨ TopLevel s) :
    (⟨[], Guard.endLine block, s⟩ : Settings).Of (Guard.endLine block ++ s) where
  whole := rfl
  starts := nofun
  first := nofun
  block := whole.endLine
  ends := next.imp_right fun key => ⟨endsLine_endLine block, key⟩

/-- What a document becomes that names no address: the settings of the current one stand in it in the place of its
own, or in front if it has none. -/
theorem preserveSettings_of_own (found : settings.Of current.toList) (absent : ¬ NamesAddress updated.toList)
    (stands : own.Of updated.toList) :
    (preserveSettings current updated).toList = own.before ++ Guard.endLine settings.block ++ own.after := by
  rw [toList_preserveSettings (findSettings?_eq_some_iff.mpr found) absent, findSettings?_eq_some_iff.mpr stands]

theorem preserveSettings_of_none (found : settings.Of current.toList) (absent : ¬ NamesAddress updated.toList)
    (none : ¬ ∃ own : Settings, own.Of updated.toList) :
    (preserveSettings current updated).toList = Guard.endLine settings.block ++ updated.toList := by
  have missing : findSettings? updated = .none := by
    rw [Option.eq_none_iff_forall_ne_some]
    exact fun own there => none ⟨own, findSettings?_eq_some_iff.mp there⟩
  rw [toList_preserveSettings (findSettings?_eq_some_iff.mpr found) absent, missing]

/-- A document that has the settings of the current one keeps them as they are. -/
theorem preserveSettings_eq_self (found : settings.Of current.toList) (stands : own.Of updated.toList)
    (same : own.block = Guard.endLine settings.block) : preserveSettings current updated = updated := by
  by_cases named : NamesAddress updated.toList
  · exact preserveSettings_of_named named
  · rw [← String.toList_inj, preserveSettings_of_own found named stands, ← same]
    exact stands.whole.symm

/-- A document that names an address is left as it is, and so is any if the current one has no settings. Otherwise
the settings of the current document stand in the place of its own, or in front of it if it has none, and all else
in it is kept. They are found there again, and carrying them over once more changes nothing, if it has settings, is
empty or starts with a key. -/
theorem preserveSettings_splices (current updated : String) :
    (NamesAddress updated.toList ∨ (¬ ∃ settings : Settings, settings.Of current.toList) →
      preserveSettings current updated = updated) ∧
    ∀ settings : Settings, settings.Of current.toList → ¬ NamesAddress updated.toList →
      (∀ own : Settings, own.Of updated.toList →
        (preserveSettings current updated).toList = own.before ++ endLine settings.block ++ own.after) ∧
      ((¬ ∃ own : Settings, own.Of updated.toList) →
        (preserveSettings current updated).toList = endLine settings.block ++ updated.toList) ∧
      ((∃ own : Settings, own.Of updated.toList) ∨ updated = "" ∨ TopLevel updated.toList →
        (∃ found : Settings, findSettings? (preserveSettings current updated) = some found ∧
          found.block = endLine settings.block) ∧
        preserveSettings current (preserveSettings current updated) = preserveSettings current updated) := by
  refine ⟨?_, fun settings found absent => ⟨fun own => preserveSettings_of_own found absent,
    preserveSettings_of_none found absent, fun suited => ?_⟩⟩
  · rintro (named | none)
    · exact preserveSettings_of_named named
    · rw [preserveSettings]
      split
      · rfl
      · cases found : findSettings? current with
        | none => rfl
        | some settings => exact absurd ⟨settings, findSettings?_eq_some_iff.mp found⟩ none
  · obtain ⟨there, stands, same⟩ : ∃ there : Settings, there.Of (preserveSettings current updated).toList ∧
        there.block = endLine settings.block := by
      by_cases some : ∃ own : Settings, own.Of updated.toList
      · obtain ⟨own, stands⟩ := some
        rw [preserveSettings_of_own found absent stands]
        exact ⟨_, stands.replaced found.block, rfl⟩
      · have next : updated.toList = [] ∨ TopLevel updated.toList :=
          (suited.resolve_left some).imp_left fun empty => by rw [empty]; rfl
        rw [preserveSettings_of_none found absent some]
        exact ⟨_, Settings.of_lead found.block next, rfl⟩
    exact ⟨⟨there, findSettings?_eq_some_iff.mpr stands, same⟩, preserveSettings_eq_self found stands same⟩

/-- The settings of one document reach to its end and lack a line feed; the other has two lines that open settings. -/
theorem preserveSettings_splices_twice : ∃ settings own : Settings,
    (settings.Of "title: a\nmeta:\n  owner: b".toList ∧
      ¬ NamesAddress "é: 1\nmeta:\n  owner: c\nmeta: d\n".toList ∧
      own.Of "é: 1\nmeta:\n  owner: c\nmeta: d\n".toList) ∧
    preserveSettings "title: a\nmeta:\n  owner: b" "é: 1\nmeta:\n  owner: c\nmeta: d\n" =
      "é: 1\nmeta:\n  owner: b\nmeta: d\n" := by
  have found : (⟨"title: a\n".toList, "meta:\n  owner: b".toList, []⟩ : Settings).Of
      "title: a\nmeta:\n  owner: b".toList := findSettings?_eq_some_iff.mp (by decide +kernel)
  have stands : (⟨"é: 1\n".toList, "meta:\n  owner: c\n".toList, "meta: d\n".toList⟩ : Settings).Of
      "é: 1\nmeta:\n  owner: c\nmeta: d\n".toList := findSettings?_eq_some_iff.mp (by decide +kernel)
  have absent : ¬ NamesAddress "é: 1\nmeta:\n  owner: c\nmeta: d\n".toList := by decide +kernel
  refine ⟨_, _, ⟨found, absent, stands⟩, String.toList_inj.mp ?_⟩
  rw [((preserveSettings_splices _ _).2 _ found absent).1 _ stands]
  decide +kernel

end UiCheck.Guard
