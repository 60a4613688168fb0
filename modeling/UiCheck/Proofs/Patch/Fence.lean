import UiCheck.Patch.Fence
import UiCheck.Proofs.Patch.RoundTrip
import UiCheck.Proofs.Text.Case
import UiCheck.Proofs.Text.Lines
import UiCheck.Proofs.Text.Removal

/-! # Code between fences

Opening fences go first, then what is left of three backticks in a row, then a sentence that introduces the code.
No fence is left, since whole groups of three are taken from each run of backticks and runs never meet. Code without
a fence or an introduction of its own is kept by all three, so it comes back as it was, with or without fences around
it: `stripFences_unwraps`.
-/

namespace UiCheck.Patch

open Text

variable {s rest out code intro tag reply : List Char} {c : Char}

/-! ## Introductions and fences -/

/-- The text starts, behind blanks, with a sentence that introduces code: on one line and in any case. -/
def Introduced (s : List Char) : Prop :=
  ∃ front lead subject word rest, s = front ++ (lead ++ (subject ++ (word ++ rest))) ∧
    (∀ c ∈ front, isBlank c = true) ∧ Spells "here is the ".toList lead ∧ '\n' ∉ subject ∧ Spells " code".toList word

/-- A part of the text spells the word. -/
def Mentions (word s : List Char) : Prop :=
  ∃ part, Spells word part ∧ part <:+: s

/-- Nothing, or a line that introduces code. -/
inductive Introduction : List Char → Prop where
  | none : Introduction []
  | line {subject colon : List Char} (single : '\n' ∉ subject) (plain : '\x60' ∉ subject)
      (other : ¬ Mentions " code".toList subject) (marked : colon = [] ∨ colon = [':']) (ending : LineEnd) :
      Introduction ("Here is the ".toList ++ (subject ++ (" code".toList ++ (colon ++ ending.chars))))

/-- A reply with the code on lines of its own between fences, behind a line that may introduce it. -/
inductive Fenced (code : List Char) : List Char → Prop where
  | mk {intro tag tail : List Char} (introduced : Introduction intro) (letters : ∀ c ∈ tag, c.isAlpha = true)
      (opened closed : LineEnd) (last : tail = [] ∨ ∃ ending : LineEnd, tail = ending.chars) :
      Fenced code (intro ++ (fence ++ tag ++ opened.chars ++ (code ++ closed.chars ++ (fence ++ tail))))

theorem mentions_iff {word : List Char} :
    Mentions word s ↔ ∃ k ≤ s.length, (afterFolded? word (s.drop k)).isSome = true := by
  simp only [Mentions, infix_iff_prefix_drop, Option.isSome_iff_exists, afterFolded?_eq_some_iff]
  constructor
  · rintro ⟨part, spelled, k, within, rest, split⟩
    exact ⟨k, within, rest, part, spelled, split.symm⟩
  · rintro ⟨k, within, rest, part, spelled, split⟩
    exact ⟨part, spelled, k, within, rest, split.symm⟩

instance (word s : List Char) : Decidable (Mentions word s) :=
  decidable_of_iff _ mentions_iff.symm

/-! ## Runs of backticks -/

/-- The number of backticks at the start of a text. -/
def run (s : List Char) : Nat :=
  (s.takeWhile (· == '\x60')).length

theorem run_cons_self (s : List Char) : run ('\x60' :: s) = run s + 1 := by
  simp [run]

theorem run_cons_of_ne (other : c ≠ '\x60') (s : List Char) : run (c :: s) = 0 := by
  simp [run, other]

theorem run_fence_append (s : List Char) : run (fence ++ s) = run s + 3 := by
  simp only [fence, List.cons_append, List.nil_append, run_cons_self]

theorem fence_prefix_iff : fence <+: s ↔ 3 ≤ run s := by
  constructor
  · rintro ⟨rest, rfl⟩
    rw [run_fence_append]
    exact Nat.le_add_left ..
  · intro long
    have ticks : s.takeWhile (· == '\x60') = List.replicate (run s) '\x60' :=
      List.eq_replicate_iff.mpr ⟨rfl, fun c member => by simpa using List.mem_takeWhile_imp member⟩
    have start : fence <+: List.replicate (run s) '\x60' := ⟨List.replicate (run s - 3) '\x60', by
      have three : fence = List.replicate 3 '\x60' := rfl
      rw [three, List.replicate_append_replicate, Nat.add_sub_of_le long]⟩
    rw [← ticks] at start
    exact start.trans (List.takeWhile_prefix _)

/-- Of each run of backticks less than a fence is left. -/
theorem run_of_removed (removed : Removed (after? fence) s out) : run out = run s % 3 ∧ ¬ fence <:+: out := by
  induction removed with
  | nil => exact ⟨rfl, by decide⟩
  | @mark s rest out found _ ih =>
    rw [after?_eq_some_iff.mp found, run_fence_append, Nat.add_mod_right]
    exact ih
  | @char c s out plain _ ih =>
    obtain ⟨same, absent⟩ := ih
    have short : run (c :: s) < 3 := Nat.lt_of_not_le (fence_prefix_iff.not.mp (after?_eq_none_iff.mp plain))
    have kept : run (c :: out) = run (c :: s) := by
      by_cases tick : c = '\x60'
      · subst tick
        rw [run_cons_self] at short
        rw [run_cons_self, run_cons_self, same, Nat.mod_eq_of_lt (by omega)]
      · rw [run_cons_of_ne tick, run_cons_of_ne tick]
    refine ⟨by rw [kept, Nat.mod_eq_of_lt short], fun inside => ?_⟩
    rcases List.infix_cons_iff.mp inside with starts | inside
    · have long := fence_prefix_iff.mp starts
      omega
    · exact absent inside

/-! ## Opening fences -/

theorem fence_prefix_of_afterFence? (found : afterFence? s = some rest) : fence <+: s ∧ rest.length < s.length := by
  rw [afterFence?] at found
  split at found
  · cases found
  · next behind after =>
    obtain rfl := after?_eq_some_iff.mp after
    have shorter := length_dropWhile_le Char.isAlpha behind
    refine ⟨List.prefix_append .., ?_⟩
    rw [List.length_append]
    split at found
    · next line =>
      cases found
      rw [line, List.length_cons] at shorter
      omega
    · next line =>
      cases found
      rw [line, List.length_cons, List.length_cons] at shorter
      omega
    · cases found

theorem afterFence?_eq_none (absent : ¬ fence <+: s) : afterFence? s = none := by
  rw [Option.eq_none_iff_forall_ne_some]
  exact fun rest found => absent (fence_prefix_of_afterFence? found).1

theorem afterFence?_append (letters : ∀ c ∈ tag, c.isAlpha = true) (ending : LineEnd) (rest : List Char) :
    afterFence? (fence ++ tag ++ ending.chars ++ rest) = some rest := by
  rw [afterFence?, List.append_assoc, List.append_assoc, after?_append]
  dsimp only
  rw [List.dropWhile_append_of_pos letters]
  cases ending <;> rfl

theorem scan_removeFences : Scan afterFence? removeFences where
  shorter found := (fence_prefix_of_afterFence? found).2
  stop fuel done := by
    cases fuel with
    | zero => exact List.append_nil _
    | succ fuel => rfl
  mark found := by
    rw [removeFences.eq_def]
    simp only [found]
  char plain := by rw [removeFences, plain]

/-! ## What introduces code -/

theorem exists_of_afterCode? (found : afterCode? s = some rest) : ∃ subject word,
    s = subject ++ (word ++ rest) ∧ '\n' ∉ subject ∧ Spells " code".toList word := by
  induction s with
  | nil => cases found
  | cons c s ih =>
    rw [afterCode?] at found
    split at found
    · next folded =>
      cases found
      obtain ⟨word, spelled, split⟩ := afterFolded?_eq_some_iff.mp folded
      exact ⟨[], word, split, List.not_mem_nil, spelled⟩
    · split at found
      · cases found
      · next single =>
        obtain ⟨subject, word, rfl, inner, spelled⟩ := ih found
        exact ⟨c :: subject, word, rfl, List.not_mem_cons_of_ne_of_not_mem (Ne.symm single) inner, spelled⟩

theorem afterCode?_ne_none {subject word : List Char} (single : '\n' ∉ subject) (spelled : Spells " code".toList word)
    (rest : List Char) : afterCode? (subject ++ (word ++ rest)) ≠ none := by
  induction subject with
  | nil =>
    have folded : afterFolded? " code".toList (word ++ rest) = some rest :=
      afterFolded?_eq_some_iff.mpr ⟨word, spelled, rfl⟩
    cases spelled with
    | cons _ _ =>
      rw [List.nil_append, List.cons_append, afterCode?, ← List.cons_append, folded]
      exact Option.some_ne_none _
  | cons c subject ih =>
    rw [List.mem_cons, not_or] at single
    rw [List.cons_append, afterCode?]
    split
    · exact Option.some_ne_none _
    · rw [if_neg (Ne.symm single.1)]
      exact ih single.2

/-- The word starts with a blank and has no other one, so none starts in a text in front of one and reaches into it. -/
theorem prefix_of_spells {subject word : List Char} (filled : subject ≠ []) (spelled : Spells " code".toList word)
    (starts : word <+: subject ++ (" code".toList ++ rest)) : word <+: subject := by
  obtain ⟨c, subject, rfl⟩ := List.exists_cons_of_ne_nil filled
  have letters : " code".toList = ' ' :: "code".toList := rfl
  rw [letters] at spelled
  cases spelled with
  | @cons _ d _ word _ spelled =>
    have plain : ' ' ∉ word := Spells.not_mem spelled (by decide)
    rw [List.cons_append, List.cons_prefix_cons] at starts
    obtain ⟨rfl, inner⟩ := starts
    refine List.cons_prefix_cons.mpr ⟨rfl, ?_⟩
    have next : subject ++ [' '] <+: subject ++ (" code".toList ++ rest) :=
      (List.prefix_append_right_inj subject).mpr ⟨"code".toList ++ rest, rfl⟩
    rcases List.prefix_or_prefix_of_prefix inner next with inside | beyond
    · rcases List.prefix_concat_iff.mp inside with whole | inside
      · exact absurd (whole ▸ List.mem_append_right _ (List.mem_singleton_self _)) plain
      · exact inside
    · exact absurd (beyond.subset (List.mem_append_right _ (List.mem_singleton_self _))) plain

/-- The first word is found right behind a text on the line that does not mention it. -/
theorem afterCode?_append {subject : List Char} (single : '\n' ∉ subject) (other : ¬ Mentions " code".toList subject)
    (rest : List Char) : afterCode? (subject ++ (" code".toList ++ rest)) = some rest := by
  induction subject with
  | nil =>
    have folded : afterFolded? " code".toList (" code".toList ++ rest) = some rest :=
      afterFolded?_eq_some_iff.mpr ⟨_, spells_self _, rfl⟩
    have first : " code".toList ++ rest = ' ' :: ("code".toList ++ rest) := rfl
    rw [first] at folded ⊢
    rw [List.nil_append, afterCode?, folded]
  | cons c subject ih =>
    rw [List.mem_cons, not_or] at single
    have absent : afterFolded? " code".toList (c :: subject ++ (" code".toList ++ rest)) = none := by
      rw [Option.eq_none_iff_forall_ne_some]
      intro behind folded
      obtain ⟨word, spelled, split⟩ := afterFolded?_eq_some_iff.mp folded
      have starts := prefix_of_spells (List.cons_ne_nil c subject) spelled ⟨behind, split.symm⟩
      exact other ⟨word, spelled, starts.isInfix⟩
    rw [List.cons_append] at absent ⊢
    rw [afterCode?, absent]
    dsimp only
    rw [if_neg (Ne.symm single.1)]
    exact ih single.2 fun ⟨part, spelled, inside⟩ => other ⟨part, spelled, inside.trans (List.suffix_cons ..).isInfix⟩

/-- A text without a colon at its start. -/
def afterColon : List Char → List Char
  | ':' :: rest => rest
  | s => s

theorem afterColon_suffix (s : List Char) : afterColon s <:+ s := by
  rw [afterColon.eq_def]
  split
  · exact List.suffix_cons ..
  · exact List.suffix_refl _

theorem afterPreamble?_eq (s : List Char) : afterPreamble? s =
    ((afterFolded? "here is the ".toList (trimStart s)).bind afterCode?).map afterColon := by
  rw [afterPreamble?]
  generalize (afterFolded? "here is the ".toList (trimStart s)).bind afterCode? = found
  split
  · rfl
  · next other =>
    cases found with
    | none => rfl
    | some rest =>
      rw [Option.map_some, afterColon.eq_def]
      split
      · exact absurd rfl (other _)
      · rfl

theorem exists_of_afterPreamble? (found : afterPreamble? s = some rest) : Introduced s ∧ rest <:+ s := by
  rw [afterPreamble?_eq, Option.map_eq_some_iff] at found
  obtain ⟨behind, found, rfl⟩ := found
  obtain ⟨line, folded, inner⟩ := Option.bind_eq_some_iff.mp found
  obtain ⟨lead, spelled, cut⟩ := afterFolded?_eq_some_iff.mp folded
  obtain ⟨subject, word, rfl, single, spelled'⟩ := exists_of_afterCode? inner
  have whole : s = s.takeWhile isBlank ++ (lead ++ (subject ++ (word ++ behind))) := by
    rw [← cut]
    exact List.takeWhile_append_dropWhile.symm
  refine ⟨⟨_, lead, subject, word, behind, whole, fun _ => List.mem_takeWhile_imp, spelled, single, spelled'⟩, ?_⟩
  refine (afterColon_suffix behind).trans ?_
  rw [whole]
  simp only [← List.append_assoc]
  exact List.suffix_append ..

/-- A character of a lead is no blank if it is the first one. -/
theorem trimStart_of_spells {front lead : List Char} (blank : ∀ c ∈ front, isBlank c = true)
    (spelled : Spells "here is the ".toList lead) (rest : List Char) :
    trimStart (front ++ (lead ++ rest)) = lead ++ rest := by
  have letters : "here is the ".toList = 'h' :: "ere is the ".toList := rfl
  rw [letters] at spelled
  rw [trimStart_append_of_blank _ blank]
  cases spelled with
  | @cons _ c _ lead folds _ =>
    have solid : isBlank c = false := by
      by_contra blank
      have other : foldsTo 'h' c = false := by
        refine of_codes (P := fun c => foldsTo 'h' c = false) ?_ (mem_blankCodes (eq_true_of_ne_false blank))
        decide +kernel
      rw [folds] at other
      cases other
    rw [List.cons_append, trimStart, List.dropWhile_cons_of_neg (by simp [solid])]

/-- A sentence is taken away just if it introduces code. -/
theorem afterPreamble?_eq_none_iff : afterPreamble? s = none ↔ ¬ Introduced s := by
  constructor
  · rintro none ⟨front, lead, subject, word, rest, rfl, blank, spelled, single, spelled'⟩
    have folded : afterFolded? "here is the ".toList (lead ++ (subject ++ (word ++ rest))) =
        some (subject ++ (word ++ rest)) := afterFolded?_eq_some_iff.mpr ⟨lead, spelled, rfl⟩
    rw [afterPreamble?_eq, trimStart_of_spells blank spelled, folded, Option.bind_some, Option.map_eq_none_iff] at none
    exact afterCode?_ne_none single spelled' rest none
  · intro plain
    rw [Option.eq_none_iff_forall_ne_some]
    exact fun rest found => plain (exists_of_afterPreamble? found).1

instance (s : List Char) : Decidable (Introduced s) :=
  decidable_of_iff (¬ afterPreamble? s = none) (afterPreamble?_eq_none_iff.not.trans not_not)

/-- The sentence ends with a letter, so a line end behind the code is no part of it. -/
theorem Introduced.of_append (ending : LineEnd) (introduced : Introduced (code ++ ending.chars)) : Introduced code := by
  obtain ⟨front, lead, subject, word, rest, whole, blank, spelled, single, spelled'⟩ := introduced
  have split : code ++ ending.chars = (front ++ (lead ++ (subject ++ word))) ++ rest := by
    rw [whole]
    simp only [List.append_assoc]
  have parted : ∀ c ∈ ending.chars, c ∉ word := fun c member => by
    rcases ending.mem_chars member with rfl | rfl <;> exact spelled'.not_mem (by decide)
  have filled : word ≠ [] := List.length_pos_iff.mp (spelled'.length_eq ▸ by decide)
  rcases List.append_eq_append_iff.mp split with ⟨more, sentence, tail⟩ | ⟨more, sentence, _⟩
  · by_cases empty : more = []
    · refine ⟨front, lead, subject, word, [], ?_, blank, spelled, single, spelled'⟩
      rw [empty, List.append_nil] at sentence
      rw [← sentence, List.append_nil]
    · -- the last character of the sentence would stand in the line end
      have last := congrArg List.getLast? sentence
      rw [List.getLast?_append, List.getLast?_append, List.getLast?_append, List.getLast?_append,
        List.getLast?_eq_some_getLast filled, List.getLast?_eq_some_getLast empty] at last
      simp only [Option.some_or, Option.some.injEq] at last
      refine absurd (List.getLast_mem filled) (parted _ ?_)
      rw [last, tail]
      exact List.mem_append_left _ (List.getLast_mem empty)
  · refine ⟨front, lead, subject, word, more, ?_, blank, spelled, single, spelled'⟩
    rw [sentence]
    simp only [List.append_assoc]

/-! ## Replies -/

theorem fence_ne_nil : fence ≠ [] := by decide

theorem endsLine_append_chars (s : List Char) (ending : LineEnd) : EndsLine (s ++ ending.chars) := by
  cases ending <;> simp [EndsLine, LineEnd.chars]

theorem LineEnd.not_mem_fence (ending : LineEnd) : ∀ c ∈ ending.chars, c ∉ fence := by
  intro c member
  rcases ending.mem_chars member with rfl | rfl <;> decide

/-- A fence does not reach over the end of a line. -/
theorem not_mem_fence_of_endsLine (ends : EndsLine s) : ∀ c ∈ s.getLast?, c ∉ fence := fun c last => by
  rw [ends c last]
  decide

theorem Introduction.endsLine (introduced : Introduction intro) : EndsLine intro := by
  cases introduced with
  | none => exact nofun
  | line _ _ _ _ ending =>
    simp only [← List.append_assoc]
    exact endsLine_append_chars _ ending

theorem Introduction.not_infix (introduced : Introduction intro) : ¬ fence <:+: intro := by
  intro inside
  have tick : '\x60' ∈ intro := inside.subset (List.mem_cons_self ..)
  cases introduced with
  | none => cases tick
  | @line subject colon _ plain _ marked ending =>
    have head : '\x60' ∉ "Here is the ".toList := by decide
    have word : '\x60' ∉ " code".toList := by decide
    have mark : '\x60' ∉ colon := by rcases marked with rfl | rfl <;> decide
    have feed : '\x60' ∉ ending.chars := fun member => ending.not_mem_fence _ member (List.mem_cons_self ..)
    simp only [List.mem_append] at tick
    tauto

/-- A closing fence goes with its line end, or stays if there is none. -/
theorem exists_removed_closing {tail : List Char} (last : tail = [] ∨ ∃ ending : LineEnd, tail = ending.chars) :
    ∃ remain, (remain = [] ∨ remain = fence) ∧ Removed afterFence? (fence ++ tail) remain := by
  rcases last with rfl | ⟨ending, rfl⟩
  · exact ⟨fence, .inr rfl, .char rfl (.char rfl (.char rfl (.nil rfl)))⟩
  · have found := @afterFence?_append [] nofun ending []
    rw [List.append_nil, List.append_nil] at found
    exact ⟨[], .inl rfl, .mark found (.nil rfl)⟩

/-- Both passes over fences leave the code and what introduces it. -/
theorem exists_of_fenced (absent : ¬ fence <:+: code) (fenced : Fenced code reply) : ∃ intro, ∃ closed : LineEnd,
    Introduction intro ∧ replaceAll fence [] (removeFences reply.length [] reply) = intro ++ (code ++ closed.chars) := by
  cases fenced with
  | @mk intro tag tail introduced letters opened closed last =>
    have whole : ¬ fence <:+: code ++ closed.chars := by
      rwa [infix_append_of_disjoint fence_ne_nil closed.not_mem_fence]
    have outer := not_mem_fence_of_endsLine introduced.endsLine
    have inner := not_mem_fence_of_endsLine (endsLine_append_chars code closed)
    obtain ⟨remain, either, removed⟩ := exists_removed_closing last
    have first : Removed afterFence? (intro ++ (fence ++ tag ++ opened.chars ++ (code ++ closed.chars ++ (fence ++ tail))))
        (intro ++ (code ++ closed.chars ++ remain)) := by
      refine .append_of_absent (fun _ => afterFence?_eq_none) introduced.not_infix outer ?_
      refine .mark (afterFence?_append letters opened _) ?_
      exact .append_of_absent (fun _ => afterFence?_eq_none) whole inner removed
    have second : Removed (after? fence) (intro ++ (code ++ closed.chars ++ remain))
        (intro ++ (code ++ closed.chars ++ [])) := by
      refine .append_of_absent (fun _ => after?_eq_none_iff.mpr) introduced.not_infix outer ?_
      refine .append_of_absent (fun _ => after?_eq_none_iff.mpr) whole inner ?_
      rcases either with rfl | rfl
      · exact .nil rfl
      · exact .mark (after?_append fence []) (.nil rfl)
    refine ⟨intro, closed, introduced, ?_⟩
    rw [scan_removeFences.eq_iff.mpr first, (replaceAll_nil_eq_iff fence_ne_nil).mpr second, List.append_nil]

/-- What introduces the code is taken away, and nothing of the code. -/
theorem trim_behind_introduction (introduced : Introduction intro) (plain : ¬ Introduced code) (closed : LineEnd) :
    trim ((afterPreamble? (intro ++ (code ++ closed.chars))).getD (intro ++ (code ++ closed.chars))) = trim code := by
  cases introduced with
  | none =>
    have kept := afterPreamble?_eq_none_iff.mpr (mt (Introduced.of_append closed) plain)
    rw [List.nil_append, kept, Option.getD_none, trim_append_of_blank _ closed.isBlank]
  | @line subject colon single _ other marked ending =>
    have found : afterPreamble? ("Here is the ".toList ++ (subject ++ (" code".toList ++ (colon ++ ending.chars))) ++
        (code ++ closed.chars)) = some (ending.chars ++ (code ++ closed.chars)) := by
      simp only [List.append_assoc]
      have solid (rest : List Char) : trimStart ("Here is the ".toList ++ rest) = "Here is the ".toList ++ rest := rfl
      have folded (rest : List Char) : afterFolded? "here is the ".toList ("Here is the ".toList ++ rest) = some rest := rfl
      rw [afterPreamble?_eq, solid, folded, Option.bind_some, afterCode?_append single other, Option.map_some]
      rcases marked with rfl | rfl
      · cases ending <;> rfl
      · rfl
    rw [found, Option.getD_some, trim_of_blank_append _ ending.isBlank, trim_append_of_blank _ closed.isBlank]

theorem toList_stripFences (text : String) : (stripFences text).toList =
    trim ((afterPreamble? (replaceAll fence [] (removeFences text.toList.length [] text.toList))).getD
      (replaceAll fence [] (removeFences text.toList.length [] text.toList))) :=
  String.toList_ofList

theorem not_infix_stripFences (text : String) : ¬ fence <:+: (stripFences text).toList := by
  have absent := (run_of_removed ((replaceAll_nil_eq_iff fence_ne_nil).mp
    (Eq.refl (replaceAll fence [] (removeFences text.toList.length [] text.toList))))).2
  rw [toList_stripFences]
  generalize replaceAll fence [] _ = left at absent ⊢
  refine fun inside => absent ((inside.trans (isInfix_trim _)).trans ?_)
  cases found : afterPreamble? left with
  | none => exact List.infix_refl left
  | some rest => exact (exists_of_afterPreamble? found).2.isInfix

/-- What is left of any reply is trimmed and has no fence. Code without a fence or an introduction of its own is what
is left of itself, and of each reply that holds it between fences, without the blanks around it. -/
theorem stripFences_unwraps :
    (∀ text : String, trim (stripFences text).toList = (stripFences text).toList ∧
      ¬ fence <:+: (stripFences text).toList) ∧
    ∀ code : List Char, ¬ fence <:+: code → ¬ Introduced code →
      (stripFences (String.ofList code)).toList = trim code ∧
      ∀ reply : String, Fenced code reply.toList → (stripFences reply).toList = trim code := by
  refine ⟨fun text => ⟨?_, not_infix_stripFences text⟩, fun code absent plain => ⟨?_, fun reply fenced => ?_⟩⟩
  · rw [toList_stripFences, trim_trim]
  · have first := scan_removeFences.eq_iff.mpr (removed_self (fun _ => afterFence?_eq_none) fence_ne_nil absent)
    have second := (replaceAll_nil_eq_iff fence_ne_nil).mpr
      (removed_self (fun _ => after?_eq_none_iff.mpr) fence_ne_nil absent)
    rw [toList_stripFences, String.toList_ofList, first, second, afterPreamble?_eq_none_iff.mpr plain, Option.getD_none]
  · obtain ⟨intro, closed, introduced, left⟩ := exists_of_fenced absent fenced
    rw [toList_stripFences, left, trim_behind_introduction introduced plain]

/-- Code with backticks in pairs, behind a sentence with another word that starts as `code` does. -/
theorem stripFences_unwraps_script :
    (¬ fence <:+: "const a = \x60\x60b\x60\x60;".toList ∧ ¬ Introduced "const a = \x60\x60b\x60\x60;".toList ∧
      Fenced "const a = \x60\x60b\x60\x60;".toList
        "Here is the coded fix code:\r\n\x60\x60\x60tsx\nconst a = \x60\x60b\x60\x60;\r\n\x60\x60\x60".toList) ∧
    stripFences "Here is the coded fix code:\r\n\x60\x60\x60tsx\nconst a = \x60\x60b\x60\x60;\r\n\x60\x60\x60" =
      "const a = \x60\x60b\x60\x60;" := by
  have absent : ¬ fence <:+: "const a = \x60\x60b\x60\x60;".toList := by decide +kernel
  have plain : ¬ Introduced "const a = \x60\x60b\x60\x60;".toList := by decide +kernel
  have fenced : Fenced "const a = \x60\x60b\x60\x60;".toList
      "Here is the coded fix code:\r\n\x60\x60\x60tsx\nconst a = \x60\x60b\x60\x60;\r\n\x60\x60\x60".toList :=
    have introduced : Introduction "Here is the coded fix code:\r\n".toList :=
      @Introduction.line "coded fix".toList [':'] (by decide) (by decide) (by decide +kernel) (.inr rfl) .returnFeed
    @Fenced.mk _ _ "tsx".toList [] introduced (List.all_eq_true.mp (by decide)) .feed .returnFeed (.inl rfl)
  refine ⟨⟨absent, plain, fenced⟩, String.toList_inj.mp ?_⟩
  rw [(stripFences_unwraps.2 _ absent plain).2 _ fenced]
  decide +kernel

end UiCheck.Patch
