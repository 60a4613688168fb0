import UiCheck.Oracle.Client
import UiCheck.Proofs.Text.Search

/-! # Completions from a stream

The lines of a streamed reply in front of its end come to a content and to the text of all lines that are no data
lines: `Streamed` builds both up line by line, without a word on how they are received. `complete_streamed` says what
a completion makes of them, and that an oracle is asked a second time just if it has sent neither content nor a
refusal. Lines without content make no difference to the content, wherever they stand.
-/

namespace UiCheck.Oracle

/-- The line is a data line. -/
def IsData (line : String) : Prop :=
  ∃ data, line = "data: " ++ data

/-- The line is a data line, and the first choice of its document has a piece of content. -/
def Carries (line text : String) : Prop :=
  ∃ data doc choice others delta, line = "data: " ++ data ∧ Json.ofText data = .ok doc ∧
    doc.get? "choices" = some (.list (choice :: others)) ∧ choice.get? "delta" = some delta ∧
    delta.get? "content" = some (.string text)

/-- The body is a document that says why nothing else comes, or a list that starts with one. -/
def Refuses (body message : String) : Prop :=
  ∃ doc holder fault, Json.ofText (String.ofList (Text.trim body.toList)) = .ok doc ∧
    (doc = holder ∨ ∃ others, doc = .list (holder :: others)) ∧ holder.get? "error" = some fault ∧
    fault.get? "message" = some (.string message)

/-- All lines are texts, the pieces that they carry make the content, and those that are no data lines the rest. -/
inductive Streamed : List (Option String) → String → String → Prop
  | nil : Streamed [] "" ""
  | piece {line text content rest : String} {lines : List (Option String)} :
      Carries line text → Streamed lines content rest → Streamed (some line :: lines) (text ++ content) rest
  | empty {line content rest : String} {lines : List (Option String)} :
      IsData line → (∀ text, ¬ Carries line text) → Streamed lines content rest →
      Streamed (some line :: lines) content rest
  | other {line content rest : String} {lines : List (Option String)} :
      ¬ IsData line → Streamed lines content rest → Streamed (some line :: lines) content (line ++ rest)

/-- The lines in front of the one that ends a reply. -/
def beforeEnd (lines : List (Option String)) : List (Option String) :=
  lines.takeWhile (· ≠ some "data: [DONE]")

/-! ## Documents -/

section

variable {line text body message : String} {doc : Json}

theorem contentAt?_eq_some_iff {inner : String} : contentAt? inner doc = some text ↔
    ∃ choice others delta, doc.get? "choices" = some (.list (choice :: others)) ∧ choice.get? inner = some delta ∧
      delta.get? "content" = some (.string text) := by
  have first {items : Json} {choice : Json} : items.item? 0 = some choice ↔ ∃ others, items = .list (choice :: others) := by
    cases items with
    | list items => cases items <;> simp [Json.item?]
    | _ => simp [Json.item?]
  have string {value : Json} : value.text? = some text ↔ value = .string text := by
    cases value <;> simp [Json.text?]
  simp only [contentAt?, Option.bind_eq_bind, Option.bind_eq_some_iff, first, string]
  constructor
  · rintro ⟨_, there, choice, ⟨others, rfl⟩, delta, inside, _, content, rfl⟩
    exact ⟨choice, others, delta, there, inside, content⟩
  · rintro ⟨choice, others, delta, there, inside, content⟩
    exact ⟨_, there, choice, ⟨others, rfl⟩, delta, inside, _, content, rfl⟩

theorem refusal?_eq_some_iff : refusal? body = some message ↔ Refuses body message := by
  have string {value : Json} : value.text? = some message ↔ value = .string message := by
    cases value <;> simp [Json.text?]
  unfold refusal? Refuses
  cases parsed : Json.ofText (String.ofList (Text.trim body.toList)) with
  | error e => simp
  | ok doc =>
    simp only [Option.bind_eq_bind, Option.bind_eq_some_iff, string, Except.ok.injEq]
    constructor
    · rintro ⟨fault, there, _, inside, rfl⟩
      split at there
      · next holder others => exact ⟨_, holder, fault, rfl, .inr ⟨others, rfl⟩, there, inside⟩
      · exact ⟨doc, doc, fault, rfl, .inl rfl, there, inside⟩
    · rintro ⟨_, holder, fault, rfl, rfl | ⟨others, rfl⟩, there, inside⟩
      · refine ⟨fault, ?_, _, inside, rfl⟩
        split
        · -- a list has no members
          cases there
        · exact there
      · exact ⟨fault, there, _, inside, rfl⟩

/-! ## Lines -/

theorem eq_data_iff {data : String} : line = "data: " ++ data ↔ Text.after? dataMark line.toList = some data.toList := by
  delta dataMark
  rw [Text.after?_eq_some_iff, ← String.toList_append, String.toList_inj]

theorem ofText_other (other : ¬ IsData line) : Line.ofText line = .other line := by
  rw [Line.ofText]
  split
  · rfl
  · next data there =>
    refine absurd ⟨String.ofList data, eq_data_iff.mpr ?_⟩ other
    rw [there, String.toList_ofList]

theorem carries_iff {data : String} (there : line = "data: " ++ data) :
    Carries line text ↔ piece? data = some text := by
  unfold Carries piece?
  constructor
  · rintro ⟨data', doc, choice, others, delta, there', parsed, choices, inside, content⟩
    obtain rfl : data' = data := String.append_right_inj _ |>.mp (there'.symm.trans there)
    rw [parsed]
    exact contentAt?_eq_some_iff.mpr ⟨choice, others, delta, choices, inside, content⟩
  · intro found
    split at found
    · next doc parsed =>
      obtain ⟨choice, others, delta, choices, inside, content⟩ := contentAt?_eq_some_iff.mp found
      exact ⟨data, doc, choice, others, delta, there, parsed, choices, inside, content⟩
    · cases found

theorem ofText_data {data : String} (there : line = "data: " ++ data) (more : data ≠ "[DONE]") :
    (∃ text, Carries line text ∧ Line.ofText line = .piece text) ∨
      (∀ text, ¬ Carries line text) ∧ Line.ofText line = .empty := by
  have other : data.toList ≠ "[DONE]".toList := fun same => more (String.toList_inj.mp same)
  simp only [Line.ofText, eq_data_iff.mp there, if_neg other, String.ofList_toList, carries_iff there]
  cases piece? data with
  | some text => exact .inl ⟨text, rfl, rfl⟩
  | none => exact .inr ⟨nofun, rfl⟩

theorem ofText_end : Line.ofText "data: [DONE]" = .finish := by decide +kernel

/-! ## Receiving -/

section

variable {received : Received} {lines : List (Option String)}

theorem beforeEnd_cons (unfinished : line ≠ "data: [DONE]") :
    beforeEnd (some line :: lines) = some line :: beforeEnd lines := by
  simp [beforeEnd, unfinished]

theorem beforeEnd_end : beforeEnd (some "data: [DONE]" :: lines) = [] := by
  simp [beforeEnd]

/-- What a line adds to what is streamed behind it, it adds to what was received before it. -/
theorem exists_added (unfinished : line ≠ "data: [DONE]") : ∃ kind more aside, Line.ofText line = kind ∧ kind ≠ .finish ∧
    (∀ lines content rest, Streamed lines content rest →
      Streamed (some line :: lines) (more ++ content) (aside ++ rest)) ∧
    ∀ received : Received, (received.add kind).content = received.content ++ more ∧
      (received.add kind).others = received.others ++ aside := by
  by_cases data : IsData line
  · obtain ⟨data, there⟩ := data
    have more : data ≠ "[DONE]" := by
      rintro rfl
      exact unfinished there
    rcases ofText_data there more with ⟨text, carries, kind⟩ | ⟨carries, kind⟩
    · refine ⟨_, text, "", kind, nofun, fun lines content rest streamed => ?_, fun received =>
        ⟨rfl, (String.append_empty ..).symm⟩⟩
      rw [String.empty_append]
      exact .piece carries streamed
    · refine ⟨_, "", "", kind, nofun, fun lines content rest streamed => ?_, fun received =>
        ⟨(String.append_empty ..).symm, (String.append_empty ..).symm⟩⟩
      rw [String.empty_append, String.empty_append]
      exact .empty ⟨data, there⟩ carries streamed
  · refine ⟨_, "", line, ofText_other data, nofun, fun lines content rest streamed => ?_, fun received =>
      ⟨(String.append_empty ..).symm, rfl⟩⟩
    rw [String.empty_append]
    exact .other data streamed

theorem receive_cons {kind : Line} (means : Line.ofText line = kind) (unfinished : kind ≠ .finish) :
    receive received (some line :: lines) = receive (received.add kind) lines := by
  subst means
  rw [receive]
  split
  · next finish => exact absurd finish unfinished
  · rfl

theorem receive_end : receive received (some "data: [DONE]" :: lines) = (.finished, received) := by
  rw [receive, ofText_end]

/-- Behind lines that are all texts, what they stream has been received, and otherwise the reply is garbled. -/
theorem receive_spec (lines : List (Option String)) :
    (none ∈ beforeEnd lines ∧ ∀ received, (receive received lines).1 = .garbled) ∨
      ∃ content rest, Streamed (beforeEnd lines) content rest ∧ ∀ received, (receive received lines).1 ≠ .garbled ∧
        (receive received lines).2.content = received.content ++ content ∧
        (receive received lines).2.others = received.others ++ rest := by
  have nothing {ending : Ending} (unspoilt : ending ≠ .garbled) (received : Received) : ending ≠ .garbled ∧
      received.content = received.content ++ "" ∧ received.others = received.others ++ "" :=
    ⟨unspoilt, (String.append_empty ..).symm, (String.append_empty ..).symm⟩
  induction lines with
  | nil => exact .inr ⟨"", "", .nil, nothing nofun⟩
  | cons line lines ih =>
    cases line with
    | none => exact .inl ⟨List.mem_cons_self .., fun _ => rfl⟩
    | some line =>
      by_cases finish : line = "data: [DONE]"
      · subst finish
        rw [beforeEnd_end]
        simp only [receive_end]
        exact .inr ⟨"", "", .nil, nothing nofun⟩
      · obtain ⟨kind, more, aside, means, unfinished, streams, adds⟩ := exists_added finish
        rw [beforeEnd_cons finish]
        simp only [receive_cons means unfinished]
        rcases ih with ⟨spoilt, garbled⟩ | ⟨content, rest, streamed, got⟩
        · exact .inl ⟨List.mem_cons_of_mem _ spoilt, fun received => garbled _⟩
        · refine .inr ⟨_, _, streams _ _ _ streamed, fun received => ?_⟩
          obtain ⟨unspoilt, content', others'⟩ := got (received.add kind)
          obtain ⟨content'', others''⟩ := adds received
          rw [content', content'', others', others'', String.append_assoc, String.append_assoc]
          exact ⟨unspoilt, rfl, rfl⟩

theorem Streamed.texts {content rest : String} (streamed : Streamed lines content rest) : none ∉ lines := by
  induction streamed with
  | nil => exact List.not_mem_nil
  | piece _ _ ih | empty _ _ _ ih | other _ _ ih => simpa using ih

theorem Carries.unique {text' : String} (carries : Carries line text) (again : Carries line text') : text' = text := by
  obtain ⟨data, _, _, _, _, there, _⟩ := id carries
  rw [carries_iff there] at carries again
  exact Option.some.inj (again.symm.trans carries)

theorem Carries.isData (carries : Carries line text) : IsData line := by
  obtain ⟨data, _, _, _, _, there, _⟩ := carries
  exact ⟨data, there⟩

/-- Lines stream one content and one rest. -/
theorem Streamed.unique {content content' rest rest' : String} (streamed : Streamed lines content rest)
    (again : Streamed lines content' rest') : content' = content ∧ rest' = rest := by
  induction streamed generalizing content' rest' with
  | nil =>
    cases again
    exact ⟨rfl, rfl⟩
  | piece carries _ ih =>
    cases again with
    | piece carries' streamed' =>
      obtain ⟨rfl, rfl⟩ := ih streamed'
      exact ⟨by rw [carries.unique carries'], rfl⟩
    | empty _ bare _ => exact absurd carries (bare _)
    | other other _ => exact absurd carries.isData other
  | empty data bare _ ih =>
    cases again with
    | piece carries _ => exact absurd carries (bare _)
    | empty _ _ streamed' => exact ih streamed'
    | other other _ => exact absurd data other
  | other other _ ih =>
    cases again with
    | piece carries _ => exact absurd carries.isData other
    | empty data _ _ => exact absurd data other
    | other _ streamed' =>
      obtain ⟨rfl, rfl⟩ := ih streamed'
      exact ⟨rfl, rfl⟩

/-- What is streamed tells whether nothing was. -/
theorem Streamed.bare_iff {content rest : String} (streamed : Streamed lines content rest) :
    (∃ rest', Streamed lines "" rest' ∧ ∀ message, ¬ Refuses rest' message) ↔
      content = "" ∧ ∀ message, ¬ Refuses rest message := by
  constructor
  · rintro ⟨rest', again, clear⟩
    obtain ⟨rfl, rfl⟩ := streamed.unique again
    exact ⟨rfl, clear⟩
  · rintro ⟨rfl, clear⟩
    exact ⟨rest, streamed, clear⟩

/-- What holds of all contents that are streamed holds of the one there is. -/
theorem Streamed.forall_iff {content rest : String} {P : String → Prop} (streamed : Streamed lines content rest) :
    (∀ content rest, Streamed lines content rest → P content) ↔ P content := by
  refine ⟨fun all => all content rest streamed, fun holds content' rest' again => ?_⟩
  rwa [(streamed.unique again).1]

end

end

/-! ## Asking -/

/-- What is sent when a prompt is posted. -/
def request (settings : Settings) (prompt : String) (stream : Bool) : List String × String :=
  (arguments settings stream, (requestBody settings prompt stream).toCompact)

variable {σ : Type}

/-- The courier that keeps what is sent, latest first. -/
def Courier.recorded (courier : Courier σ) : Courier (σ × List (List String × String)) where
  transfer arguments body s :=
    let (answer, t) := courier.transfer arguments body s.1
    (answer, t, (arguments, body) :: s.2)

section

variable {courier : Courier σ} {settings : Settings} {prompt : String} {s t : σ} {first : Transfer}
  {sent : List (List String × String)}

theorem post_recorded (courier : Courier σ) (settings : Settings) (prompt : String) (stream : Bool) (s : σ)
    (sent : List (List String × String)) : post courier.recorded settings prompt stream (s, sent) =
      ((post courier settings prompt stream s).1, (post courier settings prompt stream s).2,
        request settings prompt stream :: sent) := rfl

/-- One request is sent without a stream. -/
theorem completeWhole_recorded (courier : Courier σ) (settings : Settings) (prompt : String) (s : σ)
    (sent : List (List String × String)) : completeWhole courier.recorded settings prompt (s, sent) =
      ((completeWhole courier settings prompt s).1, (completeWhole courier settings prompt s).2,
        request settings prompt false :: sent) := by
  rw [completeWhole, completeWhole, post_recorded]
  obtain ⟨reply, t⟩ := post courier settings prompt false s
  cases reply with
  | error e => rfl
  | ok reply =>
    dsimp only
    repeat' split
    all_goals rfl

/-- An empty content counts as none. -/
theorem completeWhole_ne_empty (courier : Courier σ) (settings : Settings) (prompt : String) (s : σ) :
    (completeWhole courier settings prompt s).1 ≠ .ok "" := by
  rw [completeWhole]
  split
  · nofun
  · split
    · nofun
    · split
      · nofun
      · split
        · split
          · nofun
          · next filled => exact fun same => filled (String.isEmpty_iff.mpr (Except.ok.inj same))
        · nofun

/-- What comes of a reply that is over. Only the last case asks once more. -/
theorem settle_cases (courier : Courier σ) (settings : Settings) (prompt : String) (succeeded : Bool)
    (received : Received) (s : σ) :
    (received.content ≠ "" ∧ settle courier settings prompt succeeded received s = (.ok received.content, s)) ∨
      received.content = "" ∧ ((∃ e, settle courier settings prompt succeeded received s = (.error e, s) ∧
          (succeeded = false ∨ ∃ message, Refuses received.others message)) ∨
        succeeded = true ∧ (∀ message, ¬ Refuses received.others message) ∧
          settle courier settings prompt succeeded received s = completeWhole courier settings prompt s) := by
  rw [settle]
  by_cases empty : received.content = ""
  · rw [if_pos (String.isEmpty_iff.mpr empty)]
    refine .inr ⟨empty, ?_⟩
    cases succeeded with
    | false => exact .inl ⟨_, rfl, .inl rfl⟩
    | true =>
      simp only [Bool.not_true, Bool.false_eq_true, if_false, ← refusal?_eq_some_iff]
      cases refusal? received.others with
      | some message => exact .inl ⟨_, rfl, .inr ⟨message, rfl⟩⟩
      | none => exact .inr ⟨trivial, nofun, rfl⟩
  · rw [if_neg (mt String.isEmpty_iff.mp empty)]
    exact .inl ⟨empty, rfl⟩

theorem settle_recorded (courier : Courier σ) (settings : Settings) (prompt : String) (succeeded : Bool)
    (received : Received) (s : σ) (sent : List (List String × String)) :
    ∃ more, settle courier.recorded settings prompt succeeded received (s, sent) =
      ((settle courier settings prompt succeeded received s).1,
        (settle courier settings prompt succeeded received s).2, more) := by
  rw [settle, settle]
  split
  · split
    · exact ⟨_, rfl⟩
    · split
      · exact ⟨_, rfl⟩
      · exact ⟨_, completeWhole_recorded ..⟩
  · exact ⟨_, rfl⟩

/-- A completion settles what was received, unless the reply was garbled. -/
theorem complete_eq (streamed : post courier settings prompt true s = (.ok first, t)) (lively : first.stalled = false) :
    complete courier settings prompt s =
      if (receive {} (Text.byteLines first.stdout)).1 = .garbled then (.error (.io .notText), t)
      else settle courier settings prompt first.succeeded (receive {} (Text.byteLines first.stdout)).2 t := by
  rw [complete, completeWatched, streamed]
  dsimp only
  generalize receive {} (Text.byteLines first.stdout) = got
  obtain ⟨ending, received⟩ := got
  rw [lively]
  cases ending <;> rfl

theorem complete_recorded_eq (streamed : post courier settings prompt true s = (.ok first, t))
    (lively : first.stalled = false) : complete courier.recorded settings prompt (s, []) =
      if (receive {} (Text.byteLines first.stdout)).1 = .garbled then
        (.error (.io .notText), t, [request settings prompt true])
      else settle courier.recorded settings prompt first.succeeded (receive {} (Text.byteLines first.stdout)).2
        (t, [request settings prompt true]) := by
  have kept : post courier.recorded settings prompt true (s, []) = (.ok first, t, [request settings prompt true]) := by
    rw [post_recorded, streamed]
  exact complete_eq kept lively

/-- Keeping what is sent changes nothing else. -/
theorem exists_complete_recorded (streamed : post courier settings prompt true s = (.ok first, t))
    (lively : first.stalled = false) : ∃ answer after sent, complete courier settings prompt s = (answer, after) ∧
      complete courier.recorded settings prompt (s, []) = (answer, after, sent) := by
  rw [complete_recorded_eq streamed lively, complete_eq streamed lively]
  split
  · exact ⟨_, _, _, rfl, rfl⟩
  · obtain ⟨sent, settled⟩ := settle_recorded courier settings prompt first.succeeded
      (receive {} (Text.byteLines first.stdout)).2 t [request settings prompt true]
    exact ⟨_, _, sent, rfl, settled⟩

/-- What comes of a reply of which all lines are texts, by what they stream. -/
theorem complete_of_texts {content rest : String} {answer : Except OracleError String} {after : σ}
    (streamed : post courier settings prompt true s = (.ok first, t)) (lively : first.stalled = false)
    (streams : Streamed (beforeEnd (Text.byteLines first.stdout)) content rest)
    (recorded : complete courier.recorded settings prompt (s, []) = (answer, after, sent)) :
    (sent = [request settings prompt true] ∨ sent = [request settings prompt false, request settings prompt true]) ∧
      (sent.length = 2 ↔ first.succeeded = true ∧ content = "" ∧ ∀ message, ¬ Refuses rest message) ∧
      (content ≠ "" → answer = .ok content) ∧ answer ≠ .ok "" := by
  obtain ⟨spoilt, _⟩ | ⟨content', rest', again, got⟩ := receive_spec (Text.byteLines first.stdout)
  · exact absurd spoilt streams.texts
  obtain ⟨rfl, rfl⟩ := again.unique streams
  obtain ⟨unspoilt, content', others⟩ := got {}
  rw [String.empty_append] at content' others
  rw [complete_recorded_eq streamed lively, if_neg unspoilt] at recorded
  have cases := settle_cases courier.recorded settings prompt first.succeeded
    (receive {} (Text.byteLines first.stdout)).2 (t, [request settings prompt true])
  rw [recorded, content', others] at cases
  rcases cases with ⟨filled, settled⟩ | ⟨empty, ⟨e, settled, stops⟩ | ⟨went, clear, settled⟩⟩
  · cases settled
    exact ⟨.inl rfl, iff_of_false nofun fun asks => filled asks.2.1, fun _ => rfl, fun same => filled (Except.ok.inj same)⟩
  · cases settled
    refine ⟨.inl rfl, iff_of_false nofun ?_, fun filled => absurd empty filled, nofun⟩
    rintro ⟨went, _, clear⟩
    rcases stops with failed | ⟨message, refuses⟩
    · cases went.symm.trans failed
    · exact clear message refuses
  · rw [completeWhole_recorded] at settled
    cases settled
    exact ⟨.inr rfl, iff_of_true rfl ⟨went, empty, clear⟩, fun filled => absurd empty filled,
      completeWhole_ne_empty courier settings prompt t⟩

end

/-- What a completion makes of the first reply, of which the lines in front of its end count. A second request is sent
just if the first one went well, all lines are texts, and they stream neither content nor a refusal. Content is the
answer as it was streamed, whatever the other lines are; without content the answer is not an empty one; and a line that
is no text is an error. -/
theorem complete_streamed (courier : Courier σ) (settings : Settings) (prompt : String) (s t : σ) (first : Transfer)
    (streamed : post courier settings prompt true s = (.ok first, t)) (lively : first.stalled = false) :
    let lines := beforeEnd (Text.byteLines first.stdout)
    ∃ answer after sent, complete courier settings prompt s = (answer, after) ∧
      complete courier.recorded settings prompt (s, []) = (answer, after, sent) ∧
      (sent = [request settings prompt true] ∨ sent = [request settings prompt false, request settings prompt true]) ∧
      (sent.length = 2 ↔ first.succeeded = true ∧ ∃ rest, Streamed lines "" rest ∧ ∀ message, ¬ Refuses rest message) ∧
      (∀ content rest, Streamed lines content rest → content ≠ "" → answer = .ok content) ∧
      (none ∉ lines → ∃ content rest, Streamed lines content rest) ∧
      (none ∈ lines → ∃ cause, answer = .error (.io cause)) ∧
      answer ≠ .ok "" := by
  intro lines
  obtain ⟨answer, after, sent, plain, recorded⟩ := exists_complete_recorded streamed lively
  refine ⟨answer, after, sent, plain, recorded, ?_⟩
  rcases receive_spec (Text.byteLines first.stdout) with ⟨spoilt, garbled⟩ | ⟨content, rest, streams, _⟩
  · have unstreamed {content rest : String} : ¬ Streamed lines content rest := fun streams => streams.texts spoilt
    rw [complete_recorded_eq streamed lively, if_pos (garbled {})] at recorded
    cases recorded
    refine ⟨.inl rfl, iff_of_false nofun ?_, fun _ _ streams => absurd streams unstreamed,
      fun texts => absurd spoilt texts, fun _ => ⟨_, rfl⟩, nofun⟩
    rintro ⟨_, rest, streams, _⟩
    exact unstreamed streams
  · obtain ⟨requests, asks, answers, unempty⟩ := complete_of_texts streamed lively streams recorded
    rw [streams.bare_iff, streams.forall_iff]
    exact ⟨requests, asks, answers, fun _ => ⟨_, _, streams⟩, fun spoilt => absurd spoilt streams.texts, unempty⟩

/-- Two pieces between a comment, an empty line, a line that is no document, one without choices and other text. -/
def noisyReply : Transfer where
  stdout := (": ping\n\ndata: \x7b\"choices\":[\x7b\"delta\":\x7b\"content\":\"x\"\x7d\x7d]\x7d\r\ndata: oops\n" ++
    "data: \x7b\"choices\":[]\x7d\nerror\ndata: \x7b\"choices\":[\x7b\"delta\":\x7b\"content\":\"y\"\x7d\x7d]\x7d\n" ++
    "data: [DONE]\nbehind").toUTF8
  stderr := .empty
  succeeded := false

/-- A courier that brings the replies of a list. -/
def listCourier : Courier (List Transfer) where
  transfer _ _ replies := (.ok (replies.headD default), replies.tail)

/-- An oracle on the own machine. -/
def ownSettings : Settings where
  endpoint := "http://localhost:8080/v1/chat/completions"
  model := "m"
  apiKey := none
  maxTokens := 100
  connectTimeout := 10
  activityTimeout := 60

theorem complete_streamed_noisy : post listCourier ownSettings "Fix it." true [noisyReply] = (.ok noisyReply, []) ∧
    noisyReply.stalled = false ∧ (complete listCourier ownSettings "Fix it." [noisyReply]).1 = .ok "xy" := by
  refine ⟨rfl, rfl, ?_⟩
  obtain ⟨answer, after, sent, plain, _, _, _, filled, _⟩ :=
    complete_streamed listCourier ownSettings "Fix it." [noisyReply] [] noisyReply rfl rfl
  have read : (receive {} (Text.byteLines noisyReply.stdout)).1 ≠ .garbled ∧
      (receive {} (Text.byteLines noisyReply.stdout)).2.content = "xy" := by decide +kernel
  obtain ⟨content, rest, streams, got⟩ :=
    (receive_spec (Text.byteLines noisyReply.stdout)).resolve_left fun both => read.1 (both.2 {})
  have pieces : "" ++ content = "xy" := (got {}).2.1.symm.trans read.2
  rw [String.empty_append] at pieces
  subst pieces
  rw [plain, filled "xy" rest streams (by decide)]

end UiCheck.Oracle
