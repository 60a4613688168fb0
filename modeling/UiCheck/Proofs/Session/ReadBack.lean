import UiCheck.Proofs.Run.Written
import UiCheck.Session.Record

/-! # Reports read back

A report is written as a document, and from the text of the document the report is read back: what failed is the step
or the phase that failed, and what was left out is empty. The reader opens 127 levels at most. A report whose document
nests deeper is written all the same and refused by the reader, so that it is never taken for another one.
-/

namespace UiCheck

open Json.Reader

/-! ## Records -/

namespace IterationRecord

/-- The number of the iteration fits into thirty-two bits, and the result can be read back. -/
structure Plain (record : IterationRecord) : Prop where
  iteration : record.iteration < Number.word32
  result : ∀ result, record.result = some result → result.Plain

theorem exists_result {result : Option RunResult} (plain : ∀ found, result = some found → found.Plain) :
    ∃ doc, resultToJson result = .ok doc ∧ (result = none → doc = none) ∧ ∀ found, result = some found →
      ∃ members, doc = some (.object members) ∧ ∀ form, ReadsWithin form RunResult.read (.object members) found := by
  cases result with
  | none => exact ⟨none, rfl, fun _ => rfl, nofun⟩
  | some result =>
    obtain ⟨members, written, within⟩ := (plain result rfl).exists_written
    refine ⟨some (.object members), by rw [resultToJson, written], nofun, ?_⟩
    intro _ same
    exact ⟨members, rfl, Option.some.inj same ▸ within⟩

theorem readsWithin_texts (form : Json.Form) (texts : List String) :
    ReadsWithin form (fun levels => list levels fun _ => text "a string") (.texts texts) texts := by
  refine readsWithin_list ?_
  induction texts with
  | nil => exact .nil
  | cons s _ ih => exact .cons (readsWithin_text form _ s) ih

/-- A record is written as a document that is read as the record. -/
theorem Plain.exists_written {record : IterationRecord} (plain : record.Plain) :
    ∃ doc, record.toJson = .ok doc ∧ ∀ form, ReadsWithin form IterationRecord.read doc record := by
  obtain ⟨result, written, missing, found⟩ := exists_result plain.result
  refine ⟨_, by rw [toJson, written], fun form => ?_⟩
  have small : record.iteration < Number.word64 := Nat.lt_trans plain.iteration (by decide)
  let known (brokenFile : Option (Option String)) (result : Option (Option RunResult)) (patched : Option (List String))
      (note : Option (Option String)) : PartialRecord :=
    ⟨some record.iteration, some record.buildPassed, brokenFile, result, patched, note⟩
  let broken := record.brokenFile.map some
  let read := record.result.map some
  refine readsWithin_record (.append (.append (.append (.append
    (.cons (memberWithin_field rfl rfl ((readsWithin_natural form plain.iteration small _).set _))
      (.single (memberWithin_field rfl rfl ((readsWithin_bool form _).set _))))
    (chain_optional_text "brokenFile" record.brokenFile (known · none none none) rfl rfl rfl
      (by cases record.brokenFile <;> rfl)))
    (chain_optional record.result (fun result => known broken (result.map some) none none) ?_ ?_))
    (.single (memberWithin_field rfl rfl ((readsWithin_texts form _).set _))))
    (chain_optional_text "note" record.note (known broken read (some record.patched)) rfl rfl rfl
      (by cases record.note <;> rfl))) ?_
  · intro absent
    rw [missing absent]
    rfl
  · intro answer there
    obtain ⟨members, rfl, within⟩ := found answer there
    exact ⟨("result", .object members), rfl,
      memberWithin_field rfl rfl ((readsWithin_optional_object (within form)).set _)⟩
  · have back {α : Type} (x : Option α) : (x.map some).getD none = x := by cases x <;> rfl
    show pure (IterationRecord.mk record.iteration record.buildPassed (broken.getD none) (read.getD none) record.patched
      ((record.note.map some).getD none)) = _
    rw [back, back, back]

end IterationRecord

/-! ## Texts -/

/-- The report is written as a document, and either text of the document is read as the report, just if the document
nests no deeper than the reader allows. -/
def ReadBack {α : Type} (toJson : α → Except KeyFault Json) (ofText : String → Except Json.Error α) (report : α) :
    Prop :=
  ∃ doc, toJson report = .ok doc ∧ ∀ text ∈ [doc.toCompact, doc.toPretty],
    (doc.depth < depthLimit → ofText text = .ok report) ∧ (depthLimit ≤ doc.depth → ∃ e, ofText text = .error e)

theorem readBack_of_written {α : Type} {toJson : α → Except KeyFault Json} {reader : Nat → Json.Reader α} {report : α}
    (written : ∃ doc, toJson report = .ok doc ∧ ∀ form, ReadsWithin form reader doc report) :
    ReadBack toJson (onText (reader depthLimit)) report := by
  obtain ⟨doc, written, within⟩ := written
  refine ⟨doc, written, fun text member => ?_⟩
  simp only [List.mem_cons, List.not_mem_nil, or_false] at member
  obtain rfl | rfl := member
  · exact (within .compact).onText
  · exact (within .pretty).onText

theorem IterationRecord.Plain.readBack {record : IterationRecord} (plain : record.Plain) :
    ReadBack IterationRecord.toJson IterationRecord.ofText record :=
  readBack_of_written plain.exists_written

theorem RunResult.Plain.readBack {result : RunResult} (plain : result.Plain) :
    ReadBack RunResult.toJson RunResult.ofText result := by
  obtain ⟨members, written, within⟩ := plain.exists_written
  exact readBack_of_written ⟨_, written, within⟩

/-- Every record and every result is written, and is read back from its texts up to the depth that the reader allows. -/
theorem reports_read_back :
    (∀ record : IterationRecord, record.Plain → ReadBack IterationRecord.toJson IterationRecord.ofText record) ∧
      ∀ result : RunResult, result.Plain → ReadBack RunResult.toJson RunResult.ofText result :=
  ⟨fun _ plain => plain.readBack, fun _ plain => plain.readBack⟩

/-! ## The deepest reports -/

/-- A number of lists, one inside the other. -/
def Value.nested : Nat → Value
  | 0 => .null
  | n + 1 => .list [nested n]

/-- The report of a run that failed at a step that no rule recognises, with nested lists as its argument. -/
def nestedReport (n : Nat) : IterationRecord where
  iteration := 1
  buildPassed := true
  result := some {
    total := 1
    failures := [⟨"A", .action (.unknown (.ofFields [("hover", .nested n)])), "Unrecognized step"⟩] }

theorem Value.plain_nested (n : Nat) : (nested n).Plain := by
  induction n with
  | zero => exact .null
  | succ n ih => exact .list (List.forall_mem_singleton.mpr ih)

theorem plain_nestedReport (n : Nat) : (nestedReport n).Plain := by
  refine ⟨(by decide : 1 < Number.word32), fun result same => ?_⟩
  obtain rfl := Option.some.inj same
  refine ⟨(by decide : 1 < Number.word64), (by decide : 0 < Number.word64), List.forall_mem_singleton.mpr ?_⟩
  show (Value.mapping ([("hover", Value.nested n)].map Value.under)).Plain
  exact .mapping (List.nodup_singleton _) (List.forall_mem_singleton.mpr (Value.plain_nested n))

theorem Value.exists_toJson_nested (n : Nat) : ∃ doc, (nested n).toJson = .ok doc ∧ doc.depth = n := by
  induction n with
  | zero => exact ⟨.null, by rw [nested, toJson], rfl⟩
  | succ n ih =>
    obtain ⟨doc, written, deep⟩ := ih
    refine ⟨.list [doc], by simp only [nested, toJson, listToJson, written], ?_⟩
    rw [Json.depth, Json.depthOfItems, Json.depthOfItems, deep]
    omega

/-- Six levels lie around the lists. -/
theorem depth_nestedReport {n : Nat} {doc : Json} (written : (nestedReport n).toJson = .ok doc) :
    doc.depth = n + 6 := by
  obtain ⟨inner, inside, deep⟩ := Value.exists_toJson_nested n
  have action : (Action.unknown (.ofFields [("hover", .nested n)])).toJson =
      .ok (.object [("type", .string "unknown"), ("original", .object [("hover", inner)])]) := by
    simp only [Action.toJson, Action.taggedStep, Action.tag, Action.arguments, Step.ofFields, Step.toJson,
      List.map_cons, List.map_nil, Value.under, Value.toJson, Value.entriesToJson, Value.entryToJson,
      Value.memberName, inside]
  simp only [nestedReport, IterationRecord.toJson, IterationRecord.resultToJson, RunResult.toJson,
    RunResult.failuresToJson, Failure.toJson, FailedStep.toJson, action] at written
  obtain rfl := Except.ok.inj written
  simp [Json.depth, Json.depthOfItems, Json.depthOfMembers, Json.depthOfMember, IterationRecord.optionalMember,
    Json.nat, Json.texts, deep]

theorem nestedReport_read : ∃ doc, (nestedReport 121).toJson = .ok doc ∧ doc.depth = 127 ∧
    IterationRecord.ofText doc.toPretty = .ok (nestedReport 121) := by
  obtain ⟨doc, written, read⟩ := reports_read_back.1 (nestedReport 121) (plain_nestedReport 121)
  have deep : doc.depth = 127 := depth_nestedReport written
  exact ⟨doc, written, deep, (read doc.toPretty (by simp)).1 (by rw [deep]; decide)⟩

theorem nestedReport_refused : (nestedReport 122).Plain ∧ ∃ doc, (nestedReport 122).toJson = .ok doc ∧
    IterationRecord.ofText doc.toPretty ≠ .ok (nestedReport 122) := by
  obtain ⟨doc, written, read⟩ := (plain_nestedReport 122).readBack
  have deep : doc.depth = 128 := depth_nestedReport written
  obtain ⟨e, refused⟩ := (read doc.toPretty (by simp)).2 (by rw [deep]; decide)
  refine ⟨plain_nestedReport 122, doc, written, ?_⟩
  rw [refused]
  nofun

end UiCheck
