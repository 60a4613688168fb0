import UiCheck.Proofs.Json.Records
import UiCheck.Proofs.Plan.TaggedForm
import UiCheck.Run.Reader

/-! # Actions and failures as documents

The value that a document is read as is the value that was written, if it holds no floating point number, no tag and
no mapping with other keys than texts. From this an action is told again by its tag, and what failed is never taken
for something else.
-/

namespace UiCheck

open Json.Reader

/-! ## Values -/

/-- A value without floating point numbers and tags, whose numbers fit into sixty-four bits and whose mappings have
texts as keys, each of them once. -/
inductive Value.Plain : Value → Prop where
  | null : Plain .null
  | bool (b : Bool) : Plain (.bool b)
  | int {n : Int} (fits : Fits n) : Plain (.int n)
  | string (s : String) : Plain (.string s)
  | list {items : List Value} (plain : ∀ item ∈ items, Plain item) : Plain (.list items)
  | mapping {fields : List (String × Value)} (apart : (fields.map Prod.fst).Nodup)
    (plain : ∀ field ∈ fields, Plain field.2) : Plain (.mapping (fields.map Value.under))

/-- The document is written for the value and is read as the value. -/
structure Value.Written (value : Value) (doc : Json) : Prop where
  toJson : value.toJson = .ok doc
  exact : doc.Exact
  ofJson : Value.ofJson doc = value

/-- The member is written for the field. -/
def Value.WrittenField (field : String × Value) (member : String × Json) : Prop :=
  member.1 = field.1 ∧ field.2.Written member.2

namespace Value

variable {items : List Value} {docs : List Json} {fields : List (String × Value)} {members : List (String × Json)}

theorem written_list (each : List.Forall₂ Written items docs) : (Value.list items).Written (.list docs) := by
  have toJson : listToJson items = .ok docs := by
    induction each with
    | nil => rw [listToJson]
    | cons written _ ih => simp only [listToJson, written.toJson, ih]
  have ofJson : listOfJson docs = items := by
    clear toJson
    induction each with
    | nil => rw [listOfJson]
    | cons written _ ih => rw [listOfJson, written.ofJson, ih]
  refine ⟨by simp only [Value.toJson, toJson], .list ?_, by rw [Value.ofJson, ofJson]⟩
  clear toJson ofJson
  induction each with
  | nil => nofun
  | cons written _ ih => exact List.forall_mem_cons.mpr ⟨written.exact, ih⟩

theorem entriesToJson_eq (each : List.Forall₂ WrittenField fields members) :
    entriesToJson (fields.map under) = .ok members := by
  induction each with
  | nil => rw [List.map_nil, entriesToJson]
  | @cons field member fields members written _ ih =>
    obtain ⟨name, doc⟩ := member
    obtain ⟨rfl, written⟩ := written
    simp only [List.map_cons, under, entriesToJson, entryToJson, memberName, written.toJson, ih]

theorem entriesOfJson_eq (each : List.Forall₂ WrittenField fields members) :
    entriesOfJson members = fields.map under := by
  induction each with
  | nil => rw [List.map_nil, entriesOfJson]
  | @cons field member fields members written _ ih =>
    obtain ⟨name, doc⟩ := member
    obtain ⟨rfl, written⟩ := written
    rw [entriesOfJson, entryOfJson, written.ofJson, ih, List.map_cons, under]

theorem exact_of_written (each : List.Forall₂ WrittenField fields members) : ∀ member ∈ members, member.2.Exact := by
  induction each with
  | nil => nofun
  | cons written _ ih => exact List.forall_mem_cons.mpr ⟨written.2.exact, ih⟩

theorem names_eq (each : List.Forall₂ WrittenField fields members) : members.map Prod.fst = fields.map Prod.fst := by
  induction each with
  | nil => rfl
  | cons written _ ih => rw [List.map_cons, List.map_cons, written.1, ih]

theorem written_mapping (each : List.Forall₂ WrittenField fields members) :
    (Value.mapping (fields.map under)).Written (.object members) :=
  ⟨by simp only [toJson, entriesToJson_eq each], .object (exact_of_written each), by rw [ofJson, entriesOfJson_eq each]⟩

/-- A plain value is written, and what is written is read as the value. -/
theorem Plain.written {value : Value} (plain : value.Plain) : ∃ doc, value.Written doc := by
  induction plain with
  | null => exact ⟨.null, by rw [toJson], .null, by rw [ofJson]⟩
  | bool b => exact ⟨.bool b, by rw [toJson], .bool b, by rw [ofJson]⟩
  | int fits => exact ⟨.int _, by rw [toJson], .int fits, by rw [ofJson]⟩
  | string s => exact ⟨.string s, by rw [toJson], .string s, by rw [ofJson]⟩
  | list _ ih =>
    obtain ⟨docs, each⟩ := exists_forall₂ ih
    exact ⟨.list docs, written_list each⟩
  | @mapping fields _ _ ih =>
    have written : ∀ field ∈ fields, ∃ member, WrittenField field member := fun field member => by
      obtain ⟨doc, written⟩ := ih field member
      exact ⟨(field.1, doc), rfl, written⟩
    obtain ⟨members, each⟩ := exists_forall₂ written
    exact ⟨.object members, written_mapping each⟩

theorem checkItems_eq (each : ∀ item ∈ items, Action.checkKeys item = .ok ()) : Action.checkItems items = .ok () := by
  induction items with
  | nil => rw [Action.checkItems]
  | cons item items ih =>
    simp only [Action.checkItems, each item (List.mem_cons_self ..)]
    exact ih fun item member => each item (List.mem_cons_of_mem _ member)

theorem checkEntries_eq (seen : List String) (fresh : ∀ field ∈ fields, field.1 ∉ seen)
    (apart : (fields.map Prod.fst).Nodup) (each : ∀ field ∈ fields, Action.checkKeys field.2 = .ok ()) :
    Action.checkEntries (seen.map .string) (fields.map under) = .ok () := by
  induction fields generalizing seen with
  | nil => rw [List.map_nil, Action.checkEntries]
  | cons field fields ih =>
    have missing : (seen.map Value.string).any (·.same (.string field.1)) = false := by
      rw [List.any_map, List.any_eq_false]
      intro name known
      have other : name ≠ field.1 := fun same => fresh field (List.mem_cons_self ..) (same ▸ known)
      simpa [same] using other
    have entry : Action.checkEntry (seen.map .string) (under field) = .ok () := by
      simp only [under, Action.checkEntry, Action.checkKeys, missing, Bool.false_eq_true, if_false,
        each field (List.mem_cons_self ..)]
    have later : ∀ other ∈ fields, other.1 ∉ field.1 :: seen := by
      intro other member known
      obtain same | known := List.mem_cons.mp known
      · exact (List.nodup_cons.mp apart).1 (same ▸ List.mem_map_of_mem member)
      · exact fresh other (List.mem_cons_of_mem _ member) known
    rw [List.map_cons, Action.checkEntries, entry]
    exact ih (field.1 :: seen) later (List.nodup_cons.mp apart).2
      fun other member => each other (List.mem_cons_of_mem _ member)

/-- No mapping of a plain value has a key twice. -/
theorem Plain.checkKeys {value : Value} (plain : value.Plain) : Action.checkKeys value = .ok () := by
  induction plain with
  | list _ ih =>
    rw [Action.checkKeys]
    exact checkItems_eq ih
  | mapping apart _ ih =>
    rw [Action.checkKeys]
    exact checkEntries_eq [] (fun _ _ => nofun) apart ih
  | _ => rw [Action.checkKeys] <;> nofun

end Value

/-! ## Actions -/

namespace Action

/-- A pause fits into sixty-four bits, and a step that no rule recognises is a plain mapping. -/
def Plain : Action → Prop
  | .wait ms => ms < Number.word64
  | .unknown step => (Value.mapping step.entries).Plain
  | _ => True

variable {action : Action}

theorem Plain.inRange (plain : action.Plain) : action.InRange := by
  cases action with
  | wait ms => exact plain
  | unknown step => exact Value.Plain.checkKeys plain
  | _ => trivial

theorem Plain.arguments (plain : action.Plain) : ∀ field ∈ action.arguments, field.2.Plain := by
  cases action with
  | wait ms =>
    intro field member
    cases List.mem_singleton.mp member
    have small : ms < Number.word64 := plain
    exact .int ⟨by omega, by omega⟩
  | unknown step =>
    intro field member
    cases List.mem_singleton.mp member
    exact plain
  | _ => simp [Action.arguments, Value.Plain.string]

theorem tagOf?_tag (action : Action) : tagOf? (.string action.tag) = some action.tag := by
  cases action <;> rfl

/-- An action is told by its document. -/
theorem Plain.written (plain : action.Plain) :
    ∃ doc, action.toJson = .ok doc ∧ doc.Exact ∧ ofJson? doc = some action := by
  have written : ∀ field ∈ action.arguments, ∃ member, Value.WrittenField field member := fun field member => by
    obtain ⟨doc, written⟩ := (plain.arguments field member).written
    exact ⟨(field.1, doc), rfl, written⟩
  obtain ⟨members, each⟩ := exists_forall₂ written
  have tagged : List.Forall₂ Value.WrittenField action.fields (("type", .string action.tag) :: members) :=
    .cons ⟨rfl, by rw [Value.toJson], .string _, by rw [Value.ofJson]⟩ each
  have whole := Value.written_mapping tagged
  have others : ∀ member ∈ members, member.1 ≠ "type" := by
    intro member inside same
    have named : "type" ∈ action.arguments.map Prod.fst :=
      Value.names_eq each ▸ List.mem_map.mpr ⟨member, inside, same⟩
    exact (List.nodup_cons.mp action.nodup_fields).1 named
  have tags : (("type", Json.string action.tag) :: members).filter (·.1 == "type") =
      [("type", .string action.tag)] := by
    rw [List.filter_cons_of_pos rfl, List.filter_eq_nil_iff.mpr]
    simpa using others
  have arguments : (("type", Json.string action.tag) :: members).filter (·.1 != "type") = members := by
    rw [List.filter_cons_of_neg (by simp), List.filter_eq_self.mpr]
    simpa using others
  have read : ofTagged ⟨action.tag, .object members⟩ = .ok action := by
    show ofEntries action.tag (Value.entriesOfJson members) = .ok action
    rw [Value.entriesOfJson_eq each]
    exact ofEntries_of_perm plain.inRange (.refl _)
  refine ⟨_, whole.toJson, whole.exact, ?_⟩
  simp only [ofJson?, tags, arguments, tagOf?_tag, Option.bind_some, read, Except.toOption]

end Action

/-! ## Failures -/

/-- What failed can be read back. -/
def FailedStep.Plain : FailedStep → Prop
  | .action step => step.Plain
  | .phase _ => True

/-- What failed is told by its document: an action by its tag, and a phase by its name alone. -/
theorem FailedStep.Plain.written {step : FailedStep} (plain : step.Plain) :
    ∃ doc, step.toJson = .ok doc ∧ doc.Exact ∧ FailedStep.ofJson? doc = some step := by
  cases step with
  | phase name => exact ⟨.string name, rfl, .string name, rfl⟩
  | action step =>
    have plain : step.Plain := plain
    obtain ⟨doc, toJson, exact, read⟩ := plain.written
    exact ⟨doc, toJson, exact, by simp only [FailedStep.ofJson?, read]⟩

theorem FailedStep.readsWithin_read {form : Json.Form} {step : FailedStep} {doc : Json} (exact : doc.Exact)
    (told : FailedStep.ofJson? doc = some step) : ReadsWithin form FailedStep.read doc step := by
  have within := readsWithin_value exact form
  refine ⟨exact, fun shallow level blanks rest blank parted => ?_, fun left deep level blanks rest blank parted => ?_⟩
  · refine .bind (within.reads shallow level blanks rest blank parted) ?_
    rw [told]
    exact .pure _ _
  · exact (within.refuses left deep level blanks rest blank parted).bind _

/-- A failure is written as a document that is read as the failure. -/
theorem Failure.exists_written {failure : Failure} (plain : failure.step.Plain) :
    ∃ doc, failure.toJson = .ok doc ∧ ∀ form, ReadsWithin form Failure.read doc failure := by
  obtain ⟨action, toJson, exact, told⟩ := plain.written
  refine ⟨_, by rw [Failure.toJson, toJson], fun form => ?_⟩
  have step : ReadsWithin form FailedStep.read action failure.step := FailedStep.readsWithin_read exact told
  exact readsWithin_record
    (.cons (memberWithin_field rfl rfl ((readsWithin_text form _ _).set _))
      (.cons (memberWithin_field rfl rfl (step.set _))
        (.single (memberWithin_field rfl rfl ((readsWithin_text form _ _).set _))))) rfl

/-! ## Results -/

namespace RunResult

/-- The counts of a result fit into sixty-four bits, and each of its failures can be read back. -/
structure Plain (result : RunResult) : Prop where
  total : result.total < Number.word64
  passed : result.passed < Number.word64
  failures : ∀ failure ∈ result.failures, failure.step.Plain

theorem exists_failures {failures : List Failure} (plain : ∀ failure ∈ failures, failure.step.Plain) :
    ∃ docs, failuresToJson failures = .ok docs ∧
      ∀ form, List.Forall₂ (ReadsWithin form Failure.read) docs failures := by
  induction failures with
  | nil => exact ⟨[], rfl, fun _ => .nil⟩
  | cons failure failures ih =>
    obtain ⟨here, later⟩ := List.forall_mem_cons.mp plain
    obtain ⟨doc, toJson, within⟩ := Failure.exists_written here
    obtain ⟨docs, others, each⟩ := ih later
    exact ⟨doc :: docs, by simp only [failuresToJson, toJson, others], fun form => .cons (within form) (each form)⟩

/-- A result is written as an object that is read as the result. -/
theorem Plain.exists_written {result : RunResult} (plain : result.Plain) :
    ∃ members, result.toJson = .ok (.object members) ∧
      ∀ form, ReadsWithin form RunResult.read (.object members) result := by
  obtain ⟨docs, listed, each⟩ := exists_failures plain.failures
  refine ⟨_, by rw [RunResult.toJson, listed], fun form => ?_⟩
  let known (failures : Option (List Failure)) (error : Option (Option String)) : PartialResult :=
    ⟨some result.success, some result.total, some result.passed, failures, error⟩
  let found : Option (List Failure) := if docs.isEmpty then none else some result.failures
  refine readsWithin_record (.append (.append
    (.cons (memberWithin_field rfl rfl ((readsWithin_bool form _).set _))
      (.cons (memberWithin_field rfl rfl ((readsWithin_natural form plain.total plain.total _).set _))
        (.single (memberWithin_field rfl rfl ((readsWithin_natural form plain.passed plain.passed _).set _)))))
    (chain_optional found (known · none) ?_ ?_))
    (chain_optional_text "error" result.error (known found) rfl rfl rfl (by cases result.error <;> rfl))) ?_
  · intro absent
    exact if_pos (by simpa [found] using absent)
  · intro failures there
    obtain ⟨some, rfl⟩ : docs.isEmpty = false ∧ result.failures = failures := by simpa [found] using there
    exact ⟨("failures", .list docs), if_neg (by simp [some]),
      memberWithin_field rfl rfl ((readsWithin_list (each form)).set _)⟩
  · have failed : found.getD [] = result.failures := by
      cases docs with
      | nil => exact (List.forall₂_nil_left_iff.mp (each form)).symm
      | cons => rfl
    have reason : (result.error.map some).getD none = result.error := by cases result.error <;> rfl
    show pure _ = pure _
    rw [failed, reason]

end RunResult

end UiCheck
