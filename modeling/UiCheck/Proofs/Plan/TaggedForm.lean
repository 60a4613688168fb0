import Mathlib.Data.List.Nodup
import Mathlib.Data.List.Perm.Basic
import UiCheck.Plan.Normalize
import UiCheck.Proofs.Text.Search

/-! # Steps in tagged form

The tagged form of an action is a mapping, whose entries may come in any order. An action is read from the arguments
of its tagged form by `ofEntries_of_perm`; and none of the rules for short forms takes hold of a step in tagged form,
so that `normalize_tagged` gives the action back, and keeps a step whose tag is `unknown` as a whole.
-/

namespace UiCheck

/-- The entry of a mapping under a name. -/
def Value.under (field : String × Value) : Value × Value :=
  (.string field.1, field.2)

/-- The step with the given fields. -/
def Step.ofFields (fields : List (String × Value)) : Step :=
  ⟨fields.map Value.under⟩

/-- The name under which an entry stands. -/
def Value.fieldOf : Value × Value → String × Value
  | (.string name, value) => (name, value)
  | (_, value) => ("", value)

/-! ## Fields in any order -/

theorem Value.lookup_map_under (name : String) (fields : List (String × Value)) :
    Value.lookup name (fields.map Value.under) = fields.lookup name := by
  induction fields with
  | nil => rfl
  | cons field rest ih =>
    rw [List.map_cons, Value.under, Value.lookup, ih, List.lookup_cons]
    by_cases same : field.1 = name
    · rw [if_pos same, beq_iff_eq.mpr same.symm]
    · rw [if_neg same, beq_false_of_ne (Ne.symm same)]

namespace Step

/-- Entries that are fields in another order are fields themselves. -/
theorem exists_ofFields_of_perm {step : Step} (fields : List (String × Value))
    (perm : step.entries.Perm (ofFields fields).entries) :
    ∃ fields', fields'.Perm fields ∧ step = ofFields fields' := by
  have back : (ofFields fields).entries.map Value.fieldOf = fields := by
    rw [ofFields, List.map_map]
    exact List.map_id fields
  refine ⟨step.entries.map Value.fieldOf, back ▸ perm.map Value.fieldOf, ?_⟩
  rw [ofFields, List.map_map, Step.mk.injEq, List.map_congr_left, List.map_id]
  intro entry member
  obtain ⟨field, _, rfl⟩ := List.mem_map.mp (perm.mem_iff.mp member)
  rfl

theorem text?_ofFields (fields : List (String × Value)) (name : String) :
    (ofFields fields).text? name = (fields.lookup name).bind usable := by
  rw [text?, ofFields, Value.lookup_map_under]

end Step

namespace Action

/-- The fields of the tagged form: the tag and the arguments. -/
def fields (action : Action) : List (String × Value) :=
  ("type", .string action.tag) :: action.arguments

/-! ## Reading the arguments -/

variable {fields' : List (String × Value)}

theorem find?_name {names : List String} {name : String} (member : name ∈ names) :
    names.find? (· == name) = some name := by
  obtain ⟨found, first⟩ : ∃ found, names.find? (· == name) = some found :=
    Option.isSome_iff_exists.mp (List.find?_isSome.mpr ⟨name, member, beq_self_eq_true name⟩)
  have same : found = name := by simpa using List.find?_some first
  rw [first, same]

/-- Arguments that the signature names, each once and fit for its name, are collected as they stand. -/
theorem fromEntries_map_under (signature : Signature) (known : List (String × Value))
    (named : ∀ field ∈ fields', field.1 ∈ signature.names)
    (fit : ∀ field ∈ fields', checkArgument field.1 field.2 = .ok ())
    (apart : ((known ++ fields').map Prod.fst).Nodup) :
    fromEntries signature known (fields'.map Value.under) = .ok (known ++ fields') := by
  induction fields' generalizing known with
  | nil => rw [List.append_nil, List.map_nil, fromEntries]
  | cons field rest ih =>
    obtain ⟨name, value⟩ := field
    have listed : argumentName signature (.string name) = .ok (some name) := by
      rw [argumentName, find?_name (named (name, value) (List.mem_cons_self ..))]
    have fresh : known.lookup name = none := by
      rw [List.map_append, List.nodup_append] at apart
      refine List.lookup_eq_none_iff.mpr fun other member => bne_iff_ne.mpr ?_
      exact (apart.2.2 other.1 (List.mem_map_of_mem member) name (List.mem_cons_self ..)).symm
    rw [List.map_cons, Value.under, fromEntries]
    simp only [listed, fresh, Option.isSome_none, Bool.false_eq_true, if_false,
      fit (name, value) (List.mem_cons_self ..)]
    rw [ih (known ++ [(name, value)]) (fun f member => named f (List.mem_cons_of_mem _ member))
      (fun f member => fit f (List.mem_cons_of_mem _ member))
      (by rwa [List.append_assoc, List.singleton_append])]
    rw [List.append_assoc, List.singleton_append]

/-- The values of an action that a reader checks are in range: a pause fits into sixty-four bits, and no mapping
of a step that no rule recognises has a key twice. -/
def InRange : Action → Prop
  | .wait ms => ms < Number.word64
  | .unknown step => checkKeys (.mapping step.entries) = .ok ()
  | _ => True

variable {action : Action}

/-- Each argument is one that the tag asks for. -/
theorem exists_signature (action : Action) : ∃ signature, signature? action.tag = some signature ∧
    ∀ field ∈ action.arguments, field.1 ∈ signature.names := by
  cases action <;> refine ⟨_, rfl, ?_⟩ <;> simp [arguments]

theorem checkArgument_arguments (inRange : action.InRange) :
    ∀ field ∈ action.arguments, checkArgument field.1 field.2 = .ok () := by
  cases action with
  | wait ms =>
    intro field member
    cases List.mem_singleton.mp member
    have bounds : (0 : Int) ≤ ms ∧ (ms : Int) < Number.word64 := ⟨Int.natCast_nonneg ms, Int.ofNat_lt.mpr inRange⟩
    simp only [checkArgument, if_true, if_pos bounds]
  | unknown step =>
    intro field member
    cases List.mem_singleton.mp member
    exact inRange
  | _ => simp [arguments, checkArgument]

theorem nodup_fields (action : Action) : (action.fields.map Prod.fst).Nodup := by
  cases action <;> simp [fields, arguments]

theorem build_arguments (action : Action) : build action.tag action.arguments = .ok action := by
  cases action <;> rfl

theorem build_congr (tag : String) {known known' : List (String × Value)}
    (same : ∀ name, known.lookup name = known'.lookup name) : build tag known = build tag known' := by
  simp only [build, textOf, same]

/-- The arguments of an action, in any order, bring the action back. -/
theorem ofEntries_of_perm (inRange : action.InRange) (perm : fields'.Perm action.arguments) :
    ofEntries action.tag (fields'.map Value.under) = .ok action := by
  obtain ⟨signature, found, named⟩ := exists_signature action
  have apart : (action.arguments.map Prod.fst).Nodup := (List.nodup_cons.mp action.nodup_fields).2
  have collected : fromEntries signature [] (fields'.map Value.under) = .ok fields' :=
    fromEntries_map_under signature [] (fun field member => named field (perm.mem_iff.mp member))
      (fun field member => checkArgument_arguments inRange field (perm.mem_iff.mp member))
      ((perm.map Prod.fst).nodup_iff.mpr apart)
  simp only [ofEntries, found, collected]
  rw [build_congr action.tag (lookup_eq_of_perm apart perm), build_arguments]

end Action

/-! ## The meaning of a step in tagged form -/

namespace Plan

open UiCheck.Action

variable {fields' : List (String × Value)}

theorem withoutType_map_under (fields : List (String × Value)) :
    withoutType (fields.map Value.under) = (fields.filter (·.1 != "type")).map Value.under := by
  rw [withoutType, List.filter_map]
  rfl

theorem untaggedEntries_map_under {fields : List (String × Value)}
    (plain : ∀ field ∈ fields, untagged field.2 = true) : untaggedEntries (fields.map Value.under) = true := by
  induction fields with
  | nil => rfl
  | cons field rest ih =>
    have first : untaggedEntry (Value.under field) = true := plain field (List.mem_cons_self ..)
    rw [List.map_cons, untaggedEntries, first, ih fun other member => plain other (List.mem_cons_of_mem _ member),
      Bool.and_self]

theorem untagged_fields {action : Action} (known : ∀ step, action ≠ .unknown step) :
    ∀ field ∈ action.fields, untagged field.2 = true := by
  cases action with
  | unknown step => exact absurd rfl (known step)
  | _ => simp [fields, arguments, untagged]

/-- A step with the fields of a tagged form is taken by its tag. -/
theorem normalize_of_perm {action : Action} (perm : fields'.Perm action.fields) :
    normalize (Step.ofFields fields') = explicit (Step.ofFields fields') := by
  have same := lookup_eq_of_perm action.nodup_fields perm
  have type : (Step.ofFields fields').text? "type" = some action.tag := by
    rw [Step.text?_ofFields, same, fields, List.lookup_cons]
    cases action <;> rfl
  have into : (Step.ofFields fields').text? "into" = none := by
    rw [Step.text?_ofFields, same]
    cases action <;> rfl
  have tag : action.tag ≠ "type" := by cases action <;> simp [Action.tag]
  simp only [normalize, type, into, typed, if_neg tag]

/-- The tag `unknown` stands for no other action. -/
theorem exists_step_of_build {known : List (String × Value)} {action : Action}
    (built : build "unknown" known = .ok action) : ∃ step, action = .unknown step := by
  simp only [build] at built
  split at built
  · cases built
    exact ⟨_, rfl⟩
  · cases built

theorem exists_step_of_ofEntries {entries : Entries} {action : Action}
    (read : ofEntries "unknown" entries = .ok action) : ∃ step, action = .unknown step := by
  simp only [ofEntries, signature?] at read
  split at read
  · cases read
  · exact exists_step_of_build read

theorem explicit_unknown (step : Step) (tagged : Value.lookup "type" step.entries = some (.string "unknown")) :
    explicit step = .unknown step := by
  simp only [explicit, tagged]
  split
  · split
    · rfl
    · next action other read =>
      obtain ⟨inner, rfl⟩ := exists_step_of_ofEntries read
      exact absurd rfl (other inner)
    · rfl
  · rfl

/-- An action that a plan can name is read from the fields of its tagged form. -/
theorem explicit_of_perm {action : Action} (known : ∀ step, action ≠ .unknown step) (inRange : action.InRange)
    (perm : fields'.Perm action.fields) : explicit (Step.ofFields fields') = action := by
  have tagged : Value.lookup "type" (Step.ofFields fields').entries = some (.string action.tag) := by
    rw [Step.ofFields, Value.lookup_map_under, lookup_eq_of_perm action.nodup_fields perm]
    rfl
  have plain : untaggedEntries (Step.ofFields fields').entries = true :=
    untaggedEntries_map_under fun field member => untagged_fields known field (perm.mem_iff.mp member)
  have arguments : (fields'.filter (·.1 != "type")).Perm action.arguments := by
    have others : action.fields.filter (·.1 != "type") = action.arguments := by cases action <;> rfl
    exact others ▸ perm.filter _
  have read : ofEntries action.tag (withoutType (Step.ofFields fields').entries) = .ok action := by
    rw [Step.ofFields, withoutType_map_under]
    exact ofEntries_of_perm inRange arguments
  simp only [explicit, tagged, if_pos plain, read]

/-- A short form with a single key means what its key stands for. -/
theorem normalize_short {value : String} (nonempty : value ≠ "") :
    normalize ⟨[(.string "see", .string value)]⟩ = .see value ∧
      normalize ⟨[(.string "click", .string value)]⟩ = .click value ∧
      normalize ⟨[(.string "url", .string value)]⟩ = .assertUrl value := by
  have usable : Step.usable (.string value) = some value := by
    rw [Step.usable, if_neg]
    simpa using nonempty
  simp [normalize, short, Step.text?, Value.lookup, usable]

/-- The tagged form of an action, with its entries in any order, means that action, whatever the arguments are. With
the tag `unknown` the whole step is kept. The short forms mean the same as the tagged forms of their actions. -/
theorem normalize_tagged :
    (∀ (action : Action) (step : Step), (∀ inner, action ≠ .unknown inner) → action.InRange →
      step.entries.Perm action.taggedStep.entries → normalize step = action) ∧
    (∀ inner step : Step, step.entries.Perm (Action.unknown inner).taggedStep.entries →
      normalize step = .unknown step) ∧
    ∀ value : String, value ≠ "" → ∀ form ∈ [("see", "see"), ("click", "click"), ("url", "assert_url")],
      ∀ step : Step, step.entries.Perm [(.string "type", .string form.2), (.string "value", .string value)] →
        normalize ⟨[(.string form.1, .string value)]⟩ = normalize step := by
  have known (action : Action) (step : Step) (notUnknown : ∀ inner, action ≠ .unknown inner)
      (inRange : action.InRange) (perm : step.entries.Perm action.taggedStep.entries) : normalize step = action := by
    obtain ⟨fields', arranged, rfl⟩ := Step.exists_ofFields_of_perm action.fields perm
    rw [normalize_of_perm arranged, explicit_of_perm notUnknown inRange arranged]
  refine ⟨known, fun inner step perm => ?_, fun value nonempty form member step perm => ?_⟩
  · obtain ⟨fields', arranged, rfl⟩ := Step.exists_ofFields_of_perm (Action.unknown inner).fields perm
    rw [normalize_of_perm arranged]
    refine explicit_unknown _ ?_
    rw [Step.ofFields, Value.lookup_map_under, lookup_eq_of_perm (nodup_fields _) arranged]
    rfl
  · obtain ⟨see, click, url⟩ := normalize_short nonempty
    simp only [List.mem_cons, List.not_mem_nil, or_false] at member
    rcases member with rfl | rfl | rfl
    · exact see.trans (known (.see value) step nofun trivial perm).symm
    · exact click.trans (known (.click value) step nofun trivial perm).symm
    · exact url.trans (known (.assertUrl value) step nofun trivial perm).symm

/-- The longest pause with its entries turned round, an unknown step that holds a short form, and a short form. -/
theorem normalize_tagged_longest :
    normalize ⟨[(.string "ms", .int 18446744073709551615), (.string "type", .string "wait")]⟩ =
        .wait 18446744073709551615 ∧
      normalize (Action.unknown ⟨[(.string "see", .string "Hi")]⟩).taggedStep =
        .unknown (Action.unknown ⟨[(.string "see", .string "Hi")]⟩).taggedStep ∧
      normalize ⟨[(.string "url", .string "/home")]⟩ =
        normalize ⟨[(.string "type", .string "assert_url"), (.string "value", .string "/home")]⟩ :=
  ⟨normalize_tagged.1 (.wait 18446744073709551615) _ nofun
      (show 18446744073709551615 < Number.word64 by decide) (.swap _ _ _),
    normalize_tagged.2.1 _ _ (.refl _),
    normalize_tagged.2.2 "/home" (by decide) ("url", "assert_url") (by decide) _ (.refl _)⟩

end Plan

end UiCheck
