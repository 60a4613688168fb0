import Mathlib.Data.List.TakeWhile
import UiCheck.Plan.Normalize
import UiCheck.Proofs.Number.Digits
import UiCheck.Proofs.Plan.TaggedForm

/-! # The priority of the rules

Which rule gives a step its meaning depends on the usable texts behind a few keys. The rules are listed here in their
order, each with the keys it looks at, and `normalize_priority` says that nothing else of a step matters: neither the
keys of later rules, nor unknown keys, nor values that no rule can use. What no rule takes is kept whole, and nothing
else is ever kept. The rule for an explicit type is the exception, because it hands the whole step to the reader of
tagged forms.
-/

namespace UiCheck

/-! ## Words -/

namespace Text

theorem words_eq_nil_iff {s : List Char} : words s = [] ↔ ∀ c ∈ s, isBlank c = true := by
  rw [words]
  split
  · next blank => simpa [trimStart] using blank
  · next c rest filled =>
    have left : ¬ ∀ c ∈ s, isBlank c = true := fun blank => by
      rw [trimStart, List.dropWhile_eq_nil_iff.mpr blank] at filled
      cases filled
    simpa using left

end Text

namespace Plan

/-- A rule that gives steps a meaning. -/
inductive Rule where
  | typeInto
  | type
  | see
  | click
  | wait
  | url
  | color
  | background
  | borderColor
  | network
  deriving DecidableEq

namespace Rule

/-- The rules in the order in which they are tried. -/
def inOrder : List Rule :=
  [.typeInto, .type, .see, .click, .wait, .url, .color, .background, .borderColor, .network]

/-- The rules that are tried before the given one. -/
def before (rule : Rule) : List Rule :=
  inOrder.takeWhile (· != rule)

/-- The keys of a step that a rule looks at first. -/
def keys : Rule → List String
  | .typeInto => ["type", "into"]
  | .type => ["type"]
  | .see => ["see"]
  | .click => ["click"]
  | .wait => ["wait"]
  | .url => ["url"]
  | .color => ["color"]
  | .background => ["background"]
  | .borderColor => ["border-color"]
  | .network => ["network"]

/-- What a rule asks of the text behind a key: a number of milliseconds, a colour and an element, or a word. -/
def Reads : Rule → String → Prop
  | .wait, text => Number.IsUnsigned Number.word64 (Text.trim text.toList)
  | .color, text | .background, text | .borderColor, text => (splitColour? text).isSome = true
  | .network, text => ∃ c ∈ text.toList, Text.isBlank c = false
  | _, _ => True

/-- A rule applies to a step with a usable text behind each of its keys that it can read. -/
def Applies (rule : Rule) (step : Step) : Prop :=
  ∀ key ∈ rule.keys, ∃ text, step.text? key = some text ∧ rule.Reads text

/-- The rule is the first one that applies. -/
structure Decides (rule : Rule) (step : Step) : Prop where
  applies : rule.Applies step
  first : ∀ earlier ∈ rule.before, ¬ earlier.Applies step

/-- Two steps have the same usable text behind each key of the rules up to the given one. -/
def AgreeUpTo (rule : Rule) (step other : Step) : Prop :=
  ∀ earlier ∈ rule.before ++ [rule], ∀ key ∈ earlier.keys, step.text? key = other.text? key

/-- The meaning that a rule gives to a step, if it applies. -/
def action? (step : Step) : Rule → Option Action
  | .typeInto => (step.text? "type").bind fun value => (step.text? "into").map fun label => .typeSmart value label
  | .type => (step.text? "type").map (typed step)
  | .see => (step.text? "see").map .see
  | .click => (step.text? "click").map .click
  | .wait => ((step.text? "wait").bind milliseconds?).map .wait
  | .url => (step.text? "url").map .assertUrl
  | .color => ((step.text? "color").bind splitColour?).map fun (colour, element) => .assertColor colour element
  | .background =>
    ((step.text? "background").bind splitColour?).map fun (colour, element) => .assertBackground colour element
  | .borderColor =>
    ((step.text? "border-color").bind splitColour?).map fun (colour, element) => .assertBorderColor colour element
  | .network => ((step.text? "network").bind splitNetwork?).map fun (method, part) => .networkListen method part

variable {rule : Rule} {step other : Step}

/-- The short forms are the rules behind the two about types. -/
theorem short_eq (step : Step) :
    short step = ((inOrder.drop 2).findSome? (action? step)).getD (.unknown step) := by
  have rules : short step = (((inOrder.drop 2).map (action? step)).findSome? id).getD (.unknown step) := rfl
  rw [rules, List.findSome?_map, Function.id_comp]

/-- A step means what the first of the rules makes of it. -/
theorem normalize_eq (step : Step) : normalize step = (inOrder.findSome? (action? step)).getD (.unknown step) := by
  have split : inOrder = .typeInto :: .type :: inOrder.drop 2 := rfl
  rw [split, List.findSome?_cons, List.findSome?_cons, normalize]
  cases typed : step.text? "type" with
  | none => simpa [action?, typed] using short_eq step
  | some kind => cases labelled : step.text? "into" <;> simp [action?, typed, labelled]

theorem isSome_splitNetwork?_iff {text : String} :
    (splitNetwork? text).isSome = true ↔ ∃ c ∈ text.toList, Text.isBlank c = false := by
  have nonblank : Text.words text.toList ≠ [] ↔ ∃ c ∈ text.toList, Text.isBlank c = false := by
    simp [Text.words_eq_nil_iff]
  rw [← nonblank, splitNetwork?]
  split <;> simp [*]

theorem isSome_milliseconds?_iff {text : String} :
    (milliseconds? text).isSome = true ↔ Number.IsUnsigned Number.word64 (Text.trim text.toList) := by
  rw [milliseconds?, Option.isSome_iff_exists, Number.exists_unsigned?_iff]

theorem isSome_bind_iff {α β : Type} {found : Option α} {read : α → Option β} :
    (found.bind read).isSome = true ↔ ∃ a, found = some a ∧ (read a).isSome = true := by
  cases found <;> simp

theorem isSome_action?_iff : (rule.action? step).isSome = true ↔ rule.Applies step := by
  cases rule with
  | typeInto =>
    rw [action?, isSome_bind_iff]
    simp [Applies, keys, Reads, Option.isSome_iff_exists]
  | wait =>
    rw [action?, Option.isSome_map, isSome_bind_iff]
    simp [Applies, keys, Reads, isSome_milliseconds?_iff]
  | network =>
    rw [action?, Option.isSome_map, isSome_bind_iff]
    simp only [isSome_splitNetwork?_iff]
    simp [Applies, keys, Reads]
  | color | background | borderColor =>
    rw [action?, Option.isSome_map, isSome_bind_iff]
    simp [Applies, keys, Reads]
  | _ => simp [action?, Applies, keys, Reads, Option.isSome_iff_exists]

instance (rule : Rule) (step : Step) : Decidable (rule.Applies step) :=
  decidable_of_iff _ isSome_action?_iff

instance (rule : Rule) (step : Step) : Decidable (rule.Decides step) :=
  decidable_of_iff (rule.Applies step ∧ ∀ earlier ∈ rule.before, ¬ earlier.Applies step)
    ⟨fun both => ⟨both.1, both.2⟩, fun decides => ⟨decides.applies, decides.first⟩⟩

instance (rule : Rule) (step other : Step) : Decidable (rule.AgreeUpTo step other) :=
  inferInstanceAs (Decidable (∀ earlier ∈ rule.before ++ [rule], ∀ key ∈ earlier.keys, _))

theorem action?_eq_none_iff : rule.action? step = none ↔ ¬ rule.Applies step := by
  rw [← isSome_action?_iff, Option.not_isSome_iff_eq_none]

theorem mem_inOrder (rule : Rule) : rule ∈ inOrder := by
  cases rule <;> decide

theorem inOrder_eq (rule : Rule) : ∃ behind, inOrder = rule.before ++ rule :: behind := by
  cases rule <;> exact ⟨_, rfl⟩

/-- The first rule that applies gives the step its meaning. -/
theorem Decides.exists_action (decides : rule.Decides step) :
    ∃ action, rule.action? step = some action ∧ normalize step = action := by
  obtain ⟨action, made⟩ := Option.isSome_iff_exists.mp (isSome_action?_iff.mpr decides.applies)
  obtain ⟨behind, order⟩ := inOrder_eq rule
  have passed : ∀ earlier ∈ rule.before, earlier.action? step = none :=
    fun earlier member => action?_eq_none_iff.mpr (decides.first earlier member)
  have first : inOrder.findSome? (action? step) = some action :=
    List.findSome?_eq_some_iff.mpr ⟨rule.before, rule, behind, order, made, passed⟩
  refine ⟨action, made, ?_⟩
  rw [normalize_eq, first, Option.getD_some]

/-- Either some rule is the first one that applies, or none applies. -/
theorem exists_decides_or (step : Step) : (∃ rule : Rule, rule.Decides step) ∨ ∀ rule : Rule, ¬ rule.Applies step := by
  cases found : inOrder.findSome? (action? step) with
  | none => exact .inr fun rule => action?_eq_none_iff.mp (List.findSome?_eq_none_iff.mp found rule (mem_inOrder rule))
  | some action =>
    obtain ⟨front, rule, behind, order, made, passed⟩ := List.findSome?_eq_some_iff.mp found
    have others : ∀ earlier ∈ front, (earlier != rule) = true := by
      intro earlier member
      rw [bne_iff_ne]
      rintro rfl
      rw [passed earlier member] at made
      cases made
    have before : rule.before = front := by
      rw [before, order, List.takeWhile_append_of_pos others]
      simp
    refine .inl ⟨rule, isSome_action?_iff.mp (made ▸ rfl), fun earlier member => ?_⟩
    exact action?_eq_none_iff.mp (passed earlier (before ▸ member))

theorem normalize_of_not_applies (none : ∀ rule : Rule, ¬ rule.Applies step) : normalize step = .unknown step := by
  have nothing : inOrder.findSome? (action? step) = Option.none :=
    List.findSome?_eq_none_iff.mpr fun rule _ => action?_eq_none_iff.mpr (none rule)
  rw [normalize_eq, nothing, Option.getD_none]

theorem applies_congr (same : ∀ key ∈ rule.keys, step.text? key = other.text? key) :
    rule.Applies step ↔ rule.Applies other := by
  refine forall₂_congr fun key member => ?_
  rw [same key member]

/-- All but the rule for explicit types look at nothing but their keys. -/
theorem action?_congr (short : rule ≠ .type) (same : ∀ key ∈ rule.keys, step.text? key = other.text? key) :
    rule.action? step = rule.action? other := by
  cases rule with
  | type => exact absurd rfl short
  | _ =>
    simp only [keys, List.forall_mem_cons, List.not_mem_nil, false_implies, implies_true, and_true] at same
    simp only [action?, same]

/-- Only the rule for explicit types can keep a step as it is. -/
theorem known_of_action? {action : Action} (short : rule ≠ .type) (made : rule.action? step = some action) :
    ∀ inner, action ≠ .unknown inner := by
  rintro inner rfl
  cases rule with
  | type => exact short rfl
  | _ =>
    simp only [action?, Option.map_eq_some_iff, Option.bind_eq_some_iff, reduceCtorEq, and_false, exists_false] at made

end Rule

/-! ## Explicit types -/

/-- The step names an action by its type: either it has the type `type` and a selector to type at, or its type is the
tag of an action that can be read from the other entries. -/
inductive Names (step : Step) : Action → Prop where
  | selector {selector : String} (type : step.text? "type" = some "type")
      (found : step.text? "selector" = some selector) :
      Names step (.typeSelector selector ((step.text? "value").getD ""))
  | tag {tag : String} {action : Action} (tagged : Value.lookup "type" step.entries = some (.string tag))
      (plain : untaggedEntries step.entries = true)
      (read : Action.ofEntries tag (withoutType step.entries) = .ok action) (known : ∀ inner, action ≠ .unknown inner) :
      Names step action

/-- The step names some action by its type. -/
def Decodable (step : Step) : Prop :=
  ∃ action, Names step action

variable {rule : Rule} {step other : Step} {kind : String}

theorem Names.known {action : Action} (names : Names step action) : ∀ inner, action ≠ .unknown inner := by
  cases names with
  | selector => nofun
  | tag _ _ _ known => exact known

/-- Without a selector to type at, a step can name an action by its tag only. -/
theorem not_decodable (untyped : step.text? "type" = some "type" → step.text? "selector" = none)
    (unread : ∀ tag action, Value.lookup "type" step.entries = some (.string tag) → untaggedEntries step.entries = true →
      Action.ofEntries tag (withoutType step.entries) = .ok action → ∃ inner, action = .unknown inner) :
    ¬ Decodable step := by
  rintro ⟨action, names⟩
  cases names with
  | selector type found =>
    rw [untyped type] at found
    cases found
  | tag tagged plain read known =>
    obtain ⟨inner, unknown⟩ := unread _ _ tagged plain read
    exact known inner unknown

theorem explicit_cases (untyped : step.text? "type" = some "type" → step.text? "selector" = none) :
    Names step (explicit step) ∨ explicit step = .unknown step ∧ ¬ Decodable step := by
  unfold explicit
  split
  · next tag tagged =>
    split
    · next plain =>
      split
      · next inner read =>
        refine .inr ⟨rfl, not_decodable untyped fun tag' action tagged' _ read' => ⟨inner, ?_⟩⟩
        rw [tagged] at tagged'
        cases tagged'
        rw [read] at read'
        exact (Except.ok.inj read').symm
      · next action known read => exact .inl (.tag tagged plain read known)
      · next read =>
        refine .inr ⟨rfl, not_decodable untyped fun tag' action tagged' _ read' => ?_⟩
        rw [tagged] at tagged'
        cases tagged'
        rw [read] at read'
        cases read'
    · next plain => exact .inr ⟨rfl, not_decodable untyped fun _ _ _ plain' => absurd plain' plain⟩
  · next untagged => exact .inr ⟨rfl, not_decodable untyped fun tag _ tagged => absurd tagged (untagged tag)⟩

/-- A step with a type means an action that it names, or is kept because it names none. -/
theorem typed_cases (type : step.text? "type" = some kind) :
    Names step (typed step kind) ∨ typed step kind = .unknown step ∧ ¬ Decodable step := by
  unfold typed
  split
  · next selector found =>
    split at found
    · next same => exact .inl (.selector (same ▸ type) found)
    · cases found
  · next missing =>
    apply explicit_cases
    intro typing
    rw [type] at typing
    rwa [if_pos (Option.some.inj typing)] at missing

theorem typed_of_decides (decides : Rule.type.Decides step) :
    ∃ kind, step.text? "type" = some kind ∧ normalize step = typed step kind := by
  obtain ⟨action, made, means⟩ := decides.exists_action
  obtain ⟨kind, type, rfl⟩ := Option.map_eq_some_iff.mp made
  exact ⟨kind, type, means⟩

/-! ## What a step means -/

/-- A step is kept as it is, and only if no rule applies or its type names nothing. -/
theorem normalize_eq_unknown_iff : normalize step = .unknown other ↔
    other = step ∧ ((∀ rule : Rule, ¬ rule.Applies step) ∨ Rule.type.Decides step ∧ ¬ Decodable step) := by
  constructor
  · intro means
    rcases Rule.exists_decides_or step with ⟨rule, decides⟩ | none
    · by_cases explicit : rule = .type
      · subst explicit
        obtain ⟨kind, type, typed⟩ := typed_of_decides decides
        rcases typed_cases type with names | ⟨kept, nameless⟩
        · exact absurd (typed.symm.trans means) (names.known other)
        · rw [typed, kept] at means
          exact ⟨(Action.unknown.inj means).symm, .inr ⟨decides, nameless⟩⟩
      · obtain ⟨action, made, same⟩ := decides.exists_action
        exact absurd (same.symm.trans means) (Rule.known_of_action? explicit made other)
    · rw [Rule.normalize_of_not_applies none] at means
      exact ⟨(Action.unknown.inj means).symm, .inl none⟩
  · rintro ⟨rfl, none | ⟨decides, nameless⟩⟩
    · exact Rule.normalize_of_not_applies none
    · obtain ⟨kind, type, typed⟩ := typed_of_decides decides
      rcases typed_cases type with names | ⟨kept, _⟩
      · exact absurd ⟨_, names⟩ nameless
      · rw [typed, kept]

theorem normalize_eq_of_agreeUpTo (short : rule ≠ .type) (decides : rule.Decides step)
    (agree : rule.AgreeUpTo step other) : normalize step = normalize other := by
  have last := agree rule (List.mem_append_right _ (List.mem_singleton.mpr rfl))
  have decides' : rule.Decides other := by
    refine ⟨(Rule.applies_congr last).mp decides.applies, fun earlier member applies => decides.first earlier member ?_⟩
    exact (Rule.applies_congr (agree earlier (List.mem_append_left _ member))).mpr applies
  obtain ⟨action, made, means⟩ := decides.exists_action
  obtain ⟨action', made', means'⟩ := decides'.exists_action
  rw [Rule.action?_congr short last, made'] at made
  rw [means, means', Option.some.inj made]

/-- The first rule that applies decides by the texts behind the keys up to its own, unless it is the rule for explicit
types. A step that no rule takes, or whose type names no action, is kept whole, and nothing else is ever kept. -/
theorem normalize_priority :
    (∀ (rule : Rule) (step other : Step), rule ≠ .type → rule.Decides step → rule.AgreeUpTo step other →
      normalize step = normalize other) ∧
    ∀ step other : Step, normalize step = .unknown other ↔
      other = step ∧ ((∀ rule : Rule, ¬ rule.Applies step) ∨ Rule.type.Decides step ∧ ¬ Decodable step) :=
  ⟨fun _ _ _ short decides agree => normalize_eq_of_agreeUpTo short decides agree,
    fun _ _ => normalize_eq_unknown_iff⟩

/-- Two steps about the same address: an empty text, a pause that is no number, an unknown key and later rules make no
difference. -/
theorem normalize_priority_address :
    let step : Step := ⟨[(.string "see", .string ""), (.string "wait", .string "soon"), (.string "url", .string "/done"),
      (.string "network", .string "POST /api")]⟩
    let other : Step := ⟨[(.string "color", .string "red on Delete"), (.string "url", .string "/done"),
      (.string "wait", .string "soon"), (.string "hover", .string "Menu")]⟩
    (Rule.url ≠ .type ∧ Rule.url.Decides step ∧ Rule.url.AgreeUpTo step other) ∧ normalize step = normalize other := by
  intro step other
  have decides : Rule.url.Decides step := by decide +kernel
  have agree : Rule.url.AgreeUpTo step other := by decide +kernel
  exact ⟨⟨by decide, decides, agree⟩, normalize_priority.1 _ _ _ (by decide) decides agree⟩

end Plan

end UiCheck
