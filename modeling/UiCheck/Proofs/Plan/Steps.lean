import UiCheck.Plan.Basic
import UiCheck.Plan.Normalize
import UiCheck.Proofs.Yaml.Reader

/-! # The steps of a plan

A step is an untyped mapping of the document from which its plan was read, and what it means depends on its keys. So
what a meaning asks of a step can be looked for in the document.
-/

/-! ## The steps of a plan that was read

Each step of a plan that was read from a text is an untyped mapping that was read from the document of that text.
-/

namespace UiCheck.Plan

open Yaml

/-- The step was read as an untyped mapping of the document. -/
def StepRead (doc : Document) (step : Step) : Prop :=
  ∃ spot p p', untyped doc spot p = .ok (step.entries, p')

/-- Whatever steps are known of a scenario so far were read from the document. -/
def PartialScenario.StepsRead (doc : Document) (scenario : PartialScenario) : Prop :=
  ∀ steps, scenario.steps = some steps → ∀ step ∈ steps, StepRead doc step

/-- Whatever scenarios are known of a plan so far have steps that were read from the document. -/
def PartialPlan.StepsRead (doc : Document) (plan : PartialPlan) : Prop :=
  ∀ scenarios, plan.scenarios = some scenarios → ∀ scenario ∈ scenarios, ∀ step ∈ scenario.steps, StepRead doc step

variable {doc : Document} {spot : Spot}

theorem ensures_readScenario :
    Ensures (readScenario doc spot) fun scenario => ∀ step ∈ scenario.steps, StepRead doc step := by
  have step (spot : Spot) : Ensures (do return ⟨← untyped doc spot⟩ : Reader Step) (StepRead doc) := by
    have read : Ensures (untyped doc spot) fun entries => StepRead doc ⟨entries⟩ :=
      fun p _ p' ran => ⟨spot, p, p', ran⟩
    exact .of_bind read fun _ holds => .of_pure holds
  have nothing : PartialScenario.StepsRead doc {} := nofun
  refine .of_record ?_ nothing fun scenario (holds : scenario.StepsRead doc) => ?_
  · simp only [List.forall_mem_cons]
    refine ⟨?_, ?_, ?_, nofun⟩ <;> intro scenario spot holds
    · exact .of_bind (.trivial _) fun _ _ => .of_pure holds
    · exact .of_bind (.trivial _) fun _ _ => .of_pure holds
    · exact .of_bind (.of_list step) fun _ steps => .of_pure fun _ same => Option.some.inj same ▸ steps
  · cases scenario.name with
    | none => exact .of_throw
    | some name =>
      refine .of_pure fun step member => ?_
      cases steps : scenario.steps with
      | none =>
        simp only [steps, Option.getD_none] at member
        cases member
      | some all =>
        simp only [steps, Option.getD_some] at member
        exact holds all steps step member

theorem ensures_read :
    Ensures (read doc spot) fun plan => ∀ scenario ∈ plan.scenarios, ∀ step ∈ scenario.steps, StepRead doc step := by
  have nothing : PartialPlan.StepsRead doc {} := nofun
  refine .of_record ?_ nothing fun plan (holds : plan.StepsRead doc) => .of_pure fun scenario member => ?_
  · simp only [List.forall_mem_cons]
    refine ⟨?_, ?_, nofun⟩ <;> intro plan spot holds
    · exact .of_bind (.trivial _) fun _ _ => .of_pure holds
    · refine .of_bind (.of_list fun _ => ensures_readScenario) fun _ scenarios => .of_pure fun _ same => ?_
      exact Option.some.inj same ▸ scenarios
  · cases scenarios : plan.scenarios with
    | none =>
      simp only [scenarios, Option.getD_none] at member
      cases member
    | some all =>
      simp only [scenarios, Option.getD_some] at member
      exact holds all scenarios scenario member

theorem stepRead_of_ofText {source : String} {plan : Plan} (parsed : ofText source = .ok plan) :
    ∀ scenario ∈ plan.scenarios, ∀ step ∈ scenario.steps, StepRead (Document.ofText source).1 step := by
  rw [ofText] at parsed
  split at parsed
  · cases parsed
    nofun
  · split at parsed
    · next found read =>
      cases parsed
      obtain ⟨p, p', ran⟩ := exists_of_readText_ok read
      cases found with
      | none => nofun
      | some plan => exact Ensures.of_optional (fun _ => ensures_read) p _ p' ran plan rfl
    · cases parsed

end UiCheck.Plan

/-! ## Steps that name a selector

Only three actions are about an element at a selector. A step that is given the meaning of one of them has the selector
among its entries, under its name or, because arguments can also be given by number, under the number of the first
argument.
-/

namespace UiCheck

/-- The action is about the element at a selector. -/
def Action.usesSelector : Action → Bool
  | .assertVisible _ => true
  | .assertText .. => true
  | .typeSelector .. => true
  | _ => false

/-- The key names the selector of a step, or counts as its first argument. -/
def Value.isSelector : Value → Bool
  | .string s => s == "selector"
  | .int n => n == 0
  | _ => false

namespace Action

open Decode

variable {signature : Signature} {known found : List (String × Value)} {entries : Entries} {key : Value} {tag : String}
  {action : Action}

theorem exists_of_bind_ok {ε α β : Type} {first : Except ε α} {rest : α → Except ε β} {b : β}
    (ran : (first >>= rest) = .ok b) : ∃ a, first = .ok a ∧ rest a = .ok b := by
  cases first with
  | error e => cases ran
  | ok a => exact ⟨a, rfl, ran⟩

theorem lookup_of_textOf_ok {name text : String} (read : textOf known name = .ok text) :
    known.lookup name = some (.string text) := by
  rw [textOf] at read
  split at read
  · next found =>
    cases read
    exact found
  · cases read

/-- An action that is built from one text is about a selector only if its constructor makes it so. -/
theorem usesSelector_of_text {name : String} {make : String → Action}
    (built : (textOf known name >>= fun text => pure (make text)) = .ok action) (other : ∀ s, (make s).usesSelector = false) :
    action.usesSelector = false := by
  obtain ⟨text, _, done⟩ := exists_of_bind_ok built
  cases done
  exact other text

theorem usesSelector_of_texts {name name' : String} {make : String → String → Action}
    (built : (textOf known name >>= fun s => textOf known name' >>= fun t => pure (make s t)) = .ok action)
    (other : ∀ s t, (make s t).usesSelector = false) : action.usesSelector = false := by
  obtain ⟨s, _, built⟩ := exists_of_bind_ok built
  exact usesSelector_of_text built (other s)

/-- The tags of the actions that are about an element at a selector. -/
def selectorTags : List String := ["assert_visible", "assert_text", "type_selector"]

theorem selector_of_build (built : build tag known = .ok action) (uses : action.usesSelector = true) :
    tag ∈ selectorTags ∧ ∃ text, known.lookup "selector" = some (.string text) := by
  have refuted {P : Prop} (other : action.usesSelector = false) : P := absurd (uses.symm.trans other) nofun
  have selector {rest : String → Except Mismatch Action} (built : (textOf known "selector" >>= rest) = .ok action) :
      ∃ text, known.lookup "selector" = some (.string text) := by
    obtain ⟨text, read, _⟩ := exists_of_bind_ok built
    exact ⟨text, lookup_of_textOf_ok read⟩
  unfold build at built
  dsimp only at built
  split at built
  · exact refuted (usesSelector_of_text built fun _ => rfl)
  · exact ⟨by decide, selector built⟩
  · exact ⟨by decide, selector built⟩
  · exact refuted (usesSelector_of_text built fun _ => rfl)
  · exact refuted (usesSelector_of_texts built fun _ _ => rfl)
  · exact ⟨by decide, selector built⟩
  · exact refuted (usesSelector_of_text built fun _ => rfl)
  · exact refuted (usesSelector_of_texts built fun _ _ => rfl)
  · exact refuted (usesSelector_of_texts built fun _ _ => rfl)
  · exact refuted (usesSelector_of_texts built fun _ _ => rfl)
  · exact refuted (usesSelector_of_texts built fun _ _ => rfl)
  · split at built <;> cases built
    exact refuted rfl
  · split at built <;> cases built
    exact refuted rfl
  · cases built

/-- The selector is the first argument of these actions, and no other. -/
theorem names_of_selectorTags (listed : tag ∈ selectorTags) (signed : signature? tag = some signature) :
    ∃ rest, signature.names = "selector" :: rest ∧ "selector" ∉ rest := by
  rcases List.mem_cons.mp listed with rfl | listed
  · cases signed
    exact ⟨[], rfl, by decide⟩
  · rcases List.mem_cons.mp listed with rfl | listed
    · cases signed
      exact ⟨["value"], rfl, by decide⟩
    · obtain rfl := List.mem_singleton.mp listed
      cases signed
      exact ⟨["value"], rfl, by decide⟩

theorem isSelector_of_argumentName {rest : List String} (names : signature.names = "selector" :: rest)
    (once : "selector" ∉ rest) (named : argumentName signature key = .ok (some "selector")) : key.isSelector = true := by
  unfold argumentName at named
  split at named
  · next s =>
    have same := List.find?_some (Except.ok.inj named)
    rw [beq_iff_eq] at same
    rw [← same]
    rfl
  · next n =>
    split at named
    · next least =>
      have found := Except.ok.inj named
      cases number : n.toNat with
      | zero =>
        have zero : n = 0 := by omega
        rw [zero]
        rfl
      | succ m =>
        rw [names, number, List.getElem?_cons_succ] at found
        exact absurd (List.mem_of_getElem? found) once
    · cases named
  · cases named

/-- What is collected among entries was known before, or is named by the key of an entry. -/
theorem exists_of_mem_fromEntries (collected : fromEntries signature known entries = .ok found)
    {name : String} {value : Value} (member : (name, value) ∈ found) :
    (name, value) ∈ known ∨ ∃ key, (key, value) ∈ entries ∧ argumentName signature key = .ok (some name) := by
  induction entries generalizing known with
  | nil =>
    cases collected
    exact .inl member
  | cons entry rest ih =>
    obtain ⟨key, content⟩ := entry
    have later (next : (name, value) ∈ known ∨ ∃ key, (key, value) ∈ rest ∧ argumentName signature key = .ok (some name)) :
        (name, value) ∈ known ∨
          ∃ key', (key', value) ∈ (key, content) :: rest ∧ argumentName signature key' = .ok (some name) :=
      next.imp_right fun ⟨key', among, named⟩ => ⟨key', List.mem_cons_of_mem _ among, named⟩
    rw [fromEntries] at collected
    split at collected
    · cases collected
    · exact later (ih collected)
    · next name' named =>
      split at collected
      · cases collected
      · split at collected
        · cases collected
        · rcases ih collected with before | here
          · rcases List.mem_append.mp before with before | added
            · exact .inl before
            · cases List.mem_singleton.mp added
              exact .inr ⟨key, List.mem_cons_self .., named⟩
          · exact later (.inr here)

theorem exists_selector_of_ofEntries (read : ofEntries tag entries = .ok action) (uses : action.usesSelector = true) :
    ∃ entry ∈ entries, entry.1.isSelector = true := by
  rw [ofEntries] at read
  split at read
  · cases read
  · next signature signed =>
    split at read
    · cases read
    · next found collected =>
      obtain ⟨listed, text, looked⟩ := selector_of_build read uses
      obtain ⟨rest, names, once⟩ := names_of_selectorTags listed signed
      obtain ⟨front, back, rfl, _⟩ := List.lookup_eq_some_iff.mp looked
      rcases exists_of_mem_fromEntries collected (List.mem_append_right _ (List.mem_cons_self ..)) with
        none | ⟨key, among, named⟩
      · cases none
      · exact ⟨(key, .string text), among, isSelector_of_argumentName names once named⟩

end Action

namespace Plan

variable {step : Step}

theorem mem_of_lookup {name : String} {entries : Entries} {value : Value} (found : Value.lookup name entries = some value) :
    (.string name, value) ∈ entries := by
  induction entries with
  | nil => cases found
  | cons entry rest ih =>
    obtain ⟨key, content⟩ := entry
    unfold Value.lookup at found
    split at found
    · cases ‹_ = [] ›
    · next same =>
      cases same
      split at found
      · next same =>
        cases found
        rw [same]
        exact List.mem_cons_self ..
      · exact List.mem_cons_of_mem _ (ih found)
    · next same =>
      cases same
      exact List.mem_cons_of_mem _ (ih found)

theorem exists_selector_of_explicit (uses : (explicit step).usesSelector = true) :
    ∃ entry ∈ step.entries, entry.1.isSelector = true := by
  rw [explicit] at uses
  split at uses
  · split at uses
    · split at uses
      · cases uses
      · next action _ read =>
        obtain ⟨entry, member, selects⟩ := Action.exists_selector_of_ofEntries read uses
        exact ⟨entry, (List.mem_filter.mp member).1, selects⟩
      · cases uses
    · cases uses
  · cases uses

/-- None of the short forms is about a selector. -/
theorem usesSelector_short (step : Step) : (short step).usesSelector = false := by
  have mapped {α : Type} (found : Option α) (make : α → Action) (other : ∀ a, (make a).usesSelector = false)
      (action : Action) (made : found.map make = some action) : action.usesSelector = false := by
    obtain ⟨a, _, rfl⟩ := Option.map_eq_some_iff.mp made
    exact other a
  rw [short]
  dsimp only
  generalize rules_eq : [_, _, _, _, _, _, _, _] = rules
  have plain : ∀ rule ∈ rules, ∀ action, rule = some action → action.usesSelector = false := by
    rw [← rules_eq]
    simp only [List.forall_mem_cons]
    exact ⟨mapped _ _ fun _ => rfl, mapped _ _ fun _ => rfl, mapped _ _ fun _ => rfl, mapped _ _ fun _ => rfl,
      mapped _ _ fun _ => rfl, mapped _ _ fun _ => rfl, mapped _ _ fun _ => rfl, mapped _ _ fun _ => rfl, nofun⟩
  cases found : rules.findSome? id with
  | none => rfl
  | some action =>
    obtain ⟨rule, member, same⟩ := List.exists_of_findSome?_eq_some found
    exact plain rule member action same

/-- A step with the meaning of an action that is about a selector has an entry for it. -/
theorem exists_selector_of_normalize (uses : (normalize step).usesSelector = true) :
    ∃ entry ∈ step.entries, entry.1.isSelector = true := by
  rw [normalize] at uses
  split at uses
  · cases uses
  · next kind _ _ =>
    rw [typed] at uses
    split at uses
    · next selector selected =>
      split at selected
      · obtain ⟨value, found, _⟩ := Option.bind_eq_some_iff.mp selected
        exact ⟨_, mem_of_lookup found, rfl⟩
      · cases selected
    · exact exists_selector_of_explicit uses
  · rw [usesSelector_short] at uses
    cases uses

end Plan

end UiCheck
