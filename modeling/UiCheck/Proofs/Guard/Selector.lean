import UiCheck.Proofs.Guard.Structure
import UiCheck.Proofs.Plan.Steps
import UiCheck.Proofs.Yaml.Keys

/-! # Selectors that the check of a document finds

The check of a document goes through its lines, a plan is read from its events. The two agree on selectors if each key
that denotes one stands first in its line: then a plan with an action about a selector does not pass. A key that stands
elsewhere, as in a mapping between braces, passes unseen.
-/

namespace UiCheck

/-- Some step of the plan has the meaning of an action that is about a selector. -/
def Plan.usesSelector (plan : Plan) : Bool :=
  plan.scenarios.any fun scenario => scenario.steps.any fun step => (Plan.normalize step).usesSelector

namespace Guard

open Yaml

/-- The line that holds the byte with this number, without its end. -/
def lineAt? : Nat → List (List Char) → Option (List Char)
  | _, [] => none
  | index, line :: rest =>
    let size := line.foldl (fun sum char => sum + char.utf8Size) 0
    if index < size then some (Text.withoutLineEnd line) else lineAt? (index - size) rest

/-- The key at the start of the line in which an event of a document begins. -/
def leadingKey? (source : String) (doc : Document) (place : Nat) : Option (List Char) :=
  match doc.items[place]? with
  | some (_, mark) => (lineAt? mark.index (Text.rawLines source.toList)).bind lineKey?
  | none => none

/-- Each key of the document that names a selector is the key at the start of its line. -/
def SelectorsLead (source : String) (doc : Document) : Prop :=
  ∀ place < doc.items.size, doc.isKey place = true →
    (doc.denotation? (valueFuel doc) place).any Value.isSelector = true →
    leadingKey? source doc place = some "selector".toList

instance (source : String) (doc : Document) : Decidable (SelectorsLead source doc) :=
  inferInstanceAs (Decidable (∀ place < _, _))

variable {source : String} {doc : Document} {place index : Nat} {line : List Char} {lines : List (List Char)}

theorem mem_of_lineAt? (found : lineAt? index lines = some line) : line ∈ lines.map Text.withoutLineEnd := by
  induction lines generalizing index with
  | nil => cases found
  | cons first rest ih =>
    rw [lineAt?] at found
    split at found
    · cases found
      exact List.mem_cons_self ..
    · exact List.mem_cons_of_mem _ (ih found)

theorem opens_of_leadingKey? {key : String} (leads : leadingKey? source doc place = some key.toList) :
    Opens source key := by
  rw [leadingKey?] at leads
  split at leads
  · obtain ⟨line, found, opened⟩ := Option.bind_eq_some_iff.mp leads
    exact ⟨line, mem_of_lineAt? found, opened⟩
  · cases leads

theorem lt_size_of_isKey (key : doc.isKey place = true) : place < doc.items.size := by
  rw [Document.isKey] at key
  split at key
  · next there => exact lt_size_of_found there
  · cases key

theorem plain_of_isSelector {key : Value} (selects : key.isSelector = true) :
    (∃ s, key = .string s) ∨ ∃ n, key = .int n := by
  cases key with
  | string s => exact .inl ⟨s, rfl⟩
  | int n => exact .inr ⟨n, rfl⟩
  | _ => cases selects

/-- A plan with an action about a selector does not pass the check, if the keys that name selectors stand first in
their lines. -/
theorem lists_selector {plan : Plan} (parsed : Plan.ofText source = .ok plan)
    (leads : SelectorsLead source (Document.ofText source).1) (uses : plan.usesSelector = true) :
    "selector" ∈ (checkStructure source).invalidKeys ∧ (checkStructure source).isValid = false := by
  have opens : Opens source "selector" := by
    obtain ⟨scenario, among, uses⟩ := List.any_eq_true.mp uses
    obtain ⟨step, member, uses⟩ := List.any_eq_true.mp uses
    obtain ⟨entry, listed, selects⟩ := Plan.exists_selector_of_normalize uses
    obtain ⟨_, _, _, read⟩ := Plan.stepRead_of_ofText parsed scenario among step member
    obtain ⟨place, key, denotes⟩ := exists_key_of_untyped_ok read listed
    refine opens_of_leadingKey? (leads place (lt_size_of_isKey key) key ?_)
    rw [denotes (plain_of_isSelector selects), Option.any_some, selects]
  have legacy : "selector" ∈ legacyKeys := by decide
  exact ⟨mem_invalidKeys.mpr ⟨legacy, opens⟩, isValid_eq_false_iff.mpr ⟨"selector", legacy, opens⟩⟩

/-- A plan whose only step is about a selector. -/
def selectorPlan : String :=
  "meta: {}\nscenarios:\n  - name: A\n    tests:\n      - type: assert_visible\n        selector: '#a'\n"

/-- The text holds a plan with an action about a selector. -/
def holdsSelector (source : String) : Bool :=
  match Plan.ofText source with
  | .ok plan => plan.usesSelector
  | .error _ => false

theorem exists_of_holdsSelector (holds : holdsSelector source = true) :
    ∃ plan, Plan.ofText source = .ok plan ∧ plan.usesSelector = true := by
  rw [holdsSelector] at holds
  split at holds
  · next plan parsed => exact ⟨plan, parsed, holds⟩
  · cases holds

theorem lists_selector_block : ∃ plan,
    (Plan.ofText selectorPlan = .ok plan ∧ SelectorsLead selectorPlan (Document.ofText selectorPlan).1 ∧
      plan.usesSelector = true) ∧
    "selector" ∈ (checkStructure selectorPlan).invalidKeys ∧ (checkStructure selectorPlan).isValid = false := by
  obtain ⟨plan, parsed, uses⟩ : ∃ plan, Plan.ofText selectorPlan = .ok plan ∧ plan.usesSelector = true :=
    exists_of_holdsSelector (by decide +kernel)
  have leads : SelectorsLead selectorPlan (Document.ofText selectorPlan).1 := by decide +kernel
  exact ⟨plan, ⟨parsed, leads, uses⟩, lists_selector parsed leads uses⟩

/-- The same plan with its step between braces. -/
def bracedPlan : String :=
  "meta: {}\nscenarios:\n  - name: A\n    tests:\n      - \x7btype: assert_visible, selector: '#a'\x7d\n"

/-- Between braces a selector passes the check. -/
theorem passes_selector : ∃ plan, Plan.ofText bracedPlan = .ok plan ∧ plan.usesSelector = true ∧
    (checkStructure bracedPlan).isValid = true := by
  obtain ⟨plan, parsed, uses⟩ : ∃ plan, Plan.ofText bracedPlan = .ok plan ∧ plan.usesSelector = true :=
    exists_of_holdsSelector (by decide +kernel)
  exact ⟨plan, parsed, uses, by decide +kernel⟩

end Guard

end UiCheck
