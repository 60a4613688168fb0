import UiCheck.Plan.TaggedForm
import UiCheck.Text.Blank
import UiCheck.Text.Case
import UiCheck.Text.Search

/-! # From steps to actions

The rules that give a step its meaning, in order of priority: typing into a labelled input, an explicit
type, then the short forms. The first rule that applies decides; a step to which none applies is kept as
it is.
-/

namespace UiCheck.Plan

/-- What follows a separator between a colour and an element at the start of a text: blanks, the word
`on` in any case, and blanks. -/
def afterSeparator? (s : List Char) : Option (List Char) :=
  match s with
  | [] => none
  | c :: _ =>
    if ! Text.isBlank c then none
    else
      match Text.afterFolded? ['o', 'n'] (Text.trimStart s) with
      | some (d :: rest) => if Text.isBlank d then some (Text.trimStart rest) else none
      | _ => none

/-- What precedes and what follows the first separator. -/
def cutSeparator? (s : List Char) : Option (List Char × List Char) :=
  Text.cutWhere afterSeparator? [] s

/-- Splits a text with exactly one separator into a colour and an element, neither of them blank. -/
def splitColour? (text : String) : Option (String × String) :=
  match cutSeparator? text.toList with
  | none => none
  | some (colour, element) =>
    if (cutSeparator? element).isSome then none
    else
      let colour := Text.trim colour
      let element := Text.trim element
      if colour.isEmpty || element.isEmpty then none
      else some (String.ofList colour, String.ofList element)

/-- Splits a text into a method in upper case and a part of an address. A single word is the address of
a `GET`. -/
def splitNetwork? (text : String) : Option (String × String) :=
  match Text.words text.toList with
  | [] => none
  | [url] => some ("GET", String.ofList url)
  | method :: url :: _ => some (String.ofList (Text.upper method), String.ofList url)

/-- The number of milliseconds that a text gives, with blanks around it. -/
def milliseconds? (text : String) : Option Nat :=
  Number.unsigned? 10 Number.word64 (Text.trim text.toList)

mutual

/-- No part of the value has a tag. -/
def untagged : Value → Bool
  | .tagged .. => false
  | .list items => untaggedItems items
  | .mapping entries => untaggedEntries entries
  | _ => true

/-- No part of a sequence has a tag. -/
def untaggedItems : List Value → Bool
  | [] => true
  | item :: rest => untagged item && untaggedItems rest

/-- No part of a mapping has a tag. -/
def untaggedEntries : Entries → Bool
  | [] => true
  | entry :: rest => untaggedEntry entry && untaggedEntries rest

/-- No part of an entry has a tag. -/
def untaggedEntry : Value × Value → Bool
  | (key, value) => untagged key && untagged value

end

/-- The entries without the one of the key `type`. -/
def withoutType (entries : Entries) : Entries :=
  entries.filter fun (key, _) =>
    match key with
    | .string s => s != "type"
    | _ => true

/-- The action that a step with an explicit type names. The tag `unknown` names no action of a plan. -/
def explicit (step : Step) : Action :=
  match Value.lookup "type" step.entries with
  | some (.string tag) =>
    if untaggedEntries step.entries then
      match Action.ofEntries tag (withoutType step.entries) with
      | .ok (.unknown _) => .unknown step
      | .ok action => action
      | .error _ => .unknown step
    else .unknown step
  | _ => .unknown step

/-- The meaning of a step of the given explicit type. -/
def typed (step : Step) (kind : String) : Action :=
  match (if kind = "type" then step.text? "selector" else none) with
  | some selector => .typeSelector selector ((step.text? "value").getD "")
  | none => explicit step

/-- The meaning of a step without an explicit type. -/
def short (step : Step) : Action :=
  let text (key : String) := step.text? key
  let rules : List (Option Action) :=
    [(text "see").map .see,
     (text "click").map .click,
     ((text "wait").bind milliseconds?).map .wait,
     (text "url").map .assertUrl,
     ((text "color").bind splitColour?).map fun (colour, element) => .assertColor colour element,
     ((text "background").bind splitColour?).map fun (colour, element) => .assertBackground colour element,
     ((text "border-color").bind splitColour?).map fun (colour, element) =>
       .assertBorderColor colour element,
     ((text "network").bind splitNetwork?).map fun (method, url) => .networkListen method url]
  (rules.findSome? id).getD (.unknown step)

/-- The meaning of a step. -/
def normalize (step : Step) : Action :=
  match step.text? "type", step.text? "into" with
  | some value, some label => .typeSmart value label
  | some kind, none => typed step kind
  | none, _ => short step

end UiCheck.Plan
