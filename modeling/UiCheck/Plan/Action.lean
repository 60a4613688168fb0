import UiCheck.Plan.Step

/-! # Actions

What a step can ask for, in one closed type. Each action has a tagged form: an object whose member `type`
names the action and whose other members are its arguments.
-/

namespace UiCheck

/-- A step that can be carried out. -/
inductive Action where
  /-- The text is visible on the page. -/
  | see (value : String)
  /-- The element at the selector is visible. -/
  | assertVisible (selector : String)
  /-- The text of the element at the selector contains the value. -/
  | assertText (selector value : String)
  /-- Click the element that shows the text. -/
  | click (value : String)
  /-- Fill the input with the label, or else with the placeholder. -/
  | typeSmart (value label : String)
  /-- Fill the input at the selector. -/
  | typeSelector (selector value : String)
  /-- The address of the page contains the value. -/
  | assertUrl (value : String)
  /-- A response to the method from an address containing the part is expected. -/
  | networkListen (method urlPart : String)
  /-- The text colour of the element that shows the text. -/
  | assertColor (color element : String)
  /-- The background colour of the element that shows the text. -/
  | assertBackground (color element : String)
  /-- The border colour of the element that shows the text. -/
  | assertBorderColor (color element : String)
  /-- Pause for some milliseconds. -/
  | wait (ms : Nat)
  /-- A step that no rule recognises, as it was written. -/
  | unknown (step : Step)
  deriving Inhabited

namespace Action

/-- The action enters the number of executed checks. -/
def isCounted : Action → Bool
  | .networkListen .. => false
  | _ => true

/-- The action may cause the response that an earlier step expects. -/
def triggersNetwork : Action → Bool
  | .click _ => true
  | .typeSmart .. => true
  | _ => false

/-- A short label. -/
def describe : Action → String
  | .see value => s!"see \"{value}\""
  | .assertVisible selector => s!"visible {selector}"
  | .assertText selector value => s!"text \"{value}\" in {selector}"
  | .click value => s!"click \"{value}\""
  | .typeSmart value label => s!"type \"{value}\" into \"{label}\""
  | .typeSelector selector _ => s!"type into {selector}"
  | .assertUrl value => s!"url contains \"{value}\""
  | .networkListen method urlPart => s!"listen {method} {urlPart}"
  | .assertColor color element => s!"color {color} on \"{element}\""
  | .assertBackground color element => s!"background {color} on \"{element}\""
  | .assertBorderColor color element => s!"border-color {color} on \"{element}\""
  | .wait ms => s!"wait {ms}ms"
  | .unknown step => s!"unknown {step.compact}"

/-- The name that tags the action. -/
def tag : Action → String
  | .see _ => "see"
  | .assertVisible _ => "assert_visible"
  | .assertText .. => "assert_text"
  | .click _ => "click"
  | .typeSmart .. => "type_smart"
  | .typeSelector .. => "type_selector"
  | .assertUrl _ => "assert_url"
  | .networkListen .. => "network_listen"
  | .assertColor .. => "assert_color"
  | .assertBackground .. => "assert_background"
  | .assertBorderColor .. => "assert_border_color"
  | .wait _ => "wait"
  | .unknown _ => "unknown"

/-- The arguments with their names, in the order in which they are written. -/
def arguments : Action → List (String × Value)
  | .see value => [("value", .string value)]
  | .assertVisible selector => [("selector", .string selector)]
  | .assertText selector value => [("selector", .string selector), ("value", .string value)]
  | .click value => [("value", .string value)]
  | .typeSmart value label => [("value", .string value), ("label", .string label)]
  | .typeSelector selector value => [("selector", .string selector), ("value", .string value)]
  | .assertUrl value => [("value", .string value)]
  | .networkListen method urlPart => [("method", .string method), ("urlPart", .string urlPart)]
  | .assertColor color element => [("color", .string color), ("element", .string element)]
  | .assertBackground color element => [("color", .string color), ("element", .string element)]
  | .assertBorderColor color element => [("color", .string color), ("element", .string element)]
  | .wait ms => [("ms", .int ms)]
  | .unknown step => [("original", .mapping step.entries)]

/-- The tagged form of an action, as a step of a plan. -/
def taggedStep (action : Action) : Step :=
  ⟨(.string "type", .string action.tag) :: action.arguments.map fun (name, value) => (.string name, value)⟩

/-- The tagged form of an action. -/
def toJson (action : Action) : Except KeyFault Json :=
  action.taggedStep.toJson

end Action

end UiCheck
