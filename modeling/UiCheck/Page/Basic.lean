import UiCheck.Files.Error
import UiCheck.Json.Basic
import UiCheck.Text.Search

/-! # Pages

What a run can ask of a page in a browser. A page is given by its operations on a state of its own; each
operation answers and leaves a state behind. An expected response is armed by one operation, which hands out
a listener, and awaited by another. Times are in milliseconds.
-/

namespace UiCheck

/-- Why a page operation fails. -/
inductive PageError where
  /-- No element matches. -/
  | notFound (what : String)
  /-- A wait took too long. -/
  | timeout (what : String)
  /-- A check saw the wrong value. -/
  | assertion (what : String)
  | navigation (what : String)
  /-- The browser failed or broke its protocol. -/
  | backend (what : String)
  | io (cause : IoError)
  deriving DecidableEq, Inhabited, Repr

/-- The message of an error. -/
def PageError.message : PageError → String
  | .notFound what => what
  | .timeout what => s!"Timed out {what}"
  | .assertion what => what
  | .navigation what => s!"Navigation failed: {what}"
  | .backend what => s!"Browser error: {what}"
  | .io cause => s!"I/O error: {cause.message}"

/-- A style whose computed value can be asked for. -/
inductive StyleProperty where
  | color
  | backgroundColor
  | borderColor
  deriving DecidableEq, Inhabited, Repr

namespace StyleProperty

/-- The name in a style sheet. -/
def sheetName : StyleProperty → String
  | .color => "color"
  | .backgroundColor => "background-color"
  | .borderColor => "border-color"

/-- The name as a member of a style object. -/
def memberName : StyleProperty → String
  | .color => "color"
  | .backgroundColor => "backgroundColor"
  | .borderColor => "borderColor"

/-- The style whose member name is given. -/
def ofMemberName? : String → Option StyleProperty
  | "color" => some .color
  | "backgroundColor" => some .backgroundColor
  | "borderColor" => some .borderColor
  | _ => none

end StyleProperty

/-- A response that was received. -/
structure Response where
  method : String
  url : String
  status : Nat
  deriving DecidableEq, Inhabited, Repr

/-- A response that is waited for. -/
structure Expectation where
  method : String
  /-- Part of the address. -/
  urlPart : String
  status : Nat := 200
  deriving DecidableEq, Inhabited, Repr

/-- Two texts are the same but for the case of Latin letters. -/
def sameLetters (a b : String) : Bool :=
  a.toList.map Char.toLower == b.toList.map Char.toLower

namespace Expectation

/-- The response is the one waited for. -/
def accepts (expected : Expectation) (response : Response) : Bool :=
  Text.occursIn expected.urlPart response.url && sameLetters response.method expected.method &&
    response.status == expected.status

/-- The expectation as messages name it. -/
def label (expected : Expectation) : String :=
  s!"{expected.method} {expected.urlPart}"

/-- The members of an expectation in their order. -/
def toJson (expected : Expectation) : Json :=
  .object [("method", .string expected.method), ("urlPart", .string expected.urlPart),
    ("status", .nat expected.status)]

end Expectation

/-- An operation on a page: an answer or an error, and the state that it leaves behind. -/
abbrev Act (σ α : Type) := σ → Except PageError α × σ

/-- The operations of a page with states in `σ` and listeners in `ω`. -/
structure Page (σ ω : Type) where
  /-- Opens an address. -/
  goto (url : String) (timeout : Nat) : Act σ Unit
  /-- The first element that shows the text is visible. -/
  isTextVisible (text : String) : Act σ Bool
  /-- Waits until the element at the selector is visible. -/
  waitForSelector (selector : String) (timeout : Nat) : Act σ Unit
  /-- The text of the element at the selector. -/
  selectorText (selector : String) (timeout : Nat) : Act σ String
  /-- Clicks the element that shows the text. -/
  clickText (text : String) (timeout : Nat) : Act σ Unit
  /-- The number of inputs with the label. -/
  countByLabel (label : String) : Act σ Nat
  /-- Fills the input with the label. -/
  fillByLabel (label value : String) : Act σ Unit
  /-- The number of inputs with the placeholder. -/
  countByPlaceholder (placeholder : String) : Act σ Nat
  /-- Fills the input with the placeholder. -/
  fillByPlaceholder (placeholder value : String) : Act σ Unit
  /-- Fills the input at the selector. -/
  fillSelector (selector value : String) : Act σ Unit
  /-- Waits until the address contains the fragment. -/
  waitForUrl (fragment : String) (timeout : Nat) : Act σ Unit
  /-- The computed style of the first element that shows the text. -/
  computedStyle (text : String) (property : StyleProperty) : Act σ String
  /-- Arms a listener for a response. -/
  expectResponse (expected : Expectation) (timeout : Nat) : Act σ ω
  /-- Awaits the response of a listener. -/
  await (listener : ω) : Act σ Unit
  /-- What is known about a listener without waiting. -/
  settled? (listener : ω) (state : σ) : Option (Except PageError Unit)
  /-- Lets time pass. -/
  wait (ms : Nat) : Act σ Unit
  /-- Gives up the browser. -/
  close : Act σ Unit
  /-- What kind of page it is. -/
  sourceType : String

end UiCheck
