import UiCheck.Page.Basic
import UiCheck.Plan.Colour
import UiCheck.Plan.Step

/-! # Routines

A routine is a short sequence of page operations in which a count decides how to go on. It can be carried out
alone or while a response is awaited. In the second case the wait and the routine are looked at in turns: the
wait first, then the routine, and with each further look the other way round. The first fault of either ends
both; an operation that was already sent is still carried out, but its answer is ignored.
-/

/-! ## Faults of steps

Why a step of a plan fails: the page refuses it, or the page answers and the answer is not what the step
asks for.
-/

namespace UiCheck.Run

/-- Which colour of an element a check looks at. -/
inductive ColourCheck where
  | text
  | background
  | border
  deriving DecidableEq, Inhabited, Repr

namespace ColourCheck

/-- The style that holds the colour. -/
def property : ColourCheck → StyleProperty
  | .text => .color
  | .background => .backgroundColor
  | .border => .borderColor

/-- The name of the check. -/
def title : ColourCheck → String
  | .text => "Color"
  | .background => "Background"
  | .border => "Border color"

/-- The name of what is checked. -/
def noun : ColourCheck → String
  | .text => "color"
  | .background => "background"
  | .border => "border color"

end ColourCheck

/-- Why a step fails. -/
inductive Fault where
  | page (cause : PageError)
  | textMissing (text : String)
  | textDiffers (expected found : String)
  | inputMissing (label : String)
  | colourDiffers (check : ColourCheck) (element expected found : String)
  | colourUnknown (check : ColourCheck) (element : String) (cause : PageError)
  | unrecognised (step : Step)
  deriving Inhabited

/-- The message of a fault. -/
def Fault.message : Fault → String
  | .page cause => cause.message
  | .textMissing text => s!"Text \"{text}\" not found."
  | .textDiffers expected found => s!"Expected \"{expected}\", found \"{found}\""
  | .inputMissing label => s!"Input \"{label}\" not found."
  | .colourDiffers check element expected found =>
    s!"{check.title} check failed for \"{element}\": Expected {check.noun} \"{expected}\" " ++
      s!"({Plan.normalizeColour expected}) but got \"{found}\" ({Plan.normalizeColour found})"
  | .colourUnknown check element cause =>
    s!"{check.title} check failed for \"{element}\": {cause.message}"
  | .unrecognised step => s!"Unrecognized step: {step.compact}"

end UiCheck.Run

namespace UiCheck.Run

/-- A sequence of page operations. -/
inductive Routine (σ : Type) where
  | fail (fault : Fault)
  | last (act : Act σ Unit)
  | count (act : Act σ Nat) (next : Nat → Routine σ)

/-- A page answer as the answer of a step. -/
def lift {σ α : Type} : Except PageError α × σ → Except Fault α × σ
  | (.ok a, s) => (.ok a, s)
  | (.error e, s) => (.error (.page e), s)

namespace Routine

variable {σ ω : Type}

/-- Carries out a routine alone. -/
def run : Routine σ → σ → Except Fault Unit × σ
  | .fail fault, s => (.error fault, s)
  | .last act, s => lift (act s)
  | .count act next, s =>
    match act s with
    | (.error e, s) => (.error (.page e), s)
    | (.ok n, s) => run (next n) s

/-- Sends the first operation of a routine and ignores its answer. -/
def abandon : Routine σ → σ → σ
  | .fail _, s => s
  | .last act, s => (act s).2
  | .count act _, s => (act s).2

/-- The wait is known to have failed. -/
def waitFault? (page : Page σ ω) (listener : ω) (s : σ) : Option PageError :=
  match page.settled? listener s with
  | some (.error e) => some e
  | _ => none

/-- Goes on with a routine whose next operation is about to be sent; `waitFirst` tells whether the wait is
looked at before the answer to that operation. -/
def pursue (page : Page σ ω) (listener : ω) : Bool → Routine σ → σ → Except Fault Unit × σ
  | _, .fail fault, s => (.error fault, s)
  | waitFirst, .last act, s =>
    match act s with
    | (answer, s) =>
      match (if waitFirst then waitFault? page listener s else none), answer with
      | some e, _ => (.error (.page e), s)
      | none, .error e => (.error (.page e), s)
      | none, .ok () => lift (page.await listener s)
  | waitFirst, .count act next, s =>
    match act s with
    | (answer, s) =>
      match (if waitFirst then waitFault? page listener s else none), answer with
      | some e, _ => (.error (.page e), s)
      | none, .error e => (.error (.page e), s)
      | none, .ok n =>
        if waitFirst then pursue page listener false (next n) s
        else
          match next n, waitFault? page listener s with
          | .fail fault, _ => (.error fault, s)
          | more, some e => (.error (.page e), more.abandon s)
          | _, none => pursue page listener true (next n) s

/-- Carries out a routine while a response is awaited. -/
def joined (page : Page σ ω) (listener : ω) (routine : Routine σ) (s : σ) : Except Fault Unit × σ :=
  match waitFault? page listener s with
  | some e => (.error (.page e), s)
  | none => pursue page listener false routine s

end Routine

/-- Clicks the element that shows the text. -/
def clickRoutine {σ ω : Type} (page : Page σ ω) (text : String) (timeout : Nat) : Routine σ :=
  .last (page.clickText text timeout)

/-- Fills the input with the label, or else the one with that placeholder. -/
def typeRoutine {σ ω : Type} (page : Page σ ω) (label value : String) : Routine σ :=
  .count (page.countByLabel label) fun labelled =>
    if 0 < labelled then .last (page.fillByLabel label value)
    else
      .count (page.countByPlaceholder label) fun held =>
        if 0 < held then .last (page.fillByPlaceholder label value) else .fail (.inputMissing label)

end UiCheck.Run
