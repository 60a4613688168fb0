import UiCheck.Page.Basic

/-! # Pages in memory

A page made of scripted elements, without a browser. Clicking and filling have effects: the address changes,
a response is emitted, a hidden element appears. No time passes, so a wait that is not over yet fails at
once. All that was asked of the page is kept as a history.
-/

namespace UiCheck

/-- What happens when an element is clicked or filled. -/
inductive Effect where
  | navigate (url : String)
  | respond (response : Response)
  | reveal (text : String)
  deriving DecidableEq, Inhabited, Repr

/-- A scripted element. -/
structure Element where
  text : String := ""
  selector : Option String := none
  label : Option String := none
  placeholder : Option String := none
  isVisible : Bool := true
  /-- Computed values by the names of a style sheet. -/
  styles : List (String × String) := []
  /-- The value of an input. -/
  value : String := ""
  onClick : List Effect := []
  onFill : List Effect := []
  deriving DecidableEq, Inhabited, Repr

/-- The element shows the text. -/
def Element.shows (element : Element) (text : String) : Bool :=
  Text.occursIn text element.text

/-- An armed listener, numbered in the order of arming. -/
structure Listener where
  number : Nat
  expected : Expectation
  deriving DecidableEq, Inhabited, Repr

/-- A page in memory. -/
structure MemoryPage where
  elements : List Element := []
  url : String := "about:blank"
  /-- Addresses that cannot be opened. -/
  unreachable : List String := []
  /-- How many navigations fail whatever their address. -/
  failingNavigations : Nat := 0
  /-- The listeners that still wait, in the order of arming. -/
  armed : List Listener := []
  /-- The numbers of the listeners whose response came, latest first. -/
  answered : List Nat := []
  /-- The number of the next listener. -/
  nextListener : Nat := 0
  /-- What was asked of the page, in order. -/
  history : List String := []
  deriving DecidableEq, Inhabited, Repr

namespace MemoryPage

/-- Adds a line to the history. -/
def note (page : MemoryPage) (line : String) : MemoryPage :=
  { page with history := page.history ++ [line] }

/-- A response arrives: every armed listener that waits for it is answered. -/
def emit (page : MemoryPage) (response : Response) : MemoryPage :=
  let hit := page.armed.filter fun listener => listener.expected.accepts response
  { page.note s!"response {response.method} {response.url} {response.status}" with
    armed := page.armed.filter fun listener => ! listener.expected.accepts response
    answered := (hit.map (·.number)).reverse ++ page.answered }

/-- Makes the elements that show the text visible. -/
def reveal (page : MemoryPage) (text : String) : MemoryPage :=
  { page with elements := page.elements.map fun element =>
      if element.shows text then { element with isVisible := true } else element }

/-- Lets one effect happen. -/
def applyEffect (page : MemoryPage) : Effect → MemoryPage
  | .navigate url => { page with url }
  | .respond response => page.emit response
  | .reveal text => page.reveal text

/-- Lets effects happen in their order. -/
def applyEffects (page : MemoryPage) (effects : List Effect) : MemoryPage :=
  effects.foldl applyEffect page

/-- Fills the element at a place, which then shows its effects. -/
def fillAt (page : MemoryPage) (place : Nat) (value : String) : MemoryPage :=
  match page.elements[place]? with
  | none => page
  | some element =>
    let filled := { page with elements := page.elements.set place { element with value } }
    filled.applyEffects element.onFill

/-- The value of the first input with the label or placeholder. -/
def inputValue? (page : MemoryPage) (name : String) : Option String :=
  (page.elements.find? fun element => element.label = some name ∨ element.placeholder = some name).map (·.value)

/-- Opens an address. -/
def goto (url : String) (_timeout : Nat) : Act MemoryPage Unit := fun page =>
  let page := page.note s!"goto {url}"
  let refused : PageError := .navigation s!"net::ERR_CONNECTION_REFUSED at {url}"
  match page.failingNavigations with
  | n + 1 => (.error refused, { page with failingNavigations := n })
  | 0 =>
    if page.unreachable.contains url then (.error refused, page)
    else (.ok (), { page with url })

/-- The first element that shows the text is visible. -/
def isTextVisible (text : String) : Act MemoryPage Bool := fun page =>
  (.ok ((page.elements.find? (·.shows text)).any (·.isVisible)), page)

/-- The element at the selector is visible. -/
def waitForSelector (selector : String) (_timeout : Nat) : Act MemoryPage Unit := fun page =>
  if (page.elements.find? (·.selector = some selector)).any (·.isVisible) then (.ok (), page)
  else (.error (.timeout s!"waiting for selector \"{selector}\" to be visible"), page)

/-- The text of the element at the selector. -/
def selectorText (selector : String) (_timeout : Nat) : Act MemoryPage String := fun page =>
  match page.elements.find? (·.selector = some selector) with
  | some element => (.ok element.text, page)
  | none => (.error (.timeout s!"waiting for selector \"{selector}\""), page)

/-- Clicks the first visible element that shows the text. -/
def clickText (text : String) (_timeout : Nat) : Act MemoryPage Unit := fun page =>
  let page := page.note s!"click {text}"
  match page.elements.find? fun element => element.isVisible && element.shows text with
  | some element => (.ok (), page.applyEffects element.onClick)
  | none => (.error (.timeout s!"waiting for text=\"{text}\" to be clickable"), page)

/-- The number of inputs with the label. -/
def countByLabel (label : String) : Act MemoryPage Nat := fun page =>
  (.ok (page.elements.countP (·.label = some label)), page)

/-- Fills the first input with the label. -/
def fillByLabel (label value : String) : Act MemoryPage Unit := fun page =>
  let page := page.note s!"fill label {label} = {value}"
  match page.elements.findIdx? (·.label = some label) with
  | some place => (.ok (), page.fillAt place value)
  | none => (.error (.notFound s!"No input labelled \"{label}\""), page)

/-- The number of inputs with the placeholder. -/
def countByPlaceholder (placeholder : String) : Act MemoryPage Nat := fun page =>
  (.ok (page.elements.countP (·.placeholder = some placeholder)), page)

/-- Fills the first input with the placeholder. -/
def fillByPlaceholder (placeholder value : String) : Act MemoryPage Unit := fun page =>
  let page := page.note s!"fill placeholder {placeholder} = {value}"
  match page.elements.findIdx? (·.placeholder = some placeholder) with
  | some place => (.ok (), page.fillAt place value)
  | none => (.error (.notFound s!"No input with placeholder \"{placeholder}\""), page)

/-- Fills the element at the selector. -/
def fillSelector (selector value : String) : Act MemoryPage Unit := fun page =>
  let page := page.note s!"fill {selector} = {value}"
  match page.elements.findIdx? (·.selector = some selector) with
  | some place => (.ok (), page.fillAt place value)
  | none => (.error (.timeout s!"waiting for selector \"{selector}\""), page)

/-- The address contains the fragment. -/
def waitForUrl (fragment : String) (_timeout : Nat) : Act MemoryPage Unit := fun page =>
  if Text.occursIn fragment page.url then (.ok (), page)
  else (.error (.timeout s!"waiting for URL containing \"{fragment}\" (at {page.url})"), page)

/-- The computed style of the first element that shows the text; black if the element has none. -/
def computedStyle (text : String) (property : StyleProperty) : Act MemoryPage String := fun page =>
  match page.elements.find? (·.shows text) with
  | some element => (.ok ((element.styles.lookup property.sheetName).getD "rgb(0, 0, 0)"), page)
  | none => (.error (.notFound s!"No element with text \"{text}\""), page)

/-- Arms a listener. -/
def expectResponse (expected : Expectation) (_timeout : Nat) : Act MemoryPage Listener := fun page =>
  let listener : Listener := ⟨page.nextListener, expected⟩
  let page := page.note s!"listen {expected.label}"
  (.ok listener, { page with armed := page.armed ++ [listener], nextListener := page.nextListener + 1 })

/-- The response of the listener has come. -/
def hasAnswered (page : MemoryPage) (listener : Listener) : Bool :=
  page.answered.contains listener.number

/-- Awaits the response of a listener. -/
def await (listener : Listener) : Act MemoryPage Unit := fun page =>
  if page.hasAnswered listener then (.ok (), page)
  else (.error (.timeout s!"waiting for response {listener.expected.label}"), page)

/-- What awaiting a listener gives once the page is gone. -/
def awaitGone (page : MemoryPage) (listener : Listener) : Except PageError Unit :=
  if page.hasAnswered listener then .ok ()
  else .error (.backend s!"listener for {listener.expected.label} was dropped")

/-- What is known about a listener without waiting. -/
def settled? (listener : Listener) (page : MemoryPage) : Option (Except PageError Unit) :=
  if page.hasAnswered listener then some (.ok ()) else none

/-- Lets time pass. -/
def wait (ms : Nat) : Act MemoryPage Unit := fun page =>
  (.ok (), page.note s!"wait {ms}")

/-- The operations of a page in memory. -/
def operations : Page MemoryPage Listener where
  goto := goto
  isTextVisible := isTextVisible
  waitForSelector := waitForSelector
  selectorText := selectorText
  clickText := clickText
  countByLabel := countByLabel
  fillByLabel := fillByLabel
  countByPlaceholder := countByPlaceholder
  fillByPlaceholder := fillByPlaceholder
  fillSelector := fillSelector
  waitForUrl := waitForUrl
  computedStyle := computedStyle
  expectResponse := expectResponse
  await := await
  settled? := settled?
  wait := wait
  close := fun page => (.ok (), page)
  sourceType := "mock"

end MemoryPage

end UiCheck
