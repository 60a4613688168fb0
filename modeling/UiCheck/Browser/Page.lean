import UiCheck.Browser.Helper

/-! # Pages in a browser

Each operation of a page is a request to the helper program. Most of them wait for one answer; a listener is
acknowledged at once, and its response is reported later by an event of its own.
-/

namespace UiCheck.Browser

/-- A link with the state of the helper program and everything else. -/
structure Linked (σ : Type) where
  link : Link
  outside : σ

/-- A listener that was acknowledged. -/
structure Armed where
  /-- The number of the request that armed it. -/
  id : Nat
  /-- How messages name what is expected. -/
  label : String
  deriving DecidableEq, Inhabited, Repr

/-- The text of a request. -/
def requestText (id : Nat) (members : List (String × Json)) : String :=
  (Json.sorted (("id", .nat id) :: members)).toCompact ++ "\n"

/-- The helper program is gone. -/
def exited : PageError :=
  .backend "browser bridge exited"

/-- A value that was to be a truth value. -/
def asBool : Json → Except PageError Bool
  | .bool b => .ok b
  | other => .error (.backend s!"expected boolean, got {other.arranged.toCompact}")

/-- A value that was to be a count. -/
def asCount : Json → Except PageError Nat
  | .int (.ofNat n) => .ok n
  | other => .error (.backend s!"expected count, got {other.arranged.toCompact}")

/-- A value that was to be a text; without a value the text is empty. -/
def asText : Json → Except PageError String
  | .string s => .ok s
  | .null => .ok ""
  | other => .error (.backend s!"expected string, got {other.arranged.toCompact}")

namespace Linked

variable {σ : Type}

/-- Sends a request and takes in what the program prints. -/
def exchange (helper : Helper σ) (id : Nat) (members : List (String × Json)) (s : Linked σ) :
    Except IoError Unit × Linked σ :=
  match helper.send (requestText id members) s.outside with
  | (.error e, outside) => (.error e, { s with outside })
  | (.ok burst, outside) => (.ok (), { link := s.link.absorb burst, outside })

/-- Sends a request and waits for its answer. -/
def call (helper : Helper σ) (members : List (String × Json)) : Act (Linked σ) Json := fun s =>
  let (id, link) := s.link.takeId
  let forget (s : Linked σ) : Linked σ := { s with link := { s.link with calls := s.link.calls.forget id } }
  match exchange helper id members { s with link := { link with calls := link.calls.register id } } with
  | (.error e, s) => (.error (.io e), forget s)
  | (.ok (), s) =>
    match s.link.calls.find? id with
    | some (.answered reply) => (reply.outcome, forget s)
    | some .lost => (.error exited, forget s)
    | _ => (.error (.timeout s!"waiting for browser reply to request {id}"), forget s)

/-- Sends a request whose answer is of a certain kind. -/
def ask {α : Type} (helper : Helper σ) (decode : Json → Except PageError α) (members : List (String × Json)) :
    Act (Linked σ) α := fun s =>
  match call helper members s with
  | (.error e, s) => (.error e, s)
  | (.ok value, s) => (decode value, s)

/-- Sends a request whose answer does not matter. -/
def tell (helper : Helper σ) (members : List (String × Json)) : Act (Linked σ) Unit :=
  ask helper (fun _ => .ok ()) members

/-- Opens an address. -/
def goto (helper : Helper σ) (url : String) (timeout : Nat) : Act (Linked σ) Unit := fun s =>
  match tell helper [("op", .string "goto"), ("url", .string url), ("timeout", .nat timeout)] s with
  | (.error e, s) => (.error (.navigation e.message), s)
  | (.ok (), s) => (.ok (), s)

/-- The request that arms a listener. -/
def listenRequest (expected : Expectation) (timeout : Nat) : List (String × Json) :=
  [("op", .string "listen"), ("method", .string expected.method), ("urlPart", .string expected.urlPart),
   ("status", .nat expected.status), ("timeout", .nat timeout)]

/-- Arms a listener and waits until it is acknowledged. -/
def expectResponse (helper : Helper σ) (expected : Expectation) (timeout : Nat) :
    Act (Linked σ) Armed := fun s =>
  let (id, link) := s.link.takeId
  let registered :=
    { link with events := link.events.register id, calls := link.calls.register id }
  let forgetCall (s : Linked σ) : Linked σ := { s with link := { s.link with calls := s.link.calls.forget id } }
  let forgetBoth (s : Linked σ) : Linked σ :=
    { s with link := { s.link with calls := s.link.calls.forget id, events := s.link.events.forget id } }
  match exchange helper id (listenRequest expected timeout) { s with link := registered } with
  | (.error e, s) => (.error (.io e), forgetBoth s)
  | (.ok (), s) =>
    match s.link.calls.find? id with
    | some (.answered reply) =>
      match reply.outcome with
      | .ok _ => (.ok ⟨id, expected.label⟩, forgetCall s)
      | .error e => (.error e, forgetCall s)
    | _ => (.error (.backend s!"listener for {expected.label} was not armed"), forgetBoth s)

/-- What is known about a listener without waiting. -/
def settled? (listener : Armed) (s : Linked σ) : Option (Except PageError Unit) :=
  match s.link.events.find? listener.id with
  | some (.answered reply) =>
    match reply.outcome with
    | .ok _ => some (.ok ())
    | .error (.timeout _) => some (.error (.timeout s!"waiting for response {listener.label}"))
    | .error e => some (.error e)
  | some .lost => some (.error exited)
  | _ => none

/-- Awaits the response of a listener. Without another request nothing new is printed. -/
def await (listener : Armed) : Act (Linked σ) Unit := fun s =>
  ((settled? listener s).getD (.error (.timeout s!"waiting for response {listener.label}")), s)

/-- Gives up the browser, whatever it says. -/
def close (helper : Helper σ) : Act (Linked σ) Unit := fun s =>
  let (_, s) := tell helper [("op", .string "close")] s
  (.ok (), { link := s.link.shut, outside := helper.stop s.outside })

/-- The operations of a page in a browser. -/
def operations (helper : Helper σ) : Page (Linked σ) Armed where
  goto := goto helper
  isTextVisible text := ask helper asBool [("op", .string "isTextVisible"), ("text", .string text)]
  waitForSelector selector timeout :=
    tell helper [("op", .string "waitForSelector"), ("selector", .string selector), ("timeout", .nat timeout)]
  selectorText selector timeout :=
    ask helper asText [("op", .string "selectorText"), ("selector", .string selector), ("timeout", .nat timeout)]
  clickText text timeout :=
    tell helper [("op", .string "clickText"), ("text", .string text), ("timeout", .nat timeout)]
  countByLabel label := ask helper asCount [("op", .string "countByLabel"), ("label", .string label)]
  fillByLabel label value :=
    tell helper [("op", .string "fillByLabel"), ("label", .string label), ("value", .string value)]
  countByPlaceholder placeholder :=
    ask helper asCount [("op", .string "countByPlaceholder"), ("placeholder", .string placeholder)]
  fillByPlaceholder placeholder value :=
    tell helper
      [("op", .string "fillByPlaceholder"), ("placeholder", .string placeholder), ("value", .string value)]
  fillSelector selector value :=
    tell helper [("op", .string "fillSelector"), ("selector", .string selector), ("value", .string value)]
  waitForUrl fragment timeout :=
    tell helper [("op", .string "waitForUrl"), ("fragment", .string fragment), ("timeout", .nat timeout)]
  computedStyle text property :=
    ask helper asText
      [("op", .string "computedStyle"), ("text", .string text), ("property", .string property.memberName)]
  expectResponse := expectResponse helper
  await := await
  settled? := settled?
  wait ms := tell helper [("op", .string "waitMs"), ("ms", .nat ms)]
  close := close helper
  sourceType := "playwright"

end Linked

end UiCheck.Browser
