import UiCheck.Json.Reader
import UiCheck.Page.Basic

/-! # The link to a browser

Requests are numbered from one. Whoever waits for something is registered under the number of a request in one
of two tables: one for answers to requests, one for responses that were expected. A line of the helper program
settles the waiter of its number, if there is one that still waits. When the output of the helper program
ends, all who still wait have lost.
-/

/-! ## Replies

The helper program that drives a browser prints one document a line: the answer to a request, or the event
that an expected response has arrived. Every member may be left out.
-/

namespace UiCheck.Browser

/-- A line of the helper program. -/
structure Reply where
  /-- The number of the request that is answered. -/
  id : Option Nat := none
  event : Option String := none
  ok : Bool := false
  value : Json := .null
  error : Option String := none
  deriving Inhabited

/-- A reply of which some members have been read. -/
structure PartialReply where
  id : Option (Option Nat) := none
  event : Option (Option String) := none
  ok : Option Bool := none
  value : Option Json := none
  error : Option (Option String) := none

namespace Reply

open Json.Reader in
/-- Reads a reply, with a number of levels left. -/
def read (levels : Nat) : Json.Reader Reply :=
  let fields : List (RecordField PartialReply) :=
    [{ name := "id", isSet := (·.id.isSome), mayBeMissing := true,
       read := fun _ known =>
         return { known with id := some (← optional (natural Number.word64 "u64")) } },
     { name := "event", isSet := (·.event.isSome), mayBeMissing := true,
       read := fun _ known => return { known with event := some (← optional (text "a string")) } },
     { name := "ok", isSet := (·.ok.isSome), mayBeMissing := true,
       read := fun _ known => return { known with ok := some (← bool) } },
     { name := "value", isSet := (·.value.isSome), mayBeMissing := true,
       read := fun levels known => return { known with value := some (← Json.Reader.value levels) } },
     { name := "error", isSet := (·.error.isSome), mayBeMissing := true,
       read := fun _ known => return { known with error := some (← optional (text "a string")) } }]
  let finish (known : PartialReply) : Json.Reader Reply :=
    return {
      id := known.id.getD none
      event := known.event.getD none
      ok := known.ok.getD false
      value := known.value.getD .null
      error := known.error.getD none }
  record levels "Reply" fields {} finish

/-- The reply that a line holds. -/
def ofText (line : String) : Except Json.Error Reply :=
  Json.Reader.onText (read Json.Reader.depthLimit) line

/-- The reply reports the arrival of an expected response. -/
def isEvent (reply : Reply) : Bool :=
  reply.event == some "response"

/-- The error that a message of the browser stands for. -/
def errorOf (message : String) : PageError :=
  if Text.occursIn "Timeout" message && Text.occursIn "exceeded" message then .timeout message
  else .backend message

/-- What a reply brings. -/
def outcome (reply : Reply) : Except PageError Json :=
  if reply.ok then .ok reply.value else .error (errorOf (reply.error.getD ""))

end Reply

end UiCheck.Browser

/-! ## Waiters -/

namespace UiCheck.Browser

/-- What is known for somebody who waits. -/
inductive Waiter where
  | waiting
  | answered (reply : Reply)
  /-- Nothing will come any more. -/
  | lost
  deriving Inhabited

/-- Waiters by the numbers of their requests. -/
abbrev Waiters := List (Nat × Waiter)

namespace Waiters

/-- Adds a waiter. -/
def register (id : Nat) (waiters : Waiters) : Waiters :=
  (id, .waiting) :: waiters

/-- Removes a waiter. -/
def forget (id : Nat) (waiters : Waiters) : Waiters :=
  waiters.filter fun (other, _) => other != id

/-- The waiter of a request. -/
def find? (id : Nat) (waiters : Waiters) : Option Waiter :=
  List.lookup id waiters

/-- Settles the waiter of a request if it still waits. -/
def settle (id : Nat) (reply : Reply) : Waiters → Waiters
  | [] => []
  | (other, waiter) :: rest =>
    if other ≠ id then (other, waiter) :: settle id reply rest
    else
      match waiter with
      | .waiting => (other, .answered reply) :: rest
      | _ => (other, waiter) :: rest

/-- Nothing comes any more. -/
def loseAll (waiters : Waiters) : Waiters :=
  waiters.map fun (id, waiter) =>
    match waiter with
    | .waiting => (id, .lost)
    | other => (id, other)

end Waiters

/-- What the helper program printed until it fell silent. A line that is no text is none. -/
structure Burst where
  lines : List (Option String)
  /-- The output has ended. -/
  ended : Bool := false
  deriving DecidableEq, Inhabited, Repr

/-- The state of a link. -/
structure Link where
  /-- The number of the next request. -/
  nextId : Nat := 1
  /-- Who waits for answers. -/
  calls : Waiters := []
  /-- Who waits for responses. -/
  events : Waiters := []
  /-- The output is still read. -/
  isOpen : Bool := true
  deriving Inhabited

namespace Link

/-- Takes a number for a request. -/
def takeId (link : Link) : Nat × Link :=
  (link.nextId, { link with nextId := link.nextId + 1 })

/-- Takes in a reply. -/
def receive (link : Link) (reply : Reply) : Link :=
  match reply.id with
  | none => link
  | some id =>
    if reply.isEvent then { link with events := link.events.settle id reply }
    else { link with calls := link.calls.settle id reply }

/-- Takes in a line. One that is no reply is ignored. -/
def receiveLine (link : Link) (line : String) : Link :=
  match Reply.ofText line with
  | .ok reply => link.receive reply
  | .error _ => link

/-- The output has ended. -/
def shut (link : Link) : Link :=
  { link with calls := link.calls.loseAll, events := link.events.loseAll, isOpen := false }

/-- Takes in lines; one that is no text ends the output. -/
def receiveLines (ended : Bool) : Link → List (Option String) → Link
  | link, [] => if ended then link.shut else link
  | link, none :: _ => link.shut
  | link, some line :: rest => receiveLines ended (link.receiveLine line) rest

/-- Takes in what the helper program printed. -/
def absorb (link : Link) (burst : Burst) : Link :=
  if link.isOpen then receiveLines burst.ended link burst.lines else link

end Link

end UiCheck.Browser
