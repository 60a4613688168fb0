import UiCheck.Json.Reader
import UiCheck.Text.Blank
import UiCheck.Text.Search

/-! # Streamed replies

A reply arrives line by line. A data line carries a document with the next piece of content; one particular
data line ends the reply. All other lines are kept, since a refusal comes as an ordinary document.
-/

namespace UiCheck.Oracle

/-- What stands in front of the document of a data line. -/
def dataMark : List Char := "data: ".toList

/-- The text at the end of a path of names and places in a document. -/
def contentAt? (inner : String) (doc : Json) : Option String := do
  let choice ← (← doc.get? "choices").item? 0
  (← (← choice.get? inner).get? "content").text?

/-- The piece of content that the document of a data line carries. -/
def piece? (data : String) : Option String :=
  match Json.ofText data with
  | .ok doc => contentAt? "delta" doc
  | .error _ => none

/-- What one line of a reply means. -/
inductive Line where
  | piece (text : String)
  | finish
  /-- A data line without content. -/
  | empty
  /-- A line that is no data line. -/
  | other (line : String)
  deriving DecidableEq, Inhabited, Repr

/-- The meaning of a line. -/
def Line.ofText (line : String) : Line :=
  match Text.after? dataMark line.toList with
  | none => .other line
  | some data =>
    if data = "[DONE]".toList then .finish
    else
      match piece? (String.ofList data) with
      | some text => .piece text
      | none => .empty

/-- What has been received so far. -/
structure Received where
  content : String := ""
  /-- The lines that are no data lines, without their ends. -/
  others : String := ""
  /-- The number of bytes after each piece, latest first. -/
  sizes : List Nat := []
  deriving DecidableEq, Inhabited, Repr

/-- How the lines of a reply ended. -/
inductive Ending where
  /-- The line that ends a reply came. -/
  | finished
  /-- The lines ran out. -/
  | closed
  /-- A line was no text. -/
  | garbled
  deriving DecidableEq, Inhabited, Repr

/-- Takes in one line that does not end the reply. -/
def Received.add (received : Received) : Line → Received
  | .piece text =>
    let content := received.content ++ text
    { received with content, sizes := content.utf8ByteSize :: received.sizes }
  | .other line => { received with others := received.others ++ line }
  | _ => received

/-- Takes in lines up to the end of the reply. -/
def receive (received : Received) : List (Option String) → Ending × Received
  | [] => (.closed, received)
  | none :: _ => (.garbled, received)
  | some line :: rest =>
    match Line.ofText line with
    | .finish => (.finished, received)
    | other => receive (received.add other) rest

/-- The message of a refusal: a document, or the first item of a list, that holds one. -/
def refusal? (body : String) : Option String :=
  match Json.ofText (String.ofList (Text.trim body.toList)) with
  | .error _ => none
  | .ok doc => do
    let doc := match doc with
      | .list (first :: _) => first
      | other => other
    (← (← doc.get? "error").get? "message").text?

end UiCheck.Oracle
