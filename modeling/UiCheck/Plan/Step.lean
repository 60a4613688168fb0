import UiCheck.Json.Printer
import UiCheck.Value

/-! # Steps of a plan

A step as it is written in a plan: a mapping, kept as it is. What its keys mean is decided elsewhere.
-/

namespace UiCheck

/-- Why a value has no JSON form. -/
inductive KeyFault where
  | notText
  | notFinite
  deriving DecidableEq

/-- The message of a fault. -/
def KeyFault.message : KeyFault → String
  | .notText => "key must be a string"
  | .notFinite => "float key must be finite (got NaN or +/-inf)"

namespace Value

/-- The name that a key has as a member of an object. -/
def memberName : Value → Except KeyFault String
  | .string s => .ok s
  | .bool b => .ok (if b then "true" else "false")
  | .int n => .ok (String.ofList (Json.intText n))
  | .float x => if x.isFinite then .ok (String.ofList (Json.floatText x)) else .error .notFinite
  | _ => .error .notText

mutual

/-- The JSON form of a value. A tagged value is an object with one member, named by the tag. -/
def toJson : Value → Except KeyFault Json
  | .null => .ok .null
  | .bool b => .ok (.bool b)
  | .int n => .ok (.int n)
  | .float x => .ok (if x.isFinite then .float x else .null)
  | .string s => .ok (.string s)
  | .list items =>
    match listToJson items with
    | .ok items => .ok (.list items)
    | .error fault => .error fault
  | .mapping entries =>
    match entriesToJson entries with
    | .ok members => .ok (.object members)
    | .error fault => .error fault
  | .tagged tag value =>
    match toJson value with
    | .ok value => .ok (.object [("!" ++ tagName tag, value)])
    | .error fault => .error fault

/-- The JSON forms of the items of a sequence. -/
def listToJson : List Value → Except KeyFault (List Json)
  | [] => .ok []
  | item :: rest =>
    match toJson item with
    | .error fault => .error fault
    | .ok item =>
      match listToJson rest with
      | .ok rest => .ok (item :: rest)
      | .error fault => .error fault

/-- The members that the entries of a mapping become, in document order. -/
def entriesToJson : Entries → Except KeyFault (List (String × Json))
  | [] => .ok []
  | entry :: rest =>
    match entryToJson entry with
    | .error fault => .error fault
    | .ok member =>
      match entriesToJson rest with
      | .ok rest => .ok (member :: rest)
      | .error fault => .error fault

/-- The member that an entry of a mapping becomes. -/
def entryToJson : Value × Value → Except KeyFault (String × Json)
  | (key, value) =>
    match memberName key with
    | .error fault => .error fault
    | .ok name =>
      match toJson value with
      | .ok value => .ok (name, value)
      | .error fault => .error fault

end

end Value

/-- A step as it is written in a plan. -/
structure Step where
  entries : Entries
  deriving Inhabited

namespace Step

/-- The text of a value that a rule can use: a text that is not empty, a number, or true. -/
def usable : Value → Option String
  | .string s => if s.isEmpty then none else some s
  | .int n => some (String.ofList (Json.intText n))
  | .float x => some (Value.floatText x)
  | .bool true => some "true"
  | _ => none

/-- The usable text behind a key. -/
def text? (step : Step) (key : String) : Option String :=
  (Value.lookup key step.entries).bind usable

/-- The JSON form of a step. -/
def toJson (step : Step) : Except KeyFault Json :=
  Value.toJson (.mapping step.entries)

/-- The step on one line; empty if it has no JSON form. -/
def compact (step : Step) : String :=
  match step.toJson with
  | .ok doc => doc.toCompact
  | .error _ => ""

end Step

end UiCheck
