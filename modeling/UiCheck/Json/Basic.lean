import UiCheck.Number.Binary64

/-! # JSON documents

A document as it is written: the members of an object keep their order. Readers that keep the members
sorted by name use `Json.sorted`.
-/

namespace UiCheck

/-- A JSON document. -/
inductive Json where
  | null
  | bool (b : Bool)
  | int (n : Int)
  | float (x : Number.Binary64)
  | string (s : String)
  | list (items : List Json)
  | object (members : List (String × Json))
  deriving Inhabited

namespace Json

/-- Puts a member into a list sorted by name; a member of the same name is replaced. -/
def insertMember (name : String) (value : Json) : List (String × Json) → List (String × Json)
  | [] => [(name, value)]
  | (n, v) :: rest =>
    if name = n then (name, value) :: rest
    else if name < n then (name, value) :: (n, v) :: rest
    else (n, v) :: insertMember name value rest

/-- An object with its members sorted by name. -/
def sorted (members : List (String × Json)) : Json :=
  .object (members.foldl (fun done (name, value) => insertMember name value done) [])

mutual

/-- The document with the members of every object sorted by name; of several of one name the last one stays. -/
def arranged : Json → Json
  | .list items => .list (arrangedItems items)
  | .object members => .sorted (arrangedMembers members)
  | other => other

/-- The items of a list, each arranged. -/
def arrangedItems : List Json → List Json
  | [] => []
  | item :: rest => arranged item :: arrangedItems rest

/-- The members of an object, each arranged. -/
def arrangedMembers : List (String × Json) → List (String × Json)
  | [] => []
  | (name, value) :: rest => (name, arranged value) :: arrangedMembers rest

end

/-- The member of an object with the given name; of several the last one counts. -/
def get? (name : String) : Json → Option Json
  | .object members => members.reverse.lookup name
  | _ => none

/-- The item of a list at the given place. -/
def item? (place : Nat) : Json → Option Json
  | .list items => items[place]?
  | _ => none

/-- The text of a string. -/
def text? : Json → Option String
  | .string s => some s
  | _ => none

/-- An optional text, absent as null. -/
def ofText? : Option String → Json
  | some s => .string s
  | none => .null

/-- A natural number. -/
def nat (n : Nat) : Json :=
  .int n

/-- A list of texts. -/
def texts (items : List String) : Json :=
  .list (items.map .string)

end Json

end UiCheck
