import UiCheck.Decode.Mismatch
import UiCheck.Plan.Action

/-! # Reading the tagged form

An action is read from its tag and its arguments. The arguments are the entries of a mapping, where
unknown names are ignored, or the items of a list in their order.
-/

namespace UiCheck.Action

open Decode

/-- The tags in the order in which messages list them. -/
def tags : List String :=
  ["see", "assert_visible", "assert_text", "click", "type_smart", "type_selector", "assert_url",
   "network_listen", "assert_color", "assert_background", "assert_border_color", "wait", "unknown"]

/-- What the arguments of an action are called, and how a message names its variant. -/
structure Signature where
  names : List String
  variant : String

/-- The signature that belongs to a tag. -/
def signature? : String → Option Signature
  | "see" => some ⟨["value"], "See"⟩
  | "assert_visible" => some ⟨["selector"], "AssertVisible"⟩
  | "assert_text" => some ⟨["selector", "value"], "AssertText"⟩
  | "click" => some ⟨["value"], "Click"⟩
  | "type_smart" => some ⟨["value", "label"], "TypeSmart"⟩
  | "type_selector" => some ⟨["selector", "value"], "TypeSelector"⟩
  | "assert_url" => some ⟨["value"], "AssertUrl"⟩
  | "network_listen" => some ⟨["method", "urlPart"], "NetworkListen"⟩
  | "assert_color" => some ⟨["color", "element"], "AssertColor"⟩
  | "assert_background" => some ⟨["color", "element"], "AssertBackground"⟩
  | "assert_border_color" => some ⟨["color", "element"], "AssertBorderColor"⟩
  | "wait" => some ⟨["ms"], "Wait"⟩
  | "unknown" => some ⟨["original"], "Unknown"⟩
  | _ => none

/-- What stands where something else was expected. -/
def foundIn : Value → Found
  | .null => .null
  | .bool b => .bool b
  | .int n => .int n
  | .float x => .float x
  | .string s => .string s
  | .list _ => .sequence
  | .mapping _ => .map
  | .tagged .. => .enumeration

mutual

/-- Refuses a value in which some mapping has a key twice. -/
def checkKeys : Value → Except Mismatch Unit
  | .list items => checkItems items
  | .mapping entries => checkEntries [] entries
  | .tagged _ value => checkKeys value
  | _ => .ok ()

/-- Refuses a sequence in which some mapping has a key twice. -/
def checkItems : List Value → Except Mismatch Unit
  | [] => .ok ()
  | item :: rest =>
    match checkKeys item with
    | .error e => .error e
    | .ok () => checkItems rest

/-- Refuses a mapping with a key that is among the given ones or comes twice. -/
def checkEntries (known : List Value) : Entries → Except Mismatch Unit
  | [] => .ok ()
  | entry :: rest =>
    match checkEntry known entry with
    | .error e => .error e
    | .ok () => checkEntries (entry.1 :: known) rest

/-- Refuses an entry whose key is among the given ones. -/
def checkEntry (known : List Value) : Value × Value → Except Mismatch Unit
  | (key, value) =>
    match checkKeys key with
    | .error e => .error e
    | .ok () =>
      if known.any (·.same key) then .error (.duplicateEntry key.keyName) else checkKeys value

end

/-- Checks that a value fits the argument of the given name. -/
def checkArgument (name : String) (value : Value) : Except Mismatch Unit :=
  if name = "ms" then
    match value with
    | .int n =>
      if 0 ≤ n ∧ n < Number.word64 then .ok () else .error (.invalidValue (.int n) "u64")
    | _ => .error (.invalidType (foundIn value) "u64")
  else if name = "original" then
    match value with
    | .mapping _ => checkKeys value
    | _ => .error (.invalidType (foundIn value) "a YAML mapping")
  else
    match value with
    | .string _ => .ok ()
    | _ => .error (.invalidType (foundIn value) "a string")

/-- The argument that a key names; a number counts the arguments from zero. -/
def argumentName (signature : Signature) (key : Value) : Except Mismatch (Option String) :=
  match key with
  | .string s => .ok (signature.names.find? (· == s))
  | .int n =>
    if 0 ≤ n then .ok signature.names[n.toNat]?
    else .error (.invalidType (.int n) "field identifier")
  | _ => .error (.invalidType (foundIn key) "field identifier")

/-- Collects the arguments among the entries of a mapping. -/
def fromEntries (signature : Signature) (known : List (String × Value)) :
    Entries → Except Mismatch (List (String × Value))
  | [] => .ok known
  | (key, value) :: rest =>
    match argumentName signature key with
    | .error e => .error e
    | .ok none => fromEntries signature known rest
    | .ok (some name) =>
      if (known.lookup name).isSome then .error (.duplicateField name)
      else
        match checkArgument name value with
        | .error e => .error e
        | .ok () => fromEntries signature (known ++ [(name, value)]) rest

/-- Collects the arguments from the items of a list, in their order; `total` of them are expected. -/
def fromItems (variant : String) (total place : Nat) :
    List String → List Value → Except Mismatch (List (String × Value))
  | [], [] => .ok []
  | [], extra =>
    let many := if total = 1 then "1 element in sequence" else s!"{total} elements in sequence"
    .error (.invalidLength (total + extra.length) many)
  | name :: names, [] =>
    if variant = "TypeSelector" ∧ name = "value" then fromItems variant total place names []
    else
      let many := if total = 1 then "1 element" else s!"{total} elements"
      .error (.invalidLength place s!"struct variant CanonicalAction::{variant} with {many}")
  | name :: names, value :: rest =>
    match checkArgument name value with
    | .error e => .error e
    | .ok () =>
      match fromItems variant total (place + 1) names rest with
      | .error e => .error e
      | .ok found => .ok ((name, value) :: found)

/-- The text of an argument. -/
def textOf (known : List (String × Value)) (name : String) : Except Mismatch String :=
  match known.lookup name with
  | some (.string s) => .ok s
  | _ => .error (.missingField name)

/-- Builds the action of a tag from its arguments. Only the value typed at a selector may be missing. -/
def build (tag : String) (known : List (String × Value)) : Except Mismatch Action := do
  let text := textOf known
  match tag with
  | "see" => return .see (← text "value")
  | "assert_visible" => return .assertVisible (← text "selector")
  | "assert_text" => return .assertText (← text "selector") (← text "value")
  | "click" => return .click (← text "value")
  | "type_smart" => return .typeSmart (← text "value") (← text "label")
  | "type_selector" =>
    let value := match known.lookup "value" with
      | some (.string s) => s
      | _ => ""
    return .typeSelector (← text "selector") value
  | "assert_url" => return .assertUrl (← text "value")
  | "network_listen" => return .networkListen (← text "method") (← text "urlPart")
  | "assert_color" => return .assertColor (← text "color") (← text "element")
  | "assert_background" => return .assertBackground (← text "color") (← text "element")
  | "assert_border_color" => return .assertBorderColor (← text "color") (← text "element")
  | "wait" =>
    match known.lookup "ms" with
    | some (.int n) => return .wait n.toNat
    | _ => throw (.missingField "ms")
  | "unknown" =>
    match known.lookup "original" with
    | some (.mapping entries) => return .unknown ⟨entries⟩
    | _ => throw (.missingField "original")
  | _ => throw (.unknownVariant tag tags)

/-- The action of a tag with the entries of a mapping as its arguments. -/
def ofEntries (tag : String) (entries : Entries) : Except Mismatch Action :=
  match signature? tag with
  | none => .error (.unknownVariant tag tags)
  | some signature =>
    match fromEntries signature [] entries with
    | .error e => .error e
    | .ok known => build tag known

/-- The action of a tag with the items of a list as its arguments. -/
def ofItems (tag : String) (items : List Value) : Except Mismatch Action :=
  match signature? tag with
  | none => .error (.unknownVariant tag tags)
  | some signature =>
    match fromItems signature.variant signature.names.length 0 signature.names items with
    | .error e => .error e
    | .ok known => build tag known

end UiCheck.Action
