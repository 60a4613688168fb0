import UiCheck.Number.Shortest
import UiCheck.Text.Quoted

/-! # Untyped values

A value as a plan document holds it: a scalar, a sequence, a mapping in document order whose keys are
values themselves, or a value behind a tag. No claim is made here about which texts denote which
values.
-/

namespace UiCheck

/-- A value of a plan document. -/
inductive Value where
  | null
  | bool (b : Bool)
  | int (n : Int)
  | float (x : Number.Binary64)
  | string (s : String)
  | list (items : List Value)
  | mapping (entries : List (Value × Value))
  | tagged (tag : String) (value : Value)
  deriving Inhabited

/-- The entries of a mapping, in document order. -/
abbrev Entries := List (Value × Value)

namespace Value

/-- The name of a tag without the exclamation mark in front of it; a lone exclamation mark is a name
of its own. -/
def tagName (tag : String) : String :=
  match tag.toList with
  | '!' :: c :: rest => String.ofList (c :: rest)
  | _ => tag

mutual

/-- Two values are the same as keys: floating point numbers by what they denote, mappings whatever the
order of their entries. -/
def same : Value → Value → Bool
  | .null, .null => true
  | .bool a, .bool b => a == b
  | .int a, .int b => a == b
  | .float a, .float b => a.sameKey b
  | .string a, .string b => a == b
  | .list as, .list bs => sameList as bs
  | .mapping as, .mapping bs => as.length == bs.length && sameEntries as bs
  | .tagged s a, .tagged t b => tagName s == tagName t && same a b
  | _, _ => false

/-- Two sequences hold the same values in the same order. -/
def sameList : List Value → List Value → Bool
  | [], [] => true
  | a :: as, b :: bs => same a b && sameList as bs
  | _, _ => false

/-- Each entry of the first mapping has an entry of the second with the same key and value. -/
def sameEntries : Entries → Entries → Bool
  | [], _ => true
  | entry :: as, bs => sameEntry entry bs && sameEntries as bs

/-- Some entry of the mapping has the key and the value of the given one. -/
def sameEntry : Value × Value → Entries → Bool
  | (k, v), bs => bs.any fun (l, w) => same k l && same v w

end

/-- The text of a floating point number as a plan document writes it. -/
def floatText (x : Number.Binary64) : String :=
  match x.denotation with
  | .finite negative mantissa exponent =>
    let layout : Number.Layout := { lowest := -5, highest := 15, plus := false }
    String.ofList (layout.write negative mantissa exponent)
  | .infinite true => "-.inf"
  | .infinite false => ".inf"
  | .notANumber => ".nan"

/-- How a key is named in the message about its repetition. -/
def keyName : Value → String
  | .null => "with null key"
  | .bool b => s!"with key `{b}`"
  | .int n => s!"with key {n}"
  | .float x => s!"with key {floatText x}"
  | .string s => s!"with key {Text.quote s}"
  | _ => "in YAML map"

/-- The value of the first entry whose key is the given text. -/
def lookup (key : String) : Entries → Option Value
  | [] => none
  | (.string k, v) :: rest => if k = key then some v else lookup key rest
  | _ :: rest => lookup key rest

end Value

end UiCheck
