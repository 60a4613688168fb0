import UiCheck.Yaml.ScalarText
import UiCheck.Value

/-! # What a scalar denotes

A plain scalar may denote null, a truth value, an integer or a floating point number; every other scalar
denotes its text. A tag of the core schema asks for one of them.
-/

namespace UiCheck.Yaml

/-- What a scalar denotes. Integers beyond sixty-four bits are told apart, because no value holds them. -/
inductive Denoted where
  | null
  | bool (b : Bool)
  | int (n : Int)
  | wideUnsigned (n : Nat)
  | wideSigned (n : Int)
  | float (x : Number.Binary64)
  | string (s : String)

/-- The four spellings of null. -/
def isNull (text : List Char) : Bool :=
  ["null", "Null", "NULL", "~"].contains (String.ofList text)

/-- The spellings of the truth values. -/
def bool? (text : List Char) : Option Bool :=
  if ["true", "True", "TRUE"].contains (String.ofList text) then some true
  else if ["false", "False", "FALSE"].contains (String.ofList text) then some false
  else none

/-- Digits that start with a zero and have more than one digit denote a text, with or without a sign. -/
def isZeroLed (text : List Char) : Bool :=
  let digits := match text with
    | '-' :: rest => rest
    | '+' :: rest => rest
    | _ => text
  match digits with
  | '0' :: c :: rest => (c :: rest).all Char.isDigit
  | _ => false

/-- The text starts with a sign. -/
def isSigned (text : List Char) : Bool :=
  match text with
  | '-' :: _ => true
  | '+' :: _ => true
  | _ => false

/-- The radixes with a mark of their own behind a zero. -/
def radixes : List (Char × Nat) := [('x', 16), ('o', 8), ('b', 2)]

/-- An integer without a minus sign, below `bound`. -/
def unsignedInt? (bound : Nat) (text : List Char) : Option Nat :=
  let body := match text with
    | '+' :: rest => rest
    | _ => text
  let marked := match body with
    | '0' :: mark :: digits =>
      match radixes.lookup mark with
      | some radix => if isSigned digits then some none else some (Number.unsigned? radix bound digits)
      | none => none
    | _ => none
  match marked with
  | some (some n) => some n
  | some none => none
  | none => if isSigned body || isZeroLed text then none else Number.unsigned? 10 bound body

/-- An integer with or without a minus sign, from `-bound` on and below `bound`. -/
def negativeInt? (bound : Nat) (text : List Char) : Option Int :=
  let marked := match text with
    | '-' :: '0' :: mark :: digits =>
      (radixes.lookup mark).bind fun radix => Number.signed? radix bound ('-' :: digits)
    | _ => none
  match marked with
  | some n => some n
  | none => if isZeroLed text then none else Number.signed? 10 bound text

/-- The integer that a text denotes. -/
def int? (text : List Char) : Option Denoted :=
  match unsignedInt? (Nat.pow 2 64) text with
  | some n => some (.int n)
  | none =>
    match negativeInt? (Nat.pow 2 63) text with
    | some n => some (.int n)
    | none =>
      match unsignedInt? (Nat.pow 2 128) text with
      | some n => some (.wideUnsigned n)
      | none => (negativeInt? (Nat.pow 2 127) text).map .wideSigned

/-- The floating point number that a text denotes. A decimal number beyond the range denotes its
text. -/
def float? (text : List Char) : Option Number.Binary64 :=
  let body := match text with
    | '+' :: rest => rest
    | _ => text
  let positive := String.ofList body
  let whole := String.ofList text
  if (match text with | '+' :: rest => isSigned rest | _ => false) then none
  else if [".inf", ".Inf", ".INF"].contains positive then some (Number.Binary64.infinity false)
  else if ["-.inf", "-.Inf", "-.INF"].contains whole then some (Number.Binary64.infinity true)
  else if [".nan", ".NaN", ".NAN"].contains whole then some Number.Binary64.nan
  else
    match Number.decimal? body with
    | some (negative, mantissa, exponent) =>
      let x := Number.Binary64.ofDecimal negative mantissa exponent
      if x.isFinite then some x else none
    | none => none

/-- What a plain scalar without a tag denotes. -/
def plain (text : List Char) : Denoted :=
  if text.isEmpty || isNull text then .null
  else
    match bool? text with
    | some b => .bool b
    | none =>
      match int? text with
      | some n => n
      | none =>
        match (if isZeroLed text then none else float? text) with
        | some x => .float x
        | none => .string (String.ofList text)

/-- The tags of the core schema. -/
def coreTag (name : String) : Tag :=
  .ofText ("tag:yaml.org,2002:" ++ name)

/-- What a scalar denotes, given its tag. -/
def denoted (tag : Option Tag) (text : List Char) (style : Style) : Except Decode.Mismatch Denoted :=
  let asText := Denoted.string (String.ofList text)
  let orRefuse (answer : Option Denoted) (expected : String) : Except Decode.Mismatch Denoted :=
    match answer with
    | some d => .ok d
    | none => .error (.invalidValue (.string (String.ofList text)) expected)
  match tag with
  | none => .ok (if style = .plain then plain text else asText)
  | some tag =>
    if tag == coreTag "bool" then orRefuse ((bool? text).map .bool) "a boolean"
    else if tag == coreTag "int" then orRefuse (int? text) "an integer"
    else if tag == coreTag "float" then orRefuse ((float? text).map .float) "a float"
    else if tag == coreTag "null" then orRefuse (if isNull text then some .null else none) "null"
    else if tag.isLocal && style = .plain then .ok (plain text)
    else .ok asText

/-- What was found where something else was expected. -/
def Denoted.found : Denoted → Decode.Found
  | .null => .null
  | .bool b => .bool b
  | .int n => .int n
  | .wideUnsigned n => .other s!"integer `{n}` as u128"
  | .wideSigned n => .other s!"integer `{n}` as i128"
  | .float x => .float x
  | .string s => .string s

/-- The value that a scalar denotes; integers beyond sixty-four bits are refused. -/
def Denoted.value : Denoted → Except Decode.Mismatch Value
  | .null => .ok .null
  | .bool b => .ok (.bool b)
  | .int n => .ok (.int n)
  | .float x => .ok (.float x)
  | .string s => .ok (.string s)
  | wide => .error (.invalidType wide.found "any YAML value")

end UiCheck.Yaml
