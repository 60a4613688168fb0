import UiCheck.Number.Shortest
import UiCheck.Text.Quoted

/-! # Mismatches

What a reader of typed data can find wrong with a value that is well formed as text. A mismatch is a
cause; its message depends on the format only in how null and floating point numbers are named.
-/

namespace UiCheck.Decode

/-- What stood where something else was expected. -/
inductive Found where
  | bool (b : Bool)
  | int (n : Int)
  | float (x : Number.Binary64)
  | string (s : String)
  | null
  | sequence
  | map
  | enumeration
  | other (what : String)

/-- What is wrong with a value. -/
inductive Mismatch where
  | invalidType (found : Found) (expected : String)
  | invalidValue (found : Found) (expected : String)
  | invalidLength (length : Nat) (expected : String)
  | missingField (name : String)
  | duplicateField (name : String)
  | unknownVariant (name : String) (known : List String)
  | noVariant (typeName : String)
  | duplicateEntry (key : String)
  | enumInTagged

/-- How a format names null and writes floating point numbers. -/
structure Wording where
  nullName : String
  floatText : Number.Binary64 → String

/-- The name of what was found. -/
def Found.describe (wording : Wording) : Found → String
  | .bool b => s!"boolean `{b}`"
  | .int n => s!"integer `{n}`"
  | .float x => s!"floating point `{wording.floatText x}`"
  | .string s => s!"string {Text.quote s}"
  | .null => wording.nullName
  | .sequence => "sequence"
  | .map => "map"
  | .enumeration => "enum"
  | .other what => what

/-- The names of the known variants, each between backticks. -/
def oneOf (names : List String) : String :=
  match names with
  | [] => "there are no variants"
  | [name] => s!"expected `{name}`"
  | [first, second] => s!"expected `{first}` or `{second}`"
  | _ => "expected one of " ++ ", ".intercalate (names.map fun name => s!"`{name}`")

/-- The message of a mismatch. -/
def Mismatch.message (wording : Wording) : Mismatch → String
  | .invalidType found expected => s!"invalid type: {found.describe wording}, expected {expected}"
  | .invalidValue found expected => s!"invalid value: {found.describe wording}, expected {expected}"
  | .invalidLength length expected => s!"invalid length {length}, expected {expected}"
  | .missingField name => s!"missing field `{name}`"
  | .duplicateField name => s!"duplicate field `{name}`"
  | .unknownVariant name known => s!"unknown variant `{name}`, {oneOf known}"
  | .noVariant typeName => s!"data did not match any variant of untagged enum {typeName}"
  | .duplicateEntry key => s!"duplicate entry {key}"
  | .enumInTagged => "untagged and internally tagged enums do not support enum input"

end UiCheck.Decode
