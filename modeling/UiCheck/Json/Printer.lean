import UiCheck.Json.Basic
import UiCheck.Number.Shortest

/-! # Writing JSON

Two forms of a document: on one line without blanks, and with two blanks of indentation for each level.
Quotes, backslashes and control characters are escaped and all other characters stand for
themselves. An infinity or a non-number is written as null.
-/

namespace UiCheck.Json

/-- Numbers stand with their point in place from `0.00001` to below ten to the sixteenth; beyond, the
exponent carries its sign. -/
def floatLayout : Number.Layout :=
  { lowest := -5, highest := 15, plus := true }

/-- The text of a floating point number. -/
def floatText (x : Number.Binary64) : List Char :=
  match x.denotation with
  | .finite negative mantissa exponent => floatLayout.write negative mantissa exponent
  | _ => ['n', 'u', 'l', 'l']

/-- One character as it stands in a string. -/
def escapeChar (c : Char) : List Char :=
  match c with
  | '"' => ['\\', '"']
  | '\\' => ['\\', '\\']
  | '\x08' => ['\\', 'b']
  | '\x0c' => ['\\', 'f']
  | '\n' => ['\\', 'n']
  | '\r' => ['\\', 'r']
  | '\t' => ['\\', 't']
  | _ =>
    if c.toNat < 32 then
      ['\\', 'u', '0', '0', Nat.digitChar (c.toNat / 16), Nat.digitChar (c.toNat % 16)]
    else [c]

/-- A string with its quotes. -/
def stringText (s : String) : List Char :=
  '"' :: s.toList.flatMap escapeChar ++ ['"']

/-- The text of an integer. -/
def intText (n : Int) : List Char :=
  (if n < 0 then ['-'] else []) ++ Nat.toDigits 10 n.natAbs

mutual

/-- The document on one line without blanks. -/
def compact : Json → List Char
  | .null => ['n', 'u', 'l', 'l']
  | .bool true => ['t', 'r', 'u', 'e']
  | .bool false => ['f', 'a', 'l', 's', 'e']
  | .int n => intText n
  | .float x => floatText x
  | .string s => stringText s
  | .list items => '[' :: compactItems items ++ [']']
  | .object members => '{' :: compactMembers members ++ ['}']

/-- The items of a list with commas between them. -/
def compactItems : List Json → List Char
  | [] => []
  | [item] => compact item
  | item :: rest => compact item ++ ',' :: compactItems rest

/-- The members of an object with commas between them. -/
def compactMembers : List (String × Json) → List Char
  | [] => []
  | [member] => compactMember member
  | member :: rest => compactMember member ++ ',' :: compactMembers rest

/-- A name, a colon and a document. -/
def compactMember : String × Json → List Char
  | (name, value) => stringText name ++ ':' :: compact value

end

/-- The blanks in front of a line of the indented form. -/
def indentation (level : Nat) : List Char :=
  '\n' :: List.replicate (2 * level) ' '

mutual

/-- The document with two blanks of indentation for each level; an empty list or object stays on its
line. -/
def pretty (level : Nat) : Json → List Char
  | .null => compact .null
  | .bool b => compact (.bool b)
  | .int n => compact (.int n)
  | .float x => compact (.float x)
  | .string s => compact (.string s)
  | .list [] => ['[', ']']
  | .list items => '[' :: prettyItems (level + 1) items ++ indentation level ++ [']']
  | .object [] => ['{', '}']
  | .object members => '{' :: prettyMembers (level + 1) members ++ indentation level ++ ['}']

/-- The items of a list, each on a line of its own. -/
def prettyItems (level : Nat) : List Json → List Char
  | [] => []
  | [item] => indentation level ++ pretty level item
  | item :: rest => indentation level ++ pretty level item ++ ',' :: prettyItems level rest

/-- The members of an object, each on a line of its own. -/
def prettyMembers (level : Nat) : List (String × Json) → List Char
  | [] => []
  | [member] => prettyMember level member
  | member :: rest => prettyMember level member ++ ',' :: prettyMembers level rest

/-- A name, a colon, a blank and a document. -/
def prettyMember (level : Nat) : String × Json → List Char
  | (name, value) => indentation level ++ stringText name ++ ':' :: ' ' :: pretty level value

end

/-- The document on one line without blanks. -/
def toCompact (doc : Json) : String :=
  String.ofList doc.compact

/-- The document in the indented form. -/
def toPretty (doc : Json) : String :=
  String.ofList (doc.pretty 0)

end UiCheck.Json
