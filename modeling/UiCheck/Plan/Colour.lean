import UiCheck.Text.Blank
import UiCheck.Text.Case
import UiCheck.Text.Ranges
import UiCheck.Text.Search

/-! # Colour literals

A literal is a name, hexadecimal digits behind a number sign, or a call of `rgb` or `rgba`. Each denotes
three channels, and two literals match when they denote the same channels as texts. Transparency is
ignored. A literal of any other form matches only itself.
-/

namespace UiCheck.Plan

/-- The channels red, green and blue, in decimal digits. -/
structure Channels where
  red : List Char
  green : List Char
  blue : List Char
  deriving DecidableEq

namespace Channels

/-- The channels of three numbers. -/
def ofNats (red green blue : Nat) : Channels :=
  ⟨Nat.toDigits 10 red, Nat.toDigits 10 green, Nat.toDigits 10 blue⟩

/-- The literal that the channels are reduced to. -/
def render (c : Channels) : List Char :=
  "rgb(".toList ++ c.red ++ ", ".toList ++ c.green ++ ", ".toList ++ c.blue ++ [')']

end Channels

/-- The named colours. -/
def namedColours : List (String × Channels) :=
  [("red", .ofNats 255 0 0), ("blue", .ofNats 0 0 255), ("green", .ofNats 0 128 0),
   ("white", .ofNats 255 255 255), ("black", .ofNats 0 0 0), ("yellow", .ofNats 255 255 0),
   ("gray", .ofNats 128 128 128), ("grey", .ofNats 128 128 128), ("orange", .ofNats 255 165 0),
   ("purple", .ofNats 128 0 128), ("pink", .ofNats 255 192 203), ("brown", .ofNats 165 42 42),
   ("cyan", .ofNats 0 255 255), ("magenta", .ofNats 255 0 255), ("lime", .ofNats 0 255 0),
   ("navy", .ofNats 0 0 128), ("teal", .ofNats 0 128 128), ("silver", .ofNats 192 192 192),
   ("gold", .ofNats 255 215 0)]

/-- The value of a hexadecimal digit. -/
def hexDigit? (c : Char) : Option Nat :=
  if '0' ≤ c ∧ c ≤ '9' then some (c.toNat - '0'.toNat)
  else if 'a' ≤ c ∧ c ≤ 'f' then some (c.toNat - 'a'.toNat + 10)
  else if 'A' ≤ c ∧ c ≤ 'F' then some (c.toNat - 'A'.toNat + 10)
  else none

/-- The channels of three, six or eight hexadecimal digits. Short digits stand for two equal ones, and
the last two of eight are ignored. -/
def hexChannels? (digits : List Char) : Option Channels :=
  match digits.mapM hexDigit? with
  | some [r, g, b] => some (.ofNats (17 * r) (17 * g) (17 * b))
  | some [r, r', g, g', b, b'] => some (.ofNats (16 * r + r') (16 * g + g') (16 * b + b'))
  | some [r, r', g, g', b, b', _, _] => some (.ofNats (16 * r + r') (16 * g + g') (16 * b + b'))
  | _ => none

/-- A run of decimal digits with blanks around it, and what follows. -/
def channel? (s : List Char) : Option (List Char × List Char) :=
  let s := Text.trimStart s
  let digits := s.takeWhile Text.isDecimalDigit
  if digits.isEmpty then none else some (digits, Text.trimStart (s.dropWhile Text.isDecimalDigit))

/-- The first three channels of a call of `rgb` or `rgba`; what follows them is not looked at. -/
def callChannels? (s : List Char) : Option Channels := do
  let rest ← Text.after? "rgb".toList s
  let rest := (Text.after? ['a'] rest).getD rest
  let (red, rest) ← channel? (← Text.after? ['('] rest)
  let (green, rest) ← channel? (← Text.after? [','] rest)
  let digits := Text.trimStart (← Text.after? [','] rest)
  let blue := digits.takeWhile Text.isDecimalDigit
  if blue.isEmpty then none else some ⟨red, green, blue⟩

/-- The channels that a literal denotes, whatever its case and the blanks around it. -/
def channels? (literal : List Char) : Option Channels :=
  let s := Text.lower (Text.trim literal)
  match namedColours.lookup (String.ofList s) with
  | some c => some c
  | none =>
    match (Text.after? ['#'] s).bind hexChannels? with
    | some c => some c
    | none => callChannels? s

/-- The reduced form of a literal; a literal that denotes no channels is its own. -/
def normalizeColour (literal : String) : String :=
  match channels? literal.toList with
  | some c => String.ofList c.render
  | none => literal

/-- Two literals have the same reduced form. -/
def coloursMatch (expected actual : String) : Bool :=
  normalizeColour expected == normalizeColour actual

end UiCheck.Plan
