/-! # Texts and bytes

A text has bytes, by which names are ordered. Bytes that are meant as UTF-8 may fail to be. A lenient decoding
puts a replacement character in place of each longest run of bytes that starts a character and does not finish it.
-/

namespace UiCheck.Text

/-- The bytes of a text. -/
def bytes (text : String) : List UInt8 :=
  text.toUTF8.data.toList

/-- A byte that continues a character. -/
def continues (b : UInt8) : Bool :=
  0x80 ≤ b && b ≤ 0xBF

/-- The number of bytes that must follow a first byte, and the bounds of the next one. -/
def leadOf (b : UInt8) : Option (Nat × UInt8 × UInt8) :=
  if b < 0x80 then some (0, 0x80, 0xBF)
  else if b < 0xC2 then none
  else if b < 0xE0 then some (1, 0x80, 0xBF)
  else if b = 0xE0 then some (2, 0xA0, 0xBF)
  else if b = 0xED then some (2, 0x80, 0x9F)
  else if b < 0xF0 then some (2, 0x80, 0xBF)
  else if b = 0xF0 then some (3, 0x90, 0xBF)
  else if b < 0xF4 then some (3, 0x80, 0xBF)
  else if b = 0xF4 then some (3, 0x80, 0x8F)
  else none

/-- Takes up to a number of continuing bytes, with the value so far. Answers the value if all are there, and
the rest. -/
def takeContinuing : Nat → Nat → List UInt8 → Option Nat × List UInt8
  | 0, value, rest => (some value, rest)
  | _, _, [] => (none, [])
  | n + 1, value, b :: rest =>
    if continues b then takeContinuing n (64 * value + b.toNat % 64) rest else (none, b :: rest)

/-- The bits of a first byte that belong to the value, given how many bytes follow. -/
def leadBits (b : UInt8) (following : Nat) : Nat :=
  if following = 0 then b.toNat else b.toNat % Nat.pow 2 (6 - following)

/-- The first character, if the bytes start with one, and the rest behind it or behind its broken start. -/
def decodeFirst (b : UInt8) (rest : List UInt8) : Option Char × List UInt8 :=
  match leadOf b with
  | none => (none, rest)
  | some (0, _) => (some (Char.ofNat b.toNat), rest)
  | some (following, low, high) =>
    match rest with
    | [] => (none, [])
    | c :: _ =>
      if low ≤ c && c ≤ high then
        let (value, rest) := takeContinuing following (leadBits b following) rest
        (value.map Char.ofNat, rest)
      else (none, rest)

/-- Decodes bytes leniently, with the characters so far reversed and one unit of fuel for each byte. -/
def decodeFrom : Nat → List Char → List UInt8 → List Char
  | 0, done, _ => done.reverse
  | _, done, [] => done.reverse
  | fuel + 1, done, b :: rest =>
    let (c, rest) := decodeFirst b rest
    decodeFrom fuel (c.getD '\uFFFD' :: done) rest

/-- The text of bytes, with replacement characters where they are none. -/
def decodeLenient (bytes : ByteArray) : String :=
  match String.fromUTF8? bytes with
  | some text => text
  | none => String.ofList (decodeFrom bytes.size [] bytes.toList)

/-- The longest start of bytes that is a text, and the bytes behind it. -/
def decodeStart : Nat → List Char → List UInt8 → List Char × List UInt8
  | 0, done, rest => (done.reverse, rest)
  | _, done, [] => (done.reverse, [])
  | fuel + 1, done, b :: rest =>
    match decodeFirst b rest with
    | (some c, after) => decodeStart fuel (c :: done) after
    | (none, _) => (done.reverse, b :: rest)

/-- Splits bytes behind each line feed, with the latest line first and one unit of fuel for each byte. -/
def splitBytes : Nat → List (List UInt8) → List UInt8 → List (List UInt8)
  | 0, done, _ => done.reverse
  | _, done, [] => done.reverse
  | fuel + 1, done, b :: bytes =>
    match (b :: bytes).span (· != 10) with
    | (line, feed :: rest) => splitBytes fuel ((line ++ [feed]) :: done) rest
    | (line, []) => (line :: done).reverse

/-- A line of bytes without the line feed at its end, and without a carriage return before that. -/
def withoutFeed (line : List UInt8) : List UInt8 :=
  match line.reverse with
  | 10 :: 13 :: body => body.reverse
  | 10 :: body => body.reverse
  | _ => line

/-- The lines of bytes, each as a text if it is one. -/
def byteLines (bytes : ByteArray) : List (Option String) :=
  (splitBytes bytes.size [] bytes.toList).map fun line =>
    (String.fromUTF8? ⟨line.toArray⟩).map fun _ =>
      (String.fromUTF8? ⟨(withoutFeed line).toArray⟩).getD ""

end UiCheck.Text
