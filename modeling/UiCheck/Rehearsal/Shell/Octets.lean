import UiCheck.Text.Utf8

/-! # Octets

The shell sees every text as octets, whatever they mean. An octet is kept as the character with its number, so
a text of the shell is a string whose characters all lie below 256.
-/

namespace UiCheck.Rehearsal.Shell

/-- The octets of a sequence of bytes. -/
def octetsOf (bytes : ByteArray) : String :=
  String.ofList (bytes.toList.map fun b => Char.ofNat b.toNat)

/-- The octets of a text. -/
def octets (text : String) : String :=
  octetsOf text.toUTF8

/-- The bytes that octets stand for. -/
def bytesOf (octets : String) : ByteArray :=
  ⟨(octets.toList.map fun c => UInt8.ofNat c.toNat).toArray⟩

/-- The text that octets stand for. -/
def textOf (octets : String) : String :=
  Text.decodeLenient (bytesOf octets)

end UiCheck.Rehearsal.Shell

/-! ## Escapes of the shell

Two programs turn escapes of their arguments into characters: one takes them from its whole argument, the
other from a format, in which an octal number has at most three digits in all.
-/

namespace UiCheck.Rehearsal.Shell

/-- Up to so many octal digits behind a value, and what follows them. -/
def octal : Nat → Nat → List Char → Nat × List Char
  | 0, value, s => (value, s)
  | _, value, [] => (value, [])
  | count + 1, value, c :: rest =>
    if '0' ≤ c ∧ c ≤ '7' then octal count (8 * value + (c.toNat - '0'.toNat)) rest else (value, c :: rest)

/-- The character that an escape with one letter stands for. -/
def letterEscape? : Char → Option Char
  | 'a' => some '\x07'
  | 'b' => some '\x08'
  | 'e' => some '\x1b'
  | 'f' => some '\x0c'
  | 'n' => some '\n'
  | 'r' => some '\r'
  | 't' => some '\t'
  | 'v' => some '\x0b'
  | '\\' => some '\\'
  | _ => none

/-- The octets at the start of a text behind a backslash, and what follows them. An octal number that starts
with a zero may have a fourth digit if `leadingZero` says so. -/
def escaped (leadingZero : Bool) (s : List Char) : List Char × List Char :=
  match s with
  | [] => (['\\'], [])
  | c :: rest =>
    match letterEscape? c with
    | some d => ([d], rest)
    | none =>
      if '0' ≤ c ∧ c ≤ '7' then
        let (value, rest) := if leadingZero ∧ c = '0' then octal 3 0 rest else octal 3 0 (c :: rest)
        ([Char.ofNat (value % 256)], rest)
      else (['\\', c], rest)

/-- The octets of a text with escapes, and whether an escape asked to stop there; with those so far in reverse
order and one unit of fuel for each character. -/
def unescape : Nat → List Char → List Char → String × Bool
  | 0, done, _ => (String.ofList done.reverse, false)
  | _, done, [] => (String.ofList done.reverse, false)
  | fuel + 1, done, c :: rest =>
    if c ≠ '\\' then unescape fuel (c :: done) rest
    else if rest.head? = some 'c' then (String.ofList done.reverse, true)
    else
      let (octets, rest) := escaped true rest
      unescape fuel (octets.reverse ++ done) rest

/-- The octets of a text with escapes, and whether an escape asked to stop there. -/
def unescaped (s : String) : String × Bool :=
  unescape s.length [] s.toList

end UiCheck.Rehearsal.Shell
