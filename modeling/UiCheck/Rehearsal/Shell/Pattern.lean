import UiCheck.Rehearsal.Shell.Octets

/-! # Patterns

A pattern is made of characters, of which a star stands for any text, a question mark for any character, and
brackets for one of a set; a character may also be there only for itself. A pattern fits a whole text.
-/

namespace UiCheck.Rehearsal.Shell

/-- A character of a pattern, and whether it is there only for itself. -/
structure PatternChar where
  char : Char
  quoted : Bool
  deriving DecidableEq, Inhabited, Repr

/-- What a set of characters holds. -/
inductive Member where
  | range (low high : Char)
  /-- All characters of a class, by its name. -/
  | kind (name : String)
  deriving DecidableEq, Inhabited, Repr

/-- An item of a pattern. -/
inductive PatternItem where
  | char (c : Char)
  | one
  | any
  | set (inverted : Bool) (members : List Member)
  deriving DecidableEq, Inhabited, Repr

/-- The character belongs to the class with the name; without such a class the answer is left open. -/
def inClass? (name : String) (c : Char) : Option Bool :=
  match name with
  | "alpha" => some c.isAlpha
  | "digit" => some c.isDigit
  | "alnum" => some c.isAlphanum
  | "upper" => some c.isUpper
  | "lower" => some c.isLower
  | "space" => some (" \t\n\x0b\x0c\r".toList.contains c)
  | "blank" => some (c == ' ' || c == '\t')
  | "punct" => some ('!' ≤ c && c ≤ '~' && ! c.isAlphanum)
  | "print" => some (' ' ≤ c && c ≤ '~')
  | "graph" => some ('!' ≤ c && c ≤ '~')
  | "cntrl" => some (c < ' ' || c == '\x7f')
  | "xdigit" => some (c.isDigit || 'a' ≤ c && c ≤ 'f' || 'A' ≤ c && c ≤ 'F')
  | _ => none

/-- The character is what the member holds. -/
def Member.holds (member : Member) (c : Char) : Bool :=
  match member with
  | .range low high => low ≤ c && c ≤ high
  | .kind name => (inClass? name c).getD false

/-- The item fits the character. -/
def PatternItem.fits (item : PatternItem) (c : Char) : Bool :=
  match item with
  | .char d => c == d
  | .one | .any => true
  | .set inverted members => members.any (·.holds c) != inverted

/-- The name of the class at the start of a text behind a bracket, and what follows it. -/
def className? (s : List PatternChar) : Option (String × List PatternChar) :=
  match s with
  | ⟨':', false⟩ :: rest =>
    let name := rest.takeWhile fun p => p.char.isAlpha
    match rest.drop name.length with
    | ⟨':', _⟩ :: ⟨']', _⟩ :: rest =>
      let name := String.ofList (name.map (·.char))
      if (inClass? name 'a').isSome then some (name, rest) else none
    | _ => none
  | _ => none

/-- The members of a set up to its closing bracket, and what follows it. The first character never closes the
set, so it is passed as one that does not. -/
def members? : Nat → List Member → Bool → List PatternChar → Option (List Member × List PatternChar)
  | 0, _, _, _ => none
  | _, _, _, [] => none
  | fuel + 1, done, first, p :: rest =>
    if p = ⟨']', false⟩ ∧ ¬ first then some (done.reverse, rest)
    else
      match (if p = ⟨'[', false⟩ then className? rest else none) with
      | some (name, rest) => members? fuel (.kind name :: done) false rest
      | none =>
        match rest with
        | ⟨'-', false⟩ :: high :: more =>
          if high = ⟨']', false⟩ then members? fuel (.range p.char p.char :: done) false rest
          else members? fuel (.range p.char high.char :: done) false more
        | _ => members? fuel (.range p.char p.char :: done) false rest

/-- The items of a pattern. A bracket that nothing closes is there for itself. -/
def patternItems : Nat → List PatternChar → List PatternItem
  | 0, _ => []
  | _, [] => []
  | fuel + 1, p :: rest =>
    if p.quoted then .char p.char :: patternItems fuel rest
    else
      match p.char with
      | '*' => .any :: patternItems fuel rest
      | '?' => .one :: patternItems fuel rest
      | '[' =>
        let (inverted, body) := match rest with
          | ⟨'!', false⟩ :: body => (true, body)
          | _ => (false, rest)
        match members? (body.length + 1) [] true body with
        | some (members, rest) => .set inverted members :: patternItems fuel rest
        | none => .char '[' :: patternItems fuel rest
      | c => .char c :: patternItems fuel rest

/-- A pattern. -/
abbrev Pattern := List PatternItem

/-- The pattern that characters spell. -/
def Pattern.ofChars (s : List PatternChar) : Pattern :=
  patternItems (s.length + 1) s

/-- The texts that are left when characters are taken off the front, the whole text first. -/
def suffixes : List Char → List (List Char)
  | [] => [[]]
  | c :: rest => (c :: rest) :: suffixes rest

/-- The pattern fits the whole text. -/
def Pattern.fits : Pattern → List Char → Bool
  | [], s => s.isEmpty
  | .any :: items, s => (suffixes s).any fun rest => Pattern.fits items rest
  | item :: items, s =>
    match s with
    | [] => false
    | c :: rest => item.fits c && Pattern.fits items rest

/-- The pattern has items that stand for more than themselves. -/
def Pattern.isOpen (pattern : Pattern) : Bool :=
  pattern.any fun item =>
    match item with
    | .char _ => false
    | _ => true

/-- Takes off the front of a text what a pattern fits, as much or as little as possible. -/
def Pattern.trimFront (pattern : Pattern) (longest : Bool) (s : List Char) : List Char :=
  let cuts := List.range (s.length + 1)
  let cut := (if longest then cuts.reverse else cuts).find? fun n => pattern.fits (s.take n)
  s.drop (cut.getD 0)

/-- Takes off the back of a text what a pattern fits, as much or as little as possible. -/
def Pattern.trimBack (pattern : Pattern) (longest : Bool) (s : List Char) : List Char :=
  let cuts := List.range (s.length + 1)
  let cut := (if longest then cuts else cuts.reverse).find? fun n => pattern.fits (s.drop n)
  s.take (cut.getD s.length)

end UiCheck.Rehearsal.Shell
