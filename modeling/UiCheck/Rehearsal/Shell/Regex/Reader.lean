import UiCheck.Rehearsal.Shell.Regex.Basic

/-! # Reading regular expressions

There are two ways to write them. In the basic way a backslash gives signs their meaning, in the extended way it
takes it. Signs without anything before them to repeat are characters, or they are left out.
-/

namespace UiCheck.Rehearsal.Shell

/-- Why a text is no regular expression. -/
inductive RegexProblem where
  | openBracket
  | openGroup
  | closedGroup
  | openInterval
  | badInterval
  | tooLarge
  | nothingToRepeat
  | badRange
  | badClass
  | badReference
  | lastBackslash
  | tooDeep
  deriving DecidableEq, Inhabited, Repr

/-- The words for a problem. -/
def RegexProblem.message : RegexProblem → String
  | .openBracket => "Invalid regular expression"
  | .openGroup => "Unmatched ( or \\("
  | .closedGroup => "Unmatched ) or \\)"
  | .openInterval => "Unmatched \\\x7b"
  | .badInterval => "Invalid content of \\\x7b\\\x7d"
  | .tooLarge => "Regular expression too big"
  | .nothingToRepeat => "Invalid preceding regular expression"
  | .badRange => "Invalid range end"
  | .badClass => "Invalid character class name"
  | .badReference => "Invalid back reference"
  | .lastBackslash => "Trailing backslash"
  | .tooDeep => "Memory exhausted"

/-- How a text is read. -/
structure RegexStyle where
  extended : Bool
  /-- Signs of repetition with nothing before them are wrong. -/
  strict : Bool := false
  deriving DecidableEq, Inhabited, Repr

/-- A text that is being read. -/
structure RegexSource where
  rest : List Char
  /-- The number of groups so far, and those that are closed. -/
  groups : Nat := 0
  closed : List Nat := []
  /-- The number of groups that are open. -/
  depth : Nat := 0
  deriving Inhabited

/-- A step that reads. -/
abbrev RegexReading := EStateM RegexProblem RegexSource

namespace RegexReading

/-- What is left to read. -/
def rest : RegexReading (List Char) :=
  return (← get).rest

/-- Passes a number of characters. -/
def pass (count : Nat) : RegexReading Unit :=
  modify fun source => { source with rest := source.rest.drop count }

/-- The signs that stand for more than themselves, in either way of writing. -/
inductive Sign where
  | opening
  | closing
  | bar
  | star
  | plus
  | question
  | brace
  deriving DecidableEq, Inhabited, Repr

/-- The sign at the start of a text, and its length. -/
def sign? (style : RegexStyle) (s : List Char) : Option (Sign × Nat) :=
  let named (c : Char) : Option Sign := match c with
    | '(' => some .opening
    | ')' => some .closing
    | '|' => some .bar
    | '+' => some .plus
    | '?' => some .question
    | '\x7b' => some .brace
    | _ => none
  match s with
  | '*' :: _ => some (.star, 1)
  | '\\' :: c :: _ => if style.extended then none else (named c).map (·, 2)
  | c :: _ => if style.extended then (named c).map (·, 1) else none
  | [] => none

/-- A character that means only itself. -/
def plainChar (c : Char) : Regex := .one false [.range c c]

/-- Reads the name of a class or character between two marks in a bracket, and answers what it stands for. -/
def readNamed (mark : Char) : RegexReading Member := do
  let s := (← rest).drop 2
  let name := s.takeWhile (· != mark)
  match s.drop name.length with
  | _ :: ']' :: _ =>
    pass (name.length + 4)
    if mark = ':' then
      if (inClass? (String.ofList name) 'a').isSome then return .kind (String.ofList name) else throw .badClass
    else
      match name with
      | [c] => return .range c c
      | _ => throw .badClass
  | _ => throw .openBracket

/-- Reads a character of a bracket, and what goes on to another one. -/
def readRange : RegexReading Member := do
  let c := (← rest).headD ' '
  pass 1
  match (← rest) with
  | '-' :: d :: _ =>
    if d = ']' then return .range c c
    else
      pass 1
      let high ← match (← rest) with
        | '[' :: '.' :: _ => readNamed '.'
        | '[' :: '=' :: _ => readNamed '='
        | x :: _ => do
          pass 1
          pure (.range x x)
        | [] => throw .openBracket
      match high with
      | .range high _ => if high < c then throw .badRange else return .range c high
      | .kind _ => throw .badRange
  | _ => return .range c c

/-- Reads the members of a bracket up to its end, with those so far in reverse order. -/
def readMembers : Nat → Bool → List Member → RegexReading (List Member)
  | 0, _, _ => throw .openBracket
  | fuel + 1, first, done => do
    let member ← match (← rest) with
      | [] => throw .openBracket
      | ']' :: _ =>
        if first then some <$> readRange
        else
          pass 1
          pure none
      | '[' :: mark :: _ =>
        if mark = ':' ∨ mark = '=' ∨ mark = '.' then some <$> readNamed mark else some <$> readRange
      | _ => some <$> readRange
    match member with
    | none => return done.reverse
    | some member => readMembers fuel false (member :: done)

/-- Reads a bracket. -/
def readBracket : RegexReading Regex := do
  pass 1
  let inverted := (← rest).head? == some '^'
  if inverted then pass 1
  return .one inverted (← readMembers ((← rest).length + 1) true [])

/-- How often something is to be repeated, and what follows. A problem comes with whether the text has the shape
of an interval at all. -/
def interval (style : RegexStyle) (s : List Char) :
    Except (Bool × RegexProblem) ((Nat × Option Nat) × List Char) :=
  let close (s : List Char) : Except (Bool × RegexProblem) (List Char) :=
    match style.extended, s with
    | true, '\x7d' :: rest | false, '\\' :: '\x7d' :: rest => .ok rest
    | _, [] => .error (false, .openInterval)
    | _, _ => .error (false, .badInterval)
  let number (s : List Char) : Option Nat × List Char :=
    let digits := s.takeWhile Char.isDigit
    (if digits.isEmpty then none else some (digits.foldl (fun n c => 10 * n + (c.toNat - '0'.toNat)) 0),
      s.drop digits.length)
  let checked (low : Nat) (high : Option Nat) (s : List Char) :
      Except (Bool × RegexProblem) ((Nat × Option Nat) × List Char) := do
    let rest ← close s
    if high.any (· < low) then throw (true, .badInterval)
    else if 32767 < high.getD low then throw (true, .tooLarge)
    else return ((low, high), rest)
  match number s with
  | (low, ',' :: rest) =>
    let (high, rest) := number rest
    checked (low.getD 0) high rest
  | (some n, rest) => checked n (some n) rest
  | (none, _) => .error (false, if s.isEmpty then .openInterval else .badInterval)

/-- The characters of words, and blanks, as members of a set. -/
def wordMembers : List Member := [.kind "alnum", .range '_' '_']

/-- What a letter behind a backslash stands for. -/
def escape? : Char → Option Regex
  | 'w' => some (.one false wordMembers)
  | 'W' => some (.one true wordMembers)
  | 's' => some (.one false [.kind "space"])
  | 'S' => some (.one true [.kind "space"])
  | 'b' => some (.edge .boundary)
  | 'B' => some (.edge .noBoundary)
  | '<' => some (.edge .wordStart)
  | '>' => some (.edge .wordFinish)
  | '\x60' => some (.edge .textStart)
  | '\'' => some (.edge .textFinish)
  | _ => none

/-- Reads what stands behind a backslash. -/
def readEscape : RegexReading Regex := do
  match (← rest) with
  | '\\' :: c :: _ =>
    pass 2
    match escape? c with
    | some r => return r
    | none =>
      if '1' ≤ c ∧ c ≤ '9' then
        let number := c.toNat - '0'.toNat
        if (← get).closed.contains number then return .again number else throw .badReference
      else return plainChar c
  | _ => throw .lastBackslash

/-- Reads how often a piece is repeated. -/
def readRepetitions (style : RegexStyle) : Nat → Regex → RegexReading Regex
  | 0, piece => return piece
  | fuel + 1, piece => do
    let s ← rest
    match sign? style s with
    | some (.star, size) =>
      pass size
      readRepetitions style fuel (.repeated piece 0 none)
    | some (.plus, size) =>
      pass size
      readRepetitions style fuel (.repeated piece 1 none)
    | some (.question, size) =>
      pass size
      readRepetitions style fuel (.repeated piece 0 (some 1))
    | some (.brace, size) =>
      match interval style (s.drop size) with
      | .ok ((low, high), after) =>
        modify fun source => { source with rest := after }
        readRepetitions style fuel (.repeated piece low high)
      | .error (shaped, e) => if style.extended ∧ ¬ style.strict ∧ ¬ shaped then return piece else throw e
    | _ => return piece

/-- Reads a group behind its opening sign. -/
def readGroup (style : RegexStyle) (nested : RegexReading Regex) : RegexReading Regex := do
  let number := (← get).groups + 1
  modify fun source => { source with groups := number, depth := source.depth + 1 }
  let body ← nested
  match sign? style (← rest) with
  | some (.closing, size) =>
    pass size
    modify fun source => { source with closed := number :: source.closed, depth := source.depth - 1 }
    return .group number body
  | _ => throw .openGroup

/-- A dollar sign stands at the end of a branch. -/
def endsBranch (style : RegexStyle) (s : List Char) : Bool :=
  s.isEmpty ||
    match sign? style s with
    | some (.closing, _) | some (.bar, _) => true
    | _ => false

/-- Reads the piece that comes next; `fresh` says that there is nothing before it to repeat. -/
def readPiece (style : RegexStyle) (nested : RegexReading Regex) (fresh : Bool) :
    RegexReading (Option Regex) := do
  let s ← rest
  match s, sign? style s with
  | [], _ => return none
  | _, some (.bar, _) => return none
  | _, some (.closing, size) =>
    if 0 < (← get).depth then return none
    else if style.extended ∧ ¬ style.strict then
      pass size
      return some (plainChar ')')
    else throw .closedGroup
  | _, some (.opening, size) =>
    pass size
    return some (← readGroup style nested)
  | _, some (sign, size) =>
    -- There is nothing that could be repeated.
    if (style.extended ∧ style.strict) ∨ (¬ style.extended ∧ sign = .brace) then throw .nothingToRepeat
    else
      pass size
      if style.extended ∧ sign ≠ .brace then return some .nothing
      else return some (plainChar ((s.drop (size - 1)).headD '*'))
  | '[' :: _, none => return some (← readBracket)
  | '.' :: _, none =>
    pass 1
    return some (.one true [])
  | '^' :: _, none =>
    pass 1
    return some (if style.extended || fresh then .edge .start else plainChar '^')
  | '$' :: after, none =>
    pass 1
    return some (if style.extended || endsBranch style after then .edge .finish else plainChar '$')
  | '\\' :: _, none => return some (← readEscape)
  | c :: _, none =>
    pass 1
    return some (plainChar c)

/-- Reads the pieces of a branch, with those so far in reverse order. -/
def readBranch (style : RegexStyle) (nested : RegexReading Regex) : Nat → List Regex → RegexReading Regex
  | 0, _ => throw .tooDeep
  | fuel + 1, done => do
    let fresh := done.isEmpty
    match (← readPiece style nested fresh) with
    | none =>
      match done with
      | [] => return .nothing
      | last :: others => return others.foldl (fun known r => .seq r known) last
    | some piece =>
      -- A star behind the start of a line is a character in the basic way.
      let repeats := style.extended || piece != .edge .start
      let piece ← if repeats then readRepetitions style ((← rest).length + 1) piece else pure piece
      if repeats then readBranch style nested fuel (piece :: done)
      else
        match (← rest) with
        | '*' :: _ =>
          pass 1
          let star ← readRepetitions style ((← rest).length + 1) (plainChar '*')
          readBranch style nested fuel (star :: piece :: done)
        | _ => readBranch style nested fuel (piece :: done)

/-- Reads further branches behind one. -/
def readBranches (style : RegexStyle) (nested : RegexReading Regex) : Nat → Regex → RegexReading Regex
  | 0, _ => throw .tooDeep
  | fuel + 1, known => do
    match sign? style (← rest) with
    | some (.bar, size) =>
      pass size
      let next ← readBranch style nested ((← rest).length + 2) []
      readBranches style nested fuel (.alt known next)
    | _ => return known

/-- Reads branches with bars between them, up to a depth of groups. -/
def readAlternatives (style : RegexStyle) : Nat → RegexReading Regex
  | 0 => throw .tooDeep
  | fuel + 1 => do
    let nested := readAlternatives style fuel
    let size := (← rest).length + 2
    readBranches style nested size (← readBranch style nested size [])

end RegexReading

/-- The regular expression that a text writes. -/
def Regex.ofText (style : RegexStyle) (s : String) : Except RegexProblem Regex :=
  match (RegexReading.readAlternatives style (s.length + 2)).run { rest := s.toList } with
  | .ok r _ => .ok r
  | .error e _ => .error e

/-- The regular expression that fits just the characters of a text. -/
def Regex.ofChars (s : List Char) : Regex :=
  s.foldr (fun c known => .seq (RegexReading.plainChar c) known) .nothing

end UiCheck.Rehearsal.Shell
