import UiCheck.Rehearsal.Shell.Pattern

/-! # Regular expressions

A regular expression fits parts of a text. Where parts from one position have several lengths the longest one
counts. The positions at which a part may end are found for all starts at once; only what groups hold is found
by trying one way after the other. A text is an array of characters, and a position is a place between two.
-/

namespace UiCheck.Rehearsal.Shell

/-- A condition on a position. -/
inductive Edge where
  /-- The start or end of the text, or of a line where lines count. -/
  | start
  | finish
  /-- The start or end of the text in any case. -/
  | textStart
  | textFinish
  | wordStart
  | wordFinish
  /-- A word starts or ends, or neither. -/
  | boundary
  | noBoundary
  /-- No character of a word stands before the position, or behind it. -/
  | noWordBefore
  | noWordAfter
  deriving DecidableEq, Inhabited, Repr

/-- A regular expression. -/
inductive Regex where
  | nothing
  | one (inverted : Bool) (members : List Member)
  | edge (e : Edge)
  | group (number : Nat) (body : Regex)
  | seq (first next : Regex)
  | alt (left right : Regex)
  /-- The body so many times. -/
  | repeated (body : Regex) (low : Nat) (high : Option Nat)
  /-- What a group holds, once more. -/
  | again (number : Nat)
  deriving DecidableEq, Inhabited, Repr

/-- A text in which parts are looked for. -/
structure Subject where
  chars : Array Char
  /-- Capital and small letters are the same. -/
  ignoreCase : Bool := false
  /-- The edges are those of lines. -/
  byLine : Bool := false
  deriving Inhabited

/-- The text of octets. -/
def Subject.ofString (ignoreCase : Bool) (s : String) : Subject :=
  { chars := s.toList.toArray, ignoreCase }

namespace Regex

/-- A character of a word. -/
def isWordChar (c : Char) : Bool :=
  c.isAlphanum || c == '_'

/-- The expression refers to what a group holds. -/
def refers : Regex → Bool
  | .nothing | .one .. | .edge _ => false
  | .again _ => true
  | .group _ body | .repeated body _ _ => body.refers
  | .seq a b | .alt a b => a.refers || b.refers

/-- The number of groups. -/
def groups : Regex → Nat
  | .nothing | .one .. | .edge _ | .again _ => 0
  | .group _ body => body.groups + 1
  | .repeated body _ _ => body.groups
  | .seq a b | .alt a b => a.groups + b.groups

/-- A character is one of a set. -/
def fitsChar (ignoreCase inverted : Bool) (members : List Member) (c : Char) : Bool :=
  let holds (c : Char) : Bool := members.any (·.holds c)
  (holds c || (ignoreCase && (holds c.toUpper || holds c.toLower))) != inverted

/-- The character right before a position. -/
def before? (text : Subject) (p : Nat) : Option Char :=
  if p = 0 then none else text.chars[p - 1]?

/-- The condition holds at a position. -/
def Edge.holds (edge : Edge) (text : Subject) (p : Nat) : Bool :=
  let wordBefore := (before? text p).any isWordChar
  let wordAfter := (text.chars[p]?).any isWordChar
  match edge with
  | .start => p == 0 || (text.byLine && before? text p == some '\n')
  | .finish => p == text.chars.size || (text.byLine && text.chars[p]? == some '\n')
  | .textStart => p == 0
  | .textFinish => p == text.chars.size
  | .wordStart => ! wordBefore && wordAfter
  | .wordFinish => wordBefore && ! wordAfter
  | .boundary => wordBefore != wordAfter
  | .noBoundary => wordBefore == wordAfter
  | .noWordBefore => ! wordBefore
  | .noWordAfter => ! wordAfter

/-- Two lists of positions in rising order as one, in which each position stands once. -/
def merged : List Nat → List Nat → List Nat
  | [], qs => qs
  | ps, [] => ps
  | p :: ps, q :: qs =>
    if p < q then p :: merged ps (q :: qs)
    else if q < p then q :: merged (p :: ps) qs
    else p :: merged ps qs
termination_by ps qs => ps.length + qs.length

/-- The positions reached by steps from those of a front, with one unit of fuel for each step; `seen` are those
reached before. -/
def reached (step : List Nat → List Nat) : Nat → List Nat → List Nat → List Nat
  | 0, seen, _ => seen
  | fuel + 1, seen, front =>
    let next := (step front).filter fun p => ! seen.contains p
    if next.isEmpty then seen else reached step fuel (merged seen next) next

/-- A step taken so many times. -/
def stepped (step : List Nat → List Nat) : Nat → List Nat → List Nat
  | 0, ps => ps
  | count + 1, ps => if ps.isEmpty then [] else stepped step count (step ps)

/-- The positions at which parts from given positions end. -/
def ends (text : Subject) : Regex → List Nat → List Nat
  | .nothing, ps => ps
  | .one inverted members, ps =>
    ps.filterMap fun p =>
      match text.chars[p]? with
      | some c => if fitsChar text.ignoreCase inverted members c then some (p + 1) else none
      | none => none
  | .edge e, ps => ps.filter (Edge.holds e text)
  | .group _ body, ps => body.ends text ps
  | .seq a b, ps =>
    let qs := a.ends text ps
    if qs.isEmpty then [] else b.ends text qs
  | .alt a b, ps => merged (a.ends text ps) (b.ends text ps)
  | .repeated body low high, ps =>
    let qs := stepped (body.ends text) low ps
    let most := (high.map (· - low)).getD (text.chars.size + 1)
    reached (body.ends text) (min most (text.chars.size + 1)) qs qs
  | .again _, _ => []

/-- What groups hold: the number of each, and where its part starts and ends; the latest first. -/
abbrev Captures := List (Nat × Nat × Nat)

/-- What is done with the end of a part. -/
abbrev Continuation := Nat → Captures → Option Captures

/-- Takes a step as often as it can be taken, and then fewer times, with one unit of fuel for each time. A step
that leads nowhere is taken only where it must be. -/
def rounds (step : Continuation → Continuation) (last : Continuation) :
    Nat → Nat → Option Nat → Continuation
  | 0, low, _, p, captures => if low = 0 then last p captures else none
  | fuel + 1, low, high, p, captures =>
    let more := if high = some 0 then none
      else step (fun q captures =>
        if q = p ∧ low = 0 then none
        else rounds step last fuel (low - 1) (high.map (· - 1)) q captures) p captures
    more <|> if low = 0 then last p captures else none

/-- The text holds the same characters at two places. -/
def sameAt (text : Subject) : Nat → Nat → Nat → Bool
  | 0, _, _ => true
  | count + 1, p, q =>
    match text.chars[p]?, text.chars[q]? with
    | some c, some d =>
      (c == d || (text.ignoreCase && c.toLower == d.toLower)) && sameAt text count (p + 1) (q + 1)
    | _, _ => false

/-- Tries the parts from a position one after the other, until one leads to an answer. -/
def walk (text : Subject) : Regex → Continuation → Continuation
  | .nothing, last => last
  | .one inverted members, last => fun p captures =>
    match text.chars[p]? with
    | some c => if fitsChar text.ignoreCase inverted members c then last (p + 1) captures else none
    | none => none
  | .edge e, last => fun p captures => if Edge.holds e text p then last p captures else none
  | .group number body, last => fun p captures =>
    body.walk text (fun q captures => last q ((number, p, q) :: captures)) p captures
  | .seq a b, last => a.walk text (b.walk text last)
  | .alt a b, last => fun p captures => a.walk text last p captures <|> b.walk text last p captures
  | .repeated body low high, last =>
    rounds (body.walk text) last (text.chars.size + low + 2) low high
  | .again number, last => fun p captures =>
    match captures.lookup number with
    | some (start, finish) =>
      if sameAt text (finish - start) start p then last (p + (finish - start)) captures else none
    | none => none

/-- A part of a text, and what groups hold of it. -/
structure Found where
  start : Nat
  finish : Nat
  captures : Captures := []
  deriving DecidableEq, Inhabited, Repr

/-- What groups hold if a part is to end at a position. -/
def capturesTo? (r : Regex) (text : Subject) (start finish : Nat) : Option Captures :=
  r.walk text (fun q captures => if q = finish then some captures else none) start []

/-- The longest part from a position. -/
def longestAt? (r : Regex) (text : Subject) (start : Nat) : Option Found :=
  if r.refers then
    let finishes := (List.range (text.chars.size + 1 - start)).reverse.map (start + ·)
    finishes.findSome? fun finish =>
      (r.capturesTo? text start finish).map fun captures => { start, finish, captures }
  else
    ((r.ends text [start]).getLast?).map fun finish =>
      { start, finish, captures := (r.capturesTo? text start finish).getD [] }

/-- The first part from a position on, with one unit of fuel for each start. -/
def findFrom? (r : Regex) (text : Subject) : Nat → Nat → Option Found
  | 0, _ => none
  | fuel + 1, start =>
    match r.longestAt? text start with
    | some found => some found
    | none => r.findFrom? text fuel (start + 1)

/-- The first part from a position on. -/
def find? (r : Regex) (text : Subject) (start : Nat) : Option Found :=
  r.findFrom? text (text.chars.size + 1 - start) start

/-- The text holds a part that fits. -/
def occursIn (r : Regex) (text : Subject) : Bool :=
  if r.refers then (r.find? text 0).isSome
  else ! (r.ends text (List.range (text.chars.size + 1))).isEmpty

end Regex

end UiCheck.Rehearsal.Shell
