import UiCheck.Yaml.Event

/-! # Documents

The events of one document with its anchors resolved. A text that is malformed at some place still has
the events before that place, and readers meet the error only when they get there.
-/

namespace UiCheck.Yaml

/-- One event inside a document. -/
inductive Item where
  /-- The value at another place is repeated here. -/
  | alias (anchor : Nat)
  | scalar (tag : Option Tag) (text : List Char) (style : Style)
  | sequenceStart (tag : Option Tag)
  | sequenceEnd
  | mappingStart (tag : Option Tag)
  | mappingEnd
  /-- The text holds no document at all. -/
  | void
  deriving Inhabited

/-- The events of a document, and why there are no more of them. -/
structure Document where
  items : Array (Item × Mark)
  /-- The text is malformed behind the last event. -/
  error : Option Error
  /-- The place of the event that each anchor stands for, latest first. -/
  anchors : List (Nat × Nat)
  deriving Inhabited

/-- A document being read, with the numbers of the anchors met so far. -/
structure Loading where
  document : Document
  numbers : List (List Char × Nat)

/-- Nothing read yet. -/
def Loading.empty : Loading :=
  { document := { items := #[], error := none, anchors := [] }, numbers := [] }

/-- Adds an event. -/
def Loading.add (l : Loading) (item : Item) (mark : Mark) : Loading :=
  { l with document := { l.document with items := l.document.items.push (item, mark) } }

/-- Notes that an anchor stands for the next event. The number of an anchor is how many different
anchors were known before it. -/
def Loading.note (l : Loading) (anchor : Option (List Char)) : Loading :=
  match anchor with
  | none => l
  | some name =>
    let number := l.numbers.length
    { document := { l.document with anchors := (number, l.document.items.size) :: l.document.anchors },
      numbers := (name, number) :: l.numbers.filter (fun (known, _) => known != name) }

/-- What the next step of reading a document gives. -/
inductive Loaded where
  | more (loading : Loading)
  | finished (document : Document)
  | exhausted

/-- Takes one event into the document; `first` tells the first document of a text. -/
def Loading.take (l : Loading) (first : Bool) (event : Event) (mark : Mark) : Loaded :=
  match event with
  | .streamStart => .more l
  | .documentStart => .more l
  | .documentEnd => .finished l.document
  | .streamEnd =>
    if ! first then .exhausted
    else if l.document.items.isEmpty then .finished (l.add .void mark).document
    else .finished l.document
  | .alias name =>
    match l.numbers.lookup name with
    | some number => .more (l.add (.alias number) mark)
    | none => .finished { l.document with error := some (.unknownAnchor mark) }
  | .scalar anchor tag text style => .more ((l.note anchor).add (.scalar tag text style) mark)
  | .sequenceStart anchor tag => .more ((l.note anchor).add (.sequenceStart tag) mark)
  | .sequenceEnd => .more (l.add .sequenceEnd mark)
  | .mappingStart anchor tag => .more ((l.note anchor).add (.mappingStart tag) mark)
  | .mappingEnd => .more (l.add .mappingEnd mark)

/-- Reads events up to the end of a document. There is none if the stream ends first; the first
document always exists. One unit of fuel for each event. -/
def loadFrom (first : Bool) : Nat → Loading → Grammar → Option (Document × Grammar)
  | 0, l, g => some (l.document, g)
  | fuel + 1, l, g =>
    match g.step with
    | .error e => some ({ l.document with error := some e }, g)
    | .ok (event, mark, next) =>
      match l.take first event mark with
      | .more l => loadFrom first fuel l next
      | .finished document => some (document, next)
      | .exhausted => none

/-- The next document of a stream. -/
def Grammar.document? (g : Grammar) (first : Bool) : Option (Document × Grammar) :=
  loadFrom first (8 * g.lexer.cursor.size + 64) .empty g

/-- The only document of a text, and whether anything follows it. -/
def Document.ofText (text : String) : Document × Bool :=
  match (Grammar.ofText text.toList).document? true with
  | none => (default, false)
  | some (document, rest) => (document, (rest.document? false).isSome)

end UiCheck.Yaml
