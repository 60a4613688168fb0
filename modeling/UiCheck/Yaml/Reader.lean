import UiCheck.Yaml.Document
import UiCheck.Yaml.Scalar

/-! # Reading typed data from a document

Readers take the events of a document one after the other. An alias sends a reader to the events of its
anchor and back. Collections nest at most 128 levels deep, and aliases may be followed at most a hundred
times as often as there are events.
-/

namespace UiCheck.Yaml

/-- How a reader got where it is. -/
inductive Path where
  | root
  | item (parent : Path) (index : Nat)
  | entry (parent : Path) (key : List Char)
  | unknown (parent : Path)

/-- A path as it stands in front of a message. -/
def Path.describe : Path → String
  | .root => "."
  | .item parent index => s!"{parent.describe}[{index}]"
  | .entry .root key => String.ofList key
  | .entry parent key => s!"{parent.describe}.{String.ofList key}"
  | .unknown .root => "?"
  | .unknown parent => s!"{parent.describe}.?"

/-- Why a reader stops. A mismatch gets the place of the innermost value around it. -/
inductive Fault where
  | settled (error : Error)
  | unplaced (cause : Decode.Mismatch)

/-- The error of a fault; a mismatch that was never placed is reported without a place. -/
def Fault.error : Fault → Error
  | .settled error => error
  | .unplaced cause => .mismatch cause Mark.start "."

/-- How far a reader has come: the next event, and how many aliases it has followed. -/
structure Progress where
  position : Nat
  jumps : Nat

/-- A reader of a document. -/
abbrev Reader := StateT Progress (Except Fault)

/-- Where a value stands: its path, and how much deeper collections may nest. -/
structure Spot where
  path : Path
  depth : Nat

/-- The spot of the whole document. -/
def Spot.top : Spot := ⟨.root, 128⟩

/-- Fails with a mismatch. -/
def refuse {α : Type} (cause : Decode.Mismatch) : Reader α :=
  throw (.unplaced cause)

/-- Places the mismatches of a reader. -/
def placed {α : Type} (mark : Mark) (spot : Spot) (reader : Reader α) : Reader α := fun progress =>
  match reader progress with
  | .error (.unplaced cause) => .error (.settled (.mismatch cause mark spot.path.describe))
  | answer => answer

/-- The next event and its place, or the reason why there is none. -/
def peek (doc : Document) : Reader (Item × Mark) := do
  match doc.items[(← get).position]? with
  | some item => return item
  | none => throw (.settled (doc.error.getD .endOfStream))

/-- Takes the next event. -/
def next (doc : Document) : Reader (Item × Mark) := do
  let item ← peek doc
  modify fun p => { p with position := p.position + 1 }
  return item

/-- Reads the value of an anchor and comes back. -/
def following {α : Type} (doc : Document) (anchor : Nat) (reader : Reader α) : Reader α := do
  let progress ← get
  let jumps := progress.jumps + 1
  if doc.items.size * 100 < jumps then throw (.settled .tooManyRepetitions)
  set ({ position := (doc.anchors.lookup anchor).getD doc.items.size, jumps } : Progress)
  let answer ← reader
  modify fun p => { p with position := progress.position }
  return answer

/-- The mismatch for an event where something else was expected. -/
def mismatchOf (item : Item) (expected : String) : Fault :=
  match item with
  | .scalar tag text style =>
    match denoted tag text style with
    | .ok d => .unplaced (.invalidType d.found expected)
    | .error cause => .unplaced cause
  | .sequenceStart _ => .unplaced (.invalidType .sequence expected)
  | .mappingStart _ => .unplaced (.invalidType .map expected)
  | _ => .settled .endOfStream

/-- An empty plain scalar, or no document at all, stands for an empty collection. -/
def Item.isAbsent : Item → Bool
  | .void => true
  | .scalar _ text style => text.isEmpty && style = .plain
  | _ => false

/-- The spot of what a collection holds; fails if collections nest too deeply. -/
def deeper (mark : Mark) (spot : Spot) : Reader Spot :=
  match spot.depth with
  | 0 => throw (.settled (.tooDeep mark))
  | depth + 1 => pure { spot with depth }

/-- The spot of a value of a mapping, given the event of its key. -/
def Spot.value (spot : Spot) (key : Item) : Spot :=
  match key with
  | .scalar _ text _ => { spot with path := .entry spot.path text }
  | _ => { spot with path := .unknown spot.path }

/-- Reads the items of a sequence up to its end. -/
def items {α : Type} (doc : Document) (spot : Spot) (item : Spot → Reader α) :
    Nat → List α → Reader (List α)
  | 0, done => pure done.reverse
  | fuel + 1, done => do
    match (← peek doc).1 with
    | .sequenceEnd | .void =>
      let _ ← next doc
      return done.reverse
    | _ =>
      let value ← item { spot with path := .item spot.path done.length }
      items doc spot item fuel (value :: done)

/-- Reads the entries of a mapping up to its end, with what is known after each. -/
def entries {σ : Type} (doc : Document) (spot : Spot) (entry : σ → Spot → Spot → Reader σ) :
    Nat → σ → Reader σ
  | 0, known => pure known
  | fuel + 1, known => do
    match ← peek doc with
    | (.mappingEnd, _) | (.void, _) =>
      let _ ← next doc
      return known
    | (key, _) => entries doc spot entry fuel (← entry known spot (spot.value key))

/-- Reads a key and a value into a mapping; no key may come twice. -/
def addEntry (value : Spot → Reader Value) (known : Entries) (spot valueSpot : Spot) : Reader Entries := do
  let key ← value spot
  if known.any fun (k, _) => k.same key then refuse (.duplicateEntry key.keyName)
  else
    let content ← value valueSpot
    return (key, content) :: known

/-- Reads a value of any kind. One unit of fuel for each level of collections, tags and aliases; a tag has
no meaning directly behind another one. -/
def value (doc : Document) : Nat → Bool → Spot → Reader Value
  | 0, _, _ => throw (.settled .endOfStream)
  | fuel + 1, tagged, spot => do
    let start ← get
    let (item, mark) ← next doc
    let behindTag (tag : String) : Reader Value := do
      set start
      return .tagged tag (← value doc fuel true spot)
    placed mark spot <|
      match item with
      | .alias anchor => following doc anchor (value doc fuel false spot)
      | .scalar tag text style =>
        match (if tagged then none else tag.bind Tag.localName?) with
        | some name => behindTag name
        | none =>
          match (denoted (if tagged then none else tag) text style).bind Denoted.value with
          | .ok v => pure v
          | .error cause => refuse cause
      | .sequenceStart tag =>
        match (if tagged then none else tag.bind Tag.localName?) with
        | some name => behindTag name
        | none => do
          let inner ← deeper mark spot
          return .list (← items doc inner (value doc fuel false) doc.items.size [])
      | .mappingStart tag =>
        match (if tagged then none else tag.bind Tag.localName?) with
        | some name => behindTag name
        | none => do
          let inner ← deeper mark spot
          let found ← entries doc inner (addEntry (value doc fuel false)) doc.items.size []
          return .mapping found.reverse
      | _ => pure .null

/-- Enough fuel to read any value of a document: levels are bounded by the depth limit, tags by the
levels, and aliases by their own limit. -/
def valueFuel (doc : Document) : Nat :=
  400 + 100 * doc.items.size

/-- Runs a reader on the next event, on the other side of any aliases. -/
def resolved {α : Type} (doc : Document) (spot : Spot) (reader : Item → Mark → Reader α) : Nat → Reader α
  | 0 => throw (.settled .tooManyRepetitions)
  | fuel + 1 => do
    let (item, mark) ← next doc
    placed mark spot <|
      match item with
      | .alias anchor => following doc anchor (resolved doc spot reader fuel)
      | _ => reader item mark

/-- Runs a reader on the next event, on the other side of any aliases. -/
def onItem {α : Type} (doc : Document) (spot : Spot) (reader : Item → Mark → Reader α) : Reader α :=
  resolved doc spot reader (doc.items.size * 100 + 2)

/-- Reads the text of a scalar, whatever it denotes. -/
def text (doc : Document) (expected : String) (spot : Spot) : Reader String :=
  onItem doc spot fun item _ =>
    match item with
    | .scalar _ text _ => pure (String.ofList text)
    | _ => throw (mismatchOf item expected)

/-- Reads a sequence. -/
def list {α : Type} (doc : Document) (item : Spot → Reader α) (spot : Spot) : Reader (List α) :=
  onItem doc spot fun event mark => do
    match event with
    | .sequenceStart _ => items doc (← deeper mark spot) item doc.items.size []
    | _ => if event.isAbsent then return [] else throw (mismatchOf event "a sequence")

/-- Reads a mapping entry by entry, with what is known after each. -/
def mapping {σ : Type} (doc : Document) (expected : String) (entry : σ → Spot → Spot → Reader σ)
    (initial : σ) (finish : σ → Reader α) (spot : Spot) : Reader α :=
  onItem doc spot fun event mark => do
    match event with
    | .mappingStart _ => finish (← entries doc (← deeper mark spot) entry doc.items.size initial)
    | _ => if event.isAbsent then finish initial else throw (mismatchOf event expected)

/-- Reads an untyped mapping. -/
def untyped (doc : Document) (spot : Spot) : Reader Entries :=
  mapping doc "a YAML mapping" (addEntry (value doc (valueFuel doc) false)) []
    (fun found => pure found.reverse) spot

/-- Skips a value without looking into it; `depth` collections are open. -/
def skip (doc : Document) : Nat → Nat → Reader Unit
  | 0, _ => pure ()
  | fuel + 1, depth => do
    let depth := match (← next doc).1 with
      | .sequenceStart _ | .mappingStart _ => depth + 1
      | .sequenceEnd | .mappingEnd => depth - 1
      | _ => depth
    if depth = 0 then return () else skip doc fuel depth

/-- One field of a record: its name, whether it has been read, and how to read it. -/
structure RecordField (σ : Type) where
  name : String
  isSet : σ → Bool
  read : σ → Spot → Reader σ

/-- Reads one entry of a record. Unknown names are skipped, and no field may come twice. -/
def field {σ : Type} (doc : Document) (fields : List (RecordField σ)) (known : σ) (spot valueSpot : Spot) :
    Reader σ := do
  let name ← text doc "field identifier" spot
  match fields.find? (·.name == name) with
  | none =>
    skip doc doc.items.size 0
    return known
  | some f => if f.isSet known then refuse (.duplicateField name) else f.read known valueSpot

/-- Reads a record field by field. -/
def record {σ α : Type} (doc : Document) (typeName : String) (fields : List (RecordField σ)) (initial : σ)
    (finish : σ → Reader α) (spot : Spot) : Reader α :=
  mapping doc s!"struct {typeName}" (field doc fields) initial finish spot

/-- Reads a value that may be null. -/
def optional {α : Type} (doc : Document) (reader : Spot → Reader α) (spot : Spot) : Reader (Option α) :=
  go (doc.items.size * 100 + 2)
where
  /-- Looks at the next event on the other side of any aliases. -/
  go : Nat → Reader (Option α)
    | 0 => throw (.settled .tooManyRepetitions)
    | fuel + 1 => do
      match (← peek doc).1 with
      | .alias anchor =>
        let _ ← next doc
        following doc anchor (go fuel)
      | .scalar tag text style =>
        let nothing ←
          if style ≠ .plain then pure false
          else if tag == some (coreTag "null") then
            if isNull text then pure true
            else refuse (.invalidValue (.string (String.ofList text)) "null")
          else if tag.isSome then pure false
          else pure (text.isEmpty || isNull text)
        if nothing then
          let _ ← next doc
          return none
        else return some (← reader spot)
      | .void =>
        let _ ← next doc
        return none
      | _ => return some (← reader spot)

/-- Reads the only document of a text. -/
def readText {α : Type} (source : String) (reader : Document → Spot → Reader α) : Except Error α :=
  let (doc, followed) := Document.ofText source
  match reader doc Spot.top { position := 0, jumps := 0 } with
  | .error fault => .error fault.error
  | .ok (answer, _) =>
    match doc.error with
    | some error => .error error
    | none => if followed then .error .secondDocument else .ok answer

end UiCheck.Yaml
