import UiCheck.Yaml.Token

/-! # Events

A document as a sequence of events: scalars, aliases, and the starts and ends of sequences and
mappings. The grammar is a machine with a stack of states; one step reads as many tokens as it needs for
one event.
-/

namespace UiCheck.Yaml

/-- One event of a stream of documents. -/
inductive Event where
  | streamStart
  | streamEnd
  | documentStart
  | documentEnd
  | alias (name : List Char)
  | scalar (anchor : Option (List Char)) (tag : Option Tag) (text : List Char) (style : Style)
  | sequenceStart (anchor : Option (List Char)) (tag : Option Tag)
  | sequenceEnd
  | mappingStart (anchor : Option (List Char)) (tag : Option Tag)
  | mappingEnd
  deriving Inhabited

/-- What the grammar expects next. -/
inductive Expecting where
  | streamStart
  | implicitDocument
  | document
  | content
  | documentEnd
  | blockNode
  | firstBlockEntry
  | blockEntry
  | plainEntry
  | firstBlockKey
  | blockKey
  | blockValue
  | firstFlowItem
  | flowItem
  | flowPairKey
  | flowPairValue
  | flowPairEnd
  | firstFlowKey
  | flowKey
  | flowValue
  | flowNoValue
  | nothing
  deriving DecidableEq, Inhabited

/-- The state of the grammar. -/
structure Grammar where
  lexer : Lexer
  expecting : Expecting
  /-- What to expect behind the nodes that are open, innermost first. -/
  stack : List Expecting
  /-- Where the open collections began, innermost first. -/
  origins : List Mark
  /-- The tag handles of the document and what they stand for. -/
  handles : List (List Char × List UInt8)

namespace Grammar

/-- The grammar before the first token of a text. -/
def ofText (text : List Char) : Grammar :=
  { lexer := .ofText text, expecting := .streamStart, stack := [], origins := [], handles := [] }

/-- An event with the place where it starts, and the state behind it. -/
abbrev Step := Except Error (Event × Mark × Grammar)

/-- The next token. -/
def peek (g : Grammar) : Except Error (Token × Grammar) := do
  let (token, lexer) ← g.lexer.peek
  return (token, { g with lexer })

/-- Changes what is expected next. -/
def expect (g : Grammar) (expecting : Expecting) : Grammar :=
  { g with expecting }

/-- Takes the next token. -/
def take (g : Grammar) : Grammar :=
  { g with lexer := g.lexer.take }

/-- Goes back to what was expected behind the open node. -/
def pop (g : Grammar) : Grammar :=
  { g with expecting := g.stack.headD .nothing, stack := g.stack.drop 1 }

/-- Closes the innermost collection. -/
def close (g : Grammar) : Grammar :=
  { g.pop with origins := g.origins.drop 1 }

/-- A problem at a place. -/
def refuse (problem : Problem) (place : Mark) (activity : Option (Activity × Mark)) : Step :=
  .error (.malformed problem place activity)

/-- A problem inside the innermost collection. -/
def refuseIn (g : Grammar) (activity : Activity) (problem : Problem) (place : Mark) : Step :=
  refuse problem place (some (activity, g.origins.headD Mark.start))

/-- An empty scalar where a node is missing. -/
def emptyScalar (g : Grammar) (place : Mark) : Step :=
  .ok (.scalar none none [] .plain, place, g)

/-- The anchor and the tag in front of a node. -/
structure Properties where
  anchor : Option (List Char)
  tag : Option (List Char × List UInt8 × Mark)
  start : Mark

/-- Reads the anchor and the tag in front of a node, in either order. -/
def properties (g : Grammar) : Except Error (Properties × Token × Grammar) := do
  let (token, g) ← g.peek
  let plain : Properties := { anchor := none, tag := none, start := token.start }
  match token.kind with
  | .anchor name =>
    let (next, g) ← g.take.peek
    match next.kind with
    | .tag handle suffix =>
      let (last, g) ← g.take.peek
      return ({ plain with anchor := some name, tag := some (handle, suffix, next.start) }, last, g)
    | _ => return ({ plain with anchor := some name }, next, g)
  | .tag handle suffix =>
    let (next, g) ← g.take.peek
    let tag := some (handle, suffix, token.start)
    match next.kind with
    | .anchor name =>
      let (last, g) ← g.take.peek
      return ({ plain with anchor := some name, tag }, last, g)
    | _ => return ({ plain with tag }, next, g)
  | _ => return (plain, token, g)

/-- The full name of a tag. -/
def resolveTag (g : Grammar) (props : Properties) : Except Error (Option Tag) :=
  match props.tag with
  | none => .ok none
  | some ([], suffix, _) => .ok (some ⟨suffix⟩)
  | some (handle, suffix, place) =>
    match g.handles.lookup handle with
    | some uri => .ok (some ⟨uri ++ suffix⟩)
    | none => .error (.malformed .undefinedHandle place (some (.node, props.start)))

/-- Reads a node: an alias, a scalar, or the start of a collection. Block collections are read only where
`block` holds, and entries without a collection around them only where `entries` holds. -/
def node (g : Grammar) (block entries : Bool) : Step := do
  let (first, g) ← g.peek
  match first.kind with
  | .alias name => return (.alias name, first.start, g.pop.take)
  | _ =>
    let (props, token, g) ← g.properties
    let tag ← g.resolveTag props
    let opens (expecting : Expecting) (event : Event) : Step :=
      .ok (event, props.start, { g with expecting })
    match token.kind, block with
    | .blockEntry, _ =>
      if entries then opens .plainEntry (.sequenceStart props.anchor tag) else absent g props tag token block
    | .scalar text style, _ => return (.scalar props.anchor tag text style, props.start, g.pop.take)
    | .flowSequenceStart, _ => opens .firstFlowItem (.sequenceStart props.anchor tag)
    | .flowMappingStart, _ => opens .firstFlowKey (.mappingStart props.anchor tag)
    | .blockSequenceStart, true => opens .firstBlockEntry (.sequenceStart props.anchor tag)
    | .blockMappingStart, true => opens .firstBlockKey (.mappingStart props.anchor tag)
    | _, _ => absent g props tag token block
where
  /-- No node stands here; an anchor or a tag alone belongs to an empty scalar. -/
  absent (g : Grammar) (props : Properties) (tag : Option Tag) (token : Token) (block : Bool) : Step :=
    if props.anchor.isSome || tag.isSome then
      .ok (.scalar props.anchor tag [] .plain, props.start, g.pop)
    else refuse .noNode token.start (some (if block then .blockNode else .flowNode, props.start))

/-- Reads a node and expects `after` behind it. -/
def nodeThen (g : Grammar) (after : Expecting) (block entries : Bool) : Step :=
  ({ g with stack := after :: g.stack }).node block entries

/-- The handles that every document has. -/
def standardHandles : List (List Char × List UInt8) :=
  [(['!'], (Tag.ofText "!").octets), (['!', '!'], (Tag.ofText "tag:yaml.org,2002:").octets)]

/-- Reads the directives in front of a document, with one unit of fuel for each. -/
def directives : Nat → Bool → List (List Char × List UInt8) → Grammar → Except Error (Token × Grammar)
  | 0, _, _, g => g.peek
  | fuel + 1, versioned, handles, g => do
    let (token, g) ← g.peek
    match token.kind with
    | .versionDirective major minor =>
      if versioned then .error (.malformed .duplicateVersion token.start none)
      else if major != 1 || (minor != 1 && minor != 2) then
        .error (.malformed .incompatible token.start none)
      else directives fuel true handles g.take
    | .tagDirective handle uri =>
      if (handles.lookup handle).isSome then .error (.malformed .duplicateTag token.start none)
      else directives fuel versioned (handles ++ [(handle, uri)]) g.take
    | _ =>
      let missing := standardHandles.filter fun (handle, _) => (handles.lookup handle).isNone
      return (token, { g with handles := handles ++ missing })

/-- Reads past the markers that end a document, with one unit of fuel for each. -/
def skipEnds : Nat → Grammar → Except Error (Token × Grammar)
  | 0, g => g.peek
  | fuel + 1, g => do
    let (token, g) ← g.peek
    match token.kind with
    | .documentEnd => skipEnds fuel g.take
    | _ => return (token, g)

/-- An upper bound of the tokens still to come. -/
def budget (g : Grammar) : Nat :=
  2 * g.lexer.cursor.size + g.lexer.queue.length + 8

/-- Starts a document, or ends the stream. -/
def startDocument (g : Grammar) (implicit : Bool) : Step := do
  let (token, g) ← if implicit then g.peek else skipEnds g.budget g
  let begins := match token.kind with
    | .versionDirective .. | .tagDirective .. | .documentStart | .streamEnd => false
    | _ => true
  if implicit && begins then
    let (_, g) ← directives 1 false [] g
    return (.documentStart, token.start,
      { g with expecting := .blockNode, stack := .documentEnd :: g.stack })
  else
    match token.kind with
    | .streamEnd => return (.streamEnd, token.start, (g.expect .nothing).take)
    | _ =>
      let (marker, g) ← directives g.budget false [] g
      match marker.kind with
      | .documentStart =>
        return (.documentStart, token.start,
          { g with expecting := .content, stack := .documentEnd :: g.stack }.take)
      | _ => refuse .noDocumentStart marker.start none

/-- A token that begins an item of a block collection or closes it. -/
def isBlockStop (kind : TokenKind) (keys : Bool) : Bool :=
  match kind with
  | .blockEntry => ! keys
  | .blockEnd => true
  | .key | .value => keys
  | _ => false

/-- Reads an entry of a block sequence. -/
def blockEntry (g : Grammar) : Step := do
  let (token, g) ← g.peek
  match token.kind with
  | .blockEntry =>
    let (next, g) ← g.take.peek
    if isBlockStop next.kind false then (g.expect .blockEntry).emptyScalar token.stop
    else g.nodeThen .blockEntry true false
  | .blockEnd => return (.sequenceEnd, token.start, g.close.take)
  | _ => g.refuseIn .blockCollection .noDash token.start

/-- Reads an entry of a sequence that stands at the column of the mapping around it. -/
def plainEntry (g : Grammar) : Step := do
  let (token, g) ← g.peek
  match token.kind with
  | .blockEntry =>
    let (next, g) ← g.take.peek
    if isBlockStop next.kind false || isBlockStop next.kind true then
      (g.expect .plainEntry).emptyScalar token.stop
    else g.nodeThen .plainEntry true false
  | _ => return (.sequenceEnd, token.start, g.pop)

/-- Reads a key of a block mapping. -/
def blockKey (g : Grammar) : Step := do
  let (token, g) ← g.peek
  match token.kind with
  | .key =>
    let (next, g) ← g.take.peek
    if isBlockStop next.kind true then (g.expect .blockValue).emptyScalar token.stop
    else g.nodeThen .blockValue true true
  | .blockEnd => return (.mappingEnd, token.start, g.close.take)
  | _ => g.refuseIn .blockMapping .noKey token.start

/-- Reads a value of a block mapping. -/
def blockValue (g : Grammar) : Step := do
  let (token, g) ← g.peek
  match token.kind with
  | .value =>
    let (next, g) ← g.take.peek
    if isBlockStop next.kind true then (g.expect .blockKey).emptyScalar token.stop
    else g.nodeThen .blockKey true true
  | _ => (g.expect .blockKey).emptyScalar token.start

/-- Reads an item of a flow sequence. -/
def flowItem (g : Grammar) (first : Bool) : Step := do
  let (token, g) ← g.peek
  if token.kind = .flowSequenceEnd then return (.sequenceEnd, token.start, g.close.take)
  else if ! first && token.kind ≠ .flowEntry then
    g.refuseIn .flowSequence .noSequenceEnd token.start
  else
    let (token, g) ← if first then pure (token, g) else g.take.peek
    match token.kind with
    | .key => return (.mappingStart none none, token.start, (g.expect .flowPairKey).take)
    | .flowSequenceEnd => return (.sequenceEnd, token.start, g.close.take)
    | _ => g.nodeThen .flowItem false false

/-- Reads the key of a mapping of one pair inside a flow sequence. -/
def flowPairKey (g : Grammar) : Step := do
  let (token, g) ← g.peek
  match token.kind with
  | .value | .flowEntry | .flowSequenceEnd =>
    (g.expect .flowPairValue).take.emptyScalar token.stop
  | _ => g.nodeThen .flowPairValue false false

/-- Reads the value of a mapping of one pair inside a flow sequence. -/
def flowPairValue (g : Grammar) : Step := do
  let (token, g) ← g.peek
  match token.kind with
  | .value =>
    let (next, g) ← g.take.peek
    match next.kind with
    | .flowEntry | .flowSequenceEnd => (g.expect .flowPairEnd).emptyScalar next.start
    | _ => g.nodeThen .flowPairEnd false false
  | _ => (g.expect .flowPairEnd).emptyScalar token.start

/-- Reads a key of a flow mapping. -/
def flowKey (g : Grammar) (first : Bool) : Step := do
  let (token, g) ← g.peek
  if token.kind = .flowMappingEnd then return (.mappingEnd, token.start, g.close.take)
  else if ! first && token.kind ≠ .flowEntry then g.refuseIn .flowMapping .noMappingEnd token.start
  else
    let (token, g) ← if first then pure (token, g) else g.take.peek
    match token.kind with
    | .key =>
      let (next, g) ← g.take.peek
      match next.kind with
      | .value | .flowEntry | .flowMappingEnd => (g.expect .flowValue).emptyScalar next.start
      | _ => g.nodeThen .flowValue false false
    | .flowMappingEnd => return (.mappingEnd, token.start, g.close.take)
    | _ => g.nodeThen .flowNoValue false false

/-- Reads a value of a flow mapping. -/
def flowValue (g : Grammar) : Step := do
  let (token, g) ← g.peek
  match token.kind with
  | .value =>
    let (next, g) ← g.take.peek
    match next.kind with
    | .flowEntry | .flowMappingEnd => (g.expect .flowKey).emptyScalar next.start
    | _ => g.nodeThen .flowKey false false
  | _ => (g.expect .flowKey).emptyScalar token.start

/-- Opens a collection: notes where it began and takes its first token. -/
def enter (g : Grammar) : Except Error Grammar := do
  let (token, g) ← g.peek
  return { g with origins := token.start :: g.origins }.take

/-- Reads one event. -/
def step (g : Grammar) : Step := do
  match g.expecting with
  | .streamStart =>
    let (token, g) ← g.peek
    match token.kind with
    | .streamStart => return (.streamStart, token.start, (g.expect .implicitDocument).take)
    | _ => refuse .noStreamStart token.start none
  | .implicitDocument => g.startDocument true
  | .document => g.startDocument false
  | .content =>
    let (token, g) ← g.peek
    match token.kind with
    | .versionDirective .. | .tagDirective .. | .documentStart | .documentEnd | .streamEnd =>
      g.pop.emptyScalar token.start
    | _ => g.node true false
  | .documentEnd =>
    let (token, g) ← g.peek
    let g := { g with expecting := .document, handles := [] }
    return (.documentEnd, token.start, if token.kind = .documentEnd then g.take else g)
  | .blockNode => g.node true false
  | .firstBlockEntry => (← g.enter).blockEntry
  | .blockEntry => g.blockEntry
  | .plainEntry => g.plainEntry
  | .firstBlockKey => (← g.enter).blockKey
  | .blockKey => g.blockKey
  | .blockValue => g.blockValue
  | .firstFlowItem => (← g.enter).flowItem true
  | .flowItem => g.flowItem false
  | .flowPairKey => g.flowPairKey
  | .flowPairValue => g.flowPairValue
  | .flowPairEnd =>
    let (token, g) ← g.peek
    return (.mappingEnd, token.start, (g.expect .flowItem))
  | .firstFlowKey => (← g.enter).flowKey true
  | .flowKey => g.flowKey false
  | .flowValue => g.flowValue
  | .flowNoValue =>
    let (token, g) ← g.peek
    (g.expect .flowKey).emptyScalar token.start
  | .nothing => return (.streamEnd, g.lexer.mark, g)

end Grammar

end UiCheck.Yaml
