import UiCheck.Json.Cursor

/-! # Reading documents

A document can be read as it is, or as typed data by readers that know what they expect. A typed reader
fails at the first place where the text is malformed or holds something else, whichever comes first. Lists
and objects nest at most 127 levels deep, except in members that nobody asked for.
-/

namespace UiCheck.Json.Reader

open Decode

/-- How many levels may be open, and one more. -/
def depthLimit : Nat := 128

/-- Takes a comma or the end of a list in front of an item, and answers whether an item follows. -/
def hasItem (first : Bool) : Reader Bool := do
  match ← next? with
  | some ']' => return false
  | some ',' =>
    if first then return true
    else
      skip
      match ← next? with
      | some ']' => failNext .trailingComma
      | some _ => return true
      | none => failNext .endInValue
  | some _ => if first then return true else failNext .noListEnd
  | none => failNext .endInList

/-- Takes a comma or the end of an object in front of a member, and answers whether a member follows. -/
def hasMember (first : Bool) : Reader Bool := do
  match ← next? with
  | some '\x7d' => return false
  | some c =>
    if first then
      if c = '"' then return true else failNext .keyNotText
    else if c = ',' then
      skip
      match ← next? with
      | some '"' => return true
      | some '\x7d' => failNext .trailingComma
      | some _ => failNext .keyNotText
      | none => failNext .endInValue
    else failNext .noObjectEnd
  | none => failNext .endInObject

/-- Takes the end of a list. -/
def listEnd : Reader Unit := do
  match ← next? with
  | some ']' => skip
  | some ',' =>
    skip
    match ← next? with
    | some ']' => failNext .trailingComma
    | _ => failNext .trailingCharacters
  | some _ => failNext .trailingCharacters
  | none => failNext .endInList

/-- Takes the end of an object. -/
def objectEnd : Reader Unit := do
  match ← next? with
  | some '\x7d' => skip
  | some ',' => failNext .trailingComma
  | some _ => failNext .trailingCharacters
  | none => failNext .endInObject

/-- Reads what a list or an object holds and then its end. The end is looked for even if the content was
refused, which decides where the refusal is reported. -/
def enclosed {α : Type} (content : Reader α) (closing : Reader Unit) : Reader α := fun cursor =>
  match content.run cursor with
  | (.ok a, cursor) =>
    match closing.run cursor with
    | (.ok (), cursor) => (.ok a, cursor)
    | (.error e, cursor) => (.error e, cursor)
  | (.error e, cursor) =>
    match closing.run cursor with
    | (_, cursor) => (.error e, cursor)

/-- Takes the bracket that opens a list or an object with a number of levels left. -/
def opened (levels : Nat) : Reader Nat := do
  match levels with
  | 0 => failNext .tooDeep
  | 1 => failNext .tooDeep
  | levels + 1 =>
    skip
    return levels

/-- Takes a quote and the string behind it. -/
def key : Reader String := do
  skip
  string

/-- Takes the colon behind a name. -/
def colon : Reader Unit := do
  match ← next? with
  | some ':' => skip
  | some _ => failNext .noColon
  | none => failNext .endInObject

/-- Reads the items of a list, with what is known after each and one unit of fuel for each. -/
def foldItems {σ : Type} (item : σ → Reader σ) : Nat → Bool → σ → Reader σ
  | 0, _, known => pure known
  | fuel + 1, first, known => do
    if ← hasItem first then foldItems item fuel false (← item known) else return known

/-- Reads the members of an object, with what is known after each and one unit of fuel for each. -/
def foldMembers {σ : Type} (member : σ → String → Reader σ) : Nat → Bool → σ → Reader σ
  | 0, _, known => pure known
  | fuel + 1, first, known => do
    if ← hasMember first then foldMembers member fuel false (← member known (← key)) else return known

/-- What stands where something else was expected, if it is a scalar. -/
def scalar? (next : Char) : Reader (Option Json) := do
  match next with
  | 'n' =>
    skip
    word ['u', 'l', 'l']
    return some .null
  | 't' =>
    skip
    word ['r', 'u', 'e']
    return some (.bool true)
  | 'f' =>
    skip
    word ['a', 'l', 's', 'e']
    return some (.bool false)
  | '"' => return some (.string (← key))
  | '-' =>
    skip
    match ← numeral true with
    | .int n => return some (.int n)
    | .float x => return some (.float x)
  | _ =>
    if next.isDigit then
      match ← numeral false with
      | .int n => return some (.int n)
      | .float x => return some (.float x)
    else return none

/-- Reads a document, with a number of levels left. -/
def value : Nat → Reader Json
  | 0 => failNext .tooDeep
  | levels + 1 => do
    match ← next? with
    | none => failNext .endInValue
    | some '[' =>
      let _ ← opened (levels + 1)
      let items := foldItems (fun done => return (← value levels) :: done) (← size) true []
      return .list (← enclosed items listEnd).reverse
    | some '\x7b' =>
      let _ ← opened (levels + 1)
      let member (done : List (String × Json)) (name : String) : Reader (List (String × Json)) := do
        colon
        return (name, ← value levels) :: done
      let members := foldMembers member (← size) true []
      return .object (← enclosed members objectEnd).reverse
    | some c =>
      match ← scalar? c with
      | some doc => return doc
      | none => failNext .noValue

/-- What was found in a document. -/
def foundIn : Json → Found
  | .null => .null
  | .bool b => .bool b
  | .int n => .int n
  | .float x => .float x
  | .string s => .string s
  | .list _ => .sequence
  | .object _ => .map

/-- Refuses what comes next. Only a scalar is taken. -/
def refuseNext {α : Type} (next : Char) (expected : String) : Reader α := do
  match next with
  | '[' => refuse (.invalidType .sequence expected)
  | '\x7b' => refuse (.invalidType .map expected)
  | c =>
    match ← scalar? c with
    | some doc => refuse (.invalidType (foundIn doc) expected)
    | none => failNext .noValue

/-- Runs a reader on the character that comes next, behind blanks, and places its mismatches. -/
def onNext {α : Type} (reader : Char → Reader α) : Reader α := do
  match ← next? with
  | none => failNext .endInValue
  | some c => placed (reader c)

/-- Reads a text. -/
def text (expected : String) : Reader String :=
  onNext fun c => do
    if c = '"' then key else refuseNext c expected

/-- Reads a truth value. -/
def bool : Reader Bool :=
  onNext fun c => do
    match c with
    | 't' =>
      skip
      word ['r', 'u', 'e']
      return true
    | 'f' =>
      skip
      word ['a', 'l', 's', 'e']
      return false
    | _ => refuseNext c "a boolean"

/-- Reads a natural number below a bound. -/
def natural (bound : Nat) (expected : String) : Reader Nat :=
  onNext fun c => do
    if c = '-' ∨ c.isDigit then
      if c = '-' then skip
      match ← numeral (c == '-') with
      | .int n =>
        if 0 ≤ n ∧ n < bound then return n.toNat else refuse (.invalidValue (.int n) expected)
      | .float x => refuse (.invalidType (.float x) expected)
    else refuseNext c expected

/-- Reads a list, with a number of levels left. -/
def list {α : Type} (levels : Nat) (item : Nat → Reader α) : Reader (List α) :=
  onNext fun c => do
    if c = '[' then
      let levels ← opened levels
      let items := foldItems (fun done => return (← item levels) :: done) (← size) true []
      return (← enclosed items listEnd).reverse
    else refuseNext c "a sequence"

/-- Reads a value that may be null. -/
def optional {α : Type} (reader : Reader α) : Reader (Option α) := do
  match ← next? with
  | some 'n' =>
    skip
    word ['u', 'l', 'l']
    return none
  | _ => return some (← reader)

/-! ## Members that nobody asked for -/

/-- Skips the rest of a string, with one unit of fuel for each character. -/
def skipString : Nat → Reader Unit
  | 0 => failHere .endInString
  | fuel + 1 => do
    match ← peek? with
    | none => failHere .endInString
    | some '"' => skip
    | some '\\' => do
      skip
      match ← take? with
      | none => failHere .endInString
      | some 'u' =>
        let _ ← unit16
        skipString fuel
      | some c => if "\"\\/bfnrt".toList.contains c then skipString fuel else failHere .badEscape
    | some c =>
      if c.toNat < 32 then failHere .controlCharacter
      else
        skip
        skipString fuel

/-- Skips digits, of which there must be one; `problem` tells how their absence is reported. -/
def skipDigits (absent : Reader Unit) : Reader Unit := do
  match ← digit? with
  | none => absent
  | some _ =>
    let _ ← digits (← size) 0
    pure ()

/-- Skips the exponent of a number, whose mark comes next. -/
def skipExponent : Reader Unit := do
  skip
  match ← peek? with
  | some '+' | some '-' => skip
  | _ => pure ()
  skipDigits do
    skip
    failHere .badNumber

/-- Skips a number whose sign was skipped. -/
def skipNumber : Reader Unit := do
  match ← peek? with
  | some '0' =>
    skip
    if (← digit?).isSome then failNext .badNumber
  | _ =>
    skipDigits do
      skip
      failHere .badNumber
  match ← peek? with
  | some '.' =>
    skip
    skipDigits (failNext .badNumber)
    match ← peek? with
    | some 'e' | some 'E' => skipExponent
    | _ => pure ()
  | some 'e' | some 'E' => skipExponent
  | _ => pure ()

/-- What is open around a skipped value. -/
inductive Frame where
  | list
  | object
  deriving DecidableEq

/-- Skips the name and the colon in front of the next value of an object. -/
def skipName : Frame → Reader Unit
  | .list => pure ()
  | .object => do
    match ← next? with
    | some '"' => skip
    | some _ => failNext .keyNotText
    | none => failNext .endInObject
    skipString ((← size) + 1)
    colon

/-- Skips what stands between two values: ends of what is open, and a comma if a value came before. Answers
what is still open, with one unit of fuel for each end. -/
def skipBetween : Nat → Bool → List Frame → Reader (List Frame)
  | 0, _, frames => pure frames
  | _, _, [] => pure []
  | fuel + 1, afterValue, frame :: outer => do
    let closer := match frame with
      | .list => ']'
      | .object => '\x7d'
    match ← next? with
    | none => failNext (match frame with
      | .list => .endInList
      | .object => .endInObject)
    | some c =>
      if c = ',' ∧ afterValue then
        skip
        return frame :: outer
      else if c = closer then
        skip
        skipBetween fuel true outer
      else if afterValue then
        failNext (match frame with
          | .list => .noListEnd
          | .object => .noObjectEnd)
      else return frame :: outer

/-- Skips a value inside what is open, and all that is open around it, with one unit of fuel for each
value. -/
def skipFrom : Nat → List Frame → Reader Unit
  | 0, _ => failNext .endInValue
  | fuel + 1, frames => do
    let opens (frame : Frame) : Reader (Bool × List Frame) := do
      skip
      return (false, frame :: frames)
    let scalar (c : Char) : Reader (Bool × List Frame) := do
      if c = '"' then
        skip
        skipString ((← size) + 1)
      else if c = '-' then
        skip
        skipNumber
      else if c.isDigit then skipNumber
      else if (← scalar? c).isNone then failNext .noValue
      return (true, frames)
    match ← next? with
    | none => failNext .endInValue
    | some c =>
      let (afterValue, frames) ←
        if c = '[' then opens .list else if c = '\x7b' then opens .object else scalar c
      match ← skipBetween ((← size) + 1) afterValue frames with
      | [] => pure ()
      | frame :: outer =>
        skipName frame
        skipFrom fuel (frame :: outer)

/-- Skips a value without looking at what it is. -/
def skipValue : Reader Unit := do
  skipFrom ((← size) + 1) []

/-! ## Records -/

/-- One field of a record: its name, whether it has been read, how to read it with a number of levels left,
and whether it may be missing at the end of a list. -/
structure RecordField (σ : Type) where
  name : String
  isSet : σ → Bool
  read : Nat → σ → Reader σ
  mayBeMissing : Bool := false

/-- Reads one member of a record. Unknown names are skipped, and no field may come twice. -/
def member {σ : Type} (levels : Nat) (fields : List (RecordField σ)) (known : σ) (name : String) : Reader σ := do
  match fields.find? (·.name == name) with
  | none =>
    colon
    skipValue
    return known
  | some field =>
    if field.isSet known then refuse (.duplicateField name)
    else
      colon
      field.read levels known

/-- Reads the fields of a record from the items of a list, in their order; `total` of them are expected. -/
def fromItems {σ : Type} (levels : Nat) (typeName : String) (total : Nat) (first : Bool) (known : σ) :
    List (RecordField σ) → Reader σ
  | [] => pure known
  | field :: fields => do
    if ← hasItem first then
      fromItems levels typeName total false (← field.read levels known) fields
    else if field.mayBeMissing then fromItems levels typeName total first known fields
    else
      refuse (.invalidLength (total - fields.length - 1) s!"struct {typeName} with {total} elements")

/-- Reads a record from an object or from a list, with a number of levels left. -/
def record {σ α : Type} (levels : Nat) (typeName : String) (fields : List (RecordField σ)) (initial : σ)
    (finish : σ → Reader α) : Reader α :=
  onNext fun c => do
    match c with
    | '\x7b' =>
      let levels ← opened levels
      let fuel ← size
      enclosed (do finish (← foldMembers (member levels fields) fuel true initial)) objectEnd
    | '[' =>
      let levels ← opened levels
      enclosed (do finish (← fromItems levels typeName fields.length true initial fields)) listEnd
    | _ => refuseNext c s!"struct {typeName}"

/-- Runs a reader on the bytes of a whole document. -/
def onBytes {α : Type} (reader : Reader α) (bytes : List UInt8) : Except Error α :=
  let whole : Reader α := do
    let answer ← reader
    match ← next? with
    | none => return answer
    | some _ => failNext .trailingCharacters
  (whole.run (.start bytes)).1

/-- Runs a reader on a whole text. -/
def onText {α : Type} (reader : Reader α) (source : String) : Except Error α :=
  onBytes reader source.toUTF8.toList

end UiCheck.Json.Reader

namespace UiCheck.Json

/-- The document that bytes hold. -/
def ofBytes (bytes : ByteArray) : Except Error Json :=
  Reader.onBytes (Reader.value Reader.depthLimit) bytes.toList

/-- The document that a text holds. -/
def ofText (source : String) : Except Error Json :=
  ofBytes source.toUTF8

end UiCheck.Json
