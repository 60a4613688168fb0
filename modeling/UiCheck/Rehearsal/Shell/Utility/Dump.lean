import UiCheck.Rehearsal.Shell.Utility.Lines

/-! # Showing bytes

Bytes are shown as numbers or characters in rows, or written with sixty-four characters and read back.
-/

namespace UiCheck.Rehearsal.Shell

open Files

/-- How the bytes of a row are shown. -/
inductive ByteView where
  /-- Numbers of some bytes each in a radix, in a field of some width; leading zeros fill it if asked for. -/
  | number (size radix width : Nat) (zeros : Bool)
  /-- Numbers of some bytes each with a sign. -/
  | signed (size width : Nat)
  /-- Characters, or names for them. -/
  | chars
  | names
  deriving DecidableEq, Inhabited, Repr

/-- The number that bytes stand for, the least one first. -/
def littleEndian (bytes : List Char) : Nat :=
  bytes.foldr (fun c n => 256 * n + c.toNat) 0

/-- A number in a radix, with zeros up to a number of digits. -/
def digitsIn (radix count n : Nat) : String :=
  let digits := Nat.toDigits radix n
  String.ofList (List.replicate (count - digits.length) '0' ++ digits)

/-- A character as it is shown for itself. -/
def shownByte (c : Char) : String :=
  match c with
  | '\x00' => "\\0"
  | '\x07' => "\\a"
  | '\x08' => "\\b"
  | '\x0c' => "\\f"
  | '\n' => "\\n"
  | '\r' => "\\r"
  | '\t' => "\\t"
  | '\x0b' => "\\v"
  | c => if 32 ≤ c.toNat ∧ c.toNat < 127 then String.singleton c else digitsIn 8 3 c.toNat

/-- The names of the first characters. -/
def charNames : List String :=
  ["nul", "soh", "stx", "etx", "eot", "enq", "ack", "bel", "bs", "ht", "nl", "vt", "ff", "cr", "so", "si",
    "dle", "dc1", "dc2", "dc3", "dc4", "nak", "syn", "etb", "can", "em", "sub", "esc", "fs", "gs", "rs", "us", "sp"]

/-- The name of a character, of which the highest bit does not count. -/
def namedByte (c : Char) : String :=
  let n := c.toNat % 128
  if n = 127 then "del" else charNames.getD n (String.singleton (Char.ofNat n))

/-- The bytes in groups of a size; zeros stand for those that the last one lacks. -/
def groupsOf : Nat → Nat → List Char → List (List Char)
  | 0, _, _ => []
  | fuel + 1, size, s =>
    if s.isEmpty then []
    else
      let group := s.take size
      (group ++ List.replicate (size - group.length) '\x00') :: groupsOf fuel size (s.drop size)

/-- The number of bytes that are shown together. -/
def ByteView.size : ByteView → Nat
  | .number size _ _ _ | .signed size _ => max 1 size
  | .chars | .names => 1

/-- The room of a field with the blank before it. -/
def ByteView.room : ByteView → Nat
  | .number _ _ width _ | .signed _ width => width + 1
  | .chars | .names => 4

/-- A group of bytes as it is shown. -/
def ByteView.field (view : ByteView) (group : List Char) : String :=
  let n := littleEndian group
  match view with
  | .number _ radix width zeros => if zeros then digitsIn radix width n else toString n
  | .signed size _ =>
    let limit := Nat.pow 256 size
    if 2 * n < limit then toString n else "-" ++ toString (limit - n)
  | .chars => shownByte (group.headD ' ')
  | .names => namedByte (group.headD ' ')

/-- The room that a row of so many bytes takes. -/
def ByteView.rowRoom (view : ByteView) (width : Nat) : Nat :=
  width / view.size * view.room

/-- A row of bytes as it is shown. Further blanks, up to a number of them for the whole row of `width` bytes, are
put before the fields as evenly as can be. -/
def ByteView.row (view : ByteView) (width blanks : Nat) (s : List Char) : String :=
  let count := width / view.size
  let left (i : Nat) : Nat := blanks * (count - i) / count
  String.join ((groupsOf (s.length + 1) view.size s).zipIdx.map fun (group, i) =>
    atRight (view.room + left i - left (i + 1)) (view.field group))

/-- The number of digits of the greatest number of some bytes. -/
def digitCount (radix size : Nat) : Nat :=
  (Nat.toDigits radix (Nat.pow 256 size - 1)).length

/-- The view that a letter and a size say. -/
def viewOf? (letter : Char) (size : Option Nat) : Option ByteView :=
  match letter with
  | 'x' => some (.number (size.getD 4) 16 (2 * size.getD 4) true)
  | 'o' => some (.number (size.getD 4) 8 (digitCount 8 (size.getD 4)) true)
  | 'u' => some (.number (size.getD 4) 10 (digitCount 10 (size.getD 4)) false)
  | 'd' => some (.signed (size.getD 4) (digitCount 10 (size.getD 4) + (if size.getD 4 = 8 then 0 else 1)))
  | 'c' => some .chars
  | 'a' => some .names
  | _ => none

/-- The views that a text says, and whether each shows the characters as well, with one unit of fuel for each. -/
def viewsOf : Nat → List Char → Option (List (ByteView × Bool))
  | 0, _ => none
  | _, [] => some []
  | fuel + 1, letter :: rest =>
    let digits := rest.takeWhile Char.isDigit
    let after := rest.drop digits.length
    let (size, after) := match digits, after with
      | [], 'C' :: after => (some 1, after)
      | [], 'S' :: after => (some 2, after)
      | [], 'I' :: after => (some 4, after)
      | [], 'L' :: after => (some 8, after)
      | _, _ => (digitsOf? (String.ofList digits), after)
    let (plain, after) := match after with
      | 'z' :: after => (true, after)
      | _ => (false, after)
    match viewOf? letter size, viewsOf fuel after with
    | some view, some others => some ((view, plain) :: others)
    | _, _ => none

/-- The views that options ask for. -/
def askedViews (options : Options) : Except String (List (ByteView × Bool)) := do
  let views ← options.flags.mapM fun (c, value) =>
    match c with
    | 't' =>
      match viewsOf (value.length + 1) value.toList with
      | some views => .ok views
      | none => .error s!"invalid type string '{value}'"
    | 'c' => .ok [(ByteView.chars, false)]
    | 'a' => .ok [(ByteView.names, false)]
    | 'b' => .ok [(ByteView.number 1 8 3 true, false)]
    | 'x' | 'h' => .ok [(ByteView.number 2 16 4 true, false)]
    | 'o' | 'B' => .ok [(ByteView.number 2 8 6 true, false)]
    | 'd' => .ok [(ByteView.number 2 10 5 false, false)]
    | 's' => .ok [(ByteView.signed 2 6, false)]
    | 'i' => .ok [(ByteView.signed 4 11, false)]
    | _ => .ok []
  return if views.flatten.isEmpty then [(.number 2 8 6 true, false)] else views.flatten

/-- How a place is written. -/
def shownPlace (radix : Char) (n : Nat) : String :=
  match radix with
  | 'd' => digitsIn 10 7 n
  | 'x' => digitsIn 16 6 n
  | 'n' => ""
  | _ => digitsIn 8 7 n

/-- The rows of bytes from a place on, with the row before and whether a row was left out. -/
def dumpRows (radix : Char) (width : Nat) (all : Bool) (shown : List Char → List String) :
    Nat → Nat → List Char → Option (List Char) → Bool → List String
  | 0, _, _, _, _ => []
  | fuel + 1, place, s, before, skipping =>
    if s.isEmpty then if radix = 'n' then [] else [shownPlace radix place ++ "\n"]
    else
      let row := s.take width
      let rest := s.drop width
      if ! all ∧ before = some row ∧ row.length = width ∧ ! rest.isEmpty then
        (if skipping then [] else ["*\n"]) ++ dumpRows radix width all shown fuel (place + width) rest before true
      else
        let lines := (shown row).zipIdx.map fun (line, i) =>
          let blank := String.ofList (List.replicate (shownPlace radix place).length ' ')
          (if i = 0 then shownPlace radix place else blank) ++ line ++ "\n"
        lines ++ dumpRows radix width all shown fuel (place + row.length) rest (some row) false

/-- Shows the bytes of files. -/
def od : Utility :=
  Known.utility
    { plain := "cabxhoBdsiv", valued := "AtNjw"
      long := [("address-radix", 'A'), ("format", 't'), ("read-bytes", 'N'), ("skip-bytes", 'j'),
        ("output-duplicates", 'v'), ("width", 'w')] } 1 fun task options =>
    match askedViews options with
    | .error e => task.failed e 1
    | .ok views =>
      let number (c : Char) : Option Nat := (options.value? c).bind digitsOf?
      let done := task.overFiles options.words 1 plainProblem fun done _ content => done.say content
      let skipped := (number 'j').getD 0
      let bytes := done.out.toList.drop skipped
      let bytes := match number 'N' with
        | some n => bytes.take n
        | none => bytes
      let width := (number 'w').getD 16
      let radix := ((options.value? 'A').bind (·.toList.head?)).getD 'o'
      let room := (views.map fun view => view.1.rowRoom width).foldl max 0
      let shown (row : List Char) : List String := views.map fun (view, plain) =>
        let line := view.row width (room - view.rowRoom width) row
        if plain then
          let fill := List.replicate (room - line.length) ' '
          let shown := row.map fun c => if 32 ≤ c.toNat ∧ c.toNat < 127 then c else '.'
          line ++ String.ofList fill ++ "  >" ++ String.ofList shown ++ "<"
        else line
      let failed := 0 < done.status && done.out.isEmpty
      let text := if failed then ""
        else String.join (dumpRows radix width (options.has 'v') shown (bytes.length + 2) skipped bytes none false)
      { done with out := text }

/-- The sixty-four characters, by the numbers for which they stand. -/
def sixtyFour : List Char :=
  "ABCDEFGHIJKLMNOPQRSTUVWXYZabcdefghijklmnopqrstuvwxyz0123456789+/".toList

/-- Bytes written with sixty-four characters. -/
def encoded : List Char → List Char
  | a :: b :: c :: rest =>
    let n := 65536 * a.toNat + 256 * b.toNat + c.toNat
    let digit (k : Nat) : Char := sixtyFour.getD (n / k % 64) '='
    digit 262144 :: digit 4096 :: digit 64 :: digit 1 :: encoded rest
  | [a, b] =>
    let n := 65536 * a.toNat + 256 * b.toNat
    [sixtyFour.getD (n / 262144) '=', sixtyFour.getD (n / 4096 % 64) '=', sixtyFour.getD (n / 64 % 64) '=', '=']
  | [a] =>
    let n := 65536 * a.toNat
    [sixtyFour.getD (n / 262144) '=', sixtyFour.getD (n / 4096 % 64) '=', '=', '=']
  | [] => []

/-- The bytes that are written with sixty-four characters, and whether all of it could be read. -/
def decoded : List Char → List Char × Bool
  | a :: b :: c :: d :: rest =>
    let value? (c : Char) : Option Nat := sixtyFour.findIdx? (· == c)
    match value? a, value? b with
    | some x, some y =>
      let high := Char.ofNat ((64 * x + y) / 16)
      match c, d with
      | '=', '=' =>
        let (more, fine) := decoded rest
        (high :: more, fine)
      | c, d =>
        match value? c, value? d with
        | some z, some w =>
          let n := 4096 * (64 * x + y) + 64 * z + w
          let (more, fine) := decoded rest
          (Char.ofNat (n / 65536) :: Char.ofNat (n / 256 % 256) :: Char.ofNat (n % 256) :: more, fine)
        | some z, none =>
          if d = '=' then
            let n := 64 * (64 * x + y) + z
            let (more, fine) := decoded rest
            (Char.ofNat (n / 1024) :: Char.ofNat (n / 4 % 256) :: more, fine)
          else ([high, Char.ofNat ((64 * (64 * x + y) + z) / 4 % 256)], false)
        | none, _ => ([high], false)
    | _, _ => ([], false)
  | [] => ([], true)
  | [a, b] =>
    match sixtyFour.findIdx? (· == a), sixtyFour.findIdx? (· == b) with
    | some x, some y => ([Char.ofNat ((64 * x + y) / 16)], false)
    | _, _ => ([], false)
  | [a, b, c] =>
    match sixtyFour.findIdx? (· == a), sixtyFour.findIdx? (· == b), sixtyFour.findIdx? (· == c) with
    | some x, some y, some z =>
      ([Char.ofNat ((64 * x + y) / 16), Char.ofNat ((64 * (64 * x + y) + z) / 4 % 256)], false)
    | some x, some y, none => ([Char.ofNat ((64 * x + y) / 16)], false)
    | _, _, _ => ([], false)
  | [_] => ([], false)

/-- Characters in lines of a length. -/
def inLines : Nat → Nat → List Char → List String
  | 0, _, _ => []
  | fuel + 1, width, s =>
    if s.isEmpty then [] else String.ofList (s.take width) :: inLines fuel width (s.drop width)

/-- Writes bytes with sixty-four characters, or reads them back. -/
def base64 : Utility :=
  Known.utility
    { plain := "di", valued := "w", long := [("decode", 'd'), ("ignore-garbage", 'i'), ("wrap", 'w')] } 1
    fun task options =>
    match options.words[1]? with
    | some extra => task.misused s!"extra operand '{extra}'" 1
    | none =>
      let wrap := (options.value? 'w').map digitsOf?
      match wrap with
      | some none =>
        let text := (options.value? 'w').getD ""
        task.failed s!"invalid wrap size: '{text}'" 1
      | _ =>
        let width := (wrap.join).getD 76
        let done := task.overFiles options.words 1 plainProblem fun done _ content => done.say content
        if 0 < done.status then done
        else if options.has 'd' then
          let chars := done.out.toList.filter fun c =>
            c != '\n' && (! options.has 'i' || sixtyFour.contains c || c == '=')
          let (bytes, fine) := decoded chars
          let done := { done with out := String.ofList bytes }
          if fine then done else done.complain s!"{task.name}: invalid input" 1
        else
          let chars := encoded done.out.toList
          let text := if width = 0 then String.ofList chars
            else withEnds (inLines (chars.length + 1) width chars)
          { done with out := text }

end UiCheck.Rehearsal.Shell
