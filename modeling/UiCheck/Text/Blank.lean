/-! # Blank characters

The characters with the Unicode property `White_Space`, trimming, and splitting into words. A text is
a list of characters here; the callers convert at the edge.
-/

namespace UiCheck.Text

/-- The twenty-five characters of the Unicode property `White_Space`. -/
def isBlank (c : Char) : Bool :=
  let n := c.toNat
  (9 ≤ n && n ≤ 13) || n == 0x20 || n == 0x85 || n == 0xA0 || n == 0x1680 ||
    (0x2000 ≤ n && n ≤ 0x200A) || n == 0x2028 || n == 0x2029 || n == 0x202F || n == 0x205F ||
    n == 0x3000

/-- A text without its leading blanks. -/
def trimStart (s : List Char) : List Char :=
  s.dropWhile isBlank

/-- A text without its trailing blanks. -/
def trimEnd (s : List Char) : List Char :=
  (s.reverse.dropWhile isBlank).reverse

/-- A text without its leading and trailing blanks. -/
def trim (s : List Char) : List Char :=
  trimEnd (trimStart s)

/-- Every character is blank; the empty text is blank. -/
def allBlank (s : List Char) : Bool :=
  s.all isBlank

/-- The rest after a word is no longer than the text. -/
theorem length_dropWhile_le (p : Char → Bool) (s : List Char) : (s.dropWhile p).length ≤ s.length :=
  (List.dropWhile_sublist p).length_le

/-- The maximal runs of non-blank characters, in order. -/
def words (s : List Char) : List (List Char) :=
  match _h : trimStart s with
  | [] => []
  | c :: rest =>
    (c :: rest.takeWhile (! isBlank ·)) :: words (rest.dropWhile (! isBlank ·))
termination_by s.length
decreasing_by
  have shorter := length_dropWhile_le isBlank s
  have shorterStill := length_dropWhile_le (! isBlank ·) rest
  simp only [trimStart] at _h
  rw [_h, List.length_cons] at shorter
  omega

end UiCheck.Text
