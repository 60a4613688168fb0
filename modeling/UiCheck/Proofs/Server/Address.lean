import UiCheck.Proofs.Number.Digits
import UiCheck.Proofs.Text.Search
import UiCheck.Server.Start

/-! # The address that a URL names

`Url` has the parts of a URL, and `Url.text` writes it. Read back from the text, the address depends on the host and
the port alone, whatever stands in the other parts. It is the right one for every URL that names its port and for every
host that is a name: `ofUrl_text_iff`. A literal between brackets without a port is cut at its last colon.
-/

namespace UiCheck.Server

open Text

/-! ## URLs -/

/-- What starts a path, a query or a fragment. -/
def delimiters : List Char := ['/', '?', '#']

/-- The host in a URL: a name, as which an IPv4 address counts too, or an IPv6 address, which stands in brackets. -/
inductive Url.Host where
  | name (text : List Char)
  | literal (text : List Char)
  deriving DecidableEq, Inhabited, Repr

/-- A host as it is written. -/
def Url.Host.text : Url.Host → List Char
  | .name text => text
  | .literal text => '[' :: (text ++ [']'])

/-- A URL in its parts. -/
structure Url where
  scheme : List Char
  user : Option (List Char)
  host : Url.Host
  /-- The digits of the port. -/
  port : Option (List Char)
  /-- The path, the query and the fragment, each behind the character that starts it. -/
  rest : List Char
  deriving DecidableEq, Inhabited, Repr

namespace Url

/-- What stands in front of the host. -/
def userMark (url : Url) : List Char :=
  match url.user with
  | some user => user ++ ['@']
  | none => []

/-- What stands behind the host, up to the path. -/
def portMark (url : Url) : List Char :=
  match url.port with
  | some digits => ':' :: digits
  | none => []

/-- A URL as it is written. -/
def text (url : Url) : String :=
  String.ofList (url.scheme ++ "://".toList ++ (url.userMark ++ url.host.text ++ url.portMark ++ url.rest))

/-- The address that a URL names. No host is the own one, and no port is that of a development server. -/
def address (url : Url) : Address where
  host := if url.host = .name [] then "localhost" else String.ofList url.host.text
  port := (url.port.map (Nat.ofDigitChars 10 · 0)).getD 3000

end Url

/-- No character of a host ends it. Colons stand in brackets, and an IPv6 address has some. -/
def Url.Host.WellFormed : Url.Host → Prop
  | .name text => ∀ c ∈ text, c ∉ delimiters ∧ c ≠ '@' ∧ c ≠ ':'
  | .literal text => ':' ∈ text ∧ ∀ c ∈ text, c ∉ delimiters ∧ c ≠ '@'

/-- The parts of a URL can be told apart. A user may have colons and at signs, and behind its first character the rest
may have anything. -/
structure Url.WellFormed (url : Url) : Prop where
  scheme : ':' ∉ url.scheme
  user : ∀ user ∈ url.user, ∀ c ∈ user, c ∉ delimiters
  host : url.host.WellFormed
  port : ∀ digits ∈ url.port, digits ≠ [] ∧ (∀ c ∈ digits, c.isDigit = true) ∧ Nat.ofDigitChars 10 digits 0 ≤ 65535
  rest : ∀ c ∈ url.rest.head?, c ∈ delimiters

/-! ## Reading the parts -/

theorem endsAuthority_iff {c : Char} : endsAuthority c = true ↔ c ∈ delimiters := by
  simp only [endsAuthority, delimiters, Bool.or_eq_true, beq_iff_eq, List.mem_cons, List.not_mem_nil, or_false,
    or_assoc]

/-- The authority is what stands between the scheme and the first delimiter. -/
theorem authority_eq {scheme inner rest : List Char} (named : ':' ∉ scheme) (plain : ∀ c ∈ inner, c ∉ delimiters)
    (starts : ∀ c ∈ rest.head?, c ∈ delimiters) : authority (scheme ++ "://".toList ++ (inner ++ rest)) = inner := by
  have unbordered : Unbordered "://".toList := by decide
  have absent : ¬ "://".toList <:+: scheme := fun occurs => named (occurs.subset (by decide))
  have through : ∀ c ∈ inner, (! endsAuthority c) = true := by
    intro c member
    rw [Bool.not_eq_true', ← Bool.not_eq_true, endsAuthority_iff]
    exact plain c member
  have stops : rest.takeWhile (! endsAuthority ·) = [] := by
    cases rest with
    | nil => rfl
    | cons c rest =>
      have ends : endsAuthority c = true := endsAuthority_iff.mpr (starts c rfl)
      rw [List.takeWhile_cons, ends]
      rfl
  rw [authority, unbordered.cut?_append absent]
  dsimp only
  rw [List.takeWhile_append_of_pos through, stops, List.append_nil]

/-- What is left of an authority without its user. -/
def withoutUser (authority : List Char) : List Char :=
  match cutLast? ['@'] authority with
  | some (_, rest) => rest
  | none => authority

theorem withoutUser_eq {url : Url} {rest : List Char} (absent : '@' ∉ rest) :
    withoutUser (url.userMark ++ rest) = rest := by
  rw [withoutUser, Url.userMark]
  cases url.user with
  | none => rw [List.nil_append, cutLast?_single_eq_none_iff.mpr absent]
  | some user =>
    rw [List.append_assoc, List.singleton_append, cutLast?_single_eq_some_iff.mpr ⟨rfl, absent⟩]

/-- The address in an authority without its user. -/
def addressIn (bare : List Char) : Address :=
  match cutLast? [':'] bare with
  | some (host, port) => ⟨if host.isEmpty then defaultHost else String.ofList host,
      (Number.unsigned? 10 Number.word16 port).getD defaultPort⟩
  | none => ⟨if bare.isEmpty then defaultHost else String.ofList bare, defaultPort⟩

theorem ofUrl_eq (url : String) : Address.ofUrl url = addressIn (withoutUser (authority url.toList)) := by
  unfold Address.ofUrl addressIn withoutUser
  dsimp only
  generalize authority url.toList = inner
  cases cutLast? ['@'] inner with
  | none => cases cutLast? [':'] inner <;> rfl
  | some both =>
    obtain ⟨_, bare⟩ := both
    dsimp only
    cases cutLast? [':'] bare <;> rfl

/-- The host and the port are what stands in front of the last colon and behind it. -/
theorem addressIn_colon {port : List Char} (absent : ':' ∉ port) (host : List Char) :
    addressIn (host ++ ':' :: port) = ⟨if host.isEmpty then defaultHost else String.ofList host,
      (Number.unsigned? 10 Number.word16 port).getD defaultPort⟩ := by
  rw [addressIn, cutLast?_single_eq_some_iff.mpr ⟨rfl, absent⟩]

/-- Without a colon all is host. -/
theorem addressIn_host {host : List Char} (absent : ':' ∉ host) :
    addressIn host = ⟨if host.isEmpty then defaultHost else String.ofList host, defaultPort⟩ := by
  rw [addressIn, cutLast?_single_eq_none_iff.mpr absent]

namespace Url

variable {url : Url}

theorem WellFormed.portMark_plain (proper : url.WellFormed) :
    ∀ c ∈ url.portMark, c ∉ delimiters ∧ c ≠ '@' := by
  intro c member
  rw [portMark] at member
  cases named : url.port with
  | none =>
    rw [named] at member
    cases member
  | some digits =>
    rw [named] at member
    rcases List.mem_cons.mp member with rfl | inside
    · decide
    · have digit := (proper.port digits named).2.1 c inside
      constructor
      · intro delimits
        simp only [delimiters, List.mem_cons, List.not_mem_nil, or_false] at delimits
        rcases delimits with rfl | rfl | rfl <;> cases digit
      · rintro rfl
        cases digit

theorem WellFormed.host_plain (proper : url.WellFormed) : ∀ c ∈ url.host.text, c ∉ delimiters ∧ c ≠ '@' := by
  intro c member
  have formed := proper.host
  cases named : url.host with
  | name text =>
    rw [named] at member formed
    exact ⟨(formed c member).1, (formed c member).2.1⟩
  | literal text =>
    rw [named] at member formed
    rcases List.mem_cons.mp member with rfl | inside
    · decide
    · rcases List.mem_append.mp inside with inside | closing
      · exact formed.2 c inside
      · rw [List.mem_singleton.mp closing]
        decide

/-- Neither the scheme nor the user nor the rest is looked at. -/
theorem WellFormed.withoutUser_authority (proper : url.WellFormed) :
    withoutUser (authority url.text.toList) = url.host.text ++ url.portMark := by
  have plain : ∀ c ∈ url.host.text ++ url.portMark, c ∉ delimiters ∧ c ≠ '@' :=
    List.forall_mem_append.mpr ⟨proper.host_plain, proper.portMark_plain⟩
  have user : ∀ c ∈ url.userMark, c ∉ delimiters := by
    intro c member
    rw [userMark] at member
    cases named : url.user with
    | none =>
      rw [named] at member
      cases member
    | some user =>
      rw [named] at member
      rcases List.mem_append.mp member with inside | sign
      · exact proper.user user named c inside
      · rw [List.mem_singleton.mp sign]
        decide
  rw [text, String.toList_ofList, List.append_assoc url.userMark, authority_eq proper.scheme
    (List.forall_mem_append.mpr ⟨user, fun c member => (plain c member).1⟩) proper.rest]
  exact withoutUser_eq fun member => (plain '@' member).2 rfl

theorem host_text_isEmpty (host : Host) : host.text.isEmpty = true ↔ host = .name [] := by
  cases host with
  | name text => rw [Host.text, List.isEmpty_iff, Host.name.injEq]
  | literal text => simp [Host.text]

/-- The address is right if the URL names its port. -/
theorem WellFormed.ofUrl_of_port (proper : url.WellFormed) {digits : List Char} (named : url.port = some digits) :
    Address.ofUrl url.text = url.address := by
  obtain ⟨filled, all, small⟩ := proper.port digits named
  have whole := proper.withoutUser_authority
  rw [portMark, named] at whole
  have colonless : ':' ∉ digits := fun member => by cases all ':' member
  have below : Nat.ofDigitChars 10 digits 0 < Number.word16 := Nat.lt_succ_of_le small
  rw [ofUrl_eq, whole, addressIn_colon colonless, Number.unsigned?_of_digits filled all below, address, named]
  simp only [host_text_isEmpty, defaultHost, Option.map_some, Option.getD_some]

/-- The address is right if the host is a name. -/
theorem WellFormed.ofUrl_of_name (proper : url.WellFormed) {text : List Char} (bare : url.port = none)
    (named : url.host = .name text) : Address.ofUrl url.text = url.address := by
  have whole := proper.withoutUser_authority
  rw [portMark, bare, List.append_nil] at whole
  have formed := proper.host
  rw [named] at formed
  have colonless : ':' ∉ url.host.text := by
    rw [named]
    exact fun member => (formed ':' member).2.2 rfl
  rw [ofUrl_eq, whole, addressIn_host colonless, address, bare]
  simp only [host_text_isEmpty, defaultHost, defaultPort, Option.map_none, Option.getD_none]

/-- A literal without a port is cut at its last colon. -/
theorem WellFormed.ofUrl_of_literal (proper : url.WellFormed) {text : List Char} (bare : url.port = none)
    (named : url.host = .literal text) : ∃ front back, text = front ++ ':' :: back ∧ ':' ∉ back ∧
      Address.ofUrl url.text = ⟨String.ofList ('[' :: front), 3000⟩ := by
  have whole := proper.withoutUser_authority
  rw [portMark, bare, List.append_nil, named] at whole
  have formed := proper.host
  rw [named] at formed
  obtain ⟨⟨front, back⟩, found⟩ := Option.ne_none_iff_exists'.mp
    (mt cutLast?_single_eq_none_iff.mp (not_not.mpr formed.1))
  obtain ⟨split, absent⟩ := cutLast?_single_eq_some_iff.mp found
  have colonless : ':' ∉ back ++ [']'] := by
    rw [List.mem_append, List.mem_singleton]
    rintro (inside | closing)
    · exact absent inside
    · cases closing
  have written : Host.text (.literal text) = ('[' :: front) ++ ':' :: (back ++ [']']) := by
    rw [Host.text, split, List.append_assoc, List.cons_append, List.cons_append]
  -- the closing bracket is no digit
  have unread : Number.unsigned? 10 Number.word16 (back ++ [']']) = none := by
    refine Option.eq_none_iff_forall_ne_some.mpr fun n read => ?_
    obtain ⟨digits, same, _, all, _⟩ := Number.exists_unsigned?_iff.mp ⟨n, read⟩
    have closing : ']' ∈ back ++ [']'] := List.mem_append_right _ (List.mem_singleton_self _)
    rcases same with same | same
    · cases all ']' (same ▸ closing)
    · rw [same] at closing
      rcases List.mem_cons.mp closing with sign | inside
      · cases sign
      · cases all ']' inside
  refine ⟨front, back, split, absent, ?_⟩
  rw [ofUrl_eq, whole, written, addressIn_colon colonless, unread]
  rfl

end Url

/-- The address is the one that the URL names unless the host is a literal without a port, and the port is the one that
it names in any case. Of all parts of the URL only the host and the port matter. -/
theorem ofUrl_text_iff (url : Url) (proper : url.WellFormed) :
    (Address.ofUrl url.text = url.address ↔ url.port ≠ none ∨ ∃ text, url.host = .name text) ∧
    (Address.ofUrl url.text).port = url.address.port ∧
    ∀ other : Url, other.WellFormed → other.host = url.host → other.port = url.port →
      Address.ofUrl other.text = Address.ofUrl url.text := by
  have alike (other : Url) (proper' : other.WellFormed) (host : other.host = url.host) (port : other.port = url.port) :
      Address.ofUrl other.text = Address.ofUrl url.text := by
    rw [ofUrl_eq, ofUrl_eq, proper'.withoutUser_authority, proper.withoutUser_authority, host, Url.portMark,
      Url.portMark, port]
  cases port : url.port with
  | some digits =>
    have right := proper.ofUrl_of_port port
    exact ⟨iff_of_true right (.inl nofun), congrArg Address.port right, port ▸ alike⟩
  | none =>
    cases host : url.host with
    | name text =>
      have right := proper.ofUrl_of_name port host
      exact ⟨iff_of_true right (.inr ⟨text, rfl⟩), congrArg Address.port right, host ▸ port ▸ alike⟩
    | literal text =>
      obtain ⟨front, back, rfl, _, cut⟩ := proper.ofUrl_of_literal port host
      refine ⟨iff_of_false (fun right => ?_) (by simp), ?_, host ▸ port ▸ alike⟩
      · have same := congrArg Address.host (cut.symm.trans right)
        rw [Url.address, host, if_neg nofun, String.ofList_inj] at same
        have lengths := congrArg List.length same
        simp only [Url.Host.text, List.length_cons, List.length_append] at lengths
        omega
      · rw [cut, Url.address, port]
        rfl

/-- A URL with all its parts, of which four have colons and two have at signs. -/
def fullUrl : Url where
  scheme := "http".toList
  user := some "me:pass".toList
  host := .literal "::1".toList
  port := some "08080".toList
  rest := "/a@b:9?next=://c".toList

theorem ofUrl_text_iff_full : fullUrl.WellFormed ∧ fullUrl.text = "http://me:pass@[::1]:08080/a@b:9?next=://c" ∧
    Address.ofUrl fullUrl.text = ⟨"[::1]", 8080⟩ := by
  have proper : fullUrl.WellFormed := by
    constructor <;> simp [fullUrl, delimiters, Url.Host.WellFormed, Nat.ofDigitChars]
  have named : fullUrl.address = ⟨"[::1]", 8080⟩ := by decide +kernel
  exact ⟨proper, by decide +kernel, ((ofUrl_text_iff fullUrl proper).1.mpr (.inl nofun)).trans named⟩

/-- A URL of the own machine without a port. -/
def bareUrl : Url where
  scheme := "http".toList
  user := none
  host := .literal "::1".toList
  port := none
  rest := "/".toList

theorem ofUrl_cuts_literal : bareUrl.WellFormed ∧ bareUrl.text = "http://[::1]/" ∧
    bareUrl.address = ⟨"[::1]", 3000⟩ ∧ Address.ofUrl bareUrl.text = ⟨"[:", 3000⟩ := by
  have proper : bareUrl.WellFormed := by
    constructor <;> simp [bareUrl, delimiters, Url.Host.WellFormed]
  exact ⟨proper, by decide +kernel, by decide +kernel, by decide +kernel⟩

end UiCheck.Server
