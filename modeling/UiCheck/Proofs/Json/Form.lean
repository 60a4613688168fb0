import UiCheck.Proofs.Json.Scalars

/-! # Documents read back

Both forms in which documents are written differ in their blanks alone. A document whose numbers are whole is read
back from either, as long as it does not nest deeper than the reader allows.
-/

namespace UiCheck.Json

mutual

/-- How many lists and objects a document nests. -/
def depth : Json → Nat
  | .list items => depthOfItems items + 1
  | .object members => depthOfMembers members + 1
  | _ => 0

/-- How many lists and objects the deepest of some items nests. -/
def depthOfItems : List Json → Nat
  | [] => 0
  | item :: rest => max (depth item) (depthOfItems rest)

/-- How many lists and objects the deepest of some members nests. -/
def depthOfMembers : List (String × Json) → Nat
  | [] => 0
  | member :: rest => max (depthOfMember member) (depthOfMembers rest)

/-- How many lists and objects a member nests. -/
def depthOfMember : String × Json → Nat
  | (_, doc) => depth doc

end

/-- Some items nest as deep as the deepest of them, and there is a first that nests too deep if one does. -/
theorem depthOfItems_cases (items : List Json) {levels : Nat} (left : 0 < levels) :
    (depthOfItems items < levels ∧ ∀ item ∈ items, item.depth < levels) ∨
      levels ≤ depthOfItems items ∧ ∃ before item after, items = before ++ item :: after ∧
        (∀ item ∈ before, item.depth < levels) ∧ levels ≤ item.depth := by
  induction items with
  | nil => exact .inl ⟨by rwa [depthOfItems], nofun⟩
  | cons first items ih =>
    rw [depthOfItems]
    by_cases deep : levels ≤ first.depth
    · exact .inr ⟨by omega, [], first, items, rfl, nofun, deep⟩
    · obtain ⟨shallow, each⟩ | ⟨deeper, before, item, after, split, each, deep'⟩ := ih
      · exact .inl ⟨by omega, List.forall_mem_cons.mpr ⟨by omega, each⟩⟩
      · refine .inr ⟨by omega, first :: before, item, after, by rw [split, List.cons_append], ?_, deep'⟩
        exact List.forall_mem_cons.mpr ⟨by omega, each⟩

/-- A document whose numbers are whole and fit into sixty-four bits. -/
inductive Exact : Json → Prop where
  | null : Exact .null
  | bool (b : Bool) : Exact (.bool b)
  | int {n : Int} (fits : Reader.Fits n) : Exact (.int n)
  | string (s : String) : Exact (.string s)
  | list {items : List Json} (exact : ∀ item ∈ items, Exact item) : Exact (.list items)
  | object {members : List (String × Json)} (exact : ∀ member ∈ members, Exact member.2) : Exact (.object members)

/-! ## Forms -/

/-- Parts with a comma in front of each but the first. -/
def joined : Bool → List (List Char) → List Char
  | _, [] => []
  | first, part :: parts => (if first then [] else [',']) ++ (part ++ joined false parts)

open Reader in
/-- A way to write documents, which may put blanks between the parts. -/
structure Form where
  /-- How a document is written at a level. -/
  write : Nat → Json → List Char
  /-- The blanks in front of an item or a member. -/
  lead : Nat → List Char
  /-- The blanks behind a colon. -/
  gap : List Char
  lead_blank : ∀ level, Blank (bytesOf (lead level))
  gap_blank : Blank (bytesOf gap)
  write_scalar : ∀ level doc, (∀ items, doc ≠ .list items) → (∀ members, doc ≠ .object members) →
    write level doc = doc.compact
  write_list : ∀ level items, ∃ close, Blank (bytesOf close) ∧
    write level (.list items) =
      '[' :: (joined true (items.map fun item => lead (level + 1) ++ write (level + 1) item) ++ (close ++ [']']))
  write_object : ∀ level members, ∃ close, Blank (bytesOf close) ∧
    write level (.object members) =
      '\x7b' :: (joined true (members.map fun member =>
        lead (level + 1) ++ (stringText member.1 ++ ':' :: (gap ++ write (level + 1) member.2))) ++
          (close ++ ['\x7d']))

/-- Whatever writes a comma behind all but the last of some things joins them. -/
theorem eq_joined {δ : Type} {write : List δ → List Char} (part : δ → List Char) (empty : write [] = [])
    (single : ∀ thing, write [thing] = part thing)
    (more : ∀ thing next rest, write (thing :: next :: rest) = part thing ++ ',' :: write (next :: rest))
    (things : List δ) : write things = joined true (things.map part) := by
  induction things with
  | nil => exact empty
  | cons thing rest ih =>
    cases rest with
    | nil => exact (single thing).trans (List.append_nil _).symm
    | cons next rest =>
      rw [more, ih]
      rfl

theorem compactItems_eq (items : List Json) : compactItems items = joined true (items.map compact) :=
  eq_joined _ (by rw [compactItems]) (fun item => by rw [compactItems]) (fun _ _ _ => by rw [compactItems]; nofun) items

theorem compactMembers_eq (members : List (String × Json)) :
    compactMembers members = joined true (members.map fun member => stringText member.1 ++ ':' :: compact member.2) :=
  eq_joined _ (by rw [compactMembers]) (fun member => by rw [compactMembers, compactMember])
    (fun _ _ _ => by rw [compactMembers, compactMember]; nofun) members

theorem prettyItems_eq (level : Nat) (items : List Json) :
    prettyItems level items = joined true (items.map fun item => indentation level ++ pretty level item) :=
  eq_joined _ (by rw [prettyItems]) (fun item => by rw [prettyItems]) (fun _ _ _ => by rw [prettyItems]; nofun) items

theorem prettyMember_eq (level : Nat) (member : String × Json) :
    prettyMember level member =
      indentation level ++ (stringText member.1 ++ ':' :: ([' '] ++ pretty level member.2)) := by
  rw [prettyMember, List.append_assoc]
  rfl

theorem prettyMembers_eq (level : Nat) (members : List (String × Json)) :
    prettyMembers level members = joined true (members.map fun member =>
      indentation level ++ (stringText member.1 ++ ':' :: ([' '] ++ pretty level member.2))) :=
  eq_joined _ (by rw [prettyMembers]) (fun member => by rw [prettyMembers, prettyMember_eq])
    (fun _ _ _ => by rw [prettyMembers, prettyMember_eq]; nofun) members

theorem blank_bytesOf {text : List Char} (blank : ∀ c ∈ text, c = ' ' ∨ c = '\n') :
    Reader.Blank (Reader.bytesOf text) := by
  intro b member
  obtain ⟨c, inside, here⟩ := List.mem_flatMap.mp member
  obtain rfl | rfl := blank c inside <;> obtain rfl := List.mem_singleton.mp here <;> rfl

theorem blank_indentation (level : Nat) : Reader.Blank (Reader.bytesOf (indentation level)) := by
  refine blank_bytesOf fun c member => ?_
  cases member with
  | head => exact .inr rfl
  | tail _ space => exact .inl (List.eq_of_mem_replicate space)

/-- The form on one line. -/
def Form.compact : Form where
  write _ := Json.compact
  lead _ := []
  gap := []
  lead_blank _ := Reader.blank_nil
  gap_blank := Reader.blank_nil
  write_scalar _ _ _ _ := rfl
  write_list _ items := ⟨[], Reader.blank_nil, by rw [Json.compact, compactItems_eq]; rfl⟩
  write_object _ members := ⟨[], Reader.blank_nil, by rw [Json.compact, compactMembers_eq]; rfl⟩

/-- The form with indentation. -/
def Form.pretty : Form where
  write := Json.pretty
  lead := indentation
  gap := [' ']
  lead_blank := blank_indentation
  gap_blank := blank_bytesOf (by simp)
  write_scalar level doc notList notObject := by
    cases doc with
    | list items => exact absurd rfl (notList items)
    | object members => exact absurd rfl (notObject members)
    | _ => rfl
  write_list level items := by
    cases items with
    | nil => exact ⟨[], Reader.blank_nil, rfl⟩
    | cons item rest =>
      refine ⟨indentation level, blank_indentation level, ?_⟩
      rw [← prettyItems_eq, ← List.append_assoc]
      rfl
  write_object level members := by
    cases members with
    | nil => exact ⟨[], Reader.blank_nil, rfl⟩
    | cons member rest =>
      refine ⟨indentation level, blank_indentation level, ?_⟩
      rw [← prettyMembers_eq, ← List.append_assoc]
      rfl

end UiCheck.Json
