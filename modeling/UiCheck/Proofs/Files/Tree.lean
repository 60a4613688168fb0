import UiCheck.Files.Tree

/-! # Putting a file into a directory

A file that is put into a directory, where there was none or another file, changes what is found at its own place
only. Anywhere else a tree stands as it did: what was a directory is one still, with the same names, and links lead
where they led.
-/

namespace UiCheck.Files

namespace Entries

theorem lookup_cons_of_ne {name other : String} (different : other ≠ name) (node : Node) (entries : Entries) :
    List.lookup other ((name, node) :: entries) = entries.lookup other := by
  rw [List.lookup_cons, beq_eq_false_iff_ne.mpr different]

theorem lookup_insert_self (name : String) (node : Node) (entries : Entries) :
    (insert name node entries).lookup name = some node := by
  induction entries with
  | nil => exact List.lookup_cons_self
  | cons entry rest ih =>
    obtain ⟨first, below⟩ := entry
    rw [insert]
    split
    · exact List.lookup_cons_self
    · next different =>
      split
      · exact List.lookup_cons_self
      · rw [lookup_cons_of_ne different, ih]

theorem lookup_insert_of_ne {name other : String} (different : other ≠ name) (node : Node) (entries : Entries) :
    (insert name node entries).lookup other = entries.lookup other := by
  induction entries with
  | nil => exact lookup_cons_of_ne different node []
  | cons entry rest ih =>
    obtain ⟨first, below⟩ := entry
    rw [insert]
    split
    · next same =>
      subst same
      rw [lookup_cons_of_ne different, lookup_cons_of_ne different]
    · split
      · exact lookup_cons_of_ne different node _
      · rw [List.lookup_cons, List.lookup_cons, ih]

theorem lookup_insert (name other : String) (node : Node) (entries : Entries) :
    (insert name node entries).lookup other = if other = name then some node else entries.lookup other := by
  split
  · next same => rw [same, lookup_insert_self]
  · next different => exact lookup_insert_of_ne different node entries

end Entries

namespace Node

/-- What stands at a place still does: a directory, a link to the same target, or some file. -/
inductive Stands : Option Node → Option Node → Prop
  | absent (after : Option Node) : Stands none after
  | file (old new : ByteArray) : Stands (some (.file old)) (some (.file new))
  | link (target : String) : Stands (some (.link target)) (some (.link target))
  | directory (old new : Entries) : Stands (some (.directory old)) (some (.directory new))

theorem Stands.refl (node : Option Node) : Stands node node := by
  cases node with
  | none => exact .absent none
  | some node =>
    cases node with
    | file content => exact .file content content
    | link target => exact .link target
    | directory entries => exact .directory entries entries

/-- What a node is, without what lies in a directory. -/
inductive Face where
  | file (content : ByteArray)
  | link (target : String)
  | directory

/-- What the node itself is. -/
def face : Node → Face
  | .file content => .file content
  | .link target => .link target
  | .directory _ => .directory

/-- What is at a place, without what lies in it. -/
def faceAt (place : List String) (tree : Node) : Option Face :=
  (tree.get? place).map face

/-- Whatever is at a place as before stands. -/
theorem stands_of_faceAt {tree after : Node} {place : List String} (same : faceAt place after = faceAt place tree) :
    Stands (get? place tree) (get? place after) := by
  rw [faceAt, faceAt] at same
  generalize get? place tree = old at same ⊢
  generalize get? place after = new at same ⊢
  cases old with
  | none => exact .absent new
  | some old =>
    cases new with
    | none => cases same
    | some new =>
      cases old <;> cases new <;> cases same
      · exact .file _ _
      · exact .link _
      · exact .directory _ _

/-- What was there is not taken away. -/
theorem exists_of_stands {old new : Option Node} {node : Node} (stands : Stands old new) (there : old = some node) :
    ∃ node', new = some node' := by
  subst there
  cases stands <;> exact ⟨_, rfl⟩

theorem get?_append (place more : List String) (tree : Node) :
    get? (place ++ more) tree = (get? place tree).bind (get? more) := by
  induction place generalizing tree with
  | nil => rfl
  | cons name place ih =>
    rw [List.cons_append, get?, get?]
    cases tree.child? name with
    | none => rfl
    | some below => exact ih below

theorem get?_snoc {tree : Node} {place : List String} {entries : Entries}
    (there : get? place tree = some (.directory entries)) (name : String) :
    get? (place ++ [name]) tree = entries.lookup name := by
  rw [get?_append, there, Option.bind_some, get?, child?]
  cases entries.lookup name <;> rfl

/-- A directory stands as a directory, which may have got other entries. -/
theorem exists_directory_of_stands {tree after : Node} {place : List String} {entries : Entries}
    (stands : ∀ place, Stands (get? place tree) (get? place after)) (there : get? place tree = some (.directory entries)) :
    ∃ entries', get? place after = some (.directory entries') := by
  have stood := stands place
  rw [there] at stood
  generalize get? place after = now at stood
  cases stood with
  | directory _ entries' => exact ⟨entries', rfl⟩

theorem stands_lookup {tree after : Node} {place : List String} {entries entries' : Entries}
    (stands : ∀ place, Stands (get? place tree) (get? place after)) (there : get? place tree = some (.directory entries))
    (now : get? place after = some (.directory entries')) (name : String) :
    Stands (entries.lookup name) (entries'.lookup name) := by
  rw [← get?_snoc there, ← get?_snoc now]
  exact stands _

theorem get?_cons_directory (name : String) (place : List String) (entries : Entries) :
    get? (name :: place) (.directory entries) = (entries.lookup name).bind (get? place) := rfl

theorem exists_of_get?_cons {tree : Node} {name : String} {place : List String} {node : Node}
    (there : get? (name :: place) tree = some node) :
    ∃ entries below, tree = .directory entries ∧ entries.lookup name = some below ∧ get? place below = some node := by
  cases tree with
  | directory entries =>
    rw [get?_cons_directory] at there
    obtain ⟨below, found, rest⟩ := Option.bind_eq_some_iff.mp there
    exact ⟨entries, below, rfl, found, rest⟩
  | _ => cases there

/-- What is there lies in a directory, unless it is the root. -/
theorem exists_of_get?_snoc {tree : Node} {name : String} {place : List String} {node : Node}
    (there : get? (place ++ [name]) tree = some node) :
    ∃ entries, get? place tree = some (.directory entries) ∧ entries.lookup name = some node := by
  rw [get?_append] at there
  obtain ⟨above, found, last⟩ := Option.bind_eq_some_iff.mp there
  obtain ⟨entries, below, rfl, entry, rest⟩ := exists_of_get?_cons last
  cases rest
  exact ⟨entries, found, entry⟩

theorem set_cons_snoc {entries : Entries} {first : String} {below : Node} (found : entries.lookup first = some below)
    (node : Node) (place : List String) (name : String) : set node (first :: (place ++ [name])) (.directory entries) =
      .directory (Entries.insert first (set node (place ++ [name]) below) entries) := by
  have more : (place ++ [name]).isEmpty = false := by
    cases place <;> rfl
  rw [set, more, found]
  rfl

section

variable {tree : Node} {place : List String} {entries : Entries}

/-- The directory into which a node is put has it under its name. -/
theorem get?_set (there : get? place tree = some (.directory entries)) (node : Node) (name : String) :
    get? place (set node (place ++ [name]) tree) = some (.directory (Entries.insert name node entries)) := by
  induction place generalizing tree with
  | nil =>
    cases there
    rfl
  | cons first place ih =>
    obtain ⟨outer, below, rfl, found, inner⟩ := exists_of_get?_cons there
    rw [List.cons_append, set_cons_snoc found, get?_cons_directory, Entries.lookup_insert, if_pos rfl]
    exact ih inner

/-- A node is found where it was put. -/
theorem get?_set_snoc (there : get? place tree = some (.directory entries)) (node : Node) (name : String) :
    get? (place ++ [name]) (set node (place ++ [name]) tree) = some node := by
  rw [get?_snoc (get?_set there node name), Entries.lookup_insert_self]

/-- A node that holds nothing else, put where there was none or a file, changes nothing at other places. -/
theorem faceAt_set_of_ne (there : get? place tree = some (.directory entries)) {name : String}
    (free : ∀ below, entries.lookup name = some below → ∃ content, below = .file content) {node : Node}
    (leaf : ∀ first more, get? (first :: more) node = none) {other : List String} (different : other ≠ place ++ [name]) :
    faceAt other (set node (place ++ [name]) tree) = faceAt other tree := by
  induction place generalizing tree other with
  | nil =>
    cases there
    have changed : set node [name] (.directory entries) = .directory (Entries.insert name node entries) := rfl
    rw [List.nil_append, changed]
    cases other with
    | nil => rfl
    | cons first more =>
      rw [faceAt, faceAt, get?_cons_directory, get?_cons_directory, Entries.lookup_insert]
      by_cases same : first = name
      · subst same
        rw [if_pos rfl, Option.bind_some]
        cases more with
        | nil => exact absurd rfl different
        | cons next more =>
          -- below its place there is nothing now, and there was nothing before
          rw [leaf]
          cases found : entries.lookup first with
          | none => rfl
          | some below =>
            obtain ⟨content, rfl⟩ := free below found
            rfl
      · rw [if_neg same]
  | cons first place ih =>
    obtain ⟨outer, below, rfl, found, inner⟩ := exists_of_get?_cons there
    rw [List.cons_append, set_cons_snoc found]
    cases other with
    | nil => rfl
    | cons next more =>
      rw [faceAt, faceAt, get?_cons_directory, get?_cons_directory, Entries.lookup_insert]
      by_cases same : next = first
      · subst same
        rw [if_pos rfl, found, Option.bind_some, Option.bind_some]
        exact ih inner fun rest => different (congrArg _ rest)
      · rw [if_neg same]

/-- A file that takes the place of none or of another one leaves all else standing. -/
theorem stands_set (there : get? place tree = some (.directory entries)) {name : String}
    (free : ∀ node, entries.lookup name = some node → ∃ content, node = .file content) (content : ByteArray)
    (other : List String) : Stands (get? other tree) (get? other (set (.file content) (place ++ [name]) tree)) := by
  by_cases same : other = place ++ [name]
  · rw [same, get?_set_snoc there, get?_snoc there]
    cases found : entries.lookup name with
    | none => exact .absent _
    | some node =>
      obtain ⟨old, rfl⟩ := free node found
      exact .file old content
  · exact stands_of_faceAt (faceAt_set_of_ne there free (fun _ _ => rfl) same)

end

end Node

end UiCheck.Files
