import UiCheck.Proofs.Files.Path
import UiCheck.Proofs.Files.Walk

/-! # Writing into a directory

`Leads` tells the way of a walk that arrives somewhere, part by part and link by link. Such a way can be gone on from
where it ends, and it stays open as long as directories and links stand. So a file that is written into a directory
lies in it afterwards, and the directory is still found by the path that led to it.
-/

namespace UiCheck.Files

/-- The way leads from one place to another, whose names are in reverse order, with so many links left at its start. -/
inductive Leads (tree : Node) : Nat → List String → List Part → List String → Prop
  | nil (links : Nat) (names : List String) : Leads tree links names [] names
  | root {links : Nat} {names place : List String} {way : List Part} :
      Leads tree links [] way place → Leads tree links names (.root :: way) place
  | here {links : Nat} {names place : List String} {way : List Part} {entries : Entries} :
      tree.get? names.reverse = some (.directory entries) →
      Leads tree links names way place → Leads tree links names (.here :: way) place
  | up {links : Nat} {names place : List String} {way : List Part} {entries : Entries} :
      tree.get? names.reverse = some (.directory entries) →
      Leads tree links names.tail way place → Leads tree links names (.up :: way) place
  | link {links : Nat} {names place : List String} {text target : String} {way : List Part} {entries : Entries} :
      tree.get? names.reverse = some (.directory entries) → ¬ nameLimit < text.utf8ByteSize →
      entries.lookup text = some (.link target) → target.isEmpty = false →
      Leads tree links names (steps target ++ way) place → Leads tree (links + 1) names (.name text :: way) place
  | name {links : Nat} {names place : List String} {text : String} {way : List Part} {entries : Entries}
      {node : Node} :
      tree.get? names.reverse = some (.directory entries) → ¬ nameLimit < text.utf8ByteSize →
      entries.lookup text = some node → (∀ target, node ≠ .link target) →
      Leads tree links (text :: names) way place → Leads tree links names (.name text :: way) place

variable {tree : Node} {links : Nat} {names place : List String} {way more : List Part}

/-- A walk that finds a node has gone such a way. -/
theorem leads_of_walk {node : Node} (arrived : walk tree true links names way = .ok (.present place node)) :
    Leads tree links names way place ∧ tree.get? place.reverse = some node := by
  have arrives := arrives_of_walk arrived
  refine ⟨?_, arrives.get?⟩
  generalize same : Place.present place node = found at arrives
  clear arrived
  induction arrives with
  | present =>
    cases same
    exact .nil _ _
  | root _ ih => exact .root (ih same)
  | here directory _ ih => exact .here directory (ih same)
  | up directory _ ih => exact .up directory (ih same)
  | vacant => cases same
  | unfollowed _ _ _ follows => cases follows
  | link directory short linked filled _ ih => exact .link directory short linked filled (ih same)
  | name directory short below other _ ih => exact .name directory short below other (ih same)

/-- A walk goes on from where its way leads. -/
theorem Leads.exists_walk_append (leads : Leads tree links names way place) :
    ∃ left, ∀ more, walk tree true links names (way ++ more) = walk tree true left place more := by
  induction leads with
  | nil links names => exact ⟨links, fun more => rfl⟩
  | root _ ih =>
    obtain ⟨left, goes⟩ := ih
    exact ⟨left, fun more => by rw [List.cons_append, walk, goes]⟩
  | here directory _ ih =>
    obtain ⟨left, goes⟩ := ih
    exact ⟨left, fun more => by simp only [List.cons_append, walk, directory, goes]⟩
  | up directory _ ih =>
    obtain ⟨left, goes⟩ := ih
    exact ⟨left, fun more => by simp only [List.cons_append, walk, directory, goes]⟩
  | link directory short linked filled _ ih =>
    obtain ⟨left, goes⟩ := ih
    refine ⟨left, fun more => ?_⟩
    have goes := goes more
    rw [List.append_assoc] at goes
    simp only [List.cons_append, walk, directory, short, linked, filled, if_false, Bool.not_true, Bool.and_false,
      Bool.false_eq_true, goes]
  | @name _ _ _ _ _ _ node directory short below other _ ih =>
    obtain ⟨left, goes⟩ := ih
    refine ⟨left, fun more => ?_⟩
    rw [← goes, List.cons_append, walk, directory]
    cases node with
    | link target => exact absurd rfl (other target)
    | _ => simp only [short, below, if_false]

/-- The start of a way leads somewhere, and the rest of it on from there. -/
theorem Leads.exists_of_append {whole : List Part} (leads : Leads tree links names whole place)
    (same : whole = way ++ more) :
    ∃ left middle, Leads tree links names way middle ∧ Leads tree left middle more place := by
  induction leads generalizing way with
  | nil links names =>
    obtain ⟨rfl, rfl⟩ := List.append_eq_nil_iff.mp same.symm
    exact ⟨links, names, .nil links names, .nil links names⟩
  | root leads ih =>
    cases way with
    | nil =>
      rw [List.nil_append] at same
      exact ⟨_, _, .nil _ _, same ▸ Leads.root leads⟩
    | cons part way =>
      obtain ⟨rfl, rest⟩ := List.cons.inj same
      obtain ⟨left, middle, first, second⟩ := ih rest
      exact ⟨left, middle, .root first, second⟩
  | here directory leads ih =>
    cases way with
    | nil =>
      rw [List.nil_append] at same
      exact ⟨_, _, .nil _ _, same ▸ Leads.here directory leads⟩
    | cons part way =>
      obtain ⟨rfl, rest⟩ := List.cons.inj same
      obtain ⟨left, middle, first, second⟩ := ih rest
      exact ⟨left, middle, .here directory first, second⟩
  | up directory leads ih =>
    cases way with
    | nil =>
      rw [List.nil_append] at same
      exact ⟨_, _, .nil _ _, same ▸ Leads.up directory leads⟩
    | cons part way =>
      obtain ⟨rfl, rest⟩ := List.cons.inj same
      obtain ⟨left, middle, first, second⟩ := ih rest
      exact ⟨left, middle, .up directory first, second⟩
  | link directory short linked filled leads ih =>
    cases way with
    | nil =>
      rw [List.nil_append] at same
      exact ⟨_, _, .nil _ _, same ▸ Leads.link directory short linked filled leads⟩
    | cons part way =>
      obtain ⟨rfl, rest⟩ := List.cons.inj same
      obtain ⟨left, middle, first, second⟩ := ih ((congrArg (steps _ ++ ·) rest).trans (List.append_assoc ..).symm)
      exact ⟨left, middle, .link directory short linked filled first, second⟩
  | name directory short below other leads ih =>
    cases way with
    | nil =>
      rw [List.nil_append] at same
      exact ⟨_, _, .nil _ _, same ▸ Leads.name directory short below other leads⟩
    | cons part way =>
      obtain ⟨rfl, rest⟩ := List.cons.inj same
      obtain ⟨left, middle, first, second⟩ := ih rest
      exact ⟨left, middle, .name directory short below other first, second⟩

/-- A walk that goes on behind a way goes on from where the way leads. -/
theorem Leads.arrives_append {follow : Bool} {arrived : Place} (leads : Leads tree links names way place)
    (more_left : more ≠ []) (arrives : Arrives tree follow links names (way ++ more) arrived) :
    ∃ left, Arrives tree follow left place more arrived := by
  induction leads with
  | nil links names => exact ⟨links, arrives⟩
  | root _ ih =>
    cases arrives with
    | root rest => exact ih rest
  | here _ _ ih =>
    cases arrives with
    | here _ rest => exact ih rest
  | up _ _ ih =>
    cases arrives with
    | up _ rest => exact ih rest
  | @link _ _ _ _ _ way _ directory _ linked _ _ ih =>
    rw [List.cons_append] at arrives
    generalize onward : way ++ more = rest at arrives
    have unfinished : rest ≠ [] := onward ▸ List.append_ne_nil_of_right_ne_nil _ more_left
    cases arrives with
    | vacant | unfollowed => exact absurd rfl unfinished
    | link directory' _ linked' _ rest =>
      cases directory.symm.trans directory'
      cases linked.symm.trans linked'
      rw [← onward, ← List.append_assoc] at rest
      exact ih rest
    | name directory' _ below other =>
      cases directory.symm.trans directory'
      cases linked.symm.trans below
      exact absurd rfl (other _)
  | @name _ _ _ _ way _ _ directory _ below other _ ih =>
    rw [List.cons_append] at arrives
    generalize onward : way ++ more = rest at arrives
    have unfinished : rest ≠ [] := onward ▸ List.append_ne_nil_of_right_ne_nil _ more_left
    cases arrives with
    | vacant | unfollowed => exact absurd rfl unfinished
    | link directory' _ linked =>
      cases directory.symm.trans directory'
      cases below.symm.trans linked
      exact absurd rfl (other _)
    | name directory' _ below' _ rest =>
      subst onward
      exact ih rest

/-- No free name is at the end of a way that leads somewhere. -/
theorem Leads.not_vacant {follow : Bool} {directory : List String} {name : String}
    (leads : Leads tree links names way place)
    (arrives : Arrives tree follow links names way (.vacant directory name)) : False := by
  induction leads with
  | nil => cases arrives
  | root _ ih =>
    cases arrives with
    | root rest => exact ih rest
  | here _ _ ih =>
    cases arrives with
    | here _ rest => exact ih rest
  | up _ _ ih =>
    cases arrives with
    | up _ rest => exact ih rest
  | link directory _ linked _ _ ih =>
    cases arrives with
    | vacant directory' _ missing =>
      cases directory.symm.trans directory'
      cases linked.symm.trans missing
    | link directory' _ linked' _ rest =>
      cases directory.symm.trans directory'
      cases linked.symm.trans linked'
      exact ih rest
    | name directory' _ below other =>
      cases directory.symm.trans directory'
      cases linked.symm.trans below
      exact other _ rfl
  | name directory _ below other _ ih =>
    cases arrives with
    | vacant directory' _ missing =>
      cases directory.symm.trans directory'
      cases below.symm.trans missing
    | link directory' _ linked =>
      cases directory.symm.trans directory'
      cases below.symm.trans linked
      exact other _ rfl
    | name _ _ _ _ rest => exact ih rest

section

variable {after : Node} {text : String} {entries : Entries}

/-- A link is followed as before in a tree in which directories and links stand. -/
theorem Leads.link_of_stands (stands : ∀ place, Node.Stands (tree.get? place) (after.get? place)) {target : String}
    (directory : tree.get? names.reverse = some (.directory entries)) (short : ¬ nameLimit < text.utf8ByteSize)
    (linked : entries.lookup text = some (.link target)) (filled : target.isEmpty = false)
    (rest : Leads after links names (steps target ++ way) place) :
    Leads after (links + 1) names (.name text :: way) place := by
  obtain ⟨entries', now⟩ := Node.exists_directory_of_stands stands directory
  have stood := Node.stands_lookup stands directory now text
  rw [linked] at stood
  generalize below : entries'.lookup text = found at stood
  cases stood with
  | link => exact .link now short below filled rest

/-- A name that is no link is gone through as before. -/
theorem Leads.name_of_stands (stands : ∀ place, Node.Stands (tree.get? place) (after.get? place)) {node : Node}
    (directory : tree.get? names.reverse = some (.directory entries)) (short : ¬ nameLimit < text.utf8ByteSize)
    (below : entries.lookup text = some node) (other : ∀ target, node ≠ .link target)
    (rest : Leads after links (text :: names) way place) : Leads after links names (.name text :: way) place := by
  obtain ⟨entries', now⟩ := Node.exists_directory_of_stands stands directory
  have stood := Node.stands_lookup stands directory now text
  rw [below] at stood
  generalize found : entries'.lookup text = node' at stood
  cases stood with
  | file => exact .name now short found nofun rest
  | link target => exact absurd rfl (other target)
  | directory => exact .name now short found nofun rest

/-- A way stays open in a tree in which directories and links stand. -/
theorem Leads.of_stands (stands : ∀ place, Node.Stands (tree.get? place) (after.get? place))
    (leads : Leads tree links names way place) : Leads after links names way place := by
  induction leads with
  | nil links names => exact .nil links names
  | root _ ih => exact .root ih
  | here directory _ ih =>
    obtain ⟨_, now⟩ := Node.exists_directory_of_stands stands directory
    exact .here now ih
  | up directory _ ih =>
    obtain ⟨_, now⟩ := Node.exists_directory_of_stands stands directory
    exact .up now ih
  | link directory short linked filled _ ih => exact .link_of_stands stands directory short linked filled ih
  | name directory short below other _ ih => exact .name_of_stands stands directory short below other ih

/-- The way to a free name leads to what is placed there. -/
theorem Arrives.leads (stands : ∀ place, Node.Stands (tree.get? place) (after.get? place)) {directory : List String}
    {name : String} {node : Node} (placed : after.get? (directory.reverse ++ [name]) = some node)
    (unlinked : ∀ target, node ≠ .link target) (arrives : Arrives tree true links names way (.vacant directory name)) :
    Leads after links names way (name :: directory) := by
  generalize same : Place.vacant directory name = found at arrives
  induction arrives with
  | present => cases same
  | root _ ih => exact .root (ih same)
  | here directory _ ih =>
    obtain ⟨_, now⟩ := Node.exists_directory_of_stands stands directory
    exact .here now (ih same)
  | up directory _ ih =>
    obtain ⟨_, now⟩ := Node.exists_directory_of_stands stands directory
    exact .up now (ih same)
  | vacant directory short none =>
    cases same
    obtain ⟨_, now⟩ := Node.exists_directory_of_stands stands directory
    rw [Node.get?_snoc now] at placed
    exact .name now short placed unlinked (.nil _ _)
  | unfollowed _ _ _ follows => cases follows
  | link directory short linked filled _ ih => exact .link_of_stands stands directory short linked filled (ih same)
  | name directory short below other _ ih => exact .name_of_stands stands directory short below other (ih same)

end

/-! ## Files in a directory -/

theorem steps_eq (path : String) : steps path = parts path ∨ steps path = parts path ++ [.here] := by
  rw [steps]
  split
  · exact .inl rfl
  · split
    · exact .inr rfl
    · exact .inl rfl

/-- The parts of a path lead where it leads, whatever ends it. -/
theorem Leads.parts {path : String} (leads : Leads tree links names (steps path) place) :
    Leads tree links names (parts path) place := by
  rcases steps_eq path with same | dotted
  · rwa [same] at leads
  · obtain ⟨_, middle, first, last⟩ := leads.exists_of_append dotted
    cases last with
    | here _ stays =>
      cases stays
      exact first

section

variable {dir name : String}

theorem steps_join (filled : dir.isEmpty = false) (plain : IsName name) :
    steps (join dir name) = parts dir ++ [.name name] := by
  obtain ⟨front, chars, _⟩ := exists_front_of_join filled plain
  have last : (segments (join dir name).toList).getLast? = some name.toList := by
    rw [segments_join plain chars]
    exact List.getLast?_concat
  rw [steps, last, parts_join filled plain, if_neg, if_neg]
  · rintro (empty | dot)
    · exact plain.ne_nil (Option.some.inj empty)
    · exact plain.ne_dot (Option.some.inj dot)
  · rintro (empty | root | here)
    · rw [List.isEmpty_iff] at empty
      exact List.append_ne_nil_of_right_ne_nil _ (List.cons_ne_nil _ _) empty
    · cases (List.append_eq_singleton_iff.mp root) with
      | inl both => cases both.2
      | inr both => cases both.2
    · cases (List.append_eq_singleton_iff.mp here) with
      | inl both => cases both.2
      | inr both => cases both.2

theorem asksDirectory_join (filled : dir.isEmpty = false) (plain : IsName name) :
    Disk.asksDirectory (join dir name) = false := by
  obtain ⟨front, chars, _⟩ := exists_front_of_join filled plain
  obtain ⟨last, ends⟩ := Option.ne_none_iff_exists'.mp (mt List.getLast?_eq_none_iff.mp plain.ne_nil)
  rw [Disk.asksDirectory, chars, List.append_cons, List.getLast?_append, ends, Option.some_or, beq_eq_false_iff_ne]
  intro slash
  exact plain.slashless (List.mem_of_getLast? (ends.trans slash))

end

/-- A path that is taken at all: it is not empty, has no character that would end it, and is not too long. -/
def Admissible (path : String) : Prop :=
  ¬ path.isEmpty = true ∧ ¬ path.toList.contains (Char.ofNat 0) = true ∧ ¬ pathLimit < path.utf8ByteSize

instance (path : String) : Decidable (Admissible path) :=
  inferInstanceAs (Decidable (_ ∧ _ ∧ _))

theorem Admissible.filled {path : String} (admissible : Admissible path) : path.isEmpty = false :=
  Bool.eq_false_iff.mpr admissible.1

/-- Nothing is done with another path. -/
theorem admissible_of_ok {α : Type} {path : String} {answer : Except IoError α} {value : α}
    (passed : (if path.isEmpty = true then .error .notFound
      else if path.toList.contains (Char.ofNat 0) = true then .error .nulInPath
      else if pathLimit < path.utf8ByteSize then .error .nameTooLong else answer) = .ok value) : Admissible path := by
  by_cases filled : path.isEmpty = true
  · rw [if_pos filled] at passed
    cases passed
  by_cases clean : path.toList.contains (Char.ofNat 0) = true
  · rw [if_neg filled, if_pos clean] at passed
    cases passed
  by_cases short : pathLimit < path.utf8ByteSize
  · rw [if_neg filled, if_neg clean, if_pos short] at passed
    cases passed
  exact ⟨filled, clean, short⟩

namespace Disk

variable {disk disk' : Disk} {dir name text path : String} {entries : Entries}

theorem locate_eq (admissible : Admissible path) (disk : Disk) (follow : Bool) :
    disk.locate follow path = walk disk.tree follow linkLimit disk.start.reverse (steps path) := by
  obtain ⟨filled, clean, short⟩ := admissible
  rw [locate, if_neg filled, if_neg clean, if_neg short]

theorem writeText_eq (admissible : Admissible path) (disk : Disk) (text : String) : disk.writeText path text =
    (disk.writable path).map fun names => disk.put names (.file text.toUTF8) := by
  obtain ⟨filled, clean, short⟩ := admissible
  rw [writeText, write, if_neg filled, if_neg clean, if_neg short]
  cases disk.writable path <;> rfl

theorem admissible_of_locate {follow : Bool} {place : Place} (located : disk.locate follow path = .ok place) :
    Admissible path := by
  rw [locate] at located
  exact admissible_of_ok located

theorem admissible_of_writeText (written : disk.writeText path text = .ok disk') : Admissible path := by
  rw [writeText, write] at written
  exact admissible_of_ok written

theorem exists_locate_of_node {node : Node} (found : disk.node path = .ok node) :
    ∃ place, disk.locate true path = .ok (.present place node) := by
  rw [Disk.node] at found
  split at found
  · next place _ located =>
    cases found
    exact ⟨place, located⟩
  · cases found
  · cases found

@[simp] theorem start_put (names : List String) (node : Node) : (disk.put names node).start = disk.start := rfl

/-- A directory is found by its parts alone, whatever ends its path. -/
theorem exists_leads_of_node (there : disk.node dir = .ok (.directory entries)) : Admissible dir ∧
    ∃ place, Leads disk.tree linkLimit disk.start.reverse (steps dir) place ∧
      Leads disk.tree linkLimit disk.start.reverse (parts dir) place ∧
      disk.tree.get? place.reverse = some (.directory entries) := by
  obtain ⟨place, located⟩ := exists_locate_of_node there
  have admissible := admissible_of_locate located
  rw [locate_eq admissible] at located
  obtain ⟨leads, found⟩ := leads_of_walk located
  exact ⟨admissible, place, leads, leads.parts, found⟩

/-- A name in a directory is looked up from where the path of the directory leads. -/
theorem exists_locate_join (filled : dir.isEmpty = false) (plain : IsName name) (admissible : Admissible (join dir name))
    {place : List String} (leads : Leads disk.tree linkLimit disk.start.reverse (parts dir) place) :
    ∃ left, disk.locate true (join dir name) = walk disk.tree true left place [.name name] := by
  obtain ⟨left, goes⟩ := leads.exists_walk_append
  exact ⟨left, by rw [locate_eq admissible, steps_join filled plain, goes]⟩

theorem writable_join (filled : dir.isEmpty = false) (plain : IsName name) (disk : Disk) :
    disk.writable (join dir name) =
      match disk.locate true (join dir name) with
      | .error e => .error e
      | .ok (.present names (.file _)) => .ok names
      | .ok (.present ..) => .error .isDirectory
      | .ok (.vacant directory name) => .ok (name :: directory) := by
  have named : ¬ (asksDirectory (join dir name) = true ∧ parts (join dir name) ≠ [.root]) := by
    rw [asksDirectory_join filled plain]
    exact fun both => Bool.false_ne_true both.1
  rw [writable]
  exact if_neg named

/-- A file goes into its directory, unless it would be written to where a link leads. -/
theorem put_of_writeText (filled : dir.isEmpty = false) (plain : IsName name) {place : List String}
    (leads : Leads disk.tree linkLimit disk.start.reverse (parts dir) place)
    (found : disk.tree.get? place.reverse = some (.directory entries))
    (unlinked : ∀ target, entries.lookup name ≠ some (.link target))
    (written : disk.writeText (join dir name) text = .ok disk') :
    disk' = disk.put (name :: place) (.file text.toUTF8) ∧
      ∀ node, entries.lookup name = some node → ∃ content, node = .file content := by
  have admissible := admissible_of_writeText written
  obtain ⟨left, goes⟩ := exists_locate_join filled plain admissible leads
  rw [walk, found] at goes
  rw [writeText_eq admissible, writable_join filled plain, goes] at written
  dsimp only at written
  by_cases long : nameLimit < name.utf8ByteSize
  · rw [if_pos long] at written
    cases written
  rw [if_neg long] at written
  have inside : disk.tree.get? (name :: place).reverse = entries.lookup name := by
    rw [List.reverse_cons]
    exact Node.get?_snoc found name
  cases below : entries.lookup name with
  | none =>
    rw [below] at written
    cases written
    exact ⟨rfl, by simp⟩
  | some node =>
    rw [below] at written inside
    cases node with
    | link target => exact absurd below (unlinked target)
    | file content =>
      simp only [walk, inside] at written
      cases written
      exact ⟨rfl, fun node same => ⟨content, (Option.some.inj same).symm⟩⟩
    | directory inner =>
      simp only [walk, inside] at written
      cases written

/-- A file can be written into a directory under a name that is free or that of a file. -/
theorem exists_writeText (plain : IsName name) (there : disk.node dir = .ok (.directory entries))
    (free : entries.lookup name = none ∨ ∃ content, entries.lookup name = some (.file content))
    (admissible : Admissible (join dir name)) (short : ¬ nameLimit < name.utf8ByteSize) (text : String) :
    ∃ after, disk.writeText (join dir name) text = .ok after := by
  obtain ⟨outer, place, _, leads, found⟩ := exists_leads_of_node there
  obtain ⟨left, goes⟩ := exists_locate_join outer.filled plain admissible leads
  have inside : disk.tree.get? (name :: place).reverse = entries.lookup name := by
    rw [List.reverse_cons]
    exact Node.get?_snoc found name
  rw [walk, found] at goes
  rw [writeText_eq admissible, writable_join outer.filled plain, goes]
  rcases free with none | ⟨content, file⟩
  · simp only [short, none, if_false, List.isEmpty_nil, if_true]
    exact ⟨_, rfl⟩
  · rw [file] at inside
    simp only [short, file, if_false, walk, inside]
    exact ⟨_, rfl⟩

/-- A file that was written into a directory lies in it, beside what was there. -/
theorem node_of_writeText (plain : IsName name) (there : disk.node dir = .ok (.directory entries))
    (unlinked : ∀ target, entries.lookup name ≠ some (.link target))
    (written : disk.writeText (join dir name) text = .ok disk') :
    disk'.node dir = .ok (.directory (Entries.insert name (.file text.toUTF8) entries)) := by
  obtain ⟨admissible, place, leads, by_parts, found⟩ := exists_leads_of_node there
  obtain ⟨rfl, free⟩ := put_of_writeText admissible.filled plain by_parts found unlinked written
  have changed : (disk.put (name :: place) (.file text.toUTF8)).tree =
      Node.set (.file text.toUTF8) (place.reverse ++ [name]) disk.tree := by
    rw [put, List.reverse_cons]
  have stands := leads.of_stands (Node.stands_set found free text.toUTF8)
  obtain ⟨left, goes⟩ := stands.exists_walk_append
  have goes := goes []
  rw [List.append_nil, walk, Node.get?_set found] at goes
  rw [Disk.node, locate_eq admissible, changed, start_put, goes]

end Disk

end UiCheck.Files
