import UiCheck.Proofs.Files.Disk
import UiCheck.Proofs.Files.Edits

/-! # What an edit leaves alone

An edit changes what is at one place, where there was nothing or a file. Links and directories are neither taken away
nor turned into something else, so every way stays open and leads where it led. A file is read as before unless it was
written to, and what was written is read afterwards.
-/

namespace UiCheck.Files

namespace Node

/-- Something was placed where there was nothing, or a file where there was one; other places are as they were. -/
structure Places (before after : Node) (place : List String) : Prop where
  free : faceAt place before = none ∨
    ∃ old new, faceAt place before = some (.file old) ∧ faceAt place after = some (.file new)
  unlinked : ∀ target, faceAt place after ≠ some (.link target)
  same : ∀ other, other ≠ place → faceAt other after = faceAt other before

variable {before after : Node} {place other : List String}

theorem faceAt_eq_file_iff {tree : Node} {content : ByteArray} :
    faceAt place tree = some (.file content) ↔ get? place tree = some (.file content) := by
  rw [faceAt]
  generalize get? place tree = found
  cases found with
  | none => simp
  | some node => cases node <;> simp [face]

theorem Places.stands (places : Places before after place) (other : List String) :
    Stands (get? other before) (get? other after) := by
  by_cases same : other = place
  · subst same
    rcases places.free with none | ⟨old, new, file, file'⟩
    · rw [Option.map_eq_none_iff.mp none]
      exact .absent _
    · rw [faceAt_eq_file_iff.mp file, faceAt_eq_file_iff.mp file']
      exact .file old new
  · exact stands_of_faceAt (places.same other same)

theorem Places.link_iff (places : Places before after place) (other : List String) (target : String) :
    faceAt other after = some (.link target) ↔ faceAt other before = some (.link target) := by
  by_cases same : other = place
  · subst same
    refine iff_of_false (places.unlinked target) fun linked => ?_
    rcases places.free with none | ⟨old, _, file, _⟩
    · cases none.symm.trans linked
    · cases file.symm.trans linked
  · rw [places.same other same]

theorem places_set {tree : Node} {entries : Entries} (there : get? place tree = some (.directory entries))
    {name : String} {node : Node} (free : entries.lookup name = none ∨
      ∃ old new, entries.lookup name = some (.file old) ∧ node = .file new)
    (leaf : ∀ first more, get? (first :: more) node = none) (unlinked : ∀ target, node ≠ .link target) :
    Places tree (set node (place ++ [name]) tree) (place ++ [name]) := by
  have now : faceAt (place ++ [name]) (set node (place ++ [name]) tree) = some node.face := by
    rw [faceAt, get?_set_snoc there, Option.map_some]
  refine ⟨?_, fun target linked => ?_, fun other different => ?_⟩
  · rcases free with none | ⟨old, new, file, rfl⟩
    · exact .inl (by rw [faceAt, get?_snoc there, none, Option.map_none])
    · exact .inr ⟨old, new, by rw [faceAt, get?_snoc there, file, Option.map_some, face], now⟩
  · rw [now] at linked
    cases node with
    | link target => exact unlinked target rfl
    | _ => cases linked
  · refine faceAt_set_of_ne there (fun below found => ?_) leaf different
    rcases free with none | ⟨old, _, file, _⟩
    · cases none.symm.trans found
    · exact ⟨old, Option.some.inj (found.symm.trans file)⟩

/-- At a place is what was there, or a directory that was added where there was nothing. -/
def KeptAt (place : List String) (before after : Node) : Prop :=
  faceAt place after = faceAt place before ∨
    (faceAt place before = none ∧ faceAt place after = some .directory)

theorem KeptAt.trans {middle : Node} (first : KeptAt place before middle) (second : KeptAt place middle after) :
    KeptAt place before after := by
  rcases second with same | ⟨none, made⟩
  · rw [KeptAt, same]
    exact first
  · rcases first with same | ⟨_, directory⟩
    · exact .inr ⟨same ▸ none, made⟩
    · cases none.symm.trans directory

theorem KeptAt.file {content : ByteArray} (kept : KeptAt place before after)
    (there : faceAt place before = some (.file content)) : faceAt place after = some (.file content) := by
  rcases kept with same | ⟨none, _⟩
  · rw [same, there]
  · cases none.symm.trans there

/-- Nothing was changed, but directories may have been added where there was nothing. -/
def Paved (before after : Node) : Prop :=
  ∀ place, KeptAt place before after

end Node

namespace Disk

variable {disk after : Disk} {path other text : String} {names : List String} {content : ByteArray}

theorem arrives_of_locate {follow : Bool} {place : Place} (located : disk.locate follow path = .ok place) :
    Arrives disk.tree follow linkLimit disk.start.reverse (steps path) place := by
  rw [locate_eq (admissible_of_locate located)] at located
  exact arrives_of_walk located

/-- A file is written over one that is there, or at a free name. -/
theorem locate_of_writable (found : disk.writable path = .ok names) :
    (∃ old, disk.locate true path = .ok (.present names (.file old))) ∨
      ∃ directory name, names = name :: directory ∧ disk.locate true path = .ok (.vacant directory name) := by
  rw [writable] at found
  split at found
  · -- a path that asks for a directory is refused
    dsimp only at found
    split at found <;> cases found
  · split at found
    · cases found
    · next old located =>
      cases found
      exact .inl ⟨old, located⟩
    · cases found
    · next directory name located =>
      cases found
      exact .inr ⟨directory, name, rfl, located⟩

theorem places_of_writable (found : disk.writable path = .ok names) (content : ByteArray) :
    Node.Places disk.tree (disk.put names (.file content)).tree names.reverse ∧
      (disk.put names (.file content)).tree.get? names.reverse = some (.file content) := by
  rw [put]
  rcases locate_of_writable found with ⟨old, located⟩ | ⟨directory, name, rfl, located⟩
  · have there := (arrives_of_locate located).get?
    cases names with
    | nil =>
      -- the whole disk is one file
      have whole : disk.tree = .file old := Option.some.inj there
      rw [whole]
      refine ⟨⟨.inr ⟨old, content, rfl, rfl⟩, (fun _ same => by cases same), fun other different => ?_⟩, rfl⟩
      cases other with
      | nil => exact absurd rfl different
      | cons first more => rfl
    | cons name directory =>
      rw [List.reverse_cons] at there ⊢
      obtain ⟨entries, above, entry⟩ := Node.exists_of_get?_snoc there
      exact ⟨Node.places_set above (.inr ⟨old, content, entry, rfl⟩) (fun _ _ => rfl) (by simp),
        Node.get?_set_snoc above _ _⟩
  · obtain ⟨entries, there, none⟩ := (arrives_of_locate located).missing
    rw [List.reverse_cons]
    exact ⟨Node.places_set there (.inl none) (fun _ _ => rfl) (by simp),
      Node.get?_set_snoc there _ _⟩

theorem exists_put_of_write (written : disk.write path content = .ok after) :
    ∃ names, disk.writable path = .ok names ∧ after = disk.put names (.file content) := by
  obtain ⟨filled, clean, short⟩ := admissible_of_ok written
  rw [write, if_neg filled, if_neg clean, if_neg short] at written
  split at written
  · cases written
  · next names found =>
    cases written
    exact ⟨names, found, rfl⟩

theorem exists_put_of_makeDirectory (made : disk.makeDirectory path = .ok after) :
    ∃ directory name, Arrives disk.tree false linkLimit disk.start.reverse (nameSteps path) (.vacant directory name) ∧
      after = disk.put (name :: directory) .empty := by
  obtain ⟨filled, clean, short⟩ := admissible_of_ok made
  rw [makeDirectory, if_neg filled, if_neg clean, if_neg short] at made
  split at made
  · cases made
  · cases made
  · next directory name walked =>
    cases made
    exact ⟨directory, name, arrives_of_walk walked, rfl⟩

theorem places_of_vacant {follow : Bool} {links : Nat} {way : List Part} {directory : List String} {name : String}
    (arrives : Arrives disk.tree follow links names way (.vacant directory name)) :
    Node.Places disk.tree (disk.put (name :: directory) .empty).tree (name :: directory).reverse := by
  obtain ⟨entries, there, none⟩ := arrives.missing
  rw [put, List.reverse_cons]
  exact Node.places_set there (.inl none) (fun _ _ => rfl) (fun _ same => by cases same)

/-- Whatever an edit is, it places something. -/
theorem exists_places_of_makes {edit : Edit} (makes : edit.Makes disk after) :
    ∃ place, Node.Places disk.tree after.tree place ∧ after.start = disk.start := by
  cases makes with
  | write written =>
    obtain ⟨names, found, rfl⟩ := exists_put_of_write written
    exact ⟨_, (places_of_writable found _).1, rfl⟩
  | makeDirectory made =>
    obtain ⟨directory, name, arrives, rfl⟩ := exists_put_of_makeDirectory made
    exact ⟨_, places_of_vacant arrives, rfl⟩

theorem paved_of_makeDirectory (made : disk.makeDirectory path = .ok after) : disk.tree.Paved after.tree := by
  obtain ⟨directory, name, arrives, rfl⟩ := exists_put_of_makeDirectory made
  intro place
  by_cases here : place = (name :: directory).reverse
  · obtain ⟨entries, there, none⟩ := arrives.missing
    rw [here, put, List.reverse_cons]
    refine .inr ⟨?_, ?_⟩
    · rw [Node.faceAt, Node.get?_snoc there, none, Option.map_none]
    · rw [Node.faceAt, Node.get?_set_snoc there, Option.map_some]
      rfl
  · exact .inl ((places_of_vacant arrives).same place here)

/-- Edits that pave the way to a path add directories only. -/
theorem paved_of_edited {made : List Edit} (edited : disk.Edited made after) (paves : Paves path made) :
    disk.tree.Paved after.tree := by
  induction edited with
  | nil => exact fun _ => .inl rfl
  | cons makes _ ih =>
    obtain ⟨first, later⟩ := List.forall_mem_cons.mp paves
    obtain ⟨above, rfl, _⟩ := first
    cases makes with
    | makeDirectory made => exact fun place => (paved_of_makeDirectory made place).trans (ih later place)

/-! ## Reading after an edit -/

/-- A write to one path goes to the file that is found at the other. -/
def LandsOn (disk : Disk) (path other : String) : Prop :=
  ∃ names node, disk.writable path = .ok names ∧ disk.locate true other = .ok (.present names node)

theorem exists_of_readText (read : disk.readText path = .ok text) :
    ∃ names content, disk.locate true path = .ok (.present names (.file content)) ∧ textOf content = .ok text := by
  rw [readText, Disk.read] at read
  split at read
  · next content found =>
    obtain ⟨names, located⟩ := exists_locate_of_node found
    exact ⟨names, content, located, read⟩
  · cases read
  · cases read

theorem locate_of_leads {node : Node} (admissible : Admissible path)
    (leads : Leads disk.tree linkLimit disk.start.reverse (steps path) names)
    (there : disk.tree.get? names.reverse = some node) : disk.locate true path = .ok (.present names node) := by
  obtain ⟨left, goes⟩ := leads.exists_walk_append
  have goes := goes []
  rw [List.append_nil, walk, there] at goes
  rw [locate_eq admissible, goes]

theorem readText_of_locate (located : disk.locate true path = .ok (.present names (.file content))) :
    disk.readText path = textOf content := by
  rw [readText, Disk.read, Disk.node, located]
  rfl

/-- A file that lies in a directory is read by the path of the directory and its own name. -/
theorem readText_of_lookup {dir name : String} {entries : Entries} (plain : IsName name)
    (there : disk.node dir = .ok (.directory entries)) (found : entries.lookup name = some (.file content))
    (admissible : Admissible (join dir name)) (short : ¬ nameLimit < name.utf8ByteSize) :
    disk.readText (join dir name) = textOf content := by
  obtain ⟨outer, place, _, leads, directory⟩ := exists_leads_of_node there
  have inside : disk.tree.get? (name :: place).reverse = some (.file content) := by
    rw [List.reverse_cons, Node.get?_snoc directory, found]
  obtain ⟨left, goes⟩ := exists_locate_join outer.filled plain admissible leads
  rw [walk, directory] at goes
  simp only [short, found, if_false, walk, inside] at goes
  exact readText_of_locate goes

/-- A path leads where it led when something was placed. -/
theorem exists_locate_of_places {node : Node} {place : List String}
    (places : Node.Places disk.tree after.tree place) (start : after.start = disk.start)
    (located : disk.locate true path = .ok (.present names node)) :
    ∃ node', after.locate true path = .ok (.present names node') ∧ after.tree.get? names.reverse = some node' := by
  have admissible := admissible_of_locate located
  rw [locate_eq admissible] at located
  obtain ⟨leads, there⟩ := leads_of_walk located
  obtain ⟨node', now⟩ := Node.exists_of_stands (places.stands names.reverse) there
  have leads := leads.of_stands places.stands
  rw [← start] at leads
  exact ⟨node', locate_of_leads admissible leads now, now⟩

/-- A path leads where it led, whatever the edits were. -/
theorem exists_locate_of_edited {made : List Edit} {node : Node} (edited : disk.Edited made after)
    (located : disk.locate true path = .ok (.present names node)) :
    ∃ node', after.locate true path = .ok (.present names node') ∧ after.tree.get? names.reverse = some node' := by
  induction edited generalizing node with
  | nil => exact ⟨node, located, (arrives_of_locate located).get?⟩
  | cons makes _ ih =>
    obtain ⟨place, places, start⟩ := exists_places_of_makes makes
    obtain ⟨_, now, _⟩ := exists_locate_of_places places start located
    exact ih now

/-- A file is read as before when something else was placed. -/
theorem readText_of_places {names' : List String} {node : Node} (read : disk.readText path = .ok text)
    (places : Node.Places disk.tree after.tree names.reverse) (start : after.start = disk.start)
    (located : disk.locate true path = .ok (.present names' node)) (elsewhere : names' ≠ names) :
    after.readText path = .ok text := by
  obtain ⟨found, content, there, right⟩ := exists_of_readText read
  obtain ⟨rfl, rfl⟩ := Place.present.inj (Except.ok.inj (located.symm.trans there))
  obtain ⟨node', now, kept⟩ := exists_locate_of_places places start located
  have file := (arrives_of_locate located).get?
  rw [← Node.faceAt_eq_file_iff, ← places.same _ fun same => elsewhere (List.reverse_inj.mp same),
    Node.faceAt_eq_file_iff, kept] at file
  obtain rfl := Option.some.inj file
  rw [readText_of_locate now, right]

/-- A path leads to the file that was written by it. -/
theorem locate_of_write (written : disk.write path content = .ok after) (found : disk.writable path = .ok names) :
    after.locate true path = .ok (.present names (.file content)) := by
  obtain ⟨names', same, rfl⟩ := exists_put_of_write written
  obtain rfl := Except.ok.inj (found.symm.trans same)
  obtain ⟨places, there⟩ := places_of_writable found content
  rcases locate_of_writable found with ⟨old, located⟩ | ⟨directory, name, rfl, located⟩
  · obtain ⟨node', now, kept⟩ := exists_locate_of_places places rfl located
    obtain rfl := Option.some.inj (kept.symm.trans there)
    exact now
  · have placed := there
    rw [List.reverse_cons] at placed
    have leads := (arrives_of_locate located).leads places.stands placed nofun
    exact locate_of_leads (admissible_of_locate located) leads there

/-- What is written into a directory has a name that is short enough. -/
theorem short_of_writeText {dir name : String} (filled : dir.isEmpty = false) (plain : IsName name)
    (written : disk.writeText (join dir name) text = .ok after) : ¬ nameLimit < name.utf8ByteSize := by
  obtain ⟨names, found, _⟩ := exists_put_of_write written
  have located := locate_of_write written found
  rw [locate_eq (admissible_of_locate located), steps_join filled plain] at located
  obtain ⟨_, _, _, last⟩ := (leads_of_walk located).1.exists_of_append rfl
  cases last with
  | link _ short | name _ short => exact short

theorem textOf_toUTF8 (text : String) : textOf text.toUTF8 = .ok text := by
  rw [textOf, String.fromUTF8?, String.toUTF8_eq_toByteArray, dif_pos text.isValidUTF8]
  rfl

/-- What was written is read. -/
theorem readText_of_write (written : disk.write path text.toUTF8 = .ok after) : after.readText path = .ok text := by
  obtain ⟨names, found, _⟩ := exists_put_of_write written
  rw [readText_of_locate (locate_of_write written found), textOf_toUTF8]

/-- What was written by one path is read by any path that led to the same file. -/
theorem readText_of_landsOn (written : disk.write path text.toUTF8 = .ok after) (lands : disk.LandsOn path other) :
    after.readText other = .ok text := by
  obtain ⟨names, found, rfl⟩ := exists_put_of_write written
  obtain ⟨names', node, same, located⟩ := lands
  obtain rfl := Except.ok.inj (found.symm.trans same)
  obtain ⟨places, there⟩ := places_of_writable found text.toUTF8
  obtain ⟨node', now, kept⟩ := exists_locate_of_places places rfl located
  obtain rfl := Option.some.inj (kept.symm.trans there)
  rw [readText_of_locate now, textOf_toUTF8]

/-- If a file is written to by a path that a write led to before, then that write went to the file. -/
theorem landsOn_of_write (written : disk.write path content = .ok after) (read : disk.readText other = .ok text)
    (lands : after.LandsOn other path) : disk.LandsOn path other := by
  obtain ⟨names, found, same⟩ := exists_put_of_write written
  obtain ⟨names', node, found', located'⟩ := lands
  obtain ⟨rfl, _⟩ := Place.present.inj (Except.ok.inj (located'.symm.trans (locate_of_write written found)))
  obtain ⟨place, old, located, _⟩ := exists_of_readText read
  subst same
  obtain ⟨node', now, _⟩ := exists_locate_of_places (places_of_writable found content).1 rfl located
  rcases locate_of_writable found' with ⟨old', there⟩ | ⟨directory, name, _, there⟩
  · obtain ⟨rfl, _⟩ := Place.present.inj (Except.ok.inj (now.symm.trans there))
    exact ⟨_, _, found, located⟩
  · cases now.symm.trans there

/-- An edit leaves a file as it is unless it writes to it. -/
theorem readText_of_makes {edit : Edit} (makes : edit.Makes disk after) (read : disk.readText other = .ok text)
    (spared : ∀ path, edit.file? = some path → ¬ disk.LandsOn path other) : after.readText other = .ok text := by
  obtain ⟨names, content, located, _⟩ := exists_of_readText read
  cases makes with
  | @write _ _ path _ written =>
    obtain ⟨place, found, rfl⟩ := exists_put_of_write written
    obtain ⟨places, _⟩ := places_of_writable found _
    refine readText_of_places read places rfl located fun same => spared path rfl ?_
    exact ⟨place, _, found, same ▸ located⟩
  | makeDirectory made =>
    obtain ⟨directory, name, arrives, rfl⟩ := exists_put_of_makeDirectory made
    refine readText_of_places read (places_of_vacant arrives) rfl located fun same => ?_
    -- there was nothing where the directory was made
    obtain ⟨entries, there, none⟩ := arrives.missing
    have file := (arrives_of_locate located).get?
    rw [same, List.reverse_cons, Node.get?_snoc there, none] at file
    cases file

/-- A text is read off the bytes that it is written as. -/
theorem toUTF8_of_textOf (right : textOf content = .ok text) : text.toUTF8 = content := by
  rw [textOf, String.fromUTF8?] at right
  split at right
  · next valid found =>
    cases right
    split at found
    · cases found
      rfl
    · cases found
  · cases right

theorem read_of_readText (read : disk.readText path = .ok text) : disk.read path = .ok text.toUTF8 := by
  obtain ⟨names, content, located, right⟩ := exists_of_readText read
  rw [Disk.read, Disk.node, located, toUTF8_of_textOf right]

/-- A file stays as it is if its own text is written, wherever that goes. -/
theorem readText_of_copy (read : disk.readText other = .ok text) (copied : disk.write path text.toUTF8 = .ok after) :
    after.readText other = .ok text := by
  by_cases lands : disk.LandsOn path other
  · exact readText_of_landsOn copied lands
  · refine readText_of_makes (.write copied) read fun written same => ?_
    cases same
    exact lands

/-- A copy of a file stays as it is when the file is replaced, unless the copy was written to the file itself. -/
theorem readText_of_replaced {middle : Disk} (read : disk.readText other = .ok text)
    (copied : disk.write path text.toUTF8 = .ok middle) (replaced : middle.write other content = .ok after)
    (apart : ¬ disk.LandsOn path other) : after.readText path = .ok text := by
  refine readText_of_makes (.write replaced) (readText_of_write copied) fun written same => ?_
  cases same
  exact mt (landsOn_of_write copied read) apart

/-! ## Places that are left alone -/

/-- The place to which a write to the path goes. -/
def WritesTo (disk : Disk) (path : String) (place : List String) : Prop :=
  ∃ names, disk.writable path = .ok names ∧ names.reverse = place

/-- Only at the places to which writes to these paths go is anything changed, made or taken away. -/
def SameBut (before : Disk) (paths : List String) (after : Disk) : Prop :=
  ∀ place, (∀ path ∈ paths, ¬ before.WritesTo path place) →
    Node.faceAt place after.tree = Node.faceAt place before.tree

theorem sameBut_of_write (written : disk.write path content = .ok after) : disk.SameBut [path] after := by
  obtain ⟨names, found, rfl⟩ := exists_put_of_write written
  intro place spared
  refine (places_of_writable found content).1.same place fun same => ?_
  exact spared path (List.mem_singleton_self path) ⟨names, found, same.symm⟩

/-- A file is written to where it was read before something else was placed. -/
theorem writable_of_places {place : List String} (read : disk.readText path = .ok text)
    (places : Node.Places disk.tree after.tree place) (start : after.start = disk.start)
    (found : after.writable path = .ok names) : disk.writable path = .ok names := by
  obtain ⟨names', content, located, _⟩ := exists_of_readText read
  obtain ⟨node, now, _⟩ := exists_locate_of_places places start located
  have same : names' = names := by
    rcases locate_of_writable found with ⟨old, there⟩ | ⟨directory, name, _, there⟩
    · exact (Place.present.inj (Except.ok.inj (now.symm.trans there))).1
    · cases now.symm.trans there
  rw [writable] at found ⊢
  split at found
  · dsimp only at found
    split at found <;> cases found
  · next named => rw [if_neg named, located, same]

/-- A file is replaced once its text was copied: nothing else changes. -/
theorem sameBut_of_replaced {middle : Disk} (read : disk.readText other = .ok text)
    (copied : disk.write path text.toUTF8 = .ok middle) (replaced : middle.write other content = .ok after) :
    disk.SameBut [other, path] after := by
  intro place spared
  obtain ⟨unreplaced, uncopied⟩ := List.forall_mem_cons.mp spared
  rw [← sameBut_of_write copied place uncopied]
  refine sameBut_of_write replaced place fun another member => ?_
  rw [List.mem_singleton.mp member]
  obtain ⟨names, found, rfl⟩ := exists_put_of_write copied
  rintro ⟨names', found', same⟩
  exact unreplaced ⟨names', writable_of_places read (places_of_writable found _).1 rfl found', same⟩

end Disk

namespace Workspace

variable {ws : Workspace} {path text : String} {names : List String}

/-- A file is written where it belongs, and the write is recorded. -/
theorem writeText_of_writable (admissible : Admissible path) (found : ws.disk.writable path = .ok names) :
    ws.writeText path text = (.ok (), ⟨ws.disk.put names (.file text.toUTF8), ⟨path, true⟩ :: ws.attempts⟩) := by
  rw [writeText, Disk.writeText_eq admissible, found]
  rfl

/-- A directory that is there need not be made. -/
theorem ensureDirectory_of_exists (filled : path.isEmpty = false) (taken : ws.disk.makeDirectory path = .error .exists)
    (directory : ws.disk.isDirectory path = true) : ws.ensureDirectory path = (.ok (), ws) := by
  rw [ensureDirectory, Disk.ensureDirectory, Disk.makeDirectories, filled]
  simp only [taken, directory, Bool.false_eq_true, if_false, if_true]

end Workspace

end UiCheck.Files
