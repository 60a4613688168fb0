import UiCheck.Proofs.Patch.Physical

/-! # What a patch leaves behind

In a project without links an accepted path leads to the place that its names tell. So two updates write the same file
exactly if their paths have the same names, and the last of them is what the file holds in the end. All else is as it
was, up to directories that were added. A patch that fails stops at one update, and has done the same as the updates
before it alone.
-/

namespace UiCheck.Patch

open Files

/-- The updates whose paths are accepted. -/
def accepted (root : String) (updates : List FileUpdate) : List FileUpdate :=
  updates.filter fun update => (resolve? root update.path).isSome

/-- What the accepted paths of updates denote below the root, in order. -/
def targets (root : String) (updates : List FileUpdate) : List String :=
  updates.filterMap fun update => resolve? root update.path

section

variable {root : String} {update : FileUpdate} {target : String}

theorem accepted_cons_of_none (refused : resolve? root update.path = none) (updates : List FileUpdate) :
    accepted root (update :: updates) = accepted root updates :=
  List.filter_cons_of_neg (by simp [refused])

theorem accepted_cons_of_some (resolved : resolve? root update.path = some target) (updates : List FileUpdate) :
    accepted root (update :: updates) = update :: accepted root updates :=
  List.filter_cons_of_pos (by simp [resolved])

theorem targets_cons_of_none (refused : resolve? root update.path = none) (updates : List FileUpdate) :
    targets root (update :: updates) = targets root updates :=
  List.filterMap_cons_none refused

theorem targets_cons_of_some (resolved : resolve? root update.path = some target) (updates : List FileUpdate) :
    targets root (update :: updates) = target :: targets root updates :=
  List.filterMap_cons_some resolved

/-- What is refused has no effect. -/
theorem Applying.of_accepted {ws last : Workspace} {written : List String} {updates : List FileUpdate}
    {answer : Except Error (List String)} (applying : Applying root ws written updates answer last) :
    Applying root ws written (accepted root updates) answer last := by
  induction applying with
  | done ws written => exact .done ws written
  | refused refused _ ih =>
    rw [accepted_cons_of_none refused]
    exact ih
  | failed resolved failed =>
    rw [accepted_cons_of_some resolved]
    exact .failed resolved failed
  | written resolved wrote _ ih =>
    rw [accepted_cons_of_some resolved]
    exact .written resolved wrote ih

end

/-! ## One write -/

/-- The root leads to a directory, and there is no link below it. -/
structure Project (disk : Disk) (root : String) (place : List String) : Prop where
  rooted : Rooted disk root place
  linkless : ∀ names target, Node.faceAt (place.reverse ++ names) disk.tree ≠ some (.link target)

/-- A way that stays below a place without links crosses none. -/
theorem not_crossesLink {tree : Node} {place : List String} {way : List Part} {depth : Nat}
    (linkless : ∀ names target, Node.faceAt (place.reverse ++ names) tree ≠ some (.link target)) (deeper : List String)
    (deep : depth? deeper.length way = some depth) : ¬ CrossesLink tree (deeper ++ place) way := by
  induction way generalizing deeper with
  | nil => exact id
  | cons part way ih =>
    cases part with
    | name text =>
      rintro (⟨target, linked⟩ | crosses)
      · rw [← List.cons_append, List.reverse_append] at linked
        exact linkless _ target linked
      · exact ih (text :: deeper) deep crosses
    | here => exact ih deeper deep
    | up =>
      cases deeper with
      | nil => cases deep
      | cons name deeper => exact ih deeper deep
    | root => cases deep

/-- A file was written, and for the rest only directories were added. -/
structure Written (before after : Disk) (target content : String) (spot : List String) : Prop where
  found : after.locate true target = .ok (.present spot.reverse (.file content.toUTF8))
  others : ∀ names, names ≠ spot → Node.KeptAt names before.tree after.tree

namespace Project

variable {disk after : Disk} {root path target content : String} {place : List String}

theorem of_edited {made : List Edit} (project : Project disk root place) (edited : disk.Edited made after) :
    Project after root place := by
  induction edited with
  | nil => exact project
  | cons makes _ ih =>
    obtain ⟨_, places, start⟩ := Disk.exists_places_of_makes makes
    refine ih ⟨project.rooted.of_places places start, fun names target linked => ?_⟩
    exact project.linkless names target ((places.link_iff _ target).mp linked)

/-- An accepted path is written at its names below the place of the root. -/
theorem written_of_write (project : Project disk root place) (resolved : resolve? root path = some target)
    (written : disk.write target content.toUTF8 = .ok after) :
    Written disk after target content (place.reverse ++ placeOf path) := by
  obtain ⟨_, depth, deep, _⟩ := exists_depth_of_resolve? resolved
  have uncrossed : ¬ CrossesLink disk.tree place (parts path) := not_crossesLink project.linkless [] deep
  obtain ⟨way, whole, onward, ⟨_, deep⟩, names, uncrossed⟩ := exists_goesOn resolved uncrossed
  obtain ⟨arrived, arrives, places, _, found⟩ := Disk.exists_arrives_of_write written
  rw [whole] at arrives
  have spot := project.rooted.names_eq arrives onward deep uncrossed
  rw [names] at spot
  rw [spot] at places
  rw [← List.reverse_reverse arrived.names, spot] at found
  exact ⟨found, fun names elsewhere => .inl (places.same names elsewhere)⟩

theorem written {ws after : Workspace} (project : Project ws.disk root place)
    (resolved : resolve? root path = some target) (written : writeUpdate ws target content = (.ok (), after)) :
    Written ws.disk after.disk target content (place.reverse ++ placeOf path) := by
  obtain ⟨paved, middle, paves, edited, done⟩ := exists_of_writeUpdate written
  have wrote := Workspace.write_of_writeText done
  obtain ⟨found, others⟩ := (project.of_edited edited.disk).written_of_write resolved wrote
  have ways := Disk.paved_of_edited edited.disk paves
  exact ⟨found, fun names elsewhere => (ways names).trans (others names elsewhere)⟩

end Project

/-! ## All writes -/

/-- Updates that were written one after the other below a place: each file holds the content of the last one that names
it, also as it is read by its path, and anywhere else nothing was changed, up to directories that were added. -/
structure Leaves (root : String) (place : List String) (before after : Disk) (updates : List FileUpdate) : Prop where
  named : ∀ front update back, updates = front ++ update :: back →
    (∀ later ∈ back, placeOf later.path ≠ placeOf update.path) →
    Node.faceAt (place.reverse ++ placeOf update.path) after.tree = some (.file update.content.toUTF8) ∧
      ∀ target, resolve? root update.path = some target → after.readText target = .ok update.content
  others : ∀ names, (∀ update ∈ updates, names ≠ place.reverse ++ placeOf update.path) →
    Node.KeptAt names before.tree after.tree

section

variable {root : String} {place : List String} {before middle after : Disk} {update : FileUpdate}
  {updates : List FileUpdate} {target : String} {made : List Edit}

/-- A file that no later update names stays as it was written, and is read by its path. -/
theorem Leaves.last (leaves : Leaves root place middle after updates)
    (found : middle.locate true target =
      .ok (.present (place.reverse ++ placeOf update.path).reverse (.file update.content.toUTF8)))
    (edited : middle.Edited made after) (last : ∀ later ∈ updates, placeOf later.path ≠ placeOf update.path) :
    Node.faceAt (place.reverse ++ placeOf update.path) after.tree = some (.file update.content.toUTF8) ∧
      after.readText target = .ok update.content := by
  have there := (Disk.arrives_of_locate found).get?
  rw [List.reverse_reverse, ← Node.faceAt_eq_file_iff] at there
  have stays : Node.faceAt (place.reverse ++ placeOf update.path) after.tree =
      some (.file update.content.toUTF8) := by
    refine (leaves.others _ fun later member same => ?_).file there
    exact last later member (List.append_cancel_left same).symm
  refine ⟨stays, ?_⟩
  obtain ⟨node, now, kept⟩ := Disk.exists_locate_of_edited edited found
  rw [List.reverse_reverse, Node.faceAt_eq_file_iff.mp stays] at kept
  obtain rfl := Option.some.inj kept
  rw [Disk.readText_of_locate now, Disk.textOf_toUTF8]

/-- What is written first is held where nothing later is written. -/
theorem Leaves.cons (resolved : resolve? root update.path = some target)
    (written : Written before middle target update.content (place.reverse ++ placeOf update.path))
    (edited : middle.Edited made after) (leaves : Leaves root place middle after updates) :
    Leaves root place before after (update :: updates) := by
  constructor
  · intro front named back split last
    cases front with
    | nil =>
      obtain ⟨rfl, rfl⟩ := List.cons.inj split
      obtain ⟨stays, read⟩ := leaves.last written.found edited last
      refine ⟨stays, fun other resolved' => ?_⟩
      obtain rfl := Option.some.inj (resolved.symm.trans resolved')
      exact read
    | cons first front =>
      obtain ⟨rfl, shorter⟩ := List.cons.inj split
      exact leaves.named front named back shorter last
  · intro names elsewhere
    obtain ⟨first, later⟩ := List.forall_mem_cons.mp elsewhere
    exact (written.others names first).trans (leaves.others names later)

/-- A patch that succeeds has written the accepted updates. -/
theorem Project.leaves {ws last : Workspace} {written files : List String} (project : Project ws.disk root place)
    (applying : Applying root ws written updates (.ok files) last) :
    files = written.reverse ++ targets root updates ∧
      Leaves root place ws.disk last.disk (accepted root updates) := by
  generalize succeeds : Except.ok files = answer at applying
  induction applying with
  | done ws written =>
    cases succeeds
    refine ⟨(List.append_nil _).symm, fun front update back split => ?_, fun names _ => .inl rfl⟩
    exact absurd split.symm (List.append_ne_nil_of_right_ne_nil _ (List.cons_ne_nil _ _))
  | refused refused _ ih =>
    rw [accepted_cons_of_none refused, targets_cons_of_none refused]
    exact ih project succeeds
  | failed => cases succeeds
  | written resolved done rest ih =>
    obtain ⟨_, _, _, paved, wrote⟩ := exists_of_writeUpdate done
    have onward := project.of_edited (paved.trans (Workspace.edited_of_writeText wrote)).disk
    obtain ⟨listed, leaves⟩ := ih onward succeeds
    obtain ⟨made, edited, _⟩ := rest.exists_edited
    rw [accepted_cons_of_some resolved, targets_cons_of_some resolved]
    refine ⟨?_, leaves.cons resolved (project.written resolved done) edited.disk⟩
    rw [listed, List.reverse_cons, List.append_assoc]
    rfl

end

/-- A patch that fails has written the accepted updates in front of one, which failed, and stops there. -/
theorem Applying.exists_failed {root : String} {ws last : Workspace} {written : List String}
    {updates : List FileUpdate} {cause : Error} (applying : Applying root ws written updates (.error cause) last) :
    ∃ earlier update later e target middle files, accepted root updates = earlier ++ update :: later ∧
      cause = .io update.path e ∧ Applying root ws written earlier (.ok files) middle ∧
      writeUpdate middle target update.content = (.error e, last) := by
  generalize fails : Except.error cause = answer at applying
  induction applying with
  | done => cases fails
  | refused refused _ ih =>
    rw [accepted_cons_of_none refused]
    exact ih fails
  | @failed ws _ written update updates target e resolved stopped =>
    cases fails
    rw [accepted_cons_of_some resolved]
    exact ⟨[], update, accepted root updates, e, target, ws, _, rfl, rfl, .done ws written, stopped⟩
  | @written _ _ _ _ update _ _ _ resolved done _ ih =>
    obtain ⟨earlier, next, later, e, target, middle, files, split, named, first, stopped⟩ := ih fails
    rw [accepted_cons_of_some resolved, split]
    exact ⟨update :: earlier, next, later, e, target, middle, files, rfl, named, .written resolved done first, stopped⟩

/-- In a project without links a patch does what its accepted updates do. If it succeeds, it lists their targets in
order; every file that they name holds what the last one with its names says, and anything else is as it was, up to
directories that were added. If it fails, then at one of them: the updates in front of it alone would have succeeded,
and what they leave is what there is, up to directories that were added. -/
theorem apply_writes_accepted (root : String) (ws : Workspace) (updates : List FileUpdate) (place : List String)
    (entries : Files.Entries)
    (located : walk ws.disk.tree true linkLimit ws.disk.start.reverse (steps root) =
      .ok (.present place (.directory entries)))
    (linkless : ∀ names target, Node.faceAt (place.reverse ++ names) ws.disk.tree ≠ some (.link target)) :
    apply root ws updates = apply root ws (accepted root updates) ∧
    (∀ files last, apply root ws updates = (.ok files, last) →
      files = targets root updates ∧
      Leaves root place ws.disk last.disk (accepted root updates)) ∧
    ∀ cause last, apply root ws updates = (.error cause, last) →
      ∃ earlier update later e middle, accepted root updates = earlier ++ update :: later ∧
        cause = .io update.path e ∧
        apply root ws earlier = (.ok (targets root earlier), middle) ∧
        Leaves root place ws.disk middle.disk earlier ∧ middle.disk.tree.Paved last.disk.tree := by
  have project : Project ws.disk root place := ⟨rooted_of_walk located, linkless⟩
  have applying := applying_applyFrom root ws [] updates
  refine ⟨applying.of_accepted.applyFrom_eq.symm, fun files last applied => ?_, fun cause last failed => ?_⟩
  · rw [← apply, applied] at applying
    exact project.leaves applying
  · rw [← apply, failed] at applying
    obtain ⟨earlier, update, later, e, target, middle, files, split, named, first, stopped⟩ := applying.exists_failed
    obtain ⟨listed, leaves⟩ := project.leaves first
    have all : accepted root earlier = earlier := by
      rw [accepted, List.filter_eq_self]
      intro other member
      have among : other ∈ accepted root updates := split ▸ List.mem_append_left _ member
      exact (List.mem_filter.mp among).2
    rw [all] at leaves
    rw [List.reverse_nil, List.nil_append] at listed
    obtain ⟨_, paves, edited⟩ := exists_of_writeUpdate_error stopped
    have paved := Disk.paved_of_edited edited.disk paves
    refine ⟨earlier, update, later, e, middle, split, named, ?_, leaves, paved⟩
    rw [← listed]
    exact first.applyFrom_eq

/-- A project with one file. -/
def smallProject (text : String) : Disk :=
  { tree := .directory [("p", .directory [("a.ts", .file text.toUTF8)])], start := [] }

theorem walk_smallProject (text : String) : walk (smallProject text).tree true linkLimit [] [.root, .name "p"] =
    .ok (.present ["p"] (.directory [("a.ts", .file text.toUTF8)])) := by
  have fits : ¬ nameLimit < "p".utf8ByteSize := by decide +kernel
  simp [walk, smallProject, Node.get?, Node.child?, fits]

theorem ensureDirectory_smallProject {ws : Workspace} {text : String} (small : ws.disk = smallProject text) :
    ws.ensureDirectory "/p" = (.ok (), ws) := by
  have named : Disk.nameSteps "/p" = [.root, .name "p"] := by decide +kernel
  have way : steps "/p" = [.root, .name "p"] := by decide +kernel
  have fits : ¬ nameLimit < "p".utf8ByteSize := by decide +kernel
  have taken : ws.disk.makeDirectory "/p" = .error .exists := by
    obtain ⟨filled, clean, short⟩ : Admissible "/p" := by decide +kernel
    rw [small, Disk.makeDirectory, if_neg filled, if_neg clean, if_neg short, named]
    simp [walk, smallProject, Node.get?, Node.child?, fits]
  have directory : ws.disk.isDirectory "/p" = true := by
    have located := walk_smallProject text
    rw [small, Disk.isDirectory, Disk.node, Disk.locate_eq (by decide +kernel), way]
    rw [smallProject] at located ⊢
    rw [List.reverse_nil, located]
    rfl
  exact Workspace.ensureDirectory_of_exists (by decide +kernel) taken directory

theorem exists_writeUpdate_smallProject {ws : Workspace} {text : String} (small : ws.disk = smallProject text)
    (target content : String) (admissible : Admissible target) (named : Disk.asksDirectory target = false)
    (way : steps target = [.root, .name "p", .name "a.ts"]) (above : parent target = "/p") :
    ∃ after, writeUpdate ws target content = (.ok (), after) ∧ after.disk = smallProject content := by
  have fits : ¬ nameLimit < "p".utf8ByteSize ∧ ¬ nameLimit < "a.ts".utf8ByteSize := by decide +kernel
  have there : (smallProject text).locate true target = .ok (.present ["a.ts", "p"] (.file text.toUTF8)) := by
    rw [Disk.locate_eq admissible, way]
    simp [walk, smallProject, Node.get?, Node.child?, fits]
  have place : ws.disk.writable target = .ok ["a.ts", "p"] := by
    rw [small, Disk.writable, named, if_neg (by simp), there]
  have written := @Workspace.writeText_of_writable ws target content _ admissible place
  rw [writeUpdate, above, ensureDirectory_smallProject small]
  exact ⟨_, written, by rw [small]; rfl⟩

theorem linkless_smallProject (text : String) (names : List String) (target : String) :
    Node.faceAt (["p"] ++ names) (smallProject text).tree ≠ some (.link target) := by
  cases names with
  | nil => simp [Node.faceAt, smallProject, Node.get?, Node.child?, Node.face]
  | cons name names =>
    by_cases same : name = "a.ts"
    · subst same
      cases names <;> simp [Node.faceAt, smallProject, Node.get?, Node.child?, Node.face]
    · have other : (name == "a.ts") = false := beq_eq_false_iff_ne.mpr same
      simp [Node.faceAt, smallProject, Node.get?, Node.child?, List.lookup_cons, other]

/-- Of two spellings of one path the later one counts, and a path that leaves the project does nothing. -/
theorem apply_writes_accepted_twice : ∃ last,
    apply "/p" (.ofDisk (smallProject "")) [⟨"a.ts", "x"⟩, ⟨"../b.ts", "y"⟩, ⟨"./a.ts", "z"⟩] =
      (.ok ["/p/a.ts", "/p/./a.ts"], last) ∧
    Node.faceAt ["p", "a.ts"] last.disk.tree = some (.file "z".toUTF8) := by
  have way : steps "/p" = [.root, .name "p"] := by decide +kernel
  have located := walk_smallProject ""
  rw [← way] at located
  obtain ⟨_, held, _⟩ := apply_writes_accepted "/p" (.ofDisk (smallProject ""))
    [⟨"a.ts", "x"⟩, ⟨"../b.ts", "y"⟩, ⟨"./a.ts", "z"⟩] ["p"] _ located (linkless_smallProject "")
  have first : resolve? "/p" "a.ts" = some "/p/a.ts" := by decide +kernel
  have refused : resolve? "/p" "../b.ts" = none := by decide +kernel
  have second : resolve? "/p" "./a.ts" = some "/p/./a.ts" := by decide +kernel
  have small : (Workspace.ofDisk (smallProject "")).disk = smallProject "" := rfl
  obtain ⟨middle, wrote, now⟩ := exists_writeUpdate_smallProject small "/p/a.ts" "x"
    (by decide +kernel) (by decide +kernel) (by decide +kernel) (by decide +kernel)
  obtain ⟨last, rewrote, _⟩ := exists_writeUpdate_smallProject now "/p/./a.ts" "z"
    (by decide +kernel) (by decide +kernel) (by decide +kernel) (by decide +kernel)
  have applied : apply "/p" (.ofDisk (smallProject "")) [⟨"a.ts", "x"⟩, ⟨"../b.ts", "y"⟩, ⟨"./a.ts", "z"⟩] =
      (.ok ["/p/a.ts", "/p/./a.ts"], last) := by
    simp only [apply, applyFrom, first, refused, second, wrote, rewrote]
    rfl
  obtain ⟨_, named, _⟩ := held _ last applied
  have names : placeOf "./a.ts" = ["a.ts"] := by decide +kernel
  obtain ⟨file, _⟩ := named [⟨"a.ts", "x"⟩] ⟨"./a.ts", "z"⟩ [] (by decide +kernel)
    fun _ member => absurd member List.not_mem_nil
  rw [names] at file
  exact ⟨last, applied, file⟩

end UiCheck.Patch
