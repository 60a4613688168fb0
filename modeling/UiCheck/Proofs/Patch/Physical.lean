import UiCheck.Proofs.Files.Frame
import UiCheck.Proofs.Files.Way
import UiCheck.Proofs.Patch.Apply

/-! # Where a patch writes

A path is accepted by its text alone. If it goes through no link below the root, then the place where it leads lies
below that of the root, and so does all that is created or changed on the way. A link below the root may lead
elsewhere, and a patch that goes through it writes there.
-/

namespace UiCheck.Files

/-- The names of a place, in reverse order, whether something is there or not. -/
def Place.names : Place → List String
  | .present names _ => names
  | .vacant directory name => name :: directory

/-- A link is among the names of a way that is followed by its text alone. -/
def CrossesLink (tree : Node) (names : List String) : List Part → Prop
  | [] => False
  | .name text :: way =>
    (∃ target, Node.faceAt (text :: names).reverse tree = some (.link target)) ∨ CrossesLink tree (text :: names) way
  | .up :: way => CrossesLink tree names.tail way
  | .here :: way => CrossesLink tree names way
  | .root :: way => CrossesLink tree [] way

variable {tree after : Node} {names : List String} {way more : List Part}

/-- Only links count. -/
theorem crossesLink_congr
    (same : ∀ place target,
      Node.faceAt place after = some (.link target) ↔ Node.faceAt place tree = some (.link target))
    (names : List String) (way : List Part) : CrossesLink after names way ↔ CrossesLink tree names way := by
  induction way generalizing names with
  | nil => rfl
  | cons part way ih =>
    cases part with
    | name text =>
      rw [CrossesLink, CrossesLink, ih]
      simp only [same]
    | up => exact ih names.tail
    | here => exact ih names
    | root => exact ih []

theorem CrossesLink.append (crosses : CrossesLink tree names way) (more : List Part) :
    CrossesLink tree names (way ++ more) := by
  induction way generalizing names with
  | nil => exact crosses.elim
  | cons part way ih =>
    cases part with
    | name text =>
      rcases crosses with linked | crosses
      · exact .inl linked
      · exact .inr (ih crosses)
    | up => exact @ih names.tail crosses
    | here => exact @ih names crosses
    | root => exact @ih [] crosses

theorem faceAt_of_linked {entries : Files.Entries} {text target : String}
    (directory : tree.get? names.reverse = some (.directory entries))
    (linked : entries.lookup text = some (.link target)) :
    Node.faceAt (text :: names).reverse tree = some (.link target) := by
  rw [List.reverse_cons, Node.faceAt, Node.get?_snoc directory, linked]
  rfl

/-! ## The path of an edit -/

namespace Disk

variable {disk after : Disk} {path : String} {content : ByteArray}

/-- What is written to is where the path leads, and no directory. -/
theorem exists_locate_of_writable {names : List String} (found : disk.writable path = .ok names) :
    ∃ arrived, disk.locate true path = .ok arrived ∧ arrived.names = names ∧
      ∀ found entries, arrived ≠ .present found (.directory entries) := by
  rcases locate_of_writable found with ⟨old, located⟩ | ⟨directory, name, rfl, located⟩
  · exact ⟨_, located, rfl, nofun⟩
  · exact ⟨_, located, rfl, nofun⟩

/-- Where a path leads its parts lead, whatever ends it. The path leads to what was written there. -/
theorem exists_arrives_of_write (written : disk.write path content = .ok after) :
    ∃ arrived, Arrives disk.tree true linkLimit disk.start.reverse (parts path) arrived ∧
      Node.Places disk.tree after.tree arrived.names.reverse ∧ after.start = disk.start ∧
      after.locate true path = .ok (.present arrived.names (.file content)) := by
  obtain ⟨names, found, same_disk⟩ := exists_put_of_write written
  have now := locate_of_write written found
  obtain ⟨places, _⟩ := places_of_writable found content
  subst same_disk
  obtain ⟨arrived, located, same, file⟩ := exists_locate_of_writable found
  have arrives := arrives_of_locate located
  rw [← same] at places now ⊢
  rcases steps_eq path with undotted | dotted
  · rw [undotted] at arrives
    exact ⟨arrived, arrives, places, rfl, now⟩
  · obtain ⟨_, _, directory⟩ := arrives.exists_of_here dotted
    exact absurd directory (file _ _)

/-- Without the slash at its end a path goes by its parts, unless it is only a slash or a dot. -/
theorem nameSteps_eq (path : String) :
    nameSteps path = parts path ∨ nameSteps path = parts path ++ [.here] ∨ nameSteps path = [] := by
  rw [nameSteps]
  split
  · next asks =>
    obtain ⟨front, chars⟩ := List.getLast?_eq_some_iff.mp (beq_iff_eq.mp asks)
    have last : (segments path.toList).getLast? = some [] := by
      rw [chars, segments_append_slash]
      exact List.getLast?_concat
    rw [steps, last]
    split
    · next short =>
      rcases short with empty | root | here
      · rw [List.isEmpty_iff.mp empty]
        exact .inl rfl
      · rw [root]
        exact .inr (.inr rfl)
      · rw [here]
        exact .inr (.inr rfl)
    · rw [if_pos (.inl rfl), List.dropLast_concat]
      exact .inl rfl
  · rcases steps_eq path with same | dotted
    · exact .inl same
    · exact .inr (.inl dotted)

theorem exists_arrives_of_makeDirectory (made : disk.makeDirectory path = .ok after) :
    ∃ directory name,
      Arrives disk.tree false linkLimit disk.start.reverse (parts path) (.vacant directory name) ∧
      Node.Places disk.tree after.tree (name :: directory).reverse ∧ after.start = disk.start := by
  obtain ⟨directory, name, arrives, rfl⟩ := exists_put_of_makeDirectory made
  have places := places_of_vacant arrives
  rcases nameSteps_eq path with same | dotted | none
  · rw [same] at arrives
    exact ⟨directory, name, arrives, places, rfl⟩
  · obtain ⟨_, _, other⟩ := arrives.exists_of_here dotted
    cases other
  · rw [none] at arrives
    cases arrives

end Disk

theorem parts_of_above {path above : String} (higher : Above path above) : parts above <+: parts path := by
  induction higher with
  | self => exact List.prefix_rfl
  | parent _ ih => exact ih.trans (parts_parent _)

end UiCheck.Files

namespace UiCheck.Patch

open Files

/-- As far as a path stays below a root and goes through no link, it arrives where its names lead from there. -/
theorem names_of_arrives {tree : Node} {follow : Bool} {links depth : Nat} {names place : List String}
    {way : List Part} {arrived : Place} (arrives : Arrives tree follow links names way arrived) (deeper : List String)
    (inside : names = deeper ++ place) (deep : depth? deeper.length way = some depth)
    (uncrossed : ¬ CrossesLink tree names way) : arrived.names = way.foldl descend deeper ++ place := by
  induction arrives generalizing deeper with
  | present => exact inside
  | root => cases deep
  | here _ _ ih => exact ih deeper inside deep uncrossed
  | up _ _ ih =>
    cases deeper with
    | nil => cases deep
    | cons name deeper =>
      subst inside
      exact ih deeper rfl deep uncrossed
  | vacant =>
    subst inside
    rfl
  | unfollowed directory _ linked | link directory _ linked =>
    exact absurd (.inl ⟨_, faceAt_of_linked directory linked⟩) uncrossed
  | @name _ _ text _ _ _ _ _ _ _ _ _ ih =>
    subst inside
    exact ih (text :: deeper) rfl deep fun crosses => uncrossed (.inr crosses)

theorem exists_depth_of_append {way more : List Part} {start depth : Nat}
    (deep : depth? start (way ++ more) = some depth) : ∃ depth, depth? start way = some depth := by
  induction way generalizing start with
  | nil => exact ⟨start, rfl⟩
  | cons part way ih =>
    cases part with
    | name text => exact @ih (start + 1) deep
    | here => exact @ih start deep
    | up =>
      cases start with
      | zero => cases deep
      | succ start => exact @ih start deep
    | root => cases deep

/-! ## Below a root -/

/-- The root leads to a directory at a place, whose names are in reverse order. -/
structure Rooted (disk : Disk) (root : String) (place : List String) : Prop where
  leads : Leads disk.tree linkLimit disk.start.reverse (parts root) place
  there : ∃ entries, disk.tree.get? place.reverse = some (.directory entries)

section

variable {disk after : Disk} {root : String} {place : List String} {entries : Files.Entries}

theorem rooted_of_walk
    (walked : walk disk.tree true linkLimit disk.start.reverse (steps root) = .ok (.present place (.directory entries))) :
    Rooted disk root place := by
  obtain ⟨leads, there⟩ := leads_of_walk walked
  exact ⟨leads.parts, entries, there⟩

theorem rooted_of_locate (located : disk.locate true root = .ok (.present place (.directory entries))) :
    Rooted disk root place := by
  rw [Disk.locate_eq (Disk.admissible_of_locate located)] at located
  exact rooted_of_walk located

/-- A root stays where it is, whatever is placed. -/
theorem Rooted.of_places {somewhere : List String} (rooted : Rooted disk root place)
    (places : Node.Places disk.tree after.tree somewhere) (start : after.start = disk.start) :
    Rooted after root place := by
  obtain ⟨leads, entries, there⟩ := rooted
  have leads := leads.of_stands places.stands
  rw [← start] at leads
  exact ⟨leads, Node.exists_directory_of_stands places.stands there⟩

/-- A way without links that goes on behind the root arrives where its names lead from there. -/
theorem Rooted.names_eq {follow : Bool} {way : List Part} {arrived : Place} {depth : Nat}
    (rooted : Rooted disk root place)
    (arrives : Arrives disk.tree follow linkLimit disk.start.reverse (parts root ++ way) arrived) (onward : way ≠ [])
    (deep : depth? 0 way = some depth) (uncrossed : ¬ CrossesLink disk.tree place way) :
    arrived.names.reverse = place.reverse ++ (way.foldl descend []).reverse := by
  obtain ⟨left, arrives⟩ := rooted.leads.arrives_append onward arrives
  rw [names_of_arrives arrives [] rfl deep uncrossed, List.reverse_append]

/-- What is placed behind the root, on a way without links, is placed strictly below it. -/
theorem Rooted.exists_deeper {follow : Bool} {way : List Part} {arrived : Place} {depth : Nat}
    (rooted : Rooted disk root place)
    (arrives : Arrives disk.tree follow linkLimit disk.start.reverse (parts root ++ way) arrived) (onward : way ≠ [])
    (deep : depth? 0 way = some depth) (uncrossed : ¬ CrossesLink disk.tree place way)
    (places : Node.Places disk.tree after.tree arrived.names.reverse) :
    ∃ deeper, deeper ≠ [] ∧ Node.Places disk.tree after.tree (place.reverse ++ deeper) := by
  rw [rooted.names_eq arrives onward deep uncrossed] at places
  obtain ⟨entries, there⟩ := rooted.there
  refine ⟨_, fun empty => ?_, places⟩
  -- nothing is placed where the root itself is
  rw [empty, List.append_nil] at places
  have directory : Node.faceAt place.reverse disk.tree = some .directory := by
    rw [Node.faceAt, there]
    rfl
  rcases places.free with none | ⟨_, _, file, _⟩
  · cases none.symm.trans directory
  · cases file.symm.trans directory

/-- How an accepted path goes on behind the root: it stays inside, and leads to its own names. -/
structure GoesOn (disk : Disk) (root relative target : String) (place : List String) (way : List Part) : Prop where
  whole : parts target = parts root ++ way
  onward : way ≠ []
  deep : ∃ depth, depth? 0 way = some depth
  names : (way.foldl descend []).reverse = placeOf relative
  uncrossed : ¬ CrossesLink disk.tree place way

/-- Behind a root, or behind none, a relative path goes on by its parts, up to a dot at the start. -/
theorem exists_parts_join (root : String) {relative : String} (plain : isAbsolute relative = false) :
    ∃ way, parts (join root relative) = parts root ++ way ∧ (parts relative = way ∨ parts relative = .here :: way) := by
  cases filled : root.isEmpty with
  | false => exact ⟨_, parts_join_relative filled plain, parts_of_relative plain⟩
  | true =>
    obtain rfl := String.isEmpty_iff.mp filled
    refine ⟨parts relative, ?_, .inl rfl⟩
    have same : join "" relative = relative := by
      rw [join, plain, if_neg Bool.false_ne_true, filled, Bool.true_or, if_pos rfl, String.empty_append]
    rw [same]
    rfl

theorem exists_goesOn {relative target : String} (accepted : resolve? root relative = some target)
    (uncrossed : ¬ CrossesLink disk.tree place (parts relative)) : ∃ way, GoesOn disk root relative target place way := by
  have inside := inside_of_resolve? accepted
  obtain ⟨_, depth, deep, positive⟩ := exists_depth_of_resolve? accepted
  obtain ⟨way, whole, own⟩ := exists_parts_join root inside.relative
  rw [← inside.joined] at whole
  have strict {way : List Part} (deep : depth? 0 way = some depth) : way ≠ [] := by
    rintro rfl
    have zero : 0 = depth := Option.some.inj deep
    omega
  have names := placeOf_eq relative
  -- a dot at the start leads nowhere
  rcases own with same | dotted
  · rw [same] at deep uncrossed names
    exact ⟨way, whole, strict deep, ⟨depth, deep⟩, names.symm, uncrossed⟩
  · rw [dotted] at deep uncrossed names
    exact ⟨way, whole, strict deep, ⟨depth, deep⟩, names.symm, uncrossed⟩

/-- An update whose path goes through no link below the root places something strictly below it. -/
theorem Rooted.places_of_asks {update : FileUpdate} {edit : Edit} (rooted : Rooted disk root place)
    (asks : Asks root update edit) (makes : edit.Makes disk after)
    (uncrossed : ¬ CrossesLink disk.tree place (parts update.path)) :
    ∃ deeper, deeper ≠ [] ∧ Node.Places disk.tree after.tree (place.reverse ++ deeper) ∧
      after.start = disk.start := by
  obtain ⟨target, accepted, asked⟩ := asks
  obtain ⟨way, whole, onward, ⟨depth, deep⟩, _, uncrossed⟩ := exists_goesOn accepted uncrossed
  cases makes with
  | @write _ _ path _ written =>
    obtain rfl : path = target := by
      rcases asked with same | ⟨_, same, _⟩ <;> cases same
      rfl
    obtain ⟨arrived, arrives, places, start, _⟩ := Disk.exists_arrives_of_write written
    rw [whole] at arrives
    obtain ⟨deeper, strict, places⟩ := rooted.exists_deeper arrives onward deep uncrossed places
    exact ⟨deeper, strict, places, start⟩
  | @makeDirectory _ _ above made =>
    have higher : parts above <+: parts root ++ way := by
      rcases asked with same | ⟨_, same, higher⟩
      · cases same
      · cases same
        rw [← whole]
        exact (parts_of_above higher).trans (parts_parent target)
    obtain ⟨directory, name, arrives, places, start⟩ := Disk.exists_arrives_of_makeDirectory made
    rcases List.prefix_or_prefix_of_prefix higher (List.prefix_append (parts root) way) with outer | inner
    · -- what is at or above the root is there
      obtain ⟨rest, same⟩ := outer
      obtain ⟨_, _, first, _⟩ := rooted.leads.exists_of_append same.symm
      exact absurd arrives first.not_vacant
    · obtain ⟨front, same⟩ := inner
      rw [← same] at arrives higher
      obtain ⟨rest, rfl⟩ := (List.prefix_append_right_inj _).mp higher
      have onward : front ≠ [] := by
        rintro rfl
        rw [List.append_nil] at arrives
        exact rooted.leads.not_vacant arrives
      obtain ⟨depth, deep⟩ := exists_depth_of_append deep
      have uncrossed : ¬ CrossesLink disk.tree place front := fun crosses => uncrossed (crosses.append rest)
      obtain ⟨deeper, strict, places⟩ := rooted.exists_deeper arrives onward deep uncrossed places
      exact ⟨deeper, strict, places, start⟩

/-- Updates whose paths go through no link below the root change what is strictly below it only. -/
theorem Rooted.exists_deeper_of_edited {updates : List FileUpdate} {made : List Edit} (rooted : Rooted disk root place)
    (edited : disk.Edited made after) (asked : ∀ edit ∈ made, ∃ update ∈ updates, Asks root update edit)
    (uncrossed : ∀ update ∈ updates, ∀ target, resolve? root update.path = some target →
      ¬ CrossesLink disk.tree place (parts update.path))
    (names : List String) (changed : Node.faceAt names after.tree ≠ Node.faceAt names disk.tree) :
    ∃ deeper, deeper ≠ [] ∧ names = place.reverse ++ deeper := by
  induction edited with
  | nil => exact absurd rfl changed
  | @cons disk middle after edit made makes rest ih =>
    obtain ⟨first, later⟩ := List.forall_mem_cons.mp asked
    obtain ⟨update, member, asks⟩ := first
    have ⟨target, accepted, _⟩ := asks
    obtain ⟨deeper, strict, places, start⟩ :=
      rooted.places_of_asks asks makes (uncrossed update member target accepted)
    by_cases here : names = place.reverse ++ deeper
    · exact ⟨deeper, strict, here⟩
    · rw [← places.same names here] at changed
      refine ih (rooted.of_places places start) later ?_ changed
      intro update member target accepted
      rw [crossesLink_congr places.link_iff]
      exact uncrossed update member target accepted

end

/-- All that a patch creates or changes lies strictly below the directory where the root leads, as long as no accepted
path goes through a link below the root. This holds for every tree and every list of updates, also if a write fails. -/
theorem apply_stays_below (root : String) (ws : Workspace) (updates : List FileUpdate) (place : List String)
    (entries : Files.Entries) (located : ws.disk.locate true root = .ok (.present place (.directory entries)))
    (uncrossed : ∀ update ∈ updates, ∀ target, resolve? root update.path = some target →
      ¬ CrossesLink ws.disk.tree place (parts update.path)) :
    ∀ names, Node.faceAt names (apply root ws updates).2.disk.tree ≠ Node.faceAt names ws.disk.tree →
      ∃ deeper, deeper ≠ [] ∧ names = place.reverse ++ deeper := by
  intro names changed
  obtain ⟨made, edited, asked, _⟩ := exists_edited_apply root ws updates
  exact (rooted_of_locate located).exists_deeper_of_edited edited.disk asked uncrossed names changed

/-- A project with a link to the directory above. -/
def linkedProject : Workspace :=
  .ofDisk { tree := .directory [("p", .directory [("out", .link "..")])], start := [] }

theorem locate_linkedProject :
    linkedProject.disk.locate true "/p" = .ok (.present ["p"] (.directory [("out", .link "..")])) := by
  have way : steps "/p" = [.root, .name "p"] := by decide +kernel
  have fits : ¬ nameLimit < "p".utf8ByteSize := by decide +kernel
  rw [Disk.locate_eq (by decide +kernel), way]
  simp [walk, linkedProject, Workspace.ofDisk, Node.get?, Node.child?, fits]

theorem ensureDirectory_linkedProject : linkedProject.ensureDirectory "/p" = (.ok (), linkedProject) := by
  have named : Disk.nameSteps "/p" = [.root, .name "p"] := by decide +kernel
  have fits : ¬ nameLimit < "p".utf8ByteSize := by decide +kernel
  have taken : linkedProject.disk.makeDirectory "/p" = .error .exists := by
    obtain ⟨filled, clean, short⟩ : Admissible "/p" := by decide +kernel
    rw [Disk.makeDirectory, if_neg filled, if_neg clean, if_neg short, named]
    simp [walk, linkedProject, Workspace.ofDisk, Node.get?, Node.child?, fits]
  have directory : linkedProject.disk.isDirectory "/p" = true := by
    rw [Disk.isDirectory, Disk.node, locate_linkedProject]
    rfl
  exact Workspace.ensureDirectory_of_exists (by decide +kernel) taken directory

/-- A link leaves the updates that do not go through it alone. -/
theorem apply_stays_below_linked : ∃ after,
    apply "/p" linkedProject [⟨"a.ts", "x"⟩] = (.ok ["/p/a.ts"], after) ∧
    Node.faceAt ["p", "a.ts"] after.disk.tree = some (.file "x".toUTF8) ∧
    ∀ names, Node.faceAt names after.disk.tree ≠ Node.faceAt names linkedProject.disk.tree →
      ∃ deeper, deeper ≠ [] ∧ names = ["p"] ++ deeper := by
  have accepted : resolve? "/p" "a.ts" = some "/p/a.ts" := by decide +kernel
  have above : parent "/p/a.ts" = "/p" := by decide +kernel
  have way : steps "/p/a.ts" = [.root, .name "p", .name "a.ts"] := by decide +kernel
  have fits : ¬ nameLimit < "p".utf8ByteSize ∧ ¬ nameLimit < "a.ts".utf8ByteSize := by decide +kernel
  have free : linkedProject.disk.locate true "/p/a.ts" = .ok (.vacant ["p"] "a.ts") := by
    rw [Disk.locate_eq (by decide +kernel), way]
    simp [walk, linkedProject, Workspace.ofDisk, Node.get?, Node.child?, List.lookup_cons, fits]
  have place : linkedProject.disk.writable "/p/a.ts" = .ok ["a.ts", "p"] := by
    rw [Disk.writable, if_neg (by decide +kernel), free]
  have written := @Workspace.writeText_of_writable _ _ "x" _ (by decide +kernel) place
  obtain ⟨after, applied, now⟩ : ∃ after, apply "/p" linkedProject [⟨"a.ts", "x"⟩] = (.ok ["/p/a.ts"], after) ∧
      after.disk = linkedProject.disk.put ["a.ts", "p"] (.file "x".toUTF8) := by
    simp only [apply, applyFrom, accepted, writeUpdate, above, ensureDirectory_linkedProject, written]
    exact ⟨_, rfl, rfl⟩
  have below := apply_stays_below "/p" linkedProject [⟨"a.ts", "x"⟩] ["p"] _ locate_linkedProject
    fun update member _ _ => by
      have name : parts "a.ts" = [.name "a.ts"] := by decide +kernel
      rw [List.mem_singleton.mp member, name]
      rintro (⟨target, linked⟩ | crosses)
      · cases linked
      · exact crosses
  rw [applied] at below
  refine ⟨after, applied, ?_, below⟩
  rw [now]
  rfl

/-- A patch goes through a link and writes outside the project. -/
theorem apply_follows_link : ∃ after,
    apply "/p" linkedProject [⟨"out/x.ts", "export {}"⟩] = (.ok ["/p/out/x.ts"], after) ∧
    linkedProject.disk.locate true "/p" = .ok (.present ["p"] (.directory [("out", .link "..")])) ∧
    Node.faceAt ["x.ts"] linkedProject.disk.tree = none ∧
    Node.faceAt ["x.ts"] after.disk.tree = some (.file "export {}".toUTF8) ∧ ¬ ["p"] <+: ["x.ts"] := by
  have accepted : resolve? "/p" "out/x.ts" = some "/p/out/x.ts" := by decide +kernel
  have above : parent "/p/out/x.ts" = "/p/out" := by decide +kernel
  have up : steps ".." = [.up] := by decide +kernel
  have fits : ¬ nameLimit < "p".utf8ByteSize ∧ ¬ nameLimit < "out".utf8ByteSize ∧
    ¬ nameLimit < "x.ts".utf8ByteSize := by decide +kernel
  have there : linkedProject.ensureDirectory "/p/out" = (.ok (), linkedProject) := by
    have named : Disk.nameSteps "/p/out" = [.root, .name "p", .name "out"] := by decide +kernel
    have way : steps "/p/out" = [.root, .name "p", .name "out"] := by decide +kernel
    have taken : linkedProject.disk.makeDirectory "/p/out" = .error .exists := by
      obtain ⟨filled, clean, short⟩ : Admissible "/p/out" := by decide +kernel
      rw [Disk.makeDirectory, if_neg filled, if_neg clean, if_neg short, named]
      simp [walk, linkedProject, Workspace.ofDisk, Node.get?, Node.child?, fits]
    have directory : linkedProject.disk.isDirectory "/p/out" = true := by
      rw [Disk.isDirectory, Disk.node, Disk.locate_eq (by decide +kernel), way]
      simp [walk, linkedProject, Workspace.ofDisk, Node.get?, Node.child?, fits, up, linkLimit,
        Node.isDirectory]
    exact Workspace.ensureDirectory_of_exists (by decide +kernel) taken directory
  have way : steps "/p/out/x.ts" = [.root, .name "p", .name "out", .name "x.ts"] := by decide +kernel
  have free : linkedProject.disk.locate true "/p/out/x.ts" = .ok (.vacant [] "x.ts") := by
    rw [Disk.locate_eq (by decide +kernel), way]
    simp [walk, linkedProject, Workspace.ofDisk, Node.get?, Node.child?, List.lookup_cons, fits, up, linkLimit]
  have place : linkedProject.disk.writable "/p/out/x.ts" = .ok ["x.ts"] := by
    rw [Disk.writable, if_neg (by decide +kernel), free]
  have written := @Workspace.writeText_of_writable _ _ "export {}" _ (by decide +kernel) place
  simp only [apply, applyFrom, accepted, writeUpdate, above, there, written]
  exact ⟨_, rfl, locate_linkedProject, rfl, rfl, by decide⟩

end UiCheck.Patch
