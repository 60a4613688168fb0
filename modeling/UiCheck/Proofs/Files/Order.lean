import Mathlib.Data.String.Basic
import UiCheck.Proofs.Files.Frame
import UiCheck.Proofs.Text.Search

/-! # Directories stay sorted

The entries of each directory stand in the order of their names. An entry is put where it belongs and others go without
moving what is left, so this holds behind whatever is put into a tree or taken out of it, and of a disk behind any
edits.
-/

namespace UiCheck.Files

variable {name : String} {node tree : Node} {place : List String} {entries : Entries} {entry : String × Node}

namespace Entries

/-- Each name is smaller than all that follow it. -/
def Sorted (entries : Entries) : Prop :=
  entries.Pairwise fun entry later => entry.1 < later.1

theorem Sorted.nodup_names (sorted : Sorted entries) : (entries.map (·.1)).Nodup :=
  List.pairwise_map.mpr (sorted.imp ne_of_lt)

/-- A name is looked up where it stands. -/
theorem Sorted.lookup_eq_some_iff (sorted : Sorted entries) :
    entries.lookup name = some node ↔ (name, node) ∈ entries :=
  lookup_eq_some_iff_mem sorted.nodup_names

theorem mem_of_mem_insert (member : entry ∈ insert name node entries) : entry = (name, node) ∨ entry ∈ entries := by
  induction entries with
  | nil => exact .inl (List.mem_singleton.mp member)
  | cons first rest ih =>
    rw [insert] at member
    split at member
    · rcases List.mem_cons.mp member with rfl | later
      · exact .inl rfl
      · exact .inr (List.mem_cons_of_mem _ later)
    · split at member
      · exact List.mem_cons.mp member
      · rcases List.mem_cons.mp member with rfl | later
        · exact .inr (List.mem_cons_self ..)
        · exact (ih later).imp_right (List.mem_cons_of_mem _)

theorem Sorted.insert (sorted : Sorted entries) (name : String) (node : Node) : Sorted (insert name node entries) := by
  induction entries with
  | nil => exact List.pairwise_singleton ..
  | cons first rest ih =>
    obtain ⟨least, inner⟩ := List.pairwise_cons.mp sorted
    rw [Entries.insert]
    split
    · next same =>
      subst same
      exact List.pairwise_cons.mpr ⟨least, inner⟩
    · next different =>
      split
      · next less =>
        refine List.pairwise_cons.mpr ⟨fun entry member => ?_, sorted⟩
        rcases List.mem_cons.mp member with rfl | later
        · exact less
        · exact less.trans (least entry later)
      · next behind =>
        refine List.pairwise_cons.mpr ⟨fun entry member => ?_, ih inner⟩
        rcases mem_of_mem_insert member with rfl | later
        · exact lt_of_le_of_ne (not_lt.mp behind) (Ne.symm different)
        · exact least entry later

theorem Sorted.erase (sorted : Sorted entries) (name : String) : Sorted (erase name entries) :=
  sorted.sublist (List.filter_sublist ..)

end Entries

namespace Node

/-- The entries of every directory are sorted by name. -/
inductive Ordered : Node → Prop
  | file (content : ByteArray) : Ordered (.file content)
  | link (target : String) : Ordered (.link target)
  | directory {entries : Entries} : entries.Sorted → (∀ entry ∈ entries, Ordered entry.2) → Ordered (.directory entries)

theorem Ordered.empty : Ordered empty :=
  .directory List.Pairwise.nil nofun

theorem Ordered.sorted (ordered : (Node.directory entries).Ordered) : entries.Sorted := by
  cases ordered with
  | directory sorted _ => exact sorted

theorem Ordered.of_lookup (inner : ∀ entry ∈ entries, Ordered entry.2) (found : entries.lookup name = some node) :
    node.Ordered := by
  obtain ⟨front, back, rfl, _⟩ := List.lookup_eq_some_iff.mp found
  exact inner (name, node) (List.mem_append_right _ (List.mem_cons_self ..))

theorem Ordered.insert (sorted : entries.Sorted) (inner : ∀ entry ∈ entries, Ordered entry.2) (name : String)
    (ordered : node.Ordered) : Ordered (.directory (Entries.insert name node entries)) := by
  refine .directory (sorted.insert name node) fun entry member => ?_
  rcases Entries.mem_of_mem_insert member with rfl | before
  · exact ordered
  · exact inner entry before

theorem Ordered.get? (ordered : tree.Ordered) (there : tree.get? place = some node) : node.Ordered := by
  induction place generalizing tree with
  | nil =>
    cases there
    exact ordered
  | cons name place ih =>
    obtain ⟨entries, below, rfl, found, rest⟩ := exists_of_get?_cons there
    cases ordered with
    | directory _ inner => exact ih (of_lookup inner found) rest

theorem Ordered.set (ordered : tree.Ordered) (place : List String) (fresh : node.Ordered) :
    (set node place tree).Ordered := by
  induction place generalizing tree with
  | nil => exact fresh
  | cons name place ih =>
    cases ordered with
    | file content => exact .file content
    | link target => exact .link target
    | directory sorted inner =>
      rw [Node.set]
      split
      · exact insert sorted inner name fresh
      · split
        · next below found => exact insert sorted inner name (ih (of_lookup inner found))
        · exact .directory sorted inner

theorem Ordered.put (ordered : tree.Ordered) (place : List String) (fresh : node.Ordered) :
    (put node place tree).Ordered := by
  induction place generalizing tree with
  | nil => exact fresh
  | cons name place ih =>
    cases ordered with
    | file | link =>
      exact .directory (List.pairwise_singleton ..) (List.forall_mem_singleton.mpr (ih .empty))
    | directory sorted inner =>
      refine insert sorted inner name (ih ?_)
      cases found : List.lookup name _ with
      | none => exact .empty
      | some below => exact of_lookup inner found

theorem Ordered.remove (ordered : tree.Ordered) (place : List String) : (remove place tree).Ordered := by
  fun_induction Node.remove place tree with
  | case1 => exact ordered
  | case2 name entries =>
    cases ordered with
    | directory sorted inner =>
      exact .directory (sorted.erase name) fun entry member => inner entry (List.mem_of_mem_filter member)
  | case3 name rest entries _ below found ih =>
    cases ordered with
    | directory sorted inner => exact insert sorted inner name (ih (of_lookup inner found))
  | case4 => exact ordered
  | case5 => exact ordered

end Node

namespace Disk

variable {disk after : Disk} {path : String}

theorem ordered_put (ordered : disk.tree.Ordered) (names : List String) (fresh : node.Ordered) :
    (disk.put names node).tree.Ordered :=
  ordered.set names.reverse fresh

theorem ordered_of_makes {edit : Edit} (ordered : disk.tree.Ordered) (makes : edit.Makes disk after) :
    after.tree.Ordered := by
  cases makes with
  | write written =>
    obtain ⟨names, _, rfl⟩ := exists_put_of_write written
    exact ordered_put ordered names (.file _)
  | makeDirectory made =>
    obtain ⟨directory, name, _, rfl⟩ := exists_put_of_makeDirectory made
    exact ordered_put ordered (name :: directory) .empty

/-- No edits change the order of a directory. -/
theorem ordered_of_edited {made : List Edit} (ordered : disk.tree.Ordered) (edited : disk.Edited made after) :
    after.tree.Ordered := by
  induction edited with
  | nil => exact ordered
  | cons makes _ ih => exact ih (ordered_of_makes ordered makes)

theorem ordered_of_removeEmpty (ordered : disk.tree.Ordered) (removed : disk.removeEmpty path = .ok after) :
    after.tree.Ordered := by
  simp only [removeEmpty] at removed
  repeat' split at removed
  all_goals cases removed
  exact ordered.remove _

theorem ordered_removeDirectory (ordered : disk.tree.Ordered) (path : String) :
    (disk.removeDirectory path).2.tree.Ordered := by
  rw [removeDirectory]
  split
  · exact ordered
  · exact ordered
  · exact ordered
  · exact ordered.remove _
  · next names _ _ =>
    have emptied := ordered_put ordered names .empty
    dsimp only
    split
    · next removed => exact ordered_of_removeEmpty emptied removed
    · exact emptied
    · exact emptied

/-- What a path leads to is sorted as all the disk is. -/
theorem ordered_of_node (ordered : disk.tree.Ordered) (there : disk.node path = .ok node) : node.Ordered := by
  obtain ⟨place, located⟩ := exists_locate_of_node there
  exact ordered.get? (arrives_of_locate located).get?

end Disk

end UiCheck.Files
