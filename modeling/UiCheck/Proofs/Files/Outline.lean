import UiCheck.Proofs.Files.Listing

/-! # The tree as it is shown

The lines of the tree come from one walk through what is below a directory, and from the lines that follow it is seen
whether an entry is the last one of its directory. The text is the same as if the tree was cut to what is shown and
printed directory by directory: `fileTree_prints_pruned`. Behind the entries of a directory a line further out comes
next, or none at all, and this holds again inside of each entry.
-/

namespace UiCheck.Files

/-! ## Cutting and printing a tree -/

/-- A name is shown if it is not left out, and belongs to a directory or has one of the extensions. A link is no
directory, wherever it leads. -/
def isShown (name : String) (node : Node) : Bool :=
  ! ignoredNames.contains name && (node.isDirectory || hasExtension treeExtensions name)

mutual

/-- A tree without what is not shown, down to a number of levels, with the entries of each directory by name. -/
def Node.pruned (levels : Nat) : Node → Node
  | .directory entries =>
    match levels with
    | 0 => .directory []
    | levels + 1 => .directory (byName (prunedEntries levels entries))
  | .file content => .file content
  | .link target => .link target

/-- The entries that are shown, each cut to a number of levels below it. -/
def prunedEntries (levels : Nat) : List (String × Node) → Entries
  | [] => []
  | entry :: rest => prunedEntry levels entry ++ prunedEntries levels rest

/-- The entry, cut to a number of levels below it, if it is shown. -/
def prunedEntry (levels : Nat) : String × Node → Entries
  | (name, node) => if isShown name node then [(name, node.pruned levels)] else []

end

/-- A name as it is shown: a directory has a slash. -/
def label (name : String) (node : Node) : String :=
  if node.isDirectory then name ++ "/" else name

mutual

/-- What is in a node, printed at a depth. -/
def Node.printed (depth : Nat) : Node → String
  | .directory entries => printedEntries depth entries
  | _ => ""

/-- The entries of a directory, one after the other. -/
def printedEntries (depth : Nat) : List (String × Node) → String
  | [] => ""
  | entry :: rest => printedEntry depth rest.isEmpty entry ++ printedEntries depth rest

/-- The line of an entry, and what is in it one level further in. -/
def printedEntry (depth : Nat) (last : Bool) : String × Node → String
  | (name, node) =>
    String.join (List.replicate depth "  ") ++ (if last then "└── " else "├── ") ++ label name node ++ "\n" ++
      node.printed (depth + 1)

end

/-! ## The lines of a tree -/

mutual

/-- The lines for what is in a node. -/
def Node.lines (depth : Nat) : Node → List (Nat × String)
  | .directory entries => entriesLines depth entries
  | _ => []

/-- The lines for the entries of a directory. -/
def entriesLines (depth : Nat) : List (String × Node) → List (Nat × String)
  | [] => []
  | entry :: rest => entryLines depth entry ++ entriesLines depth rest

/-- The line for an entry, before those for what is in it. -/
def entryLines (depth : Nat) : String × Node → List (Nat × String)
  | (name, node) => (depth, label name node) :: node.lines (depth + 1)

end

/-- What holds of files and links, and of a directory if it holds of all its entries, holds of every node. -/
theorem Node.induction {P : Node → Prop} (file : ∀ content, P (.file content)) (link : ∀ target, P (.link target))
    (directory : ∀ entries : Entries, (∀ entry ∈ entries, P entry.2) → P (.directory entries)) (node : Node) : P node :=
  @Node.rec P (fun entries => ∀ entry ∈ entries, P entry.2) (fun entry => P entry.2) file link directory nofun
    (fun _ _ first rest => List.forall_mem_cons.mpr ⟨first, rest⟩) (fun _ _ below => below) node

variable {levels depth : Nat} {names : List String} {entries : Entries} {entry : String × Node} {node : Node}
  {inner rest : List (Nat × String)}

theorem entriesLines_eq (depth : Nat) (entries : Entries) :
    entriesLines depth entries = entries.flatMap (entryLines depth) := by
  induction entries with
  | nil => rw [entriesLines, List.flatMap_nil]
  | cons entry rest ih => rw [entriesLines, ih, List.flatMap_cons]

theorem prunedEntries_eq (levels : Nat) (entries : Entries) :
    prunedEntries levels entries = entries.flatMap (prunedEntry levels) := by
  induction entries with
  | nil => rw [prunedEntries, List.flatMap_nil]
  | cons entry rest ih => rw [prunedEntries, ih, List.flatMap_cons]

/-- No line is further out than where the printing starts. -/
theorem le_of_mem_lines (node : Node) : ∀ depth, ∀ line ∈ node.lines depth, depth ≤ line.1 := by
  induction node using Node.induction with
  | file | link => exact fun _ _ member => absurd member List.not_mem_nil
  | directory entries ih =>
    intro depth line member
    rw [Node.lines, entriesLines_eq, List.mem_flatMap] at member
    obtain ⟨entry, among, member⟩ := member
    rw [entryLines, List.mem_cons] at member
    rcases member with rfl | inside
    · exact Nat.le_refl _
    · exact Nat.le_of_succ_le (ih entry among _ line inside)

/-! ## The last entry of a directory -/

/-- The next line, if there is one, is further out. -/
def Outer (depth : Nat) (rest : List (Nat × String)) : Prop :=
  ∀ line ∈ rest.head?, line.1 < depth

theorem isLast_cons (depth : Nat) (line : Nat × String) (rest : List (Nat × String)) :
    isLast depth (line :: rest) = if line.1 ≤ depth then decide (line.1 < depth) else isLast depth rest := by
  rw [isLast, List.find?_cons]
  by_cases here : line.1 ≤ depth
  · simp only [here, decide_true, if_true]
  · simp only [here, decide_false, if_false]
    rfl

theorem isLast_of_outer (outer : Outer depth rest) : isLast depth rest = true := by
  cases rest with
  | nil => rfl
  | cons line rest =>
    have less : line.1 < depth := outer line rfl
    rw [isLast_cons, if_pos (Nat.le_of_lt less), decide_eq_true less]

/-- Lines further in are passed over. -/
theorem isLast_append (deeper : ∀ line ∈ inner, depth < line.1) (rest : List (Nat × String)) :
    isLast depth (inner ++ rest) = isLast depth rest := by
  induction inner with
  | nil => rfl
  | cons line inner ih =>
    obtain ⟨first, others⟩ := List.forall_mem_cons.mp deeper
    rw [List.cons_append, isLast_cons, if_neg (Nat.not_le_of_lt first), ih others]

/-- An entry is the last one just if no entry of its directory follows. -/
theorem isLast_behind (outer : Outer depth rest) (node : Node) (later : Entries) :
    isLast depth (node.lines (depth + 1) ++ (entriesLines depth later ++ rest)) = later.isEmpty := by
  rw [isLast_append (fun line member => le_of_mem_lines node _ line member)]
  cases later with
  | nil => exact isLast_of_outer outer
  | cons entry later =>
    rw [entriesLines, entryLines, List.cons_append, List.cons_append, isLast_cons, if_pos (Nat.le_refl depth)]
    exact decide_eq_false (Nat.lt_irrefl depth)

theorem Outer.behind (outer : Outer depth rest) (later : Entries) :
    Outer (depth + 1) (entriesLines depth later ++ rest) := by
  cases later with
  | nil => exact fun line next => Nat.lt_succ_of_lt (outer line next)
  | cons entry later =>
    rw [entriesLines, entryLines]
    exact fun line next => Option.some.inj next ▸ Nat.lt_succ_self depth

/-- The lines of a tree in front of lines further out are the printed tree. -/
theorem join_treeLines (node : Node) : ∀ depth rest, Outer depth rest →
    String.join (treeLines (node.lines depth ++ rest)) = node.printed depth ++ String.join (treeLines rest) := by
  induction node using Node.induction with
  | file | link =>
    intro depth rest _
    exact (String.empty_append ..).symm
  | directory entries ih =>
    intro depth rest outer
    rw [Node.lines, Node.printed]
    -- the entries go one after the other, each with the lines of the later ones behind it
    induction entries with
    | nil => exact (String.empty_append ..).symm
    | cons entry later ih' =>
      obtain ⟨first, others⟩ := List.forall_mem_cons.mp ih
      obtain ⟨name, node⟩ := entry
      rw [entriesLines, printedEntries, entryLines, printedEntry, List.append_assoc, List.cons_append, treeLines,
        String.join_cons, isLast_behind outer, first _ _ (outer.behind later), ih' others]
      simp only [String.append_assoc]

/-! ## What the walk shows -/

/-- What is left of an entry has its name. -/
theorem sublist_prunedEntry (levels : Nat) (entry : String × Node) :
    ((prunedEntry levels entry).map (·.1)).Sublist [entry.1] := by
  rw [prunedEntry]
  split
  · exact List.Sublist.refl _
  · exact List.nil_sublist _

/-- It makes no difference whether a directory is put in order before it is cut or afterwards. -/
theorem byName_prunedEntries (levels : Nat) (entries : Entries) :
    byName (prunedEntries levels entries) = (byName entries).flatMap (prunedEntry levels) := by
  rw [prunedEntries_eq, byName_flatMap (sublist_prunedEntry levels)]

theorem filterMap_walkNode_leaf (leaf : node.isDirectory = false) (levels : Nat) (name : String) (names : List String) :
    (walkNode levels (name :: names) node).filterMap treeLine? =
      if hasExtension treeExtensions name then [(names.length, name)] else [] := by
  have alone : walkNode levels (name :: names) node = [⟨name :: names, node⟩] := by
    cases node with
    | file | link => rfl
    | directory => cases leaf
  have line : treeLine? ⟨name :: names, node⟩ =
      if hasExtension treeExtensions name then some (names.length, name) else none := by
    rw [treeLine?, leaf, if_neg Bool.false_ne_true]
    rfl
  by_cases listed : hasExtension treeExtensions name = true
  · rw [if_pos listed] at line ⊢
    rw [alone, List.filterMap_cons_some line, List.filterMap_nil]
  · rw [if_neg listed] at line ⊢
    rw [alone, List.filterMap_cons_none line, List.filterMap_nil]

/-- The walk gives the lines of an entry if it does for what is in it. -/
theorem filterMap_walkEntry (inside : ∀ names,
      (walkNode levels names entry.2).tail.filterMap treeLine? = (entry.2.pruned levels).lines names.length)
    (names : List String) : (walkEntry (levels + 1) names entry).filterMap treeLine? =
      (prunedEntry levels entry).flatMap (entryLines names.length) := by
  obtain ⟨name, node⟩ := entry
  rw [walkEntry, prunedEntry, isShown]
  by_cases ignored : ignoredNames.contains name = true
  · rw [if_pos ignored, ignored]
    rfl
  · rw [if_neg ignored, eq_false_of_ne_true ignored, Bool.not_false, Bool.true_and]
    cases node with
    | directory below =>
      have start : treeLine? ⟨name :: names, .directory below⟩ = some (names.length, name ++ "/") := rfl
      have line : label name ((Node.directory below).pruned levels) = name ++ "/" := by
        cases levels <;> rfl
      rw [walkNode_eq, List.filterMap_cons_some start, inside, Node.isDirectory, Bool.true_or, if_pos rfl,
        List.flatMap_singleton, entryLines, line]
      rfl
    | file | link =>
      rw [filterMap_walkNode_leaf rfl]
      simp only [Node.isDirectory, Bool.false_or]
      split <;> rfl

/-- What the walk finds in a node gives the lines of the node cut to what is shown. -/
theorem filterMap_walkNode (node : Node) : ∀ levels names,
    (walkNode levels names node).tail.filterMap treeLine? = (node.pruned levels).lines names.length := by
  induction node using Node.induction with
  | file | link => exact fun _ _ => rfl
  | directory entries ih =>
    intro levels names
    rw [walkNode_directory, List.tail_cons, List.filterMap_flatMap]
    cases levels with
    | zero =>
      rw [Node.pruned, Node.lines, entriesLines, List.flatMap_eq_nil_iff]
      intro entry _
      rw [walkEntry, List.filterMap_nil]
    | succ levels =>
      rw [Node.pruned, byName_prunedEntries, Node.lines, entriesLines_eq, List.flatMap_assoc]
      exact List.flatMap_congr fun entry among => filterMap_walkEntry (ih entry (mem_byName.mp among) levels) names

/-- The tree of files below a path is what is there, cut to what is shown on five levels and printed directory by
directory, in whatever order the entries of a directory lie. -/
theorem fileTree_prints_pruned (disk : Disk) (path : String) :
    fileTree disk path =
      match disk.node path with
      | .ok node => (node.pruned 5).printed 0
      | .error _ => "" := by
  rw [fileTree, Disk.below]
  cases disk.node path with
  | error e => rfl
  | ok node =>
    have printed := join_treeLines (node.pruned 5) 0 [] nofun
    rw [List.append_nil, treeLines, String.join_nil, String.append_empty] at printed
    dsimp only
    rw [filterMap_walkNode]
    exact printed

end UiCheck.Files
