import Mathlib.Data.List.Forall2
import UiCheck.Proofs.Json.Form

/-! # Reading what was written

A reader reads a document as a value if it takes the document in every form and at every level and answers the value.
The items of a list and the members of an object are read in turn, up to the end or up to the first that is refused.
From this `readsWithin_value` tells what the reader of all documents does: it gives an exact document back, unless
the document nests too deep.
-/

namespace UiCheck.Json.Reader

variable {α σ : Type} {form : Form} {level : Nat} {rest : List UInt8}

/-- The reader takes the document as the form writes it, behind any blanks, and answers `a`. -/
def ReadsAs (form : Form) (reader : Reader α) (doc : Json) (a : α) : Prop :=
  ∀ level blanks rest, Blank blanks → Parted rest →
    Takes reader (blanks ++ (bytesOf (form.write level doc) ++ rest)) a rest

/-- The reader refuses the document as the form writes it. -/
def Refuses (form : Form) (reader : Reader α) (doc : Json) : Prop :=
  ∀ level blanks rest, Blank blanks → Parted rest →
    Fails reader (blanks ++ (bytesOf (form.write level doc) ++ rest))

/-- With a number of levels left the reader reads the document, just if that does not nest too deep. -/
structure ReadsWithin (form : Form) (reader : Nat → Reader α) (doc : Json) (a : α) : Prop where
  exact : doc.Exact
  reads : ∀ {levels}, doc.depth < levels → ReadsAs form (reader levels) doc a
  refuses : ∀ {levels}, 0 < levels → levels ≤ doc.depth → Refuses form (reader levels) doc

/-! ## How documents begin -/

/-- What is written for an item. -/
def itemText (form : Form) (level : Nat) (doc : Json) : List Char :=
  form.lead level ++ form.write level doc

/-- What is written for a member. -/
def memberText (form : Form) (level : Nat) (field : String × Json) : List Char :=
  form.lead level ++ (stringText field.1 ++ ':' :: (form.gap ++ form.write level field.2))

theorem bytes_list (form : Form) (level : Nat) (items : List Json) (rest : List UInt8) :
    ∃ close, Blank close ∧ bytesOf (form.write level (.list items)) ++ rest =
      91 :: (bytesOf (joined true (items.map (itemText form (level + 1)))) ++ (close ++ 93 :: rest)) := by
  obtain ⟨close, blank, written⟩ := form.write_list level items
  refine ⟨bytesOf close, blank, ?_⟩
  rw [written, bytesOf_cons, bytesOf_append, bytesOf_append, List.append_assoc, List.append_assoc, List.append_assoc]
  rfl

theorem bytes_object (form : Form) (level : Nat) (members : List (String × Json)) (rest : List UInt8) :
    ∃ close, Blank close ∧ bytesOf (form.write level (.object members)) ++ rest =
      123 :: (bytesOf (joined true (members.map (memberText form (level + 1)))) ++ (close ++ 125 :: rest)) := by
  obtain ⟨close, blank, written⟩ := form.write_object level members
  refine ⟨bytesOf close, blank, ?_⟩
  rw [written, bytesOf_cons, bytesOf_append, bytesOf_append, List.append_assoc, List.append_assoc, List.append_assoc]
  rfl

theorem write_null (form : Form) (level : Nat) : form.write level .null = ['n', 'u', 'l', 'l'] :=
  form.write_scalar level .null nofun nofun

theorem write_bool (form : Form) (level : Nat) (b : Bool) :
    form.write level (.bool b) = if b then ['t', 'r', 'u', 'e'] else ['f', 'a', 'l', 's', 'e'] := by
  rw [form.write_scalar level (.bool b) nofun nofun]
  cases b <;> rfl

theorem write_int (form : Form) (level : Nat) (n : Int) : form.write level (.int n) = intText n :=
  form.write_scalar level (.int n) nofun nofun

theorem write_string (form : Form) (level : Nat) (s : String) : form.write level (.string s) = stringText s :=
  form.write_scalar level (.string s) nofun nofun

/-- A document begins with no blank and with no end of a list. -/
theorem begins_write {doc : Json} (exact : doc.Exact) (form : Form) (level : Nat) (rest : List UInt8) :
    Begins (bytesOf (form.write level doc) ++ rest) := by
  cases exact with
  | null => exact ⟨110, _, by rw [write_null]; rfl, by decide, by decide⟩
  | bool b =>
    rw [write_bool]
    cases b with
    | true => exact ⟨116, _, rfl, by decide, by decide⟩
    | false => exact ⟨102, _, rfl, by decide, by decide⟩
  | @int n fits =>
    rw [write_int]
    by_cases negative : n < 0
    · obtain ⟨begins, -⟩ := takes_negative fits negative parted_nil
      exact ⟨45, _, by rw [begins]; rfl, by decide, by decide⟩
    · obtain ⟨⟨b, more, begins, digit⟩, -⟩ := takes_nonnegative fits negative parted_nil
      exact ⟨b, _, by rw [begins]; rfl, isSpace_of_isDigit digit, ne_of_isDigit digit (by decide)⟩
  | string s =>
    obtain ⟨more, begins⟩ := bytes_stringText s rest
    exact ⟨34, _, by rw [write_string, begins], by decide, by decide⟩
  | list exact =>
    obtain ⟨close, -, begins⟩ := bytes_list form level _ rest
    exact ⟨91, _, begins, by decide, by decide⟩
  | object exact =>
    obtain ⟨close, -, begins⟩ := bytes_object form level _ rest
    exact ⟨123, _, begins, by decide, by decide⟩

/-! ## Parts -/

theorem bytesOf_joined (first : Bool) (part : List Char) (parts : List (List Char)) :
    bytesOf (joined first (part :: parts)) =
      (if first then [] else [44]) ++ (bytesOf part ++ bytesOf (joined false parts)) := by
  rw [joined, bytesOf_append, bytesOf_append]
  cases first <;> rfl

theorem bytesOf_joined_append (first : Bool) (before after : List (List Char)) :
    bytesOf (joined first (before ++ after)) =
      bytesOf (joined first before) ++ bytesOf (joined (first && before.isEmpty) after) := by
  induction before generalizing first with
  | nil => rw [List.nil_append, List.isEmpty_nil, Bool.and_true]; rfl
  | cons part before ih =>
    rw [List.cons_append, bytesOf_joined, bytesOf_joined, ih, List.isEmpty_cons, Bool.and_false, Bool.false_and]
    simp only [List.append_assoc]

/-- What stands behind a part is a comma or what stands behind all parts. -/
theorem parted_joined {tail : List UInt8} (parted : Parted tail) (parts : List (List Char)) :
    Parted (bytesOf (joined false parts) ++ tail) := by
  cases parts with
  | nil => exact parted
  | cons part parts => exact parted_cons (by decide) _

/-- There are at least as many bytes as parts. -/
theorem length_le_joined (parts : List (List Char)) (nonempty : ∀ part ∈ parts, part ≠ []) (first : Bool) :
    parts.length ≤ (bytesOf (joined first parts)).length := by
  refine Nat.le_trans ?_ (length_le_bytesOf _)
  induction parts generalizing first with
  | nil => exact Nat.le_refl _
  | cons part parts ih =>
    have here := List.length_pos_iff.mpr (nonempty part (List.mem_cons_self ..))
    have others := ih (fun part member => nonempty part (List.mem_cons_of_mem _ member)) false
    rw [joined, List.length_append, List.length_append, List.length_cons]
    omega

/-! ## Lists -/

/-- An item is read after others have been. -/
def ItemStep (form : Form) (item : σ → Reader σ) (known : σ) (doc : Json) (known' : σ) : Prop :=
  doc.Exact ∧ ReadsAs form (item known) doc known'

section Items

variable {item : σ → Reader σ} {known known' : σ} {docs : List Json} {close tail : List UInt8}

/-- Items that can be read are read in turn. -/
theorem leads_foldItems (chain : Chain (ItemStep form item) known docs known') (parted : docs ≠ [] → Parted tail)
    (first : Bool) (fuel : Nat) :
    Leads (foldItems item (docs.length + fuel) first known)
      (bytesOf (joined first (docs.map (itemText form level))) ++ tail)
      (foldItems item fuel (first && docs.isEmpty) known') tail := by
  induction chain generalizing first with
  | nil known =>
    rw [List.isEmpty_nil, Bool.and_true, List.length_nil, Nat.zero_add]
    exact .refl _ _
  | @cons known _ _ doc docs taken chain ih =>
    rw [List.map_cons, bytesOf_joined, itemText, bytesOf_append, List.length_cons, Nat.add_right_comm]
    simp only [List.append_assoc]
    refine ((takes_hasItem (form.lead_blank level) (begins_write taken.1 form level _) first).leads _).trans ?_
    refine ((taken.2 level [] _ blank_nil (parted_joined (parted nofun) _)).leads _).trans ?_
    rw [List.isEmpty_cons, Bool.and_false]
    exact ih (fun _ => parted nofun) false

theorem length_le_items (form : Form) (level : Nat) (exact : ∀ doc ∈ docs, doc.Exact) :
    docs.length ≤ (bytesOf (joined true (docs.map (itemText form level)))).length := by
  have counted := length_le_joined (docs.map (itemText form level)) (fun part member => ?_) true
  · rwa [List.length_map] at counted
  · obtain ⟨doc, inside, rfl⟩ := List.mem_map.mp member
    obtain ⟨b, more, begins, -, -⟩ := begins_write (exact doc inside) form level []
    intro empty
    rw [itemText, List.append_eq_nil_iff] at empty
    rw [empty.2] at begins
    cases begins

/-- All items of a list are taken, and its end. -/
theorem takes_items {n : Nat} (chain : Chain (ItemStep form item) known docs known') (blank : Blank close)
    (fuelled : (bytesOf (joined true (docs.map (itemText form level))) ++ (close ++ 93 :: rest)).length ≤ n) :
    Takes (enclosed (foldItems item n true known) listEnd)
      (bytesOf (joined true (docs.map (itemText form level))) ++ (close ++ 93 :: rest)) known' rest := by
  have exact : ∀ doc ∈ docs, doc.Exact := fun doc member => (chain.step_of_mem member).choose_spec.choose_spec.1
  have counted := length_le_items form level exact
  rw [List.length_append, List.length_append, List.length_cons] at fuelled
  obtain ⟨more, rfl⟩ : ∃ more, n = docs.length + (more + 1) := ⟨n - docs.length - 1, by omega⟩
  have ending : Parted (close ++ 93 :: rest) := parted_of_blank blank (parted_cons (by decide) rest)
  refine .enclosed ((leads_foldItems chain (fun _ => ending) true _).takes ?_) (takes_listEnd rest)
  exact .bind (takes_hasItem_end blank _ rest) (.pure _ _)

/-- An item that is refused behind others lets the list be refused. -/
theorem fails_items {n : Nat} {doc : Json} {after : List Json} (chain : Chain (ItemStep form item) known docs known')
    (exact : doc.Exact) (refused : Refuses form (item known') doc) (blank : Blank close)
    (fuelled : (bytesOf (joined true ((docs ++ doc :: after).map (itemText form level))) ++
      (close ++ 93 :: rest)).length ≤ n) :
    Fails (enclosed (foldItems item n true known) listEnd)
      (bytesOf (joined true ((docs ++ doc :: after).map (itemText form level))) ++ (close ++ 93 :: rest)) := by
  have before : ∀ doc ∈ docs, doc.Exact := fun doc member => (chain.step_of_mem member).choose_spec.choose_spec.1
  have counted := length_le_items form level before
  rw [List.map_append, bytesOf_joined_append, List.append_assoc] at fuelled ⊢
  rw [List.length_append, List.length_append, List.length_append, List.length_cons] at fuelled
  obtain ⟨more, rfl⟩ : ∃ more, n = docs.length + (more + 1) := ⟨n - docs.length - 1, by omega⟩
  have ending : Parted (close ++ 93 :: rest) := parted_of_blank blank (parted_cons (by decide) rest)
  refine .enclosed ((leads_foldItems chain (fun some => ?_) true _).fails ?_) listEnd
  · rw [List.isEmpty_map, List.isEmpty_eq_false_iff.mpr some]
    exact parted_joined ending _
  · rw [List.map_cons, bytesOf_joined, itemText, bytesOf_append, List.isEmpty_map]
    simp only [List.append_assoc]
    refine ((takes_hasItem (form.lead_blank level) (begins_write exact form level _) _).leads _).fails ?_
    exact (refused level [] _ blank_nil (parted_joined ending _)).bind _

end Items

/-- Items that are read one by one are collected in their order. -/
theorem chain_items {reader : Reader α} {docs : List Json} {answers : List α}
    (each : List.Forall₂ (fun doc a => doc.Exact ∧ ReadsAs form reader doc a) docs answers) (done : List α) :
    Chain (ItemStep form fun done => return (← reader) :: done) done docs (answers.reverse ++ done) := by
  induction each generalizing done with
  | nil => exact .nil done
  | @cons doc a docs answers taken _ ih =>
    have later := ih (a :: done)
    rw [List.reverse_cons, List.append_assoc, List.singleton_append]
    refine .cons ⟨taken.1, fun level blanks rest blank parted => ?_⟩ later
    exact .bind (taken.2 level blanks rest blank parted) (.pure _ _)

theorem exists_forall₂ {δ ε : Type} {related : δ → ε → Prop} {things : List δ}
    (each : ∀ thing ∈ things, ∃ other, related thing other) : ∃ others, List.Forall₂ related things others := by
  induction things with
  | nil => exact ⟨[], .nil⟩
  | cons thing things ih =>
    obtain ⟨other, here⟩ := each thing (List.mem_cons_self ..)
    obtain ⟨others, later⟩ := ih fun thing member => each thing (List.mem_cons_of_mem _ member)
    exact ⟨other :: others, .cons here later⟩

theorem exists_of_forall₂ {δ ε : Type} {related : δ → ε → Prop} {things : List δ} {others : List ε}
    (each : List.Forall₂ related things others) : ∀ thing ∈ things, ∃ other, related thing other := by
  induction each with
  | nil => nofun
  | cons here _ ih => exact List.forall_mem_cons.mpr ⟨⟨_, here⟩, ih⟩

section Collected

variable {reader : Nat → Reader α} {docs : List Json} {answers : List α} {close : List UInt8} {levels n : Nat}

/-- Items that are not too deep are collected. -/
theorem takes_collected (each : List.Forall₂ (ReadsWithin form reader) docs answers)
    (shallow : depthOfItems docs < levels) (blank : Blank close)
    (fuelled : (bytesOf (joined true (docs.map (itemText form level))) ++ (close ++ 93 :: rest)).length ≤ n) :
    Takes (enclosed (foldItems (fun done => return (← reader levels) :: done) n true []) listEnd)
      (bytesOf (joined true (docs.map (itemText form level))) ++ (close ++ 93 :: rest)) answers.reverse rest := by
  obtain ⟨-, low⟩ | ⟨deep, -⟩ := depthOfItems_cases docs (Nat.zero_lt_of_lt shallow)
  · have read : List.Forall₂ (fun doc a => doc.Exact ∧ ReadsAs form (reader levels) doc a) docs answers := by
      clear shallow fuelled
      induction each with
      | nil => exact .nil
      | cons within _ ih =>
        obtain ⟨here, low⟩ := List.forall_mem_cons.mp low
        exact .cons ⟨within.exact, within.reads here⟩ (ih low)
    have chain := chain_items read []
    rw [List.append_nil] at chain
    exact takes_items chain blank fuelled
  · omega

/-- An item that is too deep lets the list be refused. -/
theorem fails_collected (each : List.Forall₂ (ReadsWithin form reader) docs answers) (left : 0 < levels)
    (deep : levels ≤ depthOfItems docs) (blank : Blank close)
    (fuelled : (bytesOf (joined true (docs.map (itemText form level))) ++ (close ++ 93 :: rest)).length ≤ n) :
    Fails (enclosed (foldItems (fun done => return (← reader levels) :: done) n true []) listEnd)
      (bytesOf (joined true (docs.map (itemText form level))) ++ (close ++ 93 :: rest)) := by
  obtain ⟨shallow, -⟩ | ⟨-, before, doc, after, rfl, low, high⟩ := depthOfItems_cases docs left
  · omega
  · have within := exists_of_forall₂ each
    have read : ∀ doc ∈ before, ∃ a, doc.Exact ∧ ReadsAs form (reader levels) doc a := fun doc member => by
      obtain ⟨a, here⟩ := within doc (List.mem_append_left _ member)
      exact ⟨a, here.exact, here.reads (low doc member)⟩
    obtain ⟨answers', read⟩ := exists_forall₂ read
    obtain ⟨a, here⟩ := within doc (List.mem_append_right _ (List.mem_cons_self ..))
    refine fails_items (chain_items read []) here.exact ?_ blank fuelled
    exact fun level blanks rest blank parted => (here.refuses left high level blanks rest blank parted).bind _

end Collected

/-! ## Objects -/

/-- A member is read after others have been, from the colon behind its name. -/
def MemberStep (form : Form) (member : σ → String → Reader σ) (known : σ) (field : String × Json) (known' : σ) : Prop :=
  ∀ level rest, Parted rest →
    Takes (member known field.1) (58 :: (bytesOf form.gap ++ (bytesOf (form.write level field.2) ++ rest))) known' rest

/-- A member is refused after others have been read. -/
def MemberRefused (form : Form) (member : σ → String → Reader σ) (known : σ) (field : String × Json) : Prop :=
  ∀ level rest, Parted rest →
    Fails (member known field.1) (58 :: (bytesOf form.gap ++ (bytesOf (form.write level field.2) ++ rest)))

/-- With a number of levels left a member is read, just if it does not nest too deep. -/
structure MemberWithin (form : Form) (member : Nat → σ → String → Reader σ) (known : σ) (field : String × Json)
    (known' : σ) : Prop where
  exact : field.2.Exact
  reads : ∀ {levels}, field.2.depth < levels → MemberStep form (member levels) known field known'
  refuses : ∀ {levels}, 0 < levels → levels ≤ field.2.depth → MemberRefused form (member levels) known field

/-- All members are read in turn, or those before the first that is refused. -/
theorem members_cases {member : Nat → σ → String → Reader σ} {known known' : σ} {fields : List (String × Json)}
    (chain : Chain (MemberWithin form member) known fields known') {levels : Nat} (left : 0 < levels) :
    (depthOfMembers fields < levels ∧ Chain (MemberStep form (member levels)) known fields known') ∨
      levels ≤ depthOfMembers fields ∧ ∃ before field after between, fields = before ++ field :: after ∧
        Chain (MemberStep form (member levels)) known before between ∧
          MemberRefused form (member levels) between field := by
  induction chain with
  | nil known => exact .inl ⟨by rwa [depthOfMembers], .nil known⟩
  | @cons known _ _ first fields within _ ih =>
    rw [depthOfMembers, depthOfMember]
    by_cases deep : levels ≤ first.2.depth
    · exact .inr ⟨by omega, [], first, fields, known, rfl, .nil known, within.refuses left deep⟩
    · have taken := within.reads (Nat.lt_of_not_le deep)
      obtain ⟨shallow, chain⟩ | ⟨deeper, before, field, after, between, split, chain, refused⟩ := ih
      · exact .inl ⟨by omega, .cons taken chain⟩
      · exact .inr ⟨by omega, first :: before, field, after, between, by rw [split, List.cons_append],
          .cons taken chain, refused⟩

section Members

variable {member : σ → String → Reader σ} {known known' : σ} {fields : List (String × Json)} {close tail : List UInt8}

theorem bytesOf_memberText (form : Form) (level : Nat) (field : String × Json) (rest : List UInt8) :
    bytesOf (memberText form level field) ++ rest = bytesOf (form.lead level) ++ (bytesOf (stringText field.1) ++
      58 :: (bytesOf form.gap ++ (bytesOf (form.write level field.2) ++ rest))) := by
  simp only [memberText, bytesOf_append, bytesOf_cons, List.append_assoc]
  rfl

/-- Members that can be read are read in turn. -/
theorem leads_foldMembers (chain : Chain (MemberStep form member) known fields known')
    (parted : fields ≠ [] → Parted tail) (first : Bool) (fuel : Nat) :
    Leads (foldMembers member (fields.length + fuel) first known)
      (bytesOf (joined first (fields.map (memberText form level))) ++ tail)
      (foldMembers member fuel (first && fields.isEmpty) known') tail := by
  induction chain generalizing first with
  | nil known =>
    rw [List.isEmpty_nil, Bool.and_true, List.length_nil, Nat.zero_add]
    exact .refl _ _
  | @cons known _ _ field fields taken chain ih =>
    rw [List.map_cons, bytesOf_joined, List.length_cons, Nat.add_right_comm, List.append_assoc, List.append_assoc,
      bytesOf_memberText]
    refine ((takes_hasMember (form.lead_blank level) field.1 _ first).leads _).trans ?_
    refine ((takes_key field.1 _).leads _).trans ?_
    refine ((taken level _ (parted_joined (parted nofun) _)).leads _).trans ?_
    rw [List.isEmpty_cons, Bool.and_false]
    exact ih (fun _ => parted nofun) false

theorem length_le_members (form : Form) (level : Nat) (fields : List (String × Json)) :
    fields.length ≤ (bytesOf (joined true (fields.map (memberText form level)))).length := by
  have counted := length_le_joined (fields.map (memberText form level)) (fun part member => ?_) true
  · rwa [List.length_map] at counted
  · obtain ⟨field, inside, rfl⟩ := List.mem_map.mp member
    simp [memberText]

/-- All members of an object are taken. -/
theorem takes_members {n : Nat} (chain : Chain (MemberStep form member) known fields known') (blank : Blank close)
    (fuelled : (bytesOf (joined true (fields.map (memberText form level))) ++ (close ++ 125 :: rest)).length ≤ n) :
    Takes (foldMembers member n true known)
      (bytesOf (joined true (fields.map (memberText form level))) ++ (close ++ 125 :: rest)) known' (125 :: rest) := by
  have counted := length_le_members form level fields
  rw [List.length_append, List.length_append, List.length_cons] at fuelled
  obtain ⟨more, rfl⟩ : ∃ more, n = fields.length + (more + 1) := ⟨n - fields.length - 1, by omega⟩
  have ending : Parted (close ++ 125 :: rest) := parted_of_blank blank (parted_cons (by decide) rest)
  refine (leads_foldMembers chain (fun _ => ending) true _).takes ?_
  exact .bind (takes_hasMember_end blank _ rest) (.pure _ _)

/-- A member that is refused behind others lets the object be refused. -/
theorem fails_members {n : Nat} {field : String × Json} {after : List (String × Json)}
    (chain : Chain (MemberStep form member) known fields known') (refused : MemberRefused form member known' field)
    (blank : Blank close)
    (fuelled : (bytesOf (joined true ((fields ++ field :: after).map (memberText form level))) ++
      (close ++ 125 :: rest)).length ≤ n) :
    Fails (foldMembers member n true known)
      (bytesOf (joined true ((fields ++ field :: after).map (memberText form level))) ++ (close ++ 125 :: rest)) := by
  have counted := length_le_members form level fields
  rw [List.map_append, bytesOf_joined_append, List.append_assoc] at fuelled ⊢
  rw [List.length_append, List.length_append, List.length_append, List.length_cons] at fuelled
  obtain ⟨more, rfl⟩ : ∃ more, n = fields.length + (more + 1) := ⟨n - fields.length - 1, by omega⟩
  have ending : Parted (close ++ 125 :: rest) := parted_of_blank blank (parted_cons (by decide) rest)
  refine (leads_foldMembers chain (fun some => ?_) true _).fails ?_
  · rw [List.isEmpty_map, List.isEmpty_eq_false_iff.mpr some]
    exact parted_joined ending _
  · rw [List.map_cons, bytesOf_joined, List.isEmpty_map, List.append_assoc, List.append_assoc, bytesOf_memberText]
    refine ((takes_hasMember (form.lead_blank level) field.1 _ _).leads _).fails ?_
    refine ((takes_key field.1 _).leads _).fails ?_
    exact (refused level _ (parted_joined ending _)).bind _

end Members

/-- Members that are read one by one are collected in their order. -/
theorem chain_members {reader : Nat → Reader Json} {fields : List (String × Json)}
    (each : ∀ field ∈ fields, ReadsWithin form reader field.2 field.2) (done : List (String × Json)) :
    Chain (MemberWithin form fun levels done name => do
      colon
      return (name, ← reader levels) :: done) done fields (fields.reverse ++ done) := by
  induction fields generalizing done with
  | nil => exact .nil done
  | cons field fields ih =>
    have here := each field (List.mem_cons_self ..)
    have later := ih (fun field member => each field (List.mem_cons_of_mem _ member)) (field :: done)
    rw [List.reverse_cons, List.append_assoc, List.singleton_append]
    refine .cons ⟨here.exact, fun shallow level rest parted => ?_, fun left deep level rest parted => ?_⟩ later
    · have taken := here.reads shallow level _ rest form.gap_blank parted
      exact .bind (takes_colon blank_nil _) (.bind taken (.pure _ _))
    · have refused := here.refuses left deep level _ rest form.gap_blank parted
      exact ((takes_colon blank_nil _).leads _).fails (refused.bind _)

/-! ## Documents -/

theorem scalar?_of_isDigit {c : Char} (digit : c.isDigit = true) :
    scalar? c = (do
      match ← numeral false with
      | .int n => return some (.int n)
      | .float x => return some (.float x)) := by
  unfold scalar?
  split
  case h_6 => exact if_pos digit
  all_goals exact absurd digit (by decide)

/-- A scalar is taken from its first character on. -/
theorem takes_scalar? {doc : Json} (exact : doc.Exact) (notList : ∀ items, doc ≠ .list items)
    (notObject : ∀ members, doc ≠ .object members) (parted : Parted rest) :
    ∃ b more, bytesOf doc.compact ++ rest = b :: more ∧ isSpace (charOf b) = false ∧ charOf b ≠ '[' ∧
      charOf b ≠ '\x7b' ∧ Takes (scalar? (charOf b)) (b :: more) (some doc) rest := by
  cases exact with
  | null =>
    refine ⟨110, _, rfl, by decide, by decide, by decide, ?_⟩
    exact .bind (takes_skip _ _) (.bind (takes_word (by simp) rest) (.pure _ _))
  | bool b =>
    cases b with
    | true =>
      refine ⟨116, _, rfl, by decide, by decide, by decide, ?_⟩
      exact .bind (takes_skip _ _) (.bind (takes_word (by simp) rest) (.pure _ _))
    | false =>
      refine ⟨102, _, rfl, by decide, by decide, by decide, ?_⟩
      exact .bind (takes_skip _ _) (.bind (takes_word (by simp) rest) (.pure _ _))
  | string s =>
    obtain ⟨more, quoted⟩ := bytes_stringText s rest
    refine ⟨34, more, quoted, by decide, by decide, by decide, ?_⟩
    rw [← quoted]
    exact .bind (takes_key s rest) (.pure _ _)
  | @int n fits =>
    by_cases negative : n < 0
    · obtain ⟨written, number⟩ := takes_negative fits negative parted
      refine ⟨45, _, by rw [compact, written]; rfl, by decide, by decide, by decide, ?_⟩
      exact .bind (takes_skip _ _) (.bind number (.pure _ _))
    · obtain ⟨⟨b, more, written, digit⟩, number⟩ := takes_nonnegative fits negative parted
      refine ⟨b, more ++ rest, by rw [compact, written]; rfl, isSpace_of_isDigit digit, ne_of_isDigit digit (by decide),
        ne_of_isDigit digit (by decide), ?_⟩
      rw [scalar?_of_isDigit digit]
      rw [written] at number
      exact .bind number (.pure _ _)
  | list => exact absurd rfl (notList _)
  | object => exact absurd rfl (notObject _)

/-- A scalar is read at every level. -/
theorem readsWithin_value_scalar {doc : Json} (exact : doc.Exact) (notList : ∀ items, doc ≠ .list items)
    (notObject : ∀ members, doc ≠ .object members) (form : Form) : ReadsWithin form value doc doc := by
  have flat : doc.depth = 0 := by
    cases doc with
    | list items => exact absurd rfl (notList items)
    | object members => exact absurd rfl (notObject members)
    | _ => rw [depth] <;> nofun
  refine ⟨exact, fun {levels} shallow => ?_, fun left deep => ?_⟩
  · obtain ⟨levels, rfl⟩ := Nat.exists_eq_succ_of_ne_zero (Nat.ne_of_gt (Nat.zero_lt_of_lt shallow))
    intro level blanks rest blank parted
    obtain ⟨b, more, written, solid, list, object, taken⟩ := takes_scalar? exact notList notObject parted
    rw [form.write_scalar level doc notList notObject, written]
    refine .bind (takes_next? blank solid more) ?_
    split
    · next none => cases none
    · next here => exact absurd (Option.some.inj here) list
    · next here => exact absurd (Option.some.inj here) object
    · next here =>
      obtain rfl := Option.some.inj here
      exact .bind taken (.pure _ _)
  · omega

/-- The reader of all documents gives an exact document back, unless it nests too deep. -/
theorem readsWithin_value {doc : Json} (exact : doc.Exact) (form : Form) : ReadsWithin form value doc doc := by
  induction exact with
  | null => exact readsWithin_value_scalar .null nofun nofun form
  | bool b => exact readsWithin_value_scalar (.bool b) nofun nofun form
  | int fits => exact readsWithin_value_scalar (.int fits) nofun nofun form
  | string s => exact readsWithin_value_scalar (.string s) nofun nofun form
  | @list items exact ih =>
    have each : List.Forall₂ (ReadsWithin form value) items items := List.forall₂_same.mpr ih
    refine ⟨.list exact, fun {levels} shallow => ?_, fun {levels} left deep => ?_⟩
    · intro level blanks rest blank parted
      obtain ⟨levels, rfl⟩ := Nat.exists_eq_succ_of_ne_zero (Nat.ne_of_gt (Nat.zero_lt_of_lt shallow))
      obtain ⟨close, closing, written⟩ := bytes_list form level items rest
      rw [depth] at shallow
      rw [written]
      refine .bind (takes_next? blank (by decide) _) (.bind (takes_opened (by omega) _ _) ?_)
      refine .bind_size fun n fuelled => .bind (takes_collected each (by omega) closing fuelled) ?_
      rw [List.reverse_reverse]
      exact .pure _ _
    · intro level blanks rest blank parted
      obtain ⟨levels, rfl⟩ := Nat.exists_eq_succ_of_ne_zero (Nat.ne_of_gt left)
      obtain ⟨close, closing, written⟩ := bytes_list form level items rest
      rw [depth] at deep
      rw [written]
      refine ((takes_next? blank (by decide) _).leads _).fails ?_
      by_cases inner : 0 < levels
      · refine ((takes_opened inner _ _).leads _).fails (.bind_size fun n fuelled => ?_)
        exact (fails_collected each inner (by omega) closing fuelled).bind _
      · exact (fails_opened (by omega) _).bind _
  | @object members exact ih =>
    have chain := chain_members ih []
    rw [List.append_nil] at chain
    refine ⟨.object exact, fun {levels} shallow => ?_, fun {levels} left deep => ?_⟩
    · intro level blanks rest blank parted
      obtain ⟨levels, rfl⟩ := Nat.exists_eq_succ_of_ne_zero (Nat.ne_of_gt (Nat.zero_lt_of_lt shallow))
      obtain ⟨close, closing, written⟩ := bytes_object form level members rest
      rw [depth] at shallow
      obtain ⟨-, chain⟩ | ⟨high, -⟩ := members_cases chain (show 0 < levels by omega)
      · rw [written]
        refine .bind (takes_next? blank (by decide) _) (.bind (takes_opened (by omega) _ _) ?_)
        refine .bind_size fun n fuelled => ?_
        refine .bind (.enclosed (takes_members chain closing fuelled) (takes_objectEnd rest)) ?_
        rw [List.reverse_reverse]
        exact .pure _ _
      · omega
    · intro level blanks rest blank parted
      obtain ⟨levels, rfl⟩ := Nat.exists_eq_succ_of_ne_zero (Nat.ne_of_gt left)
      obtain ⟨close, closing, written⟩ := bytes_object form level members rest
      rw [depth] at deep
      rw [written]
      refine ((takes_next? blank (by decide) _).leads _).fails ?_
      by_cases inner : 0 < levels
      · obtain ⟨low, -⟩ | ⟨-, before, field, after, between, rfl, chain, refused⟩ := members_cases chain inner
        · omega
        · refine ((takes_opened inner _ _).leads _).fails (.bind_size fun n fuelled => ?_)
          exact (Fails.enclosed (fails_members chain refused closing fuelled) _).bind _
      · exact (fails_opened (by omega) _).bind _

/-! ## Whole texts -/

theorem onBytes_of_takes {reader : Reader α} {bytes : List UInt8} {a : α} (taken : Takes reader bytes a []) :
    onBytes reader bytes = .ok a := by
  obtain ⟨place, ran⟩ := taken.2 ⟨1, 0⟩ _ (Nat.le_refl _)
  rw [onBytes, Cursor.start, run_bind ran]
  rfl

theorem onBytes_of_fails {reader : Reader α} {bytes : List UInt8} (refused : Fails reader bytes) :
    ∃ e, onBytes reader bytes = .error e := by
  obtain ⟨e, cursor, ran⟩ := refused ⟨1, 0⟩ _ (Nat.le_refl _)
  refine ⟨e, ?_⟩
  rw [onBytes, Cursor.start, run_bind_error ran]

/-- A reader that reads a document reads the text that is written for it. -/
theorem onText_of_reads {reader : Reader α} {doc : Json} {a : α} (read : ReadsAs form reader doc a) :
    onText reader (String.ofList (form.write 0 doc)) = .ok a := by
  have taken := read 0 [] [] blank_nil parted_nil
  rw [List.nil_append, List.append_nil] at taken
  rw [onText, toList_toUTF8]
  exact onBytes_of_takes taken

theorem onText_of_refuses {reader : Reader α} {doc : Json} (refused : Refuses form reader doc) :
    ∃ e, onText reader (String.ofList (form.write 0 doc)) = .error e := by
  have fails := refused 0 [] [] blank_nil parted_nil
  rw [List.nil_append, List.append_nil] at fails
  rw [onText, toList_toUTF8]
  exact onBytes_of_fails fails

/-- A text is read back just if its document does not nest too deep. -/
theorem ReadsWithin.onText {reader : Nat → Reader α} {doc : Json} {a : α} (within : ReadsWithin form reader doc a) :
    (doc.depth < depthLimit → onText (reader depthLimit) (String.ofList (form.write 0 doc)) = .ok a) ∧
      (depthLimit ≤ doc.depth → ∃ e, onText (reader depthLimit) (String.ofList (form.write 0 doc)) = .error e) :=
  ⟨fun shallow => onText_of_reads (within.reads shallow),
    fun deep => onText_of_refuses (within.refuses (by decide) deep)⟩

end UiCheck.Json.Reader
