import Mathlib.Data.List.Perm.Basic
import UiCheck.Proofs.Files.Order
import UiCheck.Proofs.Session.ReadBack
import UiCheck.Proofs.Session.Shelf
import UiCheck.Proofs.Text.Search

/-! # The records of a session

Whatever reports were written into the directory of a session, it holds one for each number, the last one that was
written, and nothing else that looks like a report. Starting a session removes nothing, so the reports that an earlier
session left in the directory count among them. So its records are read back once each, and they are put in the order of
their numbers whatever the order in which the names of the directory come: `records_eq_latest`.
-/

namespace UiCheck.Session

open Files

/-! ## What happens to a session -/

/-- What lies in the directory of a session under each name of the kind that reports have, if the directory is there. -/
def reports? (session : Session) (disk : Disk) : Option (String → Option Node) :=
  match disk.node session.dir with
  | .ok (.directory entries) => some fun name => if isRecordName name then entries.lookup name else none
  | _ => none

/-- The record with a number that was written last; the latest of all comes first. -/
def latest? (calls : List IterationRecord) (iteration : Nat) : Option IterationRecord :=
  calls.find? fun record => record.iteration == iteration

/-- What is left of records: the latest one of each number lies in the directory under its own name, and nothing else
that looks like a report. Directories are as every edit keeps them, with each name once, and the paths of the records
are ones that can be read. -/
structure Keeping (session : Session) (calls : List IterationRecord) (disk : Disk) (reports : String → Option Node) :
    Prop where
  there : session.reports? disk = some reports
  ordered : disk.tree.Ordered
  shelved : ∀ record, latest? calls record.iteration = some record → Shelved (reports ∘ reportName) record
  only : ∀ name node, reports name = some node →
    ∃ record, latest? calls record.iteration = some record ∧ name = reportName record.iteration
  readable : ∀ record ∈ calls, Admissible (session.recordPath record.iteration) ∧
    ¬ nameLimit < (reportName record.iteration).utf8ByteSize

/-- A disk on which a session was started, with what is left of earlier records in its directory and no other report,
and on which these records were written since, the latest first. The description of the session may have been written
again, unless a link leads it elsewhere, and anything else may have changed but the reports. -/
inductive Course (session : Session) (left : List IterationRecord) : List IterationRecord → Disk → Prop
  | started {disk fresh : Disk} {moment : Moment} {host : String} {reports : String → Option Node} :
      session.start disk moment host = (.ok (), fresh) → Keeping session left fresh reports → Course session left [] fresh
  | recorded {calls : List IterationRecord} {disk after : Disk} {record : IterationRecord} {path : String} :
      Course session left calls disk → session.record disk record = (.ok path, after) →
      Course session left (record :: calls) after
  | described {calls : List IterationRecord} {disk after : Disk} {text : String} :
      Course session left calls disk → disk.writeText session.descriptionPath text = .ok after →
      (∀ entries target, disk.node session.dir = .ok (.directory entries) →
        entries.lookup ".session.json" ≠ some (.link target)) → Course session left calls after
  | other {calls : List IterationRecord} {disk after : Disk} :
      Course session left calls disk → after.tree.Ordered → session.reports? after = session.reports? disk →
      Course session left calls after

/-- The record is read back from its text. -/
def Survives (record : IterationRecord) : Prop :=
  ∃ doc, record.toJson = .ok doc ∧ IterationRecord.ofText doc.toPretty = .ok record

/-- The records of a session if the names in its directory come in some order. -/
def recordsIn (session : Session) (disk : Disk) (names : List String) : Except Error (List IterationRecord) := do
  let found ← (names.filter isRecordName).mapM fun name => readRecord disk (join session.dir name)
  return inOrder found

variable {session : Session} {left calls : List IterationRecord} {disk after : Disk} {record : IterationRecord}
  {records : List IterationRecord} {reports : String → Option Node} {entries : Files.Entries} {name : String}

/-! ## The latest records -/

theorem latest?_cons (record : IterationRecord) (calls : List IterationRecord) (iteration : Nat) :
    latest? (record :: calls) iteration =
      if record.iteration = iteration then some record else latest? calls iteration := by
  rw [latest?, List.find?_cons]
  by_cases same : record.iteration = iteration
  · simp only [same, beq_self_eq_true, if_true]
  · simp only [beq_eq_false_iff_ne.mpr same, same, if_false, latest?]

theorem mem_of_latest? {iteration : Nat} (last : latest? calls iteration = some record) : record ∈ calls :=
  List.mem_of_find?_eq_some last

/-! ## Sorting by number -/

theorem perm_insertRecord (record : IterationRecord) (records : List IterationRecord) :
    (insertRecord record records).Perm (record :: records) := by
  induction records with
  | nil => exact .refl _
  | cons first rest ih =>
    rw [insertRecord]
    split
    · exact (ih.cons first).trans (.swap record first rest)
    · exact .refl _

theorem perm_inOrder (records : List IterationRecord) : (inOrder records).Perm records := by
  have perm (done : List IterationRecord) :
      (records.foldl (fun done record => insertRecord record done) done).Perm (records ++ done) := by
    induction records generalizing done with
    | nil => exact .refl _
    | cons record records ih =>
      rw [List.foldl_cons, List.cons_append]
      exact (ih _).trans (((perm_insertRecord record done).append_left records).trans List.perm_middle)
  have whole := perm []
  rwa [List.append_nil] at whole

/-- No record comes behind one with a greater number. -/
def Ascending (records : List IterationRecord) : Prop :=
  records.Pairwise fun record later => record.iteration ≤ later.iteration

theorem Ascending.insertRecord (ascending : Ascending records) (record : IterationRecord) :
    Ascending (insertRecord record records) := by
  induction records with
  | nil => exact List.pairwise_singleton ..
  | cons first rest ih =>
    obtain ⟨least, inner⟩ := List.pairwise_cons.mp ascending
    rw [Session.insertRecord]
    split
    · next behind =>
      refine List.pairwise_cons.mpr ⟨fun later member => ?_, ih inner⟩
      rcases List.mem_cons.mp ((perm_insertRecord record rest).mem_iff.mp member) with rfl | member
      · exact behind
      · exact least later member
    · next before =>
      have less := Nat.le_of_lt (Nat.lt_of_not_le before)
      refine List.pairwise_cons.mpr ⟨fun later member => ?_, ascending⟩
      rcases List.mem_cons.mp member with rfl | member
      · exact less
      · exact less.trans (least later member)

theorem ascending_inOrder (records : List IterationRecord) : Ascending (inOrder records) := by
  have ascends (done : List IterationRecord) (ascending : Ascending done) :
      Ascending (records.foldl (fun done record => insertRecord record done) done) := by
    induction records generalizing done with
    | nil => exact ascending
    | cons record records ih => exact ih _ (ascending.insertRecord record)
  exact ascends [] List.Pairwise.nil

/-- Records with different numbers are put in strict order. -/
theorem strict_inOrder (distinct : (records.map (·.iteration)).Nodup) :
    (inOrder records).Pairwise fun record later => record.iteration < later.iteration := by
  have apart : (inOrder records).Pairwise fun record later => record.iteration ≠ later.iteration := by
    rw [(perm_inOrder records).pairwise_iff Ne.symm]
    exact List.pairwise_map.mp distinct
  exact (ascending_inOrder records).imp₂ (fun _ _ => Nat.lt_of_le_of_ne) apart

/-- Records in strict order are told by which there are. -/
theorem eq_of_strict {records' : List IterationRecord}
    (strict : records.Pairwise fun record later => record.iteration < later.iteration)
    (strict' : records'.Pairwise fun record later => record.iteration < later.iteration)
    (same : ∀ record, record ∈ records ↔ record ∈ records') : records = records' := by
  have distinct {records : List IterationRecord}
      (strict : records.Pairwise fun record later => record.iteration < later.iteration) : records.Nodup :=
    strict.imp fun less => mt (congrArg IterationRecord.iteration) (Nat.ne_of_lt less)
  refine List.Perm.eq_of_pairwise (fun _ _ _ _ less greater => ?_) strict strict'
    ((List.perm_ext_iff_of_nodup (distinct strict) (distinct strict')).mpr same)
  exact absurd greater (Nat.lt_asymm less)

/-! ## What the directory holds -/

theorem isRecordName_reportName (iteration : Nat) : isRecordName (reportName iteration) = true := by
  rw [isRecordName, Bool.and_eq_true, Text.startsWith_iff, Text.endsWith_iff, toList_reportName]
  refine ⟨List.prefix_append _ _, ?_⟩
  rw [← List.append_assoc]
  exact List.suffix_append _ _

theorem exists_of_reports? (there : session.reports? disk = some reports) :
    ∃ entries, disk.node session.dir = .ok (.directory entries) ∧
      ∀ name, reports name = if isRecordName name then entries.lookup name else none := by
  rw [reports?] at there
  split at there
  · next entries directory =>
    cases there
    exact ⟨entries, directory, fun _ => rfl⟩
  · cases there

theorem reports?_of_node (there : disk.node session.dir = .ok (.directory entries)) :
    session.reports? disk = some fun name => if isRecordName name then entries.lookup name else none := by
  rw [reports?, there]

/-- A report that is written comes to lie under its name, and the others stay. -/
theorem reports?_of_record {path : String} (there : session.reports? disk = some reports)
    (unlinked : ∀ target, reports (reportName record.iteration) ≠ some (.link target))
    (written : session.record disk record = (.ok path, after)) : ∃ doc, record.toJson = .ok doc ∧
      disk.writeText (session.recordPath record.iteration) doc.toPretty = .ok after ∧
      session.reports? after = some fun name =>
        if name = reportName record.iteration then some (reportFile doc) else reports name := by
  obtain ⟨entries, directory, lookup⟩ := exists_of_reports? there
  rw [lookup, isRecordName_reportName, if_pos rfl] at unlinked
  obtain ⟨doc, printed, wrote, node⟩ := node_of_record directory unlinked written
  refine ⟨doc, printed, wrote, (reports?_of_node node).trans (congrArg some (funext fun name => ?_))⟩
  rw [Entries.lookup_insert, lookup]
  by_cases same : name = reportName record.iteration
  · simp only [same, isRecordName_reportName, if_true]
  · simp only [same, if_false]

/-- The name of the description is none of a report. -/
theorem reports?_of_describe {text : String} (there : session.reports? disk = some reports)
    (unlinked : ∀ entries target, disk.node session.dir = .ok (.directory entries) →
      entries.lookup ".session.json" ≠ some (.link target))
    (written : disk.writeText session.descriptionPath text = .ok after) : session.reports? after = some reports := by
  obtain ⟨entries, directory, lookup⟩ := exists_of_reports? there
  have plain : IsName ".session.json" := ⟨by decide +kernel, by decide +kernel⟩
  have other : isRecordName ".session.json" = false := by decide +kernel
  have node := Disk.node_of_writeText plain directory (unlinked entries · directory) written
  refine (reports?_of_node node).trans (congrArg some (funext fun name => ?_))
  rw [Entries.lookup_insert, lookup]
  by_cases same : name = ".session.json"
  · simp only [same, other, Bool.false_eq_true, if_false]
  · simp only [same, if_false]

namespace Keeping

/-- No link lies under the name of a report. -/
theorem unlinked (keeping : Keeping session calls disk reports) (name target : String) :
    reports name ≠ some (.link target) := by
  intro linked
  obtain ⟨record, last, rfl⟩ := keeping.only name _ linked
  obtain ⟨doc, _, file⟩ := keeping.shelved record last
  cases linked.symm.trans file

/-- A record that is written is the latest of its number. -/
theorem write {path : String} (keeping : Keeping session calls disk reports)
    (written : session.record disk record = (.ok path, after)) :
    ∃ reports', Keeping session (record :: calls) after reports' := by
  obtain ⟨doc, printed, wrote, now⟩ := reports?_of_record keeping.there (keeping.unlinked _) written
  refine ⟨_, now, Disk.ordered_of_makes keeping.ordered (.write wrote), fun other last => ?_, fun name node there => ?_,
    List.forall_mem_cons.mpr ⟨⟨Disk.admissible_of_writeText wrote, ?_⟩, keeping.readable⟩⟩
  · rw [latest?_cons] at last
    by_cases same : record.iteration = other.iteration
    · rw [if_pos same] at last
      cases last
      exact ⟨doc, printed, if_pos rfl⟩
    · rw [if_neg same] at last
      obtain ⟨doc', printed', file⟩ := keeping.shelved other last
      exact ⟨doc', printed', (if_neg fun named => same (reportName_inj named).symm).trans file⟩
  · by_cases same : name = reportName record.iteration
    · exact ⟨record, by rw [latest?_cons, if_pos rfl], same⟩
    · obtain ⟨other, last, rfl⟩ := keeping.only name node ((if_neg same).symm.trans there)
      have different : record.iteration ≠ other.iteration := fun number => same (congrArg reportName number.symm)
      exact ⟨other, by rw [latest?_cons, if_neg different, last], rfl⟩
  · obtain ⟨_, directory, _⟩ := exists_of_reports? keeping.there
    have filled := (Disk.exists_leads_of_node directory).1.filled
    exact Disk.short_of_writeText filled (isName_reportName _) wrote

/-- The description is none of the reports. -/
theorem describe {text : String} (keeping : Keeping session calls disk reports)
    (unlinked : ∀ entries target, disk.node session.dir = .ok (.directory entries) →
      entries.lookup ".session.json" ≠ some (.link target))
    (written : disk.writeText session.descriptionPath text = .ok after) : Keeping session calls after reports :=
  ⟨reports?_of_describe keeping.there unlinked written, Disk.ordered_of_makes keeping.ordered (.write written),
    keeping.shelved, keeping.only, keeping.readable⟩

end Keeping

/-- Whatever happens to a session, this is what its directory holds. -/
theorem Course.exists_keeping (course : Course session left calls disk) :
    ∃ reports, Keeping session (calls ++ left) disk reports := by
  induction course with
  | started _ keeping => exact ⟨_, keeping⟩
  | recorded _ written ih =>
    obtain ⟨_, keeping⟩ := ih
    exact keeping.write written
  | described _ written unlinked ih =>
    obtain ⟨_, keeping⟩ := ih
    exact ⟨_, keeping.describe unlinked written⟩
  | other _ ordered same ih =>
    obtain ⟨_, keeping⟩ := ih
    exact ⟨_, same.trans keeping.there, ordered, keeping.shelved, keeping.only, keeping.readable⟩

/-- Whatever was recorded, nothing stands in the way of a further record. -/
theorem Keeping.exists_record {doc : Json} (keeping : Keeping session calls disk reports) (printed : record.toJson = .ok doc)
    (admissible : Admissible (session.recordPath record.iteration))
    (short : ¬ nameLimit < (reportName record.iteration).utf8ByteSize) :
    ∃ path after, session.record disk record = (.ok path, after) := by
  obtain ⟨entries, directory, lookup⟩ := exists_of_reports? keeping.there
  have free : entries.lookup (reportName record.iteration) = none ∨
      ∃ content, entries.lookup (reportName record.iteration) = some (.file content) := by
    have own := lookup (reportName record.iteration)
    rw [isRecordName_reportName, if_pos rfl] at own
    cases there : reports (reportName record.iteration) with
    | none => exact .inl (own.symm.trans there)
    | some node =>
      obtain ⟨other, last, same⟩ := keeping.only _ node there
      obtain ⟨doc', _, file⟩ := keeping.shelved other last
      rw [same] at own ⊢
      exact .inr ⟨_, own.symm.trans file⟩
  obtain ⟨after, written⟩ :=
    Disk.exists_writeText (isName_reportName _) directory free admissible short doc.toPretty
  have written : disk.writeText (session.recordPath record.iteration) doc.toPretty = .ok after := written
  exact ⟨session.recordPath record.iteration, after, by simp only [Session.record, printed, written]⟩

/-! ## Reading the records -/

/-- What each element comes from is told by what it is made into. -/
theorem exists_mapM_of_forall {α β ε : Type} {f : α → Except ε β} {g : β → α} {P : β → Prop} {l : List α}
    (each : ∀ a ∈ l, ∃ b, f a = .ok b ∧ g b = a ∧ P b) :
    ∃ bs, l.mapM f = .ok bs ∧ bs.map g = l ∧ ∀ b ∈ bs, P b := by
  induction l with
  | nil => exact ⟨[], rfl, rfl, nofun⟩
  | cons a l ih =>
    obtain ⟨⟨b, first, from_, holds⟩, others⟩ := List.forall_mem_cons.mp each
    obtain ⟨bs, rest, sources, all⟩ := ih others
    refine ⟨b :: bs, ?_, by rw [List.map_cons, from_, sources], List.forall_mem_cons.mpr ⟨holds, all⟩⟩
    rw [List.mapM_cons, first, rest]
    rfl

namespace Keeping

/-- The latest record of its number is read under its name. -/
theorem readRecord_eq (keeping : Keeping session calls disk reports) (survives : Survives record)
    (last : latest? calls record.iteration = some record) :
    readRecord disk (join session.dir (reportName record.iteration)) = .ok record := by
  obtain ⟨entries, directory, lookup⟩ := exists_of_reports? keeping.there
  obtain ⟨doc, printed, file⟩ := keeping.shelved record last
  obtain ⟨doc', printed', read⟩ := survives
  obtain rfl := Except.ok.inj (printed.symm.trans printed')
  obtain ⟨admissible, short⟩ := keeping.readable record (mem_of_latest? last)
  rw [Function.comp_apply, lookup, isRecordName_reportName, if_pos rfl] at file
  rw [readRecord, Disk.readText_of_lookup (isName_reportName _) directory file admissible short, Disk.textOf_toUTF8]
  simp only [read]

/-- The names in the directory that look like reports are those under which something is kept. -/
theorem mem_filter_isRecordName (keeping : Keeping session calls disk reports)
    (directory : disk.node session.dir = .ok (.directory entries)) :
    name ∈ (entries.map (·.1)).filter isRecordName ↔ ∃ node, reports name = some node := by
  obtain ⟨entries', directory', lookup⟩ := exists_of_reports? keeping.there
  obtain rfl : entries = entries' := Node.directory.inj (Except.ok.inj (directory.symm.trans directory'))
  have sorted := (Disk.ordered_of_node keeping.ordered directory).sorted
  rw [List.mem_filter, List.mem_map, lookup]
  constructor
  · rintro ⟨⟨⟨_, node⟩, member, rfl⟩, named⟩
    exact ⟨node, by rw [if_pos named, sorted.lookup_eq_some_iff.mpr member]⟩
  · rintro ⟨node, found⟩
    split at found
    · next named => exact ⟨⟨(name, node), sorted.lookup_eq_some_iff.mp found, rfl⟩, named⟩
    · cases found

/-- However the names of the directory come, the records that are read are the latest of their numbers, one of each. -/
theorem exists_read (keeping : Keeping session calls disk reports) (survive : ∀ record ∈ calls, Survives record)
    (directory : disk.node session.dir = .ok (.directory entries)) {names : List String}
    (perm : names.Perm (entries.map (·.1))) :
    ∃ found, (names.filter isRecordName).mapM (fun name => readRecord disk (join session.dir name)) = .ok found ∧
      (found.map (·.iteration)).Nodup ∧
      ∀ record, record ∈ found ↔ latest? calls record.iteration = some record := by
  have kept {name : String} : name ∈ names.filter isRecordName ↔ ∃ node, reports name = some node :=
    (perm.filter _).mem_iff.trans (keeping.mem_filter_isRecordName directory)
  have each : ∀ name ∈ names.filter isRecordName, ∃ record,
      readRecord disk (join session.dir name) = .ok record ∧ reportName record.iteration = name ∧
        latest? calls record.iteration = some record := by
    intro name member
    obtain ⟨node, there⟩ := kept.mp member
    obtain ⟨record, last, rfl⟩ := keeping.only name node there
    exact ⟨record, keeping.readRecord_eq (survive record (mem_of_latest? last)) last, rfl, last⟩
  obtain ⟨found, read, sources, all⟩ := exists_mapM_of_forall each
  refine ⟨found, read, ?_, fun record => ⟨all record, fun last => ?_⟩⟩
  · have sorted := (Disk.ordered_of_node keeping.ordered directory).sorted
    have distinct := (perm.nodup_iff.mpr sorted.nodup_names).filter isRecordName
    have named : (found.map (·.iteration)).map reportName = names.filter isRecordName := by
      rw [List.map_map, ← sources]
      rfl
    rw [← named] at distinct
    exact distinct.of_map _
  · obtain ⟨doc, _, file⟩ := keeping.shelved record last
    have listed := kept.mpr ⟨_, file⟩
    rw [← sources, List.mem_map] at listed
    obtain ⟨other, member, same⟩ := listed
    have last' := all other member
    rw [reportName_inj same, last] at last'
    exact Option.some.inj last' ▸ member

/-- The records of a session are the latest of their numbers, in the order of the numbers and whatever the order in
which the names in the directory come. -/
theorem exists_records (keeping : Keeping session calls disk reports) (survive : ∀ record ∈ calls, Survives record) :
    ∃ records, session.records disk = .ok records ∧
      records.Pairwise (fun record later => record.iteration < later.iteration) ∧
      (∀ record, record ∈ records ↔ latest? calls record.iteration = some record) ∧
      ∀ names order, disk.names session.dir = .ok names → order.Perm names →
        session.recordsIn disk order = .ok records := by
  obtain ⟨entries, directory, _⟩ := exists_of_reports? keeping.there
  have named : disk.names session.dir = .ok (entries.map (·.1)) := by rw [Disk.names, directory]
  have read {names : List String} (perm : names.Perm (entries.map (·.1))) : ∃ records,
      session.recordsIn disk names = .ok records ∧
      records.Pairwise (fun record later => record.iteration < later.iteration) ∧
      ∀ record, record ∈ records ↔ latest? calls record.iteration = some record := by
    obtain ⟨found, read, distinct, mem⟩ := keeping.exists_read survive directory perm
    refine ⟨inOrder found, by rw [recordsIn, read]; rfl, strict_inOrder distinct, fun record => ?_⟩
    rw [(perm_inOrder found).mem_iff, mem]
  have whole : session.records disk = session.recordsIn disk (entries.map (·.1)) := by
    have there : disk.exists? session.dir = true := by rw [Disk.exists?, directory]
    rw [records, there, named]
    rfl
  obtain ⟨records, answer, strict, mem⟩ := read (.refl _)
  refine ⟨records, whole.trans answer, strict, mem, fun names order found perm => ?_⟩
  obtain rfl := Except.ok.inj (named.symm.trans found)
  obtain ⟨records', answer', strict', mem'⟩ := read perm
  rw [answer', eq_of_strict strict strict' fun record => (mem record).trans (mem' record).symm]

end Keeping

/-- However a session went on since it was started, its records are those that were written last under their numbers, by
it or by the earlier session that left reports in its directory, one of each, in the order of the numbers and whatever
the order in which the names in the directory come. -/
theorem records_eq_latest (session : Session) (left calls : List IterationRecord) (disk : Disk)
    (course : Course session left calls disk) (survive : ∀ record ∈ calls ++ left, Survives record) :
    ∃ records, session.records disk = .ok records ∧
      records.Pairwise (fun record later => record.iteration < later.iteration) ∧
      (∀ record, record ∈ records ↔ latest? (calls ++ left) record.iteration = some record) ∧
      ∀ names order, disk.names session.dir = .ok names → order.Perm names →
        session.recordsIn disk order = .ok records := by
  obtain ⟨_, keeping⟩ := course.exists_keeping
  exact keeping.exists_records survive

/-! ## A session in a directory with a report -/

/-- A record that is plain and whose document nests no deeper than the reader allows is read back. -/
theorem survives_of_plain {doc : Json} (plain : record.Plain) (printed : record.toJson = .ok doc)
    (shallow : doc.depth < Json.Reader.depthLimit) : Survives record := by
  obtain ⟨doc', printed', read⟩ := plain.readBack
  obtain rfl := Except.ok.inj (printed.symm.trans printed')
  exact ⟨doc, printed, (read doc.toPretty (by simp)).1 shallow⟩

/-- The record of an iteration without a run. -/
def unrun (iteration : Nat) (passed : Bool) : IterationRecord :=
  { iteration, buildPassed := passed }

theorem survives_unrun {iteration : Nat} (small : iteration < Number.word32) (passed : Bool) :
    Survives (unrun iteration passed) := by
  refine survives_of_plain ⟨small, nofun⟩ rfl ?_
  simp [Json.depth, Json.depthOfItems, Json.depthOfMembers, Json.depthOfMember, IterationRecord.optionalMember, Json.nat,
    Json.texts, unrun, Json.Reader.depthLimit]

/-- A session in a directory below the root. -/
def rootSession : Session where
  id := "s"
  dir := "/s"

/-- A disk with the directory of the session, in which a report with the number seven lies. -/
def formerDisk (doc : Json) : Disk where
  tree := .directory [("s", .directory [(reportName 7, reportFile doc)])]
  start := []

section

variable {doc : Json}

theorem node_formerDisk : (formerDisk doc).node "/s" = .ok (.directory [(reportName 7, reportFile doc)]) := by
  have way : steps "/s" = [.root, .name "s"] := by decide +kernel
  have short : ¬ nameLimit < "s".utf8ByteSize := by decide +kernel
  rw [Disk.node, Disk.locate_eq (by decide +kernel), way]
  simp [walk, formerDisk, Node.get?, Node.child?, short]

theorem ensureDirectory_formerDisk : (formerDisk doc).ensureDirectory "/s" = (.ok (), formerDisk doc) := by
  have way : Disk.nameSteps "/s" = [.root, .name "s"] := by decide +kernel
  have short : ¬ nameLimit < "s".utf8ByteSize := by decide +kernel
  have filled : "/s".isEmpty = false := by decide +kernel
  have taken : (formerDisk doc).makeDirectory "/s" = .error .exists := by
    obtain ⟨filled, clean, fits⟩ : Admissible "/s" := by decide +kernel
    rw [Disk.makeDirectory, if_neg filled, if_neg clean, if_neg fits, way]
    simp [walk, formerDisk, Node.get?, Node.child?, short]
  have directory : (formerDisk doc).isDirectory "/s" = true := by
    rw [Disk.isDirectory, node_formerDisk]
    rfl
  simp only [Disk.ensureDirectory, Disk.makeDirectories, filled, taken, directory, Bool.false_eq_true, if_false, if_true]

/-- The report is all that is left of an earlier session. -/
theorem exists_keeping_formerDisk (printed : (unrun 7 true).toJson = .ok doc) :
    ∃ reports, Keeping rootSession [unrun 7 true] (formerDisk doc) reports := by
  have own : isRecordName (reportName 7) = true := isRecordName_reportName 7
  have only {record : IterationRecord} (last : latest? [unrun 7 true] record.iteration = some record) :
      record = unrun 7 true := List.mem_singleton.mp (mem_of_latest? last)
  refine ⟨_, reports?_of_node node_formerDisk, ?_, fun record last => ?_, fun name node found => ?_, ?_⟩
  · exact .directory (List.pairwise_singleton ..) (List.forall_mem_singleton.mpr
      (.directory (List.pairwise_singleton ..) (List.forall_mem_singleton.mpr (.file _))))
  · rw [only last]
    exact ⟨doc, printed, by simp [unrun, own]⟩
  · split at found
    · rw [List.lookup_cons] at found
      split at found
      · next same => exact ⟨unrun 7 true, rfl, beq_iff_eq.mp same⟩
      · cases found
    · cases found
  · exact List.forall_mem_singleton.mpr (by decide +kernel)

end

/-- The session is started in the directory that the earlier one left. -/
theorem exists_started : ∃ disk fresh reports, rootSession.start disk ⟨0⟩ "" = (.ok (), fresh) ∧
    Keeping rootSession [unrun 7 true] fresh reports := by
  obtain ⟨doc, printed⟩ : ∃ doc, (unrun 7 true).toJson = .ok doc := ⟨_, rfl⟩
  obtain ⟨reports, keeping⟩ := exists_keeping_formerDisk printed
  have plain : IsName ".session.json" := by decide +kernel
  have free : [(reportName 7, reportFile doc)].lookup ".session.json" = none := by
    rw [List.lookup_cons, beq_false_of_ne (by decide +kernel), List.lookup_nil]
  obtain ⟨fresh, written⟩ := Disk.exists_writeText plain node_formerDisk (.inl free) (by decide +kernel)
    (by decide +kernel) (rootSession.description ⟨0⟩ "").toPretty
  have written : (formerDisk doc).writeText rootSession.descriptionPath (rootSession.description ⟨0⟩ "").toPretty =
      .ok fresh := written
  have ensured : (formerDisk doc).ensureDirectory rootSession.dir = (.ok (), formerDisk doc) := ensureDirectory_formerDisk
  refine ⟨formerDisk doc, fresh, reports, by simp only [start, ensured, written], keeping.describe ?_ written⟩
  intro entries target directory
  obtain rfl := Node.directory.inj (Except.ok.inj (node_formerDisk.symm.trans directory))
  rw [free]
  exact (Option.some_ne_none _).symm

/-- A record without a run with one of some numbers can be written to the session. -/
theorem Keeping.exists_record_unrun (keeping : Keeping rootSession calls disk reports) {iteration : Nat}
    (listed : iteration ∈ [1, 2, 10]) (passed : Bool) :
    ∃ path after, rootSession.record disk (unrun iteration passed) = (.ok path, after) := by
  have fits : ∀ n ∈ [1, 2, 10], Admissible (rootSession.recordPath n) ∧ ¬ nameLimit < (reportName n).utf8ByteSize := by
    decide +kernel
  obtain ⟨admissible, short⟩ := fits iteration listed
  exact keeping.exists_record rfl admissible short

/-- A session that has written a single report reads another one as well, which an earlier session left in its
directory. -/
theorem records_of_former : ∃ disk fresh path after, rootSession.start disk ⟨0⟩ "" = (.ok (), fresh) ∧
    rootSession.record fresh (unrun 1 true) = (.ok path, after) ∧
    rootSession.records after = .ok [unrun 1 true, unrun 7 true] := by
  obtain ⟨disk, fresh, _, started, keeping⟩ := exists_started
  obtain ⟨path, after, written⟩ := keeping.exists_record_unrun (show 1 ∈ [1, 2, 10] by decide) true
  obtain ⟨_, keeping⟩ := keeping.write written
  have survive : ∀ record ∈ [unrun 1 true, unrun 7 true], Survives record := by
    simp only [List.forall_mem_cons]
    exact ⟨survives_unrun (by decide) _, survives_unrun (by decide) _, nofun⟩
  obtain ⟨records, answer, strict, mem, _⟩ := keeping.exists_records survive
  refine ⟨disk, fresh, path, after, started, written, answer.trans (congrArg _ (eq_of_strict strict ?_ fun record => ?_))⟩
  · simp [unrun]
  · rw [mem]
    refine ⟨mem_of_latest?, fun member => ?_⟩
    simp only [List.mem_cons, List.not_mem_nil, or_false] at member
    rcases member with rfl | rfl <;> rfl

theorem records_eq_latest_three : ∃ disk,
    Course rootSession [unrun 7 true] [unrun 2 true, unrun 10 true, unrun 2 false] disk ∧
    (∀ record ∈ [unrun 2 true, unrun 10 true, unrun 2 false] ++ [unrun 7 true], Survives record) ∧
    rootSession.records disk = .ok [unrun 2 true, unrun 7 true, unrun 10 true] := by
  have goes {calls : List IterationRecord} {disk : Disk} (course : Course rootSession [unrun 7 true] calls disk)
      {iteration : Nat} (listed : iteration ∈ [1, 2, 10]) (passed : Bool) :
      ∃ after, Course rootSession [unrun 7 true] (unrun iteration passed :: calls) after := by
    obtain ⟨_, keeping⟩ := course.exists_keeping
    obtain ⟨_, after, written⟩ := keeping.exists_record_unrun listed passed
    exact ⟨after, course.recorded written⟩
  obtain ⟨_, _, _, started, keeping⟩ := exists_started
  obtain ⟨_, course⟩ := goes (.started started keeping) (show 2 ∈ [1, 2, 10] by decide) false
  obtain ⟨_, course⟩ := goes course (show 10 ∈ [1, 2, 10] by decide) true
  obtain ⟨disk, course⟩ := goes course (show 2 ∈ [1, 2, 10] by decide) true
  have survive : ∀ record ∈ [unrun 2 true, unrun 10 true, unrun 2 false] ++ [unrun 7 true], Survives record := by
    simp only [List.cons_append, List.nil_append, List.forall_mem_cons]
    exact ⟨survives_unrun (by decide) _, survives_unrun (by decide) _, survives_unrun (by decide) _,
      survives_unrun (by decide) _, nofun⟩
  obtain ⟨records, answer, strict, mem, _⟩ := records_eq_latest rootSession _ _ disk course survive
  refine ⟨disk, course, survive, answer.trans (congrArg _ (eq_of_strict strict ?_ fun record => (mem record).trans ?_))⟩
  · simp [unrun]
  · constructor
    · intro last
      have member := mem_of_latest? last
      simp only [List.cons_append, List.nil_append, List.mem_cons, List.not_mem_nil, or_false] at member ⊢
      rcases member with rfl | rfl | rfl | rfl
      · exact .inl rfl
      · exact .inr (.inr rfl)
      · cases last
      · exact .inr (.inl rfl)
    · intro member
      simp only [List.mem_cons, List.not_mem_nil, or_false] at member
      rcases member with rfl | rfl | rfl <;> rfl

end UiCheck.Session
