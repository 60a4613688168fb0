import UiCheck.Proofs.Files.Disk
import UiCheck.Session.Store

/-! # The reports in the directory of a session

The shelf of a session tells what lies in its directory under the name of each report. Different numbers have
different names, and a report that is written lies under its own number and changes nothing under the others.
-/

namespace UiCheck.Session

open Files

/-- The name of the report of an iteration. -/
def reportName (iteration : Nat) : String :=
  s!"iteration_{iteration}.json"

theorem toList_reportName (iteration : Nat) :
    (reportName iteration).toList = "iteration_".toList ++ (Nat.toDigits 10 iteration ++ ".json".toList) := by
  have text : reportName iteration = "iteration_" ++ toString iteration ++ ".json" := rfl
  have digits : (toString iteration).toList = Nat.toDigits 10 iteration := by
    rw [Nat.toString_eq_ofList_toDigits, String.toList_ofList]
  rw [text, String.toList_append, String.toList_append, digits, List.append_assoc]

theorem isName_reportName (iteration : Nat) : IsName (reportName iteration) := by
  constructor
  · rw [toList_reportName, List.mem_append, List.mem_append]
    rintro (front | digit | behind)
    · exact absurd front (by decide)
    · exact absurd (Nat.isDigit_of_mem_toDigits (by decide) (by decide) digit) (by decide)
    · exact absurd behind (by decide)
  · have named : part? (reportName iteration).toList =
        some (.name (String.ofList (reportName iteration).toList)) := by
      rw [toList_reportName]
      rfl
    rw [named, String.ofList_toList]

theorem reportName_inj {m n : Nat} (same : reportName m = reportName n) : m = n := by
  have chars := congrArg String.toList same
  rw [toList_reportName, toList_reportName] at chars
  have digits := List.append_cancel_right (List.append_cancel_left chars)
  rw [← @Nat.ofDigitChars_ten_toDigits m, digits, Nat.ofDigitChars_ten_toDigits]

/-- What lies under the name of each report, if the directory of the session is there. -/
def shelf? (session : Session) (disk : Disk) : Option (Nat → Option Node) :=
  match disk.node session.dir with
  | .ok (.directory entries) => some fun iteration => entries.lookup (reportName iteration)
  | _ => none

/-- The file that a report with a JSON form makes. -/
def reportFile (doc : Json) : Node :=
  .file doc.toPretty.toUTF8

/-- The report lies on the shelf under its number. -/
def Shelved (shelf : Nat → Option Node) (record : IterationRecord) : Prop :=
  ∃ doc, record.toJson = .ok doc ∧ shelf record.iteration = some (reportFile doc)

/-- From one disk to another a report has come onto the shelf, and the others have stayed. A link under its name would
lead the report elsewhere. -/
def Keeps (session : Session) (before after : Disk) (record : IterationRecord) : Prop :=
  ∀ shelf, session.shelf? before = some shelf → (∀ target, shelf record.iteration ≠ some (.link target)) →
    ∃ shelf', session.shelf? after = some shelf' ∧ Shelved shelf' record ∧
      ∀ other, other ≠ record.iteration → shelf' other = shelf other

/-- A report that is written lies in the directory under its name, beside what was there. A link under its name would
lead it elsewhere. -/
theorem node_of_record {session : Session} {disk disk' : Disk} {record : IterationRecord} {path : String}
    {entries : Files.Entries} (there : disk.node session.dir = .ok (.directory entries))
    (unlinked : ∀ target, entries.lookup (reportName record.iteration) ≠ some (.link target))
    (written : session.record disk record = (.ok path, disk')) : ∃ doc, record.toJson = .ok doc ∧
      disk.writeText (session.recordPath record.iteration) doc.toPretty = .ok disk' ∧
      disk'.node session.dir =
        .ok (.directory (Entries.insert (reportName record.iteration) (reportFile doc) entries)) := by
  rw [Session.record] at written
  split at written
  · cases written
  · next doc printed =>
    split at written
    · cases written
    · next wrote =>
      cases written
      exact ⟨doc, printed, wrote, Disk.node_of_writeText (isName_reportName record.iteration) there unlinked wrote⟩

theorem keeps_of_record {session : Session} {disk disk' : Disk} {record : IterationRecord} {path : String}
    (written : session.record disk record = (.ok path, disk')) : session.Keeps disk disk' record := by
  intro shelf there unlinked
  rw [shelf?] at there
  split at there
  · next entries directory =>
    cases there
    obtain ⟨doc, printed, _, node⟩ := node_of_record directory unlinked written
    refine ⟨_, by rw [shelf?, node], ⟨doc, printed, Entries.lookup_insert_self ..⟩, fun other different => ?_⟩
    exact Entries.lookup_insert_of_ne (fun same => different (reportName_inj same)) _ _
  · cases there

end UiCheck.Session
