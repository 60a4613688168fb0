import UiCheck.Json.Basic
import UiCheck.Number.Shortest
import UiCheck.Text.Blank
import UiCheck.Text.Search

/-! # The size of a change

Two documents are compared by their lines that are not blank, whatever the order of the lines. The share of
changed lines is an exact ratio; the limit for it depends on whether the change was asked for.
-/

namespace UiCheck.Guard

/-- A percentage as a ratio. -/
structure Percentage where
  num : Nat
  den : Nat
  deriving DecidableEq, Inhabited, Repr

namespace Percentage

/-- The nearest number of double precision. -/
def rounded (share : Percentage) : Number.Binary64 :=
  Number.Binary64.ofRatio false share.num share.den

/-- The percentage with one place behind the point. -/
def text (share : Percentage) : String :=
  match share.rounded.ratio? with
  | some (_, num, den) => String.ofList (Number.oneDecimalPlace num den)
  | none => ""

/-- The percentage is at most a whole number. -/
def atMost (share : Percentage) (limit : Nat) : Bool :=
  share.num ≤ limit * share.den

/-- The percentage is below a whole number. -/
def below (share : Percentage) (limit : Nat) : Bool :=
  share.num < limit * share.den

end Percentage

/-- Line counts of a comparison. -/
structure LineStats where
  /-- The number of lines of the longer document. -/
  total : Nat
  unchanged : Nat
  added : Nat
  removed : Nat
  deriving DecidableEq, Inhabited, Repr

/-- How two documents differ. -/
structure PlanDiff where
  changes : List String
  share : Percentage
  isMinimal : Bool
  stats : LineStats
  deriving DecidableEq, Inhabited, Repr

/-- The lines of a document that are not blank. -/
def contentLines (text : String) : List (List Char) :=
  (Text.lines text.toList).filter (! Text.allBlank ·)

/-- The lines of the first list that do not occur in the second. -/
def missingFrom (lines others : List (List Char)) : List (List Char) :=
  lines.filter (! others.contains ·)

/-- Below this percentage a change is minimal. -/
def minimalBelow : Nat := 50

/-- What is known about a document that replaces a blank one. -/
def creation (updated : String) : PlanDiff :=
  { changes := if updated.isEmpty then [] else ["Full file created"]
    share := ⟨100, 1⟩
    isMinimal := false
    stats := ⟨0, 0, 0, 0⟩ }

/-- Compares two documents. -/
def compare (current updated : String) : PlanDiff :=
  if Text.allBlank current.toList then creation updated
  else
    let before := contentLines current
    let after := contentLines updated
    let added := missingFrom after before
    let removed := missingFrom before after
    let total := max before.length after.length
    let share : Percentage := ⟨100 * (added.length + removed.length), total⟩
    { changes := added.map (fun line => String.ofList ('+' :: ' ' :: line)) ++
        removed.map (fun line => String.ofList ('-' :: ' ' :: line))
      share
      isMinimal := share.below minimalBelow
      stats := ⟨total, after.length - added.length, added.length, removed.length⟩ }

/-- A verdict on the size of a change. -/
structure ChangeReport where
  limit : Nat
  diff : PlanDiff
  deriving DecidableEq, Inhabited, Repr

/-- An instruction that says something. -/
def isPrompted (prompt : Option String) : Bool :=
  prompt.any fun text => ! Text.allBlank text.toList

/-- The greatest percentage that is accepted. -/
def changeLimit (prompt : Option String) : Nat :=
  if isPrompted prompt then 75 else 30

/-- Judges the change from one document to another. -/
def judge (current updated : String) (prompt : Option String) : ChangeReport :=
  { limit := changeLimit prompt, diff := compare current updated }

namespace ChangeReport

/-- The change is within its limit. -/
def isValid (report : ChangeReport) : Bool :=
  report.diff.share.atMost report.limit

/-- Advice that goes with the verdict. -/
def recommendation (report : ChangeReport) : String :=
  let share := report.diff.share.text
  if report.isValid then s!"Minimal changes: {share}% modified."
  else s!"Large change detected: {share}% modified. Consider more targeted edits."

end ChangeReport

/-- The members of line counts in their order. -/
def LineStats.toJson (stats : LineStats) : Json :=
  .object [("total", .nat stats.total), ("unchanged", .nat stats.unchanged), ("added", .nat stats.added),
    ("removed", .nat stats.removed)]

/-- The members of a comparison in their order. -/
def PlanDiff.toJson (diff : PlanDiff) : Json :=
  .object [("changes", .texts diff.changes), ("isMinimal", .bool diff.isMinimal),
    ("changePercentage", .float diff.share.rounded), ("stats", diff.stats.toJson)]

/-- The members of a verdict in their order. -/
def ChangeReport.toJson (report : ChangeReport) : Json :=
  .object [("isValid", .bool report.isValid), ("limit", .float (Number.Binary64.ofNat report.limit)),
    ("diff", report.diff.toJson), ("recommendation", .string report.recommendation)]

end UiCheck.Guard
