import UiCheck.Run.Reader

/-! # Iteration records

What happened in one iteration of a repair: whether the build passed, the result of the run if there was one,
and the files that a fix wrote. A record is kept as JSON and read back.
-/

namespace UiCheck

/-- What happened in one iteration. -/
structure IterationRecord where
  /-- Counted from one. -/
  iteration : Nat
  buildPassed : Bool := false
  /-- The file that the build log names, if the build failed. -/
  brokenFile : Option String := none
  /-- The result of the run, if there was one. -/
  result : Option RunResult := none
  /-- The files that a fix wrote. -/
  patched : List String := []
  /-- A problem that did not stop the iteration, or the reason why it was stopped. -/
  note : Option String := none
  deriving Inhabited

namespace IterationRecord

/-- A member that is left out if it is absent. -/
def optionalMember (name : String) : Option Json → List (String × Json)
  | some doc => [(name, doc)]
  | none => []

/-- The JSON form of an optional result. -/
def resultToJson : Option RunResult → Except KeyFault (Option Json)
  | none => .ok none
  | some result =>
    match result.toJson with
    | .ok doc => .ok (some doc)
    | .error fault => .error fault

/-- The members of a record in their order. -/
def toJson (record : IterationRecord) : Except KeyFault Json :=
  match resultToJson record.result with
  | .error fault => .error fault
  | .ok result =>
    .ok (.object ([("iteration", .nat record.iteration), ("buildPassed", .bool record.buildPassed)] ++
      optionalMember "brokenFile" (record.brokenFile.map .string) ++ optionalMember "result" result ++
      [("patched", .texts record.patched)] ++ optionalMember "note" (record.note.map .string)))

end IterationRecord

/-- A record of which some fields have been read. -/
structure PartialRecord where
  iteration : Option Nat := none
  buildPassed : Option Bool := none
  brokenFile : Option (Option String) := none
  result : Option (Option RunResult) := none
  patched : Option (List String) := none
  note : Option (Option String) := none

namespace IterationRecord

open Json.Reader in
/-- Reads a record, with a number of levels left. -/
def read (levels : Nat) : Json.Reader IterationRecord :=
  let fields : List (RecordField PartialRecord) :=
    [{ name := "iteration", isSet := (·.iteration.isSome),
       read := fun _ known =>
         return { known with iteration := some (← natural Number.word32 "u32") } },
     { name := "buildPassed", isSet := (·.buildPassed.isSome),
       read := fun _ known => return { known with buildPassed := some (← bool) } },
     { name := "brokenFile", isSet := (·.brokenFile.isSome), mayBeMissing := true,
       read := fun _ known => return { known with brokenFile := some (← optional (text "a string")) } },
     { name := "result", isSet := (·.result.isSome), mayBeMissing := true,
       read := fun levels known =>
         return { known with result := some (← optional (RunResult.read levels)) } },
     { name := "patched", isSet := (·.patched.isSome), mayBeMissing := true,
       read := fun levels known =>
         return { known with patched := some (← list levels fun _ => text "a string") } },
     { name := "note", isSet := (·.note.isSome), mayBeMissing := true,
       read := fun _ known => return { known with note := some (← optional (text "a string")) } }]
  let finish (known : PartialRecord) : Json.Reader IterationRecord :=
    match known.iteration, known.buildPassed with
    | none, _ => refuse (.missingField "iteration")
    | _, none => refuse (.missingField "buildPassed")
    | some iteration, some buildPassed =>
      return {
        iteration, buildPassed
        brokenFile := known.brokenFile.getD none
        result := known.result.getD none
        patched := known.patched.getD []
        note := known.note.getD none }
  record levels "IterationRecord" fields {} finish

/-- The record that a text holds. -/
def ofText (source : String) : Except Json.Error IterationRecord :=
  Json.Reader.onText (read Json.Reader.depthLimit) source

end IterationRecord

end UiCheck
