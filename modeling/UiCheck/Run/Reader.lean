import UiCheck.Json.Reader
import UiCheck.Plan.TaggedForm
import UiCheck.Run.Result

/-! # Reading results

Actions, failures and results are read back from their JSON forms. What failed is an action if it can be read
as one, and otherwise the name of a phase.
-/

namespace UiCheck

mutual

/-- A document as a value of a plan. -/
def Value.ofJson : Json → Value
  | .null => .null
  | .bool b => .bool b
  | .int n => .int n
  | .float x => .float x
  | .string s => .string s
  | .list items => .list (Value.listOfJson items)
  | .object members => .mapping (Value.entriesOfJson members)

/-- Documents as values of a plan. -/
def Value.listOfJson : List Json → List Value
  | [] => []
  | item :: rest => Value.ofJson item :: Value.listOfJson rest

/-- Members as entries of a mapping. -/
def Value.entriesOfJson : List (String × Json) → Entries
  | [] => []
  | member :: rest => Value.entryOfJson member :: Value.entriesOfJson rest

/-- A member as an entry of a mapping. -/
def Value.entryOfJson : String × Json → Value × Value
  | (name, doc) => (.string name, Value.ofJson doc)

end

namespace Action

open Json.Reader

/-- What an action is read from: its tag, and its arguments as members or as items. -/
structure Tagged where
  tag : String
  arguments : Json

/-- The action of a tag with its arguments. -/
def ofTagged (tagged : Tagged) : Except Decode.Mismatch Action :=
  match tagged.arguments with
  | .list items => ofItems tagged.tag (Value.listOfJson items)
  | .object members => ofEntries tagged.tag (Value.entriesOfJson members)
  | _ => .error (.missingField "type")

/-- Reads a tag. -/
def readTag : Json.Reader String :=
  onNext fun c => do
    let tag ← if c = '"' then key else refuseNext c "variant identifier"
    if tags.contains tag then return tag else refuse (.unknownVariant tag tags)

/-- Reads a member of an action, with the tag and the other members so far, latest first. -/
def readMember (levels : Nat) (known : Option String × List (String × Json)) (name : String) :
    Json.Reader (Option String × List (String × Json)) := do
  if name = "type" then
    if known.1.isSome then refuse (.duplicateField "type")
    else
      colon
      return (some (← readTag), known.2)
  else
    colon
    return (known.1, (name, ← value levels) :: known.2)

/-- Reads the tag and the arguments of an action, with a number of levels left. -/
def readTagged (levels : Nat) : Json.Reader Tagged :=
  onNext fun c => do
    let fuel ← size
    match c with
    | '\x7b' =>
      let levels ← opened levels
      let content : Json.Reader Tagged := do
        match ← foldMembers (readMember levels) fuel true (none, []) with
        | (some tag, members) => return ⟨tag, .object members.reverse⟩
        | (none, _) => refuse (.missingField "type")
      enclosed content objectEnd
    | '[' =>
      let levels ← opened levels
      let content : Json.Reader Tagged := do
        if ← hasItem true then
          let tag ← readTag
          let items ← foldItems (fun done => return (← value levels) :: done) fuel false []
          return ⟨tag, .list items.reverse⟩
        else refuse (.missingField "type")
      enclosed content listEnd
    | _ => refuseNext c "internally tagged enum CanonicalAction"

/-- Reads an action. A fault in its arguments has no place. -/
def read : Json.Reader Action := do
  match ofTagged (← readTagged depthLimit) with
  | .ok action => return action
  | .error cause => refuse cause

/-- The action that a text holds. -/
def ofText (source : String) : Except Json.Error Action :=
  onText read source

/-- The tag that a document names, by text or by its number in the list of tags. -/
def tagOf? : Json → Option String
  | .string s => if tags.contains s then some s else none
  | .int n => if 0 ≤ n then tags[n.toNat]? else none
  | _ => none

/-- The action that a document holds. -/
def ofJson? : Json → Option Action
  | .object members =>
    match members.filter (·.1 == "type") with
    | [(_, tag)] =>
      (tagOf? tag).bind fun tag =>
        (ofTagged ⟨tag, .object (members.filter (·.1 != "type"))⟩).toOption
    | _ => none
  | .list (tag :: items) => (tagOf? tag).bind fun tag => (ofTagged ⟨tag, .list items⟩).toOption
  | _ => none

end Action

/-- What failed according to a document. -/
def FailedStep.ofJson? (doc : Json) : Option FailedStep :=
  match Action.ofJson? doc, doc with
  | some step, _ => some (.action step)
  | none, .string name => some (.phase name)
  | none, _ => none

open Json.Reader in
/-- Reads what failed. -/
def FailedStep.read (levels : Nat) : Json.Reader FailedStep := do
  match FailedStep.ofJson? (← value levels) with
  | some step => return step
  | none => refuse (.noVariant "FailedStep")

/-- A failure of which some fields have been read. -/
structure PartialFailure where
  scenario : Option String := none
  step : Option FailedStep := none
  error : Option String := none

open Json.Reader in
/-- Reads a failure. -/
def Failure.read (levels : Nat) : Json.Reader Failure :=
  let fields : List (RecordField PartialFailure) :=
    [{ name := "scenario", isSet := (·.scenario.isSome),
       read := fun _ known => return { known with scenario := some (← text "a string") } },
     { name := "action", isSet := (·.step.isSome),
       read := fun levels known => return { known with step := some (← FailedStep.read levels) } },
     { name := "error", isSet := (·.error.isSome),
       read := fun _ known => return { known with error := some (← text "a string") } }]
  let finish (known : PartialFailure) : Json.Reader Failure :=
    match known.scenario, known.step, known.error with
    | none, _, _ => refuse (.missingField "scenario")
    | _, none, _ => refuse (.missingField "action")
    | _, _, none => refuse (.missingField "error")
    | some scenario, some step, some error => return ⟨scenario, step, error⟩
  record levels "FailureRecord" fields {} finish

/-- A result of which some fields have been read. -/
structure PartialResult where
  success : Option Bool := none
  total : Option Nat := none
  passed : Option Nat := none
  failures : Option (List Failure) := none
  error : Option (Option String) := none

open Json.Reader in
/-- Reads a result, with a number of levels left. -/
def RunResult.read (levels : Nat) : Json.Reader RunResult :=
  let count := natural Number.word64 "usize"
  let fields : List (RecordField PartialResult) :=
    [{ name := "success", isSet := (·.success.isSome),
       read := fun _ known => return { known with success := some (← bool) } },
     { name := "totalTests", isSet := (·.total.isSome),
       read := fun _ known => return { known with total := some (← count) } },
     { name := "passedTests", isSet := (·.passed.isSome),
       read := fun _ known => return { known with passed := some (← count) } },
     { name := "failures", isSet := (·.failures.isSome), mayBeMissing := true,
       read := fun levels known =>
         return { known with failures := some (← list levels Failure.read) } },
     { name := "error", isSet := (·.error.isSome), mayBeMissing := true,
       read := fun _ known => return { known with error := some (← optional (text "a string")) } }]
  let finish (known : PartialResult) : Json.Reader RunResult :=
    match known.success, known.total, known.passed with
    | none, _, _ => refuse (.missingField "success")
    | _, none, _ => refuse (.missingField "totalTests")
    | _, _, none => refuse (.missingField "passedTests")
    | some success, some total, some passed =>
      return { success, total, passed, failures := known.failures.getD [], error := known.error.getD none }
  record levels "ExecutionResult" fields {} finish

/-- The result that a text holds. -/
def RunResult.ofText (source : String) : Except Json.Error RunResult :=
  Json.Reader.onText (RunResult.read Json.Reader.depthLimit) source

end UiCheck
