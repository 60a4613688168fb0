import UiCheck.Files.Disk
import UiCheck.Files.Path
import UiCheck.Json.Printer
import UiCheck.Session.Record
import UiCheck.Time.Moment

/-! # Sessions on a disk

A session keeps one file for each iteration, named by the number of the iteration. A record that is written
again replaces the former one, and the records are read back in the order of their numbers.
-/

/-! ## Sessions

A session is a directory that holds the records of one repair. Its name is given, or made from the moment at
which it starts. The directory goes with the session unless it is kept.
-/

namespace UiCheck

/-- A session. -/
structure Session where
  id : String
  dir : String
  /-- The directory stays when the session ends. -/
  keep : Bool := false
  /-- The project that the session is about. -/
  project : Option String := none
  deriving DecidableEq, Inhabited, Repr

namespace Session

/-- The session of a name below a base directory. -/
def inBase (base id : String) : Session :=
  { id, dir := Files.join base id }

/-- A name made from a moment and the number of the process. -/
def freshId (moment : Moment) (process : Nat) : String :=
  s!"session_{moment.milliseconds}_{process}"

/-- A session of its own below a base directory. -/
def fresh (base : String) (moment : Moment) (process : Nat) : Session :=
  inBase base (freshId moment process)

/-- A character that may stand in the name of a session. -/
def isPlain (c : Char) : Bool :=
  c.isAlphanum || c == '-' || c == '_'

/-- A name in which everything but plain characters is replaced by underscores. -/
def plainName (name : String) : String :=
  String.ofList (name.toList.map fun c => if isPlain c then c else '_')

/-- A session below a base directory, named and stamped with a moment. -/
def withName (base name : String) (moment : Moment) : Session :=
  inBase base s!"{plainName name}_{moment.sessionStamp}"

/-- The session in a directory of the user, which is kept. A directory without a name gets a fresh one as
its session. -/
def inDirectory (dir : String) (moment : Moment) (process : Nat) : Session :=
  { id := (Files.fileName? dir).getD (freshId moment process), dir, keep := true }

/-- Where the record of an iteration is kept. -/
def recordPath (session : Session) (iteration : Nat) : String :=
  Files.join session.dir s!"iteration_{iteration}.json"

/-- Where the description of the session is kept. -/
def descriptionPath (session : Session) : String :=
  Files.join session.dir ".session.json"

end Session

end UiCheck

namespace UiCheck.Session

open Files

/-- Why an operation on a session fails. -/
inductive Error where
  | io (cause : IoError)
  /-- A record has no JSON form. -/
  | unprintable (cause : KeyFault)
  /-- A record cannot be read. -/
  | malformed (cause : Json.Error)
  deriving Inhabited

/-- The message of an error. -/
def Error.message : Error → String
  | .io cause => cause.message
  | .unprintable cause => cause.message
  | .malformed cause => cause.message

/-- The description of a session that starts at a moment on a host. -/
def description (session : Session) (moment : Moment) (host : String) : Json :=
  .sorted [("id", .string session.id), ("created", .string moment.timestamp), ("host", .string host),
    ("project", .ofText? session.project)]

/-- Makes the directory of a session and describes the session in it. -/
def start (session : Session) (disk : Disk) (moment : Moment) (host : String) : Except IoError Unit × Disk :=
  match disk.ensureDirectory session.dir with
  | (.error e, disk) => (.error e, disk)
  | (.ok (), disk) =>
    match disk.writeText session.descriptionPath (session.description moment host).toPretty with
    | .error e => (.error e, disk)
    | .ok disk => (.ok (), disk)

/-- Writes the record of an iteration. The answer is its path. -/
def record (session : Session) (disk : Disk) (record : IterationRecord) : Except Error String × Disk :=
  let path := session.recordPath record.iteration
  match record.toJson with
  | .error fault => (.error (.unprintable fault), disk)
  | .ok doc =>
    match disk.writeText path doc.toPretty with
    | .error e => (.error (.io e), disk)
    | .ok disk => (.ok path, disk)

/-- The name of a file that holds a record. -/
def isRecordName (name : String) : Bool :=
  Text.startsWith "iteration_".toList name.toList && Text.endsWith ".json".toList name.toList

/-- The record in the file at a path. -/
def readRecord (disk : Disk) (path : String) : Except Error IterationRecord :=
  match disk.readText path with
  | .error e => .error (.io e)
  | .ok text =>
    match IterationRecord.ofText text with
    | .error e => .error (.malformed e)
    | .ok record => .ok record

/-- Puts a record behind those whose number is not greater. -/
def insertRecord (record : IterationRecord) : List IterationRecord → List IterationRecord
  | [] => [record]
  | other :: rest =>
    if other.iteration ≤ record.iteration then other :: insertRecord record rest
    else record :: other :: rest

/-- Records in the order of their numbers; records of one number stay in their order. -/
def inOrder (records : List IterationRecord) : List IterationRecord :=
  records.foldl (fun done record => insertRecord record done) []

/-- All records of a session. -/
def records (session : Session) (disk : Disk) : Except Error (List IterationRecord) :=
  if ! disk.exists? session.dir then .ok []
  else
    match disk.names session.dir with
    | .error e => .error (.io e)
    | .ok names => do
      let found ← (names.filter isRecordName).mapM fun name => readRecord disk (join session.dir name)
      return inOrder found

/-- Removes the directory of a session that is not kept. -/
def cleanUp (session : Session) (disk : Disk) : Except IoError Unit × Disk :=
  if disk.exists? session.dir && ! session.keep then disk.removeDirectory session.dir else (.ok (), disk)

/-- What is left of the disk when a session ends. -/
def drop (session : Session) (disk : Disk) : Disk :=
  if session.keep then disk else (disk.removeDirectory session.dir).2

/-- The paths of the directories in a directory. -/
def directoriesIn (disk : Disk) (base : String) : Except IoError (List String) :=
  match disk.names base with
  | .error e => .error e
  | .ok names => .ok ((names.map (join base)).filter disk.isDirectory)

/-- The directories of all sessions below a base directory. -/
def list (disk : Disk) (base : String) : Except IoError (List String) :=
  if disk.exists? base then directoriesIn disk base else .ok []

/-- Removes a session that is older than the limit. The first part of the state counts those removed. -/
def removeOld (age? : String → Option Nat) (limit : Nat) (state : Nat × Disk) (path : String) : Nat × Disk :=
  let (removed, disk) := state
  let old := match age? path with
    | some age => limit < age
    | none => false
  if ! (disk.isDirectory path && old) then (removed, disk)
  else
    match disk.removeDirectory path with
    | (.ok (), disk) => (removed + 1, disk)
    | (.error _, disk) => (removed, disk)

/-- Removes the sessions below a base directory that are older than the limit; what cannot be removed stays.
The age of a path, if it is known, is in milliseconds. -/
def removeOlder (disk : Disk) (base : String) (age? : String → Option Nat) (limit : Nat) :
    Except IoError Nat × Disk :=
  if ! disk.exists? base then (.ok 0, disk)
  else
    match disk.names base with
    | .error e => (.error e, disk)
    | .ok names =>
      let (removed, disk) := (names.map (join base)).foldl (removeOld age? limit) (0, disk)
      (.ok removed, disk)

end UiCheck.Session
