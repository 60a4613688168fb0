/-! # Moments

A moment is a number of milliseconds since the start of 1970 in universal time. Its calendar form follows the
Gregorian calendar, whose eras of four hundred years start on the first of March.
-/

namespace UiCheck

/-- Milliseconds since the start of 1970. -/
structure Moment where
  milliseconds : Nat
  deriving DecidableEq, Inhabited, Repr

namespace Moment

/-- A moment in the calendar. -/
structure Calendar where
  year : Nat
  month : Nat
  day : Nat
  hour : Nat
  minute : Nat
  second : Nat
  millisecond : Nat

/-- The moment in the calendar. -/
def calendar (moment : Moment) : Calendar :=
  let seconds := moment.milliseconds / 1000
  let days := seconds / 86400 + 719468
  let era := days / 146097
  let dayOfEra := days % 146097
  let yearOfEra := (dayOfEra - dayOfEra / 1460 + dayOfEra / 36524 - dayOfEra / 146096) / 365
  let dayOfYear := dayOfEra - (365 * yearOfEra + yearOfEra / 4 - yearOfEra / 100)
  let shifted := (5 * dayOfYear + 2) / 153
  let month := if shifted < 10 then shifted + 3 else shifted - 9
  { year := 400 * era + yearOfEra + (if month ≤ 2 then 1 else 0)
    month
    day := dayOfYear - (153 * shifted + 2) / 5 + 1
    hour := seconds % 86400 / 3600
    minute := seconds % 3600 / 60
    second := seconds % 60
    millisecond := moment.milliseconds % 1000 }

/-- A number with at least the given count of digits. -/
def padded (width n : Nat) : String :=
  let digits := Nat.toDigits 10 n
  String.ofList (List.replicate (width - digits.length) '0' ++ digits)

/-- The moment as part of the name of a backup. -/
def backupStamp (moment : Moment) : String :=
  let c := moment.calendar
  s!"{padded 4 c.year}-{padded 2 c.month}-{padded 2 c.day}T" ++
    s!"{padded 2 c.hour}-{padded 2 c.minute}-{padded 2 c.second}-{padded 3 c.millisecond}Z"

/-- The moment as part of the name of a session. -/
def sessionStamp (moment : Moment) : String :=
  let c := moment.calendar
  s!"{padded 4 c.year}{padded 2 c.month}{padded 2 c.day}_" ++
    s!"{padded 2 c.hour}{padded 2 c.minute}{padded 2 c.second}"

/-- The moment with its offset from universal time, which is none. -/
def timestamp (moment : Moment) : String :=
  let c := moment.calendar
  s!"{padded 4 c.year}-{padded 2 c.month}-{padded 2 c.day}T" ++
    s!"{padded 2 c.hour}:{padded 2 c.minute}:{padded 2 c.second}.{padded 3 c.millisecond}+00:00"

end Moment

end UiCheck
