/-!
# Calendar time

A moment is a number of milliseconds since the start of 1970 in UTC. `Clock.date` is its calendar
date; the two texts made from it stand in log records and in the names of log files.
-/

namespace JuliaSession.Clock

/-- A moment: milliseconds since the start of 1970 in UTC. -/
abbrev Millis := Int

/-- A calendar date. -/
structure Date where
  /-- The year. -/
  year : Int
  /-- The month, from 1. -/
  month : Nat
  /-- The day of the month, from 1. -/
  day : Nat
  deriving DecidableEq, Repr

/-- The date of a day, counted from the start of 1970. Years are taken to start in March, so that
the leap day is the last day of its year, and are grouped in spans of 400 years. -/
def date (days : Int) : Date :=
  let shifted := days + 719468
  let era := shifted.fdiv 146097
  let dayOfEra := (shifted.fmod 146097).toNat
  let yearOfEra := (dayOfEra - dayOfEra / 1460 + dayOfEra / 36524 - dayOfEra / 146096) / 365
  let dayOfYear := dayOfEra - (365 * yearOfEra + yearOfEra / 4 - yearOfEra / 100)
  let shiftedMonth := (5 * dayOfYear + 2) / 153
  let day := dayOfYear - (153 * shiftedMonth + 2) / 5 + 1
  let month := if shiftedMonth < 10 then shiftedMonth + 3 else shiftedMonth - 9
  ⟨era * 400 + yearOfEra + (if month ≤ 2 then 1 else 0), month, day⟩

/-- The number of a date's day, counted from the start of 1970. Years are taken to start in March
here as well. -/
def Date.days (d : Date) : Int :=
  let year := if d.month ≤ 2 then d.year - 1 else d.year
  let yearOfEra := year.fmod 400
  let shiftedMonth : Nat := if d.month ≤ 2 then d.month + 9 else d.month - 3
  let dayOfYear : Int := (153 * shiftedMonth + 2) / 5 + d.day - 1
  year.fdiv 400 * 146097 + yearOfEra * 365 + yearOfEra / 4 - yearOfEra / 100 + dayOfYear - 719468

example : (date 19675).days = 19675 := by decide

/-- A number in at least `width` digits. -/
def padded (width n : Nat) : String :=
  let digits := toString n
  String.ofList (List.replicate (width - digits.length) '0') ++ digits

/-- Date and time of day to the second, with `between` between the parts of the time. -/
def dateTime (between : String) (moment : Millis) : String :=
  let seconds := moment.fdiv 1000
  let d := date (seconds.fdiv 86400)
  let s := (seconds.fmod 86400).toNat
  padded 4 d.year.toNat ++ "-" ++ padded 2 d.month ++ "-" ++ padded 2 d.day ++ "T"
    ++ padded 2 (s / 3600) ++ between ++ padded 2 (s / 60 % 60) ++ between ++ padded 2 (s % 60)

/-- The years that a date can be written in. -/
def isWritable (year : Int) : Bool := 1 ≤ year && year ≤ 9999

/-- The year of a moment. -/
def year (moment : Millis) : Int := (date (moment.fdiv 86400000)).year

/-- A moment as it stands in log records. -/
def stamp (moment : Millis) : String := dateTime ":" moment ++ "+00:00"

/-- A moment as it stands in the name of a file. -/
def fileStamp (moment : Millis) : String := dateTime "" moment

example : stamp 1700000000000 = "2023-11-14T22:13:20+00:00" := by cbv

end JuliaSession.Clock
