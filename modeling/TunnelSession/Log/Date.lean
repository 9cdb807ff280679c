import TunnelSession.Text.Numeral

/-!
Moments as nanoseconds since the start of 1970 in UTC, and the calendar dates that they fall on.
-/
namespace TunnelSession

structure Moment where
  nanoseconds : Nat
  deriving DecidableEq, Repr

def Moment.after (m : Moment) (nanoseconds : Nat) : Moment :=
  ⟨m.nanoseconds + nanoseconds⟩

namespace Log

/-- A date of the Gregorian calendar with a time of day, to the second. -/
structure Date where
  year : Nat
  month : Nat
  day : Nat
  hour : Nat
  minute : Nat
  second : Nat
  deriving DecidableEq, Repr

/-- The date that is `days` after the first of March of year 0, in years that begin in March, so
that a leap day is a year's last. -/
def Date.ofDays (days : Nat) : Nat × Nat × Nat :=
  let era := days / 146097
  let inEra := days % 146097
  let yearOfEra := (inEra - inEra / 1460 + inEra / 36524 - inEra / 146096) / 365
  let inYear := inEra - (365 * yearOfEra + yearOfEra / 4 - yearOfEra / 100)
  let march := (5 * inYear + 2) / 153
  let day := inYear - (153 * march + 2) / 5 + 1
  let month := if march < 10 then march + 3 else march - 9
  (era * 400 + yearOfEra + (if month ≤ 2 then 1 else 0), month, day)

/-- The first of January 1970, counted in the same way. -/
def epochDays : Nat := 719468

def Date.ofMoment (m : Moment) : Date :=
  let seconds := m.nanoseconds / 1000000000
  let (year, month, day) := ofDays (seconds / 86400 + epochDays)
  let time := seconds % 86400
  ⟨year, month, day, time / 3600, time / 60 % 60, time % 60⟩

def fourDigits (n : Nat) : String :=
  if n < 100 then "00" ++ Text.twoDigits n
  else if n < 1000 then "0" ++ toString n
  else toString n

/-- A fraction of a second without the zeros at its end. -/
def fraction (nanoseconds : Nat) : List Char :=
  if nanoseconds = 0 then []
  else
    let ds := (toString (1000000000 + nanoseconds)).toList.drop 1
    '.' :: (ds.reverse.dropWhile (· == '0')).reverse

/-- The moment as it stands at the front of a log line. -/
def stamp (m : Moment) : String :=
  let d := Date.ofMoment m
  fourDigits d.year ++ "-" ++ Text.twoDigits d.month ++ "-" ++ Text.twoDigits d.day ++ "T" ++
    Text.twoDigits d.hour ++ ":" ++ Text.twoDigits d.minute ++ ":" ++ Text.twoDigits d.second ++
    String.ofList (fraction (m.nanoseconds % 1000000000)) ++ "Z"

end Log

end TunnelSession
