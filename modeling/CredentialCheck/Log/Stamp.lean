/-!
# The time of a record

A point in time as log records show it: the date and the time of day in universal time, down to
milliseconds. The calendar is counted in years that begin with March, so the leap day is the last
day of its year; 400 such years make 146097 days.
-/

namespace CredentialCheck.Log

/-- A day of the calendar. -/
structure Date where
  year : Nat
  month : Nat
  day : Nat
  deriving DecidableEq, Repr

/-- The day that lies `days` days after the first of January 1970. -/
def Date.ofDays (days : Nat) : Date :=
  let days := days + 719468
  let inCycle := days % 146097
  let yearOfCycle := (inCycle - inCycle / 1460 + inCycle / 36524 - inCycle / 146096) / 365
  let inYear := inCycle - (365 * yearOfCycle + yearOfCycle / 4 - yearOfCycle / 100)
  let monthFromMarch := (5 * inYear + 2) / 153
  let day := inYear - (153 * monthFromMarch + 2) / 5 + 1
  let year := yearOfCycle + days / 146097 * 400
  if monthFromMarch < 10 then ⟨year, monthFromMarch + 3, day⟩
  else ⟨year + 1, monthFromMarch - 9, day⟩

/-- A number with zeros in front up to a width. -/
def padNumber (width n : Nat) : String :=
  let digits := toString n
  String.ofList (List.replicate (width - digits.length) '0') ++ digits

/-- The stamp for the point in time that lies so many milliseconds after the beginning of 1970. -/
def stampOf (milliseconds : Nat) : String :=
  let seconds := milliseconds / 1000
  let date := Date.ofDays (seconds / 86400)
  padNumber 4 date.year ++ "-" ++ padNumber 2 date.month ++ "-" ++ padNumber 2 date.day ++ " " ++
    padNumber 2 (seconds / 3600 % 24) ++ ":" ++ padNumber 2 (seconds / 60 % 60) ++ ":" ++
    padNumber 2 (seconds % 60) ++ "," ++ padNumber 3 (milliseconds % 1000)

end CredentialCheck.Log
