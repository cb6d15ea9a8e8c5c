import FixtureProbe.Decimal.Basic

/-!
# Times of log records

A moment is a number of microseconds since the beginning of 1970, and its text is the date and the
time of day in universal time.
-/

namespace FixtureProbe
namespace Log

structure Date where
  year : Nat
  month : Nat
  day : Nat
  deriving DecidableEq

/--
The date that is a number of days after 1 March of year 0. Years begin in March, so that the day
that comes and goes is the last one of a year; they repeat every 146097 days, which are 400 years.
-/
def Date.ofMarchDays (days : Nat) : Date :=
  let inEra := days % 146097
  let yearOfEra := (inEra - inEra / 1460 + inEra / 36524 - inEra / 146096) / 365
  let dayOfYear := inEra - (365 * yearOfEra + yearOfEra / 4 - yearOfEra / 100)
  let marchMonth := (5 * dayOfYear + 2) / 153
  let month := if marchMonth < 10 then marchMonth + 3 else marchMonth - 9
  let year := days / 146097 * 400 + yearOfEra
  ⟨if month ≤ 2 then year + 1 else year, month, dayOfYear - (153 * marchMonth + 2) / 5 + 1⟩

def Date.ofUnixDays (days : Nat) : Date :=
  ofMarchDays (days + 719468)

def digits (width n : Nat) : String :=
  String.ofList (Decimal.padded width n)

def timeText (micros : Nat) : String :=
  let seconds := micros / 1000000
  let date := Date.ofUnixDays (seconds / 86400)
  let inDay := seconds % 86400
  digits 4 date.year ++ "-" ++ digits 2 date.month ++ "-" ++ digits 2 date.day ++ "T" ++
    digits 2 (inDay / 3600) ++ ":" ++ digits 2 (inDay / 60 % 60) ++ ":" ++ digits 2 (inDay % 60) ++
    "." ++ digits 6 (micros % 1000000) ++ "Z"

example : timeText 951782400000001 = "2000-02-29T00:00:00.000001Z" := by decide +kernel

end Log
end FixtureProbe
