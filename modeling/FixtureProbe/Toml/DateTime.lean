import FixtureProbe.Text.Scan
import FixtureProbe.Toml.Failure

/-!
# Dates and times

A date, a time, or both, and with both perhaps the distance to universal time. What they say is
checked and then dropped.
-/

namespace FixtureProbe
namespace Toml
namespace DateTime

def readField (count low high : Nat) (text : List Char) : Reading (Nat × List Char) :=
  let digits := (text.take count).takeWhile Char.isDigit
  let n := Scan.digitsValue digits
  if digits.length ≠ count then Reading.fail text
  else if n < low ∨ high < n then Reading.failFor .outOfRange text
  else .ok (n, text.drop count)

/-!
# Dates
-/

def daysInMonth (year month : Nat) : Nat :=
  if month = 2 then
    if year % 4 = 0 ∧ (year % 100 ≠ 0 ∨ year % 400 = 0) then 29 else 28
  else if month = 4 ∨ month = 6 ∨ month = 9 ∨ month = 11 then 30
  else 31

/-- A day of a month. A day that no month has and one that this month lacks are told alike. -/
def readDay (year : Nat) (text : List Char) : Reading (List Char) := do
  let (month, text) ← readField 2 1 12 text
  let text ← Reading.expect ['-'] text
  let (_, rest) ← readField 2 1 (daysInMonth year month) text
  return rest

/-- A date; once it has a year and a hyphen, nothing else can follow. -/
def readDate (text : List Char) : Reading (List Char) := do
  let (year, text) ← readField 4 0 9999 text
  let text ← Reading.expect ['-'] text
  (readDay year text).certain

/-!
# Times
-/

def skipFraction : List Char -> List Char
  | '.' :: c :: rest => if c.isDigit then rest.dropWhile Char.isDigit else '.' :: c :: rest
  | text => text

/-- Minutes and seconds; a minute may have a leap second. -/
def readMinutes (text : List Char) : Reading (List Char) := do
  let (_, text) ← readField 2 0 59 text
  let text ← Reading.expect [':'] text
  let (_, text) ← readField 2 0 60 text
  return skipFraction text

def readTime (text : List Char) : Reading (List Char) := do
  let (_, text) ← readField 2 0 23 text
  let text ← Reading.expect [':'] text
  (readMinutes text).certain

def readClock (text : List Char) : Reading (List Char) := do
  let (_, text) ← readField 2 0 23 text
  let text ← Reading.expect [':'] text
  let (_, text) ← readField 2 0 59 text
  return text

def readOffset (text : List Char) : Reading (List Char) :=
  let reading : Reading (List Char) := match text with
    | 'Z' :: rest | 'z' :: rest => .ok rest
    | '+' :: rest | '-' :: rest => (readClock rest).certain
    | _ => Reading.fail text
  reading.about "time offset"

def readTimeBehind (text : List Char) : Reading (List Char) := do
  match text with
  | c :: rest =>
      if c = 'T' ∨ c = 't' ∨ c = ' ' then
        let rest ← readTime rest
        return (← Reading.skipOptional rest (readOffset rest))
      else Reading.fail text
  | [] => Reading.fail []

/-!
# All together
-/

def read (text : List Char) : Reading (List Char) :=
  let dated : Reading (List Char) := do
    let rest ← readDate text
    Reading.skipOptional rest (readTimeBehind rest)
  (dated.about "date-time").orElse fun _ => (readTime text).about "time"

end DateTime
end Toml
end FixtureProbe
