import ActionBridge.Decimal.Notation
import ActionBridge.Text.Reader

/-!
# TOML dates and times

A moment is a date, a time of day, or both, and then with an optional distance from universal
time. Moments are kept as texts in normal form.
-/
namespace ActionBridge.Toml
open Reader Decimal

/-- A number of exactly `count` digits between two bounds. -/
def fixedDigits (count low high : Nat) : Reader Nat := fun cs =>
  let ds := cs.take count
  if ds.length = count && ds.all isDigit && low ≤ ofDigits ds && ofDigits ds ≤ high then
    some (ofDigits ds, cs.drop count)
  else none

/-- A number written with at least `width` digits. -/
def padded (width n : Nat) : String :=
  let ds := toString n
  String.ofList (List.replicate (width - ds.length) '0') ++ ds

/-! ## Dates -/

def isLeapYear (year : Nat) : Bool :=
  year % 4 == 0 && (year % 100 != 0 || year % 400 == 0)

def daysInMonth (year month : Nat) : Nat :=
  if month = 2 then (if isLeapYear year then 29 else 28)
  else if month = 4 ∨ month = 6 ∨ month = 9 ∨ month = 11 then 30
  else 31

/-- A date of the calendar. -/
def date : Reader String := do
  let year ← fixedDigits 4 0 9999
  char '-'
  let month ← fixedDigits 2 1 12
  char '-'
  let day ← fixedDigits 2 1 31
  if day ≤ daysInMonth year month then
    pure (padded 4 year ++ "-" ++ padded 2 month ++ "-" ++ padded 2 day)
  else fail

/-! ## Times -/

/-- The fraction of a second: nine digits at most count, and final zeros are dropped. -/
def secondFraction : Reader String := do
  char '.'
  let ds ← stretch1 isDigit
  let kept := Text.dropEndWhile (· == '0') (ds.take 9)
  pure (if kept.isEmpty then "" else "." ++ String.ofList kept)

/-- A time of day whose hour is `lastHour` at most. -/
def time (lastHour : Nat) : Reader String := do
  let hour ← fixedDigits 2 0 lastHour
  char ':'
  let minute ← fixedDigits 2 0 59
  char ':'
  let second ← fixedDigits 2 0 60
  let fraction ← optional secondFraction
  pure (padded 2 hour ++ ":" ++ padded 2 minute ++ ":" ++ padded 2 second ++ fraction.getD "")

/-- The number of minutes that hours and minutes make; each is at most its bound. -/
def minutes (lastHour lastMinute : Nat) : Reader Nat := do
  let hour ← fixedDigits 2 0 lastHour
  char ':'
  let minute ← fixedDigits 2 0 lastMinute
  pure (hour * 60 + minute)

/-- The distance from universal time, whose number of minutes `distance` reads. -/
def offset (distance : Reader Nat) : Reader String :=
  (do let _ ← one fun c => c == 'Z' || c == 'z'; pure "Z")
  <|> (do
    let sign ← one fun c => c == '+' || c == '-'
    let n ← distance
    let mark := if sign == '-' && n != 0 then "-" else "+"
    pure (mark ++ padded 2 (n / 60) ++ ":" ++ padded 2 (n % 60)))

/-! ## Moments -/

/-- A moment with hours up to `lastHour` and the given distances from universal time. -/
def momentWith (lastHour : Nat) (distance : Reader Nat) : Reader String :=
  (do
    let d ← date
    let t ← optional do
      let _ ← one fun c => c == 'T' || c == 't' || c == ' '
      let t ← time lastHour
      let o ← optional (offset distance)
      pure ("T" ++ t ++ o.getD "")
    pure (d ++ t.getD ""))
  <|> time lastHour

/-- A moment as documents write it. -/
def moment : Reader String := momentWith 23 (minutes 23 59)

/-- The greatest distance of a moment from universal time, in minutes. -/
def longestOffset : Nat := 24 * 60

/-- The moment that a text of its own writes. Such a text may end a day with the hour 24, and
    write the distance from universal time with any number of minutes. -/
def moment? (text : String) : Option String :=
  whole? (momentWith 24 do
    let n ← minutes 99 99
    if n ≤ longestOffset then pure n else fail) text.toList

end ActionBridge.Toml
