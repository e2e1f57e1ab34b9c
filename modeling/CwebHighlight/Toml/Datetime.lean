import CwebHighlight.Text.Digits
import CwebHighlight.Text.Reader

/-!
# Dates and times

A date, a time, or both with an optional offset. A date is a day of the calendar; a minute may
have a leap second; an offset is less than a day.

**Normal form.** Date and time are joined by `T`, the fraction of a second is cut to nine digits
and loses its trailing zeros, and the offset is `Z` or a sign with hours and minutes, where an
offset of nothing has a plus.
-/

namespace CwebHighlight.Toml

open Reader

def isLeapYear (year : Nat) : Bool := (year % 4 == 0 && year % 100 != 0) || year % 400 == 0

def daysInMonth (year month : Nat) : Nat :=
  if month = 2 then if isLeapYear year then 29 else 28
  else if month ∈ [4, 6, 9, 11] then 30
  else 31

/-- A number of exactly `width` digits within bounds, as it is written. -/
def fixedNumber (width low high : Nat) : Reader (List Char) := do
  let digits := (← rest).take width
  guard (digits.length = width && digits.all isDecimalDigit)
  let n := numberOfDigits 10 digits
  guard (low ≤ n && n ≤ high)
  word digits
  return digits

def date : Reader (List Char) := do
  let year ← fixedNumber 4 0 9999
  char '-'
  let month ← fixedNumber 2 1 12
  char '-'
  let day ← fixedNumber 2 1 (daysInMonth (numberOfDigits 10 year) (numberOfDigits 10 month))
  return year ++ '-' :: month ++ '-' :: day

/-- The fraction of a second with its point, or nothing if it is zero. -/
def secondFraction : Reader (List Char) := do
  if startsWith (· = '.') (← rest) then
    char '.'
    let digits ← span1 isDecimalDigit
    let significant := ((digits.take 9).reverse.dropWhile (· = '0')).reverse
    return if significant.isEmpty then [] else '.' :: significant
  else return []

def time : Reader (List Char) := do
  let hour ← fixedNumber 2 0 23
  char ':'
  let minute ← fixedNumber 2 0 59
  char ':'
  let second ← fixedNumber 2 0 60
  return hour ++ ':' :: minute ++ ':' :: second ++ (← secondFraction)

def offset : Reader (List Char) := do
  match ← satisfy (· ∈ ['Z', 'z', '+', '-']) with
  | 'Z' | 'z' => return ['Z']
  | sign =>
    let hour ← fixedNumber 2 0 23
    char ':'
    let minute ← fixedNumber 2 0 59
    let nothing := (hour ++ minute).all (· = '0')
    return (if nothing then '+' else sign) :: hour ++ ':' :: minute

/-- The time after a date, and its offset. -/
def timeOfDay : Reader (List Char) := do
  let _ ← satisfy (· ∈ ['T', 't', ' '])
  let time ← time
  let offset ← optional offset
  return 'T' :: time ++ offset.getD []

def dateAndTime : Reader (List Char) := do
  let date ← date
  let time ← optional timeOfDay
  return date ++ time.getD []

def datetime : Reader String := do return String.ofList (← dateAndTime <|> time)

end CwebHighlight.Toml
