import TextTemplate.Text.Classes
import TextTemplate.Toml.Layout

set_option autoImplicit false

/-! # Dates and times of TOML

A moment is a date, a time of day, or both; the two together may carry an offset from universal time. Its numbers have
a fixed count of digits and lie in the ranges of the calendar and the clock. Nothing needs the moment itself, so
`isMoment` only says whether a text is one. -/

namespace TextTemplate.Toml

/-! ## The calendar -/

/-- Whether a year of the Gregorian calendar has a leap day. -/
def isLeapYear (year : Nat) : Bool := year % 4 = 0 && (year % 100 ≠ 0 || year % 400 = 0)

/-- The number of days of a month, of which the first is 1. -/
def daysInMonth (year month : Nat) : Nat :=
  if month = 2 then if isLeapYear year then 29 else 28
  else if [4, 6, 9, 11].contains month then 30
  else 31

/-! ## Parts of a moment -/

/-- The number that `count` decimal digits give. -/
def fixedNumber (count : Nat) : Reader Nat := fun text =>
  let digits := text.take count
  if digits.length = count && digits.all Text.isDigit then
    some (digits.foldl (fun n digit => 10 * n + (digit.toNat - '0'.toNat)) 0, text.drop count)
  else none

/-- The text behind a mark. -/
def behindMark? (mark : Char) : List Char → Option (List Char)
  | [] => none
  | c :: rest => if c = mark then some rest else none

/-- The text behind a date. -/
def behindDate? (text : List Char) : Option (List Char) := do
  let (year, rest) ← fixedNumber 4 text
  let (month, rest) ← fixedNumber 2 (← behindMark? '-' rest)
  let (day, rest) ← fixedNumber 2 (← behindMark? '-' rest)
  if 1 ≤ month ∧ month ≤ 12 ∧ 1 ≤ day ∧ day ≤ daysInMonth year month then some rest else none

/-- The text behind an hour and a minute. -/
def behindHourMinute? (text : List Char) : Option (List Char) := do
  let (hour, rest) ← fixedNumber 2 text
  let (minute, rest) ← fixedNumber 2 (← behindMark? ':' rest)
  if hour < 24 ∧ minute < 60 then some rest else none

/-- The text behind the fraction of a second, if one starts here. -/
def behindFraction? : List Char → Option (List Char)
  | '.' :: rest => if rest.head?.any Text.isDigit then some (rest.dropWhile Text.isDigit) else none
  | text => some text

/-- The text behind a time of day. Its second may be missing, and may be a leap second. -/
def behindTime? (text : List Char) : Option (List Char) := do
  match ← behindHourMinute? text with
  | ':' :: rest => do
    let (second, rest) ← fixedNumber 2 rest
    if second ≤ 60 then behindFraction? rest else none
  | rest => some rest

/-- The text behind an offset from universal time, if one starts here. -/
def behindOffset? : List Char → Option (List Char)
  | [] => some []
  | c :: rest =>
    if c = 'Z' || c = 'z' then some rest
    else if c = '+' || c = '-' then behindHourMinute? rest
    else none

/-! ## Moments -/

/-- Whether a text is a date, a time of day, or both with a letter or one space between them. -/
def isMoment (text : List Char) : Bool :=
  match behindDate? text with
  | some [] => true
  | some (c :: rest) =>
    (c = 'T' || c = 't' || c = ' ') && ((behindTime? rest).bind behindOffset?).any List.isEmpty
  | none => (behindTime? text).any List.isEmpty

example : isMoment "2000-02-29".toList = true := by decide +kernel
example : isMoment "1900-02-29".toList = false := by decide +kernel
example : isMoment "1979-05-27 07:32:00.5+01:00".toList = true := by decide +kernel
example : isMoment "24:00".toList = false := by decide +kernel

end TextTemplate.Toml
