-- SUMMARY: Calendar dates of the proleptic Gregorian calendar, their text, and counting in days.
import TribunalListing.Text.Numeral

/-!
# Dates

A date lies in one of the years -9999 to 9999 of the proleptic Gregorian calendar. Its text is
`YYYY-MM-DD`. Counting in days goes through the number of days since 1 January 1970.
-/

namespace TribunalListing

/-! ## The calendar -/

/-- Years divisible by four are leap years, except centuries not divisible by four hundred. -/
def isLeapYear (year : Int) : Bool :=
  year % 4 == 0 && (year % 100 != 0 || year % 400 == 0)

/-- The number of days of a month; zero where there is no such month. -/
def daysInMonth (year : Int) : Nat → Nat
  | 2 => if isLeapYear year then 29 else 28
  | 4 | 6 | 9 | 11 => 30
  | 1 | 3 | 5 | 7 | 8 | 10 | 12 => 31
  | _ => 0

/-- The three numbers name a day of the calendar. -/
def IsCalendarDay (year : Int) (month day : Nat) : Prop :=
  -9999 ≤ year ∧ year ≤ 9999 ∧ 1 ≤ month ∧ month ≤ 12 ∧ 1 ≤ day ∧ day ≤ daysInMonth year month

instance (year : Int) (month day : Nat) : Decidable (IsCalendarDay year month day) := by
  unfold IsCalendarDay
  infer_instance

structure Date where
  year : Int
  month : Nat
  day : Nat
  isCalendarDay : IsCalendarDay year month day
  deriving DecidableEq

instance : Inhabited Date :=
  ⟨⟨1970, 1, 1, by decide⟩⟩

namespace Date

/-- The date with the given year, month and day, if there is one. -/
def of? (year : Int) (month day : Nat) : Option Date :=
  if h : IsCalendarDay year month day then some ⟨year, month, day, h⟩ else none

def notAfter (a b : Date) : Bool :=
  a.year < b.year || (a.year == b.year &&
    (a.month < b.month || (a.month == b.month && a.day ≤ b.day)))

def later (a b : Date) : Date :=
  if a.notAfter b then b else a

def latest? : List Date → Option Date
  | [] => none
  | d :: ds => some (ds.foldl later d)

/-! ## Counting in days -/

/-- The number of days from 1 January 1970 to the date. A year is counted from March, so that
the leap day comes last. -/
def toEpochDay (d : Date) : Int :=
  let year := if d.month ≤ 2 then d.year - 1 else d.year
  let month : Int := if d.month ≤ 2 then d.month + 9 else d.month - 3
  let era := year / 400
  let yearOfEra := year - era * 400
  let dayOfYear := (153 * month + 2) / 5 + d.day - 1
  let dayOfEra := yearOfEra * 365 + yearOfEra / 4 - yearOfEra / 100 + dayOfYear
  era * 146097 + dayOfEra - 719468

/-- The date that lies a number of days after 1 January 1970, if the calendar reaches so far. -/
def ofEpochDay? (n : Int) : Option Date :=
  let shifted := n + 719468
  let era := shifted / 146097
  let dayOfEra := shifted - era * 146097
  let yearOfEra := (dayOfEra - dayOfEra / 1460 + dayOfEra / 36524 - dayOfEra / 146096) / 365
  let dayOfYear := dayOfEra - (365 * yearOfEra + yearOfEra / 4 - yearOfEra / 100)
  let month := (5 * dayOfYear + 2) / 153
  let day := dayOfYear - (153 * month + 2) / 5 + 1
  let year := yearOfEra + era * 400
  if month < 10 then of? year (month + 3).toNat day.toNat
  else of? (year + 1) (month - 9).toNat day.toNat

/-- The date a number of days later, if the calendar reaches so far. -/
def addDays? (d : Date) (n : Int) : Option Date :=
  ofEpochDay? (d.toEpochDay + n)

/-! ## Text -/

/-- The characters of `YYYY-MM-DD`, with a minus sign before a negative year. -/
def chars (d : Date) : List Char :=
  (if d.year < 0 then ['-'] else []) ++ Text.fixedDigits 4 d.year.natAbs ++ '-' ::
    Text.fixedDigits 2 d.month ++ '-' :: Text.fixedDigits 2 d.day

def text (d : Date) : String :=
  String.ofList d.chars

/-- Reads `YYYY-MM-DD` off the front of a text, for a year whose sign is known. -/
def takeUnsigned (negative : Bool) (cs : List Char) : Option (Date × List Char) := do
  let (year, cs) ← Text.takeDigits 4 cs
  let ('-' :: cs) := cs | none
  let (month, cs) ← Text.takeDigits 2 cs
  let ('-' :: cs) := cs | none
  let (day, cs) ← Text.takeDigits 2 cs
  let date ← of? (if negative then -(year : Int) else year) month day
  return (date, cs)

/-- Reads a date off the front of a text; the year may have a sign of either kind. -/
def takeSigned : List Char → Option (Date × List Char)
  | '-' :: cs => takeUnsigned true cs
  | '+' :: cs => takeUnsigned false cs
  | cs => takeUnsigned false cs

/-- Reads a text that is a date and nothing else. -/
def ofText? (s : String) : Option Date :=
  match takeSigned s.toList with
  | some (date, []) => some date
  | _ => none

end Date

end TribunalListing
